import Updater.Channel
import Updater.Toml.Read
import Updater.Toml.Error
import Updater.Toml.Pretty
import Updater.Text.DebugQuoted
/-!
The configuration file's meaning, and how it is read from a document.

Two parts of the file belong to the updater: `[update]` with the stored `channel`, and
`[plugins.installs]` with one record per plugin. Every other key, at any of these levels, is
kept as it is and written back after the known ones.

Reading goes through each table's keys in sorted order and stops at the first value of the
wrong shape, with the message a person would expect and the span of that value: `invalid type:
<what was found>, expected <what was wanted>`, `unknown variant ...` for a name that is not a
channel or a source, `missing field` for a record without its source.
-/

namespace Updater.Config

open Toml

inductive PluginSource
  | bundled
  | npm
  deriving DecidableEq, Repr, Inhabited

def PluginSource.name : PluginSource → String
  | .bundled => "bundled"
  | .npm => "npm"

structure InstallRecord where
  source : PluginSource
  spec : Option String := none
  version : Option String := none
  installPath : Option String := none
  deriving DecidableEq, Repr, Inhabited

structure UpdateSettings where
  channel : Option Channel := none
  extra : List (String × Value) := []
  deriving Repr, Inhabited

structure PluginSettings where
  installs : List (String × InstallRecord) := []
  extra : List (String × Value) := []
  deriving Repr, Inhabited

structure AppConfig where
  update : UpdateSettings := {}
  plugins : PluginSettings := {}
  extra : List (String × Value) := []
  deriving Repr, Inhabited

def UpdateSettings.isEmpty (u : UpdateSettings) : Bool := u.channel.isNone && u.extra.isEmpty
def PluginSettings.isEmpty (p : PluginSettings) : Bool := p.installs.isEmpty && p.extra.isEmpty

/-! ## Writing -/

def InstallRecord.entries (r : InstallRecord) : List (String × Value) :=
  [("source", some (Value.string r.source.name)), ("spec", r.spec.map .string),
    ("version", r.version.map .string), ("install_path", r.installPath.map .string)].filterMap
    fun (k, v) => v.map (k, ·)

def AppConfig.entries (c : AppConfig) : List (String × Value) :=
  let update : List (String × Value) :=
    (c.update.channel.map fun ch => [("channel", Value.string ch.name)]).getD [] ++ c.update.extra
  let installs : List (String × Value) := c.plugins.installs.map fun (id, r) => (id, .table r.entries)
  let plugins : List (String × Value) :=
    (if installs.isEmpty then [] else [("installs", .table installs)]) ++ c.plugins.extra
  (if c.update.isEmpty then [] else [("update", .table update)]) ++
    (if c.plugins.isEmpty then [] else [("plugins", .table plugins)]) ++ c.extra

def AppConfig.render (c : AppConfig) : String := prettyDocument c.entries

def AppConfig.toJson (c : AppConfig) : Json :=
  (Value.table (sortByName c.entries)).toJson

/-! ## Reading -/

structure Problem where
  message : String
  span : Option Span
  deriving DecidableEq, Repr, Inhabited

/-- A float as an error message shows it: its shortest digits, with `.0` when they have no
decimal point; `NaN`, `inf` and `-inf` for the others. -/
def floatShown (x : Text.Binary64) : String :=
  let t := x.toDecimalString
  match x with
  | .finite .. => if t.contains '.' then t else t ++ ".0"
  | _ => t

def bound64 : Nat := Nat.pow 2 63

/-- The width an integer needs: 64 bits (signed or unsigned), 128 bits (signed or unsigned),
or more. -/
inductive Width
  | w64
  | i128
  | u128
  | wider
  deriving DecidableEq, Repr

def widthOf (i : Int) : Width :=
  if -(bound64 : Int) ≤ i && i < 2 * bound64 then .w64
  else if -(Nat.pow 2 127 : Int) ≤ i && i < Nat.pow 2 127 then .i128
  else if 0 ≤ i && i < Nat.pow 2 128 then .u128
  else .wider

def integerShown (i : Int) : String :=
  "integer `" ++ toString i ++ "`" ++
    match widthOf i with
    | .i128 => " as i128"
    | .u128 => " as u128"
    | _ => ""

def unexpected : Toml.Node → String
  | .scalar (.string s) .. => "string " ++ Text.debugQuoted s
  | .scalar (.integer i) .. => integerShown i
  | .scalar (.float x) .. => "floating point `" ++ floatShown x ++ "`"
  | .scalar (.boolean b) .. => "boolean `" ++ (if b then "true" else "false") ++ "`"
  | .scalar (.datetime _) .. => "map"
  | .array .. | .tables .. => "sequence"
  | .inline .. | .table .. => "map"

def overflowed (span : Option Span) : Problem := ⟨"integer number overflowed", span⟩

def invalidType (n : Toml.Node) (expected : String) : Problem :=
  match n with
  | .scalar (.integer i) .. =>
    if widthOf i == .wider then overflowed n.span?
    else ⟨"invalid type: " ++ unexpected n ++ ", expected " ++ expected, n.span?⟩
  | _ => ⟨"invalid type: " ++ unexpected n ++ ", expected " ++ expected, n.span?⟩

def variantList (names : List String) : String :=
  let q := fun (s : String) => "`" ++ s ++ "`"
  match names with
  | [] => "there are no variants"
  | [a] => "expected " ++ q a
  | [a, b] => "expected " ++ q a ++ " or " ++ q b
  | _ => "expected one of " ++ ", ".intercalate (names.map q)

def readVariant {α : Type} (variants : List (String × α)) (n : Toml.Node) : Except Problem α :=
  let named := fun (s : String) =>
    match variants.find? (·.1 == s) with
    | some (_, v) => .ok v
    | none => .error ⟨"unknown variant `" ++ s ++ "`, " ++ variantList (variants.map (·.1)), n.span?⟩
  match n with
  | .scalar (.string s) .. => named s
  | .table es .. | .inline es .. =>
    match es with
    | [(k, v)] => do
      let r ← named k.name
      match v with
      | .table [] .. | .inline [] .. => .ok r
      | .table .. | .inline .. => .error ⟨"expected empty table", v.span?⟩
      | other => .error ⟨"expected table, found " ++ other.typeName, other.span?⟩
    | [] => .error ⟨"wanted exactly 1 element, found 0 elements", n.span?⟩
    | _ => .error ⟨"wanted exactly 1 element, more than 1 element", n.span?⟩
  | _ => .error ⟨"wanted string or table", n.span?⟩

def readString (expected : String) : Toml.Node → Except Problem String
  | .scalar (.string s) .. => .ok s
  | n => .error (invalidType n expected)

/-- A table's entries in the order they are read: sorted by key. A date-time reads as a table
with the one entry `$__toml_private_datetime`, its text. -/
def sortedEntries (n : Toml.Node) : Option (List (Key × Toml.Node)) :=
  match n with
  | .scalar (.datetime d) _ _ s =>
    some [({ name := "$__toml_private_datetime" }, .scalar (.string d.render) none {} s)]
  | _ => n.entries?.map fun es => es.mergeSort fun a b => decide (a.1.name ≤ b.1.name)

/-- Checks the integers of a value kept as it is, in reading order. One wider than 128 bits, or
needing 128, is refused at once; one needing 64 unsigned bits is refused only once the whole
table is read, so its presence is the result. `fuel` outlasts the nesting. -/
def checkKept : Nat → Toml.Node → Except Problem Bool
  | 0, _ => .ok false
  | fuel + 1, n =>
    match n with
    | .scalar (.integer i) .. =>
      if -(bound64 : Int) ≤ i && i < bound64 then .ok false
      else match widthOf i with
        | .w64 => .ok true
        | .wider => .error (overflowed n.span?)
        | _ => .error ⟨"invalid type: " ++ integerShown i ++ ", expected any value", n.span?⟩
    | .scalar .. => .ok false
    | .array items .. | .tables items _ => items.foldlM (fun acc m => (acc || ·) <$> checkKept fuel m) false
    | _ =>
      match sortedEntries n with
      | some es => es.foldlM (fun acc (_, m) => (acc || ·) <$> checkKept fuel m) false
      | none => .ok false

def tooLarge (span : Option Span) : Problem := ⟨"u64 value was too large", span⟩

def sources : List (String × PluginSource) := [("bundled", .bundled), ("npm", .npm)]

def channels : List (String × Channel) := [("stable", .stable), ("beta", .beta), ("dev", .dev)]

structure RecordFields where
  source : Option PluginSource := none
  spec : Option String := none
  version : Option String := none
  installPath : Option String := none

def readRecordField (f : RecordFields) : Key × Toml.Node → Except Problem RecordFields
  | (k, v) =>
    match k.name with
    | "source" => return { f with source := some (← readVariant sources v) }
    | "spec" => return { f with spec := some (← readString "a string" v) }
    | "version" => return { f with version := some (← readString "a string" v) }
    | "install_path" => return { f with installPath := some (← readString "path string" v) }
    | _ => .ok f

def readRecord (n : Toml.Node) : Except Problem InstallRecord :=
  match sortedEntries n with
  | none => .error (invalidType n "struct PluginInstallRecord")
  | some es => do
    let f ← es.foldlM readRecordField {}
    match f.source with
    | some s => .ok ⟨s, f.spec, f.version, f.installPath⟩
    | none => .error ⟨"missing field `source`", n.span?⟩

def readInstalls (n : Toml.Node) : Except Problem (List (String × InstallRecord)) :=
  match sortedEntries n with
  | none => .error (invalidType n "a map")
  | some es => es.mapM fun (k, v) => return (k.name, ← readRecord v)

/-- Reads the entries of a table with kept extras: `known` reads the entries it knows (and
says so), the others are kept after their integers are checked; a kept integer needing 64
unsigned bits is refused at `span` once all are read. -/
def readWithExtras {α : Type} (fuel : Nat) (span : Option Span) (es : List (Key × Toml.Node)) (init : α)
    (known : α → Key → Toml.Node → Option (Except Problem α))
    (keep : α → String → Value → α) : Except Problem α := do
  let (a, large) ← es.foldlM (fun ((a, large) : α × Bool) (k, v) =>
    match known a k v with
    | some r => return (← r, large)
    | none => do
      let l ← checkKept fuel v
      return (keep a k.name v.toValue, large || l)) (init, false)
  if large then throw (tooLarge span)
  return a

def readUpdate (fuel : Nat) (n : Toml.Node) : Except Problem UpdateSettings :=
  match sortedEntries n with
  | none => .error (invalidType n "struct UpdateSettings")
  | some es => readWithExtras fuel n.span? es {}
      (fun u k v => if k.name == "channel" then
          some (return { u with channel := some (← readVariant channels v) })
        else none)
      (fun u name v => { u with extra := u.extra ++ [(name, v)] })

def readPlugins (fuel : Nat) (n : Toml.Node) : Except Problem PluginSettings :=
  match sortedEntries n with
  | none => .error (invalidType n "struct PluginSettings")
  | some es => readWithExtras fuel n.span? es {}
      (fun p k v => if k.name == "installs" then some (return { p with installs := ← readInstalls v })
        else none)
      (fun p name v => { p with extra := p.extra ++ [(name, v)] })

def readConfig (fuel : Nat) (root : Toml.Node) : Except Problem AppConfig :=
  match sortedEntries root with
  | none => .error (invalidType root "struct AppConfig")
  | some es => readWithExtras fuel (some ⟨0, 0⟩) es {}
      (fun c k v =>
        if k.name == "update" then some (return { c with update := ← readUpdate fuel v })
        else if k.name == "plugins" then some (return { c with plugins := ← readPlugins fuel v })
        else none)
      (fun c name v => { c with extra := c.extra ++ [(name, v)] })

/-- Reads the text of a configuration file; the error is the text a person is shown,
trimmed. -/
def parseConfig (raw : String) : Except String AppConfig :=
  match Document.parse .any raw with
  | .error e => .error (Text.trim (e.show raw))
  | .ok doc =>
    match readConfig (doc.root.depth + 1) doc.root with
    | .ok c => .ok c
    | .error p => .error (Text.trim (showError raw p.message p.span))

end Updater.Config
