import Updater.Json
import Updater.Text.Blank
import Updater.Version.Target
/-!
Package descriptors (`package.json`).

Only the name and the version matter. The descriptor must be strict JSON: an object, or an
array whose first two items are the name and the version. Each of the two is a string or
`null`, may appear once, and may be left out; any other member is skipped but must still be
well formed, however deeply it nests. A byte-order mark, or anything after the value but
blanks, makes the descriptor unreadable, and an unreadable descriptor counts as missing.
-/

namespace Updater

structure Manifest where
  name : Option String := none
  version : Option String := none
  deriving DecidableEq, Repr, Inhabited

namespace Manifest

open Json (skipSpace readString hexValue?)

def isCore (m : Manifest) : Bool := m.name == some Version.corePackage

/-- The rest of a string after its opening quote, without decoding it: escapes are checked
for shape only. -/
def skipString : List Char → Option (List Char)
  | [] => none
  | '"' :: r => some r
  | '\\' :: 'u' :: a :: b :: c :: d :: r =>
    if [a, b, c, d].all fun x => (hexValue? x).isSome then skipString r else none
  | '\\' :: e :: r =>
    if "\"\\/bfnrt".toList.contains e then skipString r else none
  | c :: r => if c.toNat < 0x20 then none else skipString r

def skipNumber (cs : List Char) : Option (List Char) :=
  (Json.readNumber cs).map (·.2)

def skipValue : Nat → List Char → Option (List Char)
  | 0, _ => none
  | fuel + 1, cs =>
    match skipSpace cs with
    | 'n' :: 'u' :: 'l' :: 'l' :: r => some r
    | 't' :: 'r' :: 'u' :: 'e' :: r => some r
    | 'f' :: 'a' :: 'l' :: 's' :: 'e' :: r => some r
    | '"' :: r => skipString r
    | '[' :: r =>
      match skipSpace r with
      | ']' :: r => some r
      | _ => skipItems fuel r
    | '\x7b' :: r =>
      match skipSpace r with
      | '\x7d' :: r => some r
      | _ => skipMembers fuel r
    | r => skipNumber r
where
  skipItems : Nat → List Char → Option (List Char)
    | 0, _ => none
    | fuel + 1, cs => do
      let r ← skipValue fuel cs
      match skipSpace r with
      | ',' :: r => skipItems fuel r
      | ']' :: r => some r
      | _ => none
  skipMembers : Nat → List Char → Option (List Char)
    | 0, _ => none
    | fuel + 1, cs => do
      let r ← match skipSpace cs with | '"' :: r => some r | _ => none
      let r ← skipString r
      let r ← match skipSpace r with | ':' :: r => some r | _ => none
      let r ← skipValue fuel r
      match skipSpace r with
      | ',' :: r => skipMembers fuel r
      | '\x7d' :: r => some r
      | _ => none

def readField (cs : List Char) : Option (Option String × List Char) :=
  match skipSpace cs with
  | 'n' :: 'u' :: 'l' :: 'l' :: r => some (none, r)
  | '"' :: r => (readString [] r).map fun (s, r) => (some s, r)
  | _ => none

def readMembers (fuel : Nat) (seen : Option (Option String) × Option (Option String)) :
    Nat → List Char → Option (Manifest × List Char)
  | 0, _ => none
  | n + 1, cs => do
    let r ← match skipSpace cs with | '"' :: r => some r | _ => none
    let (key, r) ← readString [] r
    let r ← match skipSpace r with | ':' :: r => some r | _ => none
    let (seen, r) ← match key with
      | "name" =>
        if seen.1.isSome then none
        else (readField r).map fun (v, r) => ((some v, seen.2), r)
      | "version" =>
        if seen.2.isSome then none
        else (readField r).map fun (v, r) => ((seen.1, some v), r)
      | _ => (skipValue fuel r).map fun r => (seen, r)
    match skipSpace r with
    | ',' :: r => readMembers fuel seen n r
    | '\x7d' :: r => some (⟨seen.1.getD none, seen.2.getD none⟩, r)
    | _ => none

def readItems (cs : List Char) : Option (Manifest × List Char) :=
  match skipSpace cs with
  | ']' :: r => some ({}, r)
  | _ => do
    let (name, r) ← readField cs
    match skipSpace r with
    | ']' :: r => some (⟨name, none⟩, r)
    | ',' :: r => do
      let (version, r) ← readField r
      match skipSpace r with
      | ']' :: r => some (⟨name, version⟩, r)
      | _ => none
    | _ => none

def parse? (text : String) : Option Manifest := do
  let cs := text.toList
  let (m, r) ← match skipSpace cs with
    | '\x7b' :: r =>
      match skipSpace r with
      | '\x7d' :: r => some ({}, r)
      | _ => readMembers (2 * cs.length + 2) (none, none) (cs.length + 1) r
    | '[' :: r => readItems r
    | _ => none
  if (skipSpace r).isEmpty then some m else none

def version? (m : Manifest) : Option String := m.version.filter fun v => !(Text.IsBlankText v)

def name? (m : Manifest) : Option String := m.name.filter fun v => !(Text.IsBlankText v)

end Manifest

end Updater
