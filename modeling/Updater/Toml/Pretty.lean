import Updater.Toml.Value
import Updater.Toml.Render
/-!
Writing plain values as a fresh, tidy document.

Every table keeps the order of its entries. A table writes its plain values under its header,
then its tables, each under a header of its full path, and its arrays of tables, one
`[[path]]` per element. A table with nothing but tables under it gets no header of its own;
an empty table does. Headers after the first thing written get a blank line before them.

Arrays of two or more items are written one item a line, indented by four spaces, each with a
comma; shorter ones on one line. Tables inside arrays are written inline, `{ key = value }`.

Strings take the first of these that fits: double quotes (no backslash, double quote, line
break or control character but tab), single quotes (no single quote, line break or control
character but tab), triple double quotes (no backslash or control character, at most two
double quotes in a row), triple single quotes (no control character, at most two single quotes
in a row); otherwise triple double quotes when there is a line break and double quotes when
there is none, with escapes. Inside double quotes a tab is written `\t`; inside triple double
quotes line breaks stay and every third double quote in a row is escaped.
-/

namespace Updater.Toml

/-- What a string needs: its longest runs of single and double quotes, whether it has control
characters other than tab and line feed, a backslash, a line feed. -/
structure StringNeeds where
  singles : Nat := 0
  doubles : Nat := 0
  controls : Bool := false
  backslash : Bool := false
  newline : Bool := false

def StringNeeds.of (s : String) : StringNeeds :=
  let step := fun (st : StringNeeds × Nat × Nat) (c : Char) =>
    let (n, rs, rd) := st
    let rs := if c == '\'' then rs + 1 else 0
    let rd := if c == '"' then rd + 1 else 0
    let n := { n with singles := max n.singles rs, doubles := max n.doubles rd }
    let n :=
      if c == '\\' then { n with backslash := true }
      else if c == '\n' then { n with newline := true }
      else if c == '\t' then n
      else if c.toNat ≤ 0x1f || c.toNat == 0x7f then { n with controls := true }
      else n
    (n, rs, rd)
  (s.toList.foldl step ({}, 0, 0)).1

/-- A string in three double quotes, escaped: line feeds stay, and every third quote of a run
is escaped so that no three quotes meet. A text with a line break starts on a new line. -/
def multiBasic (s : String) : String :=
  let step := fun (st : List String × Nat) (c : Char) =>
    let (acc, run) := st
    if c == '"' then
      if run + 1 ≥ 3 then ("\\\"" :: acc, 0) else ("\"" :: acc, run + 1)
    else
      ((if c == '\n' then "\n" else basicChar .single c) :: acc, 0)
  let body := String.join (s.toList.foldl step ([], 0)).1.reverse
  "\"\"\"" ++ (if s.contains '\n' then "\n" else "") ++ body ++ "\"\"\""

def freshString (s : String) : String :=
  let n := StringNeeds.of s
  let nl := if n.newline then "\n" else ""
  if !n.controls && !n.backslash && n.doubles == 0 && !n.newline then quoteWith .single false s
  else if !n.controls && n.singles == 0 && !n.newline then "'" ++ s ++ "'"
  else if !n.controls && !n.backslash && n.doubles ≤ 2 then multiBasic s
  else if !n.controls && n.singles ≤ 2 then "'''" ++ nl ++ s ++ "'''"
  else if n.newline then multiBasic s
  else quoteWith .single false s

def freshKey (k : String) : String :=
  let n := StringNeeds.of k
  if !k.isEmpty && k.all isBareChar then k
  else if !n.controls && !n.backslash && n.doubles == 0 && !n.newline then quoteWith .single false k
  else if !n.controls && n.singles == 0 && !n.newline then "'" ++ k ++ "'"
  else quoteWith .single false k

def Value.isTable : Value → Bool
  | .table _ => true
  | _ => false

def Value.isTableArray : Value → Bool
  | .array items => !items.isEmpty && items.all Value.isTable
  | _ => false

mutual

def freshValue : Value → String
  | .string s => freshString s
  | .integer i => toString i
  | .float x => floatText x
  | .boolean b => if b then "true" else "false"
  | .datetime d => d.render
  | .array items =>
    if items.length ≥ 2 then "[" ++ lineItems items ++ "\n]" else "[" ++ flatItems true items ++ "]"
  | .table es => if es.isEmpty then "\x7b\x7d" else "\x7b " ++ inlineEntries true es ++ " \x7d"

def lineItems : List Value → String
  | [] => ""
  | v :: rest => "\n    " ++ freshValue v ++ "," ++ lineItems rest

def flatItems (first : Bool) : List Value → String
  | [] => ""
  | v :: rest => (if first then "" else ", ") ++ freshValue v ++ flatItems false rest

def inlineEntries (first : Bool) : List (String × Value) → String
  | [] => ""
  | (k, v) :: rest => (if first then "" else ", ") ++ freshKey k ++ " = " ++ freshValue v ++ inlineEntries false rest

end

structure Block where
  header : Option String
  body : String

def bodyText (es : List (String × Value)) : String :=
  String.join <| (es.filter fun (_, v) => !v.isTable && !v.isTableArray).map fun (k, v) =>
    freshKey k ++ " = " ++ freshValue v ++ "\n"

def pathText (path : List String) : String := ".".intercalate (path.map freshKey)

mutual

def tableBlocks (path : List String) (element : Bool) (es : List (String × Value)) : List Block :=
  let body := bodyText es
  let hasTables := es.any fun (_, v) => v.isTable || v.isTableArray
  let header :=
    if path.isEmpty then none
    else if element then some ("[[" ++ pathText path ++ "]]")
    else if !body.isEmpty || !hasTables then some ("[" ++ pathText path ++ "]")
    else none
  ⟨header, body⟩ :: childBlocks path es

def childBlocks (path : List String) : List (String × Value) → List Block
  | [] => []
  | (k, .table es) :: rest => tableBlocks (path ++ [k]) false es ++ childBlocks path rest
  | (k, .array items) :: rest =>
    (if (Value.array items).isTableArray then elementBlocks (path ++ [k]) items else []) ++
      childBlocks path rest
  | _ :: rest => childBlocks path rest

def elementBlocks (path : List String) : List Value → List Block
  | [] => []
  | .table es :: rest => tableBlocks path true es ++ elementBlocks path rest
  | _ :: rest => elementBlocks path rest

end

def blocksText (written : Bool) : List Block → String
  | [] => ""
  | b :: rest =>
    match b.header with
    | some h => (if written then "\n" else "") ++ h ++ "\n" ++ b.body ++ blocksText true rest
    | none => b.body ++ blocksText (written || !b.body.isEmpty) rest

def prettyDocument (es : List (String × Value)) : String :=
  blocksText false (tableBlocks [] false es)

end Updater.Toml
