import Updater.Toml.Document
/-!
Writing a document back as text.

Tables are written in the order of their headers; a table without a header of its own (new, or
implicit) follows the table before it. The root's entries come first without a header. An
implicit table with no entries of its own is not written; a header table always is. Each table
writes its header between its surrounding text, then its entries; dotted tables are written as
dotted keys of the table that holds them. Every key and value is written as it was read when it
was read, and in the usual way when it is new: `key = value`, one entry per line, a blank line
before a new header unless it is the first thing written.

Strings are written the plainest way that keeps them intact: basic quotes, or literal quotes
for text with backslashes, with three quotes when the text has line breaks.
-/

namespace Updater.Toml

def isBareChar (c : Char) : Bool :=
  ('A' ≤ c && c ≤ 'Z') || ('a' ≤ c && c ≤ 'z') || ('0' ≤ c && c ≤ '9') || c == '-' || c == '_'

def hexDigit (n : Nat) : Char := if n < 10 then Char.ofNat (48 + n) else Char.ofNat (55 + n)

def hex4 (n : Nat) : String :=
  String.ofList [hexDigit (n / 4096 % 16), hexDigit (n / 256 % 16), hexDigit (n / 16 % 16), hexDigit (n % 16)]

/-- How a string is quoted: one line with one quote, one line with three, or three quotes and a
line break. -/
inductive Quoting
  | single
  | triple
  | multiline
  deriving DecidableEq, Repr

def inferQuoting (s : String) : Quoting × Bool :=
  let step := fun (st : Quoting × Nat × Nat × Bool × Bool) (c : Char) =>
    let (ty, maxS, run, preferLit, pretty) := st
    if pretty then
      let (maxS, run, pretty) :=
        if c == '\'' then (maxS, run + 1, pretty && run + 1 < 3)
        else (max maxS run, 0, pretty)
      let (ty, preferLit, pretty) :=
        if c == '\t' then (ty, preferLit, pretty)
        else if c == '\\' then (ty, true, pretty)
        else if c == '\n' then (Quoting.multiline, preferLit, pretty)
        else if c.toNat ≤ 0x1f then (ty, preferLit, false)
        else (ty, preferLit, pretty)
      (ty, maxS, run, preferLit, pretty)
    else (if c == '\n' then .multiline else ty, maxS, run, preferLit, pretty)
  let (ty, maxS, run, preferLit, pretty) := s.toList.foldl step (Quoting.single, 0, 0, false, true)
  let pretty := pretty && !(run > 0 && s.endsWith "'") && preferLit
  if !pretty then (ty, false)
  else
    let maxS := max maxS run
    (if ty == .single && maxS ≥ 1 then .triple else ty, true)

def basicChar (q : Quoting) (c : Char) : String :=
  if c == '\x08' then "\\b"
  else if c == '\t' then "\\t"
  else if c == '\n' then (if q == .multiline then "\n" else "\\n")
  else if c == '\x0c' then "\\f"
  else if c == '\r' then "\\r"
  else if c == '"' then "\\\""
  else if c == '\\' then "\\\\"
  else if c.toNat ≤ 0x1f || c.toNat == 0x7f then "\\u" ++ hex4 c.toNat
  else c.toString

def quoteWith (q : Quoting) (literal : Bool) (s : String) : String :=
  if literal then
    match q with
    | .single => "'" ++ s ++ "'"
    | .triple => "'''" ++ s ++ "'''"
    | .multiline => "'''\n" ++ s ++ "'''"
  else
    let body := String.join (s.toList.map (basicChar q))
    match q with
    | .single => "\"" ++ body ++ "\""
    | .triple => "\"\"\"" ++ body ++ "\"\"\""
    | .multiline => "\"\"\"\n" ++ body ++ "\"\"\""

def stringRepr (s : String) : String :=
  let (q, lit) := inferQuoting s
  quoteWith q lit s

def keyText (name : String) : String :=
  if !name.isEmpty && name.all isBareChar then name
  else quoteWith .single (inferQuoting name).2 name

def Key.text (k : Key) : String := k.raw.getD (keyText k.name)

/-- A float as TOML writes it: its shortest digits, with `.0` when it is whole; `inf`, `-inf`,
`nan` and `-nan` for the others. -/
def floatText : Text.Binary64 → String
  | .nan neg => if neg then "-nan" else "nan"
  | .infinity neg => if neg then "-inf" else "inf"
  | x => x.toDecimalString ++ (if x.isWhole then ".0" else "")

def Scalar.repr : Scalar → String
  | .string s => stringRepr s
  | .integer i => toString i
  | .float x => floatText x
  | .boolean b => if b then "true" else "false"
  | .datetime d => d.render

def Decor.preOr (d : Decor) (dflt : String) : String := d.pre.getD dflt
def Decor.sufOr (d : Decor) (dflt : String) : String := d.suf.getD dflt

def keyPathText (path : List Key) (dflt : String × String) : String :=
  let leaf := (path.getLast?.map (·.leaf)).getD {}
  let n := path.length
  String.join <| (path.zipIdx).map fun (k, i) =>
    (if i == 0 then leaf.preOr dflt.1 else "." ++ k.dotted.preOr "") ++ k.text ++
      (if i + 1 == n then leaf.sufOr dflt.2 else k.dotted.sufOr "")

mutual

def valueCore : Node → String
  | .scalar v raw _ _ => raw.getD v.repr
  | .array items trailing comma _ _ =>
    "[" ++ itemsText true items ++ (if comma && !items.isEmpty then "," else "") ++ trailing ++ "]"
  | .inline es pre _ _ _ => "\x7b" ++ pre ++ (inlineText [] (inlineCount es) 0 es).1 ++ "\x7d"
  | _ => ""

def itemsText (first : Bool) : List Node → String
  | [] => ""
  | n :: rest =>
    let d := n.decor
    (if first then "" else ",") ++ d.preOr (if first then "" else " ") ++ valueCore n ++ d.sufOr "" ++
      itemsText false rest

/-- The entries of an inline table, dotted inline tables spelled as dotted keys; the text and
how many values were written. -/
def inlineText (path : List Key) (total : Nat) (index : Nat) : List (Key × Node) → String × Nat
  | [] => ("", index)
  | (k, .inline es _ true _ _) :: rest =>
    let (inner, index) := inlineText (path ++ [k]) total index es
    let (more, index) := inlineText path total index rest
    (inner ++ more, index)
  | (k, n) :: rest =>
    let sep := if index == 0 then "" else ","
    let d := n.decor
    let suf := if index + 1 == total then " " else ""
    let here := sep ++ keyPathText (path ++ [k]) (" ", " ") ++ "=" ++ d.preOr " " ++ valueCore n ++ d.sufOr suf
    let (more, index) := inlineText path total (index + 1) rest
    (here ++ more, index)

def inlineCount : List (Key × Node) → Nat
  | [] => 0
  | (_, .inline es _ true _ _) :: rest => inlineCount es + inlineCount rest
  | _ :: rest => 1 + inlineCount rest

end

def valueText (dflt : String × String) (n : Node) : String :=
  let d := n.decor
  d.preOr dflt.1 ++ valueCore n ++ d.sufOr dflt.2

def valueLines (path : List Key) : List (Key × Node) → List (List Key × Node)
  | [] => []
  | (k, n) :: rest =>
    match n with
    | .table es .dotted _ _ _ => valueLines (path ++ [k]) es ++ valueLines path rest
    | .scalar .. | .array .. | .inline .. => (path ++ [k], n) :: valueLines path rest
    | _ => valueLines path rest

/-- A table to write: where it goes, its path, whether it is one of an array of tables, its
kind, decor and entries. -/
structure Section where
  position : Nat
  path : List Key
  inArray : Bool
  kind : TableKind
  decor : Decor
  entries : List (Key × Node)

mutual

def sections (path : List Key) (inArray : Bool) (last : Nat) : Node → List Section × Nat
  | .table es kind d pos _ =>
    let last := pos.getD last
    let own : List Section := if kind == .dotted then [] else [⟨last, path, inArray, kind, d, es⟩]
    let (rest, last) := entrySections path last es
    (own ++ rest, last)
  | _ => ([], last)

def entrySections (path : List Key) (last : Nat) : List (Key × Node) → List Section × Nat
  | [] => ([], last)
  | (k, .table es kind d pos s) :: rest =>
    let (a, last) := sections (path ++ [k]) false last (.table es kind d pos s)
    let (b, last) := entrySections path last rest
    (a ++ b, last)
  | (k, .tables items _) :: rest =>
    let (a, last) := arraySections (path ++ [k]) last items
    let (b, last) := entrySections path last rest
    (a ++ b, last)
  | _ :: rest => entrySections path last rest

def arraySections (path : List Key) (last : Nat) : List Node → List Section × Nat
  | [] => ([], last)
  | t :: rest =>
    let (a, last) := sections path true last t
    let (b, last) := arraySections path last rest
    (a ++ b, last)

end

def sortSections (ss : List Section) : List Section :=
  ss.mergeSort fun a b => a.position ≤ b.position

def sectionsText (first : Bool) : List Section → String
  | [] => ""
  | s :: rest =>
    let values := valueLines [] s.entries
    let body := String.join (values.map fun (p, v) => keyPathText p ("", " ") ++ "=" ++ valueText (" ", "") v ++ "\n")
    let (header, first) :=
      if s.path.isEmpty then ("", first && values.isEmpty)
      else if s.inArray || !(s.kind == .implicit && values.isEmpty) then
        let open_ := if s.inArray then "[[" else "["
        let close := if s.inArray then "]]" else "]"
        (s.decor.preOr (if first then "" else "\n") ++ open_ ++ keyPathText s.path ("", "") ++ close ++
          s.decor.sufOr "" ++ "\n", false)
      else ("", first)
    header ++ body ++ sectionsText first rest

def Document.render (d : Document) : String :=
  sectionsText true (sortSections (sections [] false 0 d.root).1) ++ d.trailing

end Updater.Toml
