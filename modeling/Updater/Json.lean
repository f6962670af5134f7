import Updater.Text.Binary64
/-!
JSON values, their pretty text, and a strict reader.

Reports are written as pretty JSON: two-space indentation, one member or element per line,
`"key": value`, empty containers as `[]` and `{}`. In strings the quote, the backslash and the
control characters are escaped (the usual short escapes where they exist, `\u00XX` otherwise);
everything else is written as it is. Numbers are decimals `mantissa × 10^-exponent`, or doubles,
written by their shortest digits (`1.5`, `1e22`, `1e-7`, `0.0`); a double that is not finite is
`null`.

The reader accepts exactly RFC 8259 text: no comments, no byte-order mark, no trailing commas,
nothing after the value but blanks (space, tab, line feed, carriage return). Object members
keep their order and duplicates, so that a consumer can refuse them.
-/

namespace Updater

inductive Json
  | null
  | bool (b : Bool)
  | num (mantissa : Int) (exponent : Nat)
  | double (x : Text.Binary64)
  | str (s : String)
  | arr (items : List Json)
  | obj (members : List (String × Json))
  deriving Repr, Inhabited

namespace Json

def int (n : Int) : Json := num n 0
def nat (n : Nat) : Json := num n 0

def optStr : Option String → Json
  | some s => str s
  | none => null

def objOpt (members : List (String × Option Json)) : Json :=
  obj (members.filterMap fun (k, v) => v.map (k, ·))

def hexDigit (n : Nat) : Char :=
  if n < 10 then Char.ofNat (48 + n) else Char.ofNat (87 + n)

def escapeChar (c : Char) : List Char :=
  match c with
  | '"' => ['\\', '"']
  | '\\' => ['\\', '\\']
  | '\n' => ['\\', 'n']
  | '\r' => ['\\', 'r']
  | '\t' => ['\\', 't']
  | '\x08' => ['\\', 'b']
  | '\x0c' => ['\\', 'f']
  | c =>
    if c.toNat < 0x20 then
      ['\\', 'u', '0', '0', hexDigit (c.toNat / 16), hexDigit (c.toNat % 16)]
    else [c]

def quote (s : String) : String :=
  String.ofList ('"' :: (s.toList.flatMap escapeChar ++ ['"']))

def numberText (m : Int) (e : Nat) : String :=
  if e = 0 then toString m
  else
    let sign := if m < 0 then "-" else ""
    let digits := (toString m.natAbs).toList
    let digits := List.replicate (e + 1 - digits.length) '0' ++ digits
    let k := digits.length - e
    sign ++ String.ofList (digits.take k) ++ "." ++ String.ofList (digits.drop k)

def indent (n : Nat) : String := String.ofList (List.replicate (2 * n) ' ')

/-- The text of a double: its shortest digits `d`, placed by the position `k` of the decimal
point after the first digit. Positions up to 16 are written out (`12340000000.0`, `12.34`),
small numbers down to `0.0000ddd` too; beyond that with an exponent (`1e30`, `1.234e-7`). -/
def doubleText (x : Text.Binary64) : String :=
  match x.decimal? with
  | none => "null"
  | some (neg, digits, exp) =>
    let sign := if neg then "-" else ""
    if digits = 0 then sign ++ "0.0"
    else
      let ds := (toString digits).toList
      let len : Int := ds.length
      let kk := len + exp
      let body :=
        if 0 ≤ exp && kk ≤ 16 then
          String.ofList ds ++ String.ofList (List.replicate exp.toNat '0') ++ ".0"
        else if 0 < kk && kk ≤ 16 then
          String.ofList (ds.take kk.toNat) ++ "." ++ String.ofList (ds.drop kk.toNat)
        else if -5 < kk && kk ≤ 0 then
          "0." ++ String.ofList (List.replicate kk.natAbs '0') ++ String.ofList ds
        else
          let mant := match ds with
            | [d] => [d]
            | d :: rest => d :: '.' :: rest
            | [] => []
          String.ofList mant ++ "e" ++ toString (kk - 1)
      sign ++ body

mutual
def pretty (d : Nat) : Json → String
  | null => "null"
  | bool b => if b then "true" else "false"
  | num m e => numberText m e
  | double x => doubleText x
  | str s => quote s
  | arr [] => "[]"
  | arr (x :: xs) => "[\n" ++ prettyItems d (x :: xs) ++ "\n" ++ indent d ++ "]"
  | obj [] => "{}"
  | obj (m :: ms) => "\x7b\n" ++ prettyMembers d (m :: ms) ++ "\n" ++ indent d ++ "\x7d"

def prettyItems (d : Nat) : List Json → String
  | [] => ""
  | [x] => indent (d + 1) ++ pretty (d + 1) x
  | x :: xs => indent (d + 1) ++ pretty (d + 1) x ++ ",\n" ++ prettyItems d xs

def prettyMembers (d : Nat) : List (String × Json) → String
  | [] => ""
  | [(k, v)] => indent (d + 1) ++ quote k ++ ": " ++ pretty (d + 1) v
  | (k, v) :: ms => indent (d + 1) ++ quote k ++ ": " ++ pretty (d + 1) v ++ ",\n" ++ prettyMembers d ms
end

def render (j : Json) : String := pretty 0 j

def get? (j : Json) (key : String) : Option Json :=
  match j with
  | obj ms => (ms.find? (·.1 == key)).map (·.2)
  | _ => none

/-! ### Reading -/

def isSpace (c : Char) : Bool := c == ' ' || c == '\t' || c == '\n' || c == '\r'

def skipSpace (cs : List Char) : List Char := cs.dropWhile isSpace

def hexValue? (c : Char) : Option Nat :=
  if c.isDigit then some (c.toNat - 48)
  else if 'a' ≤ c && c ≤ 'f' then some (c.toNat - 87)
  else if 'A' ≤ c && c ≤ 'F' then some (c.toNat - 55)
  else none

def hex4? (ds : List Char) : Option Nat :=
  ds.foldlM (fun acc x => (hexValue? x).map (acc * 16 + ·)) 0

/-- The rest of a string literal after its opening quote: its characters and what follows
the closing quote. Control characters, unknown escapes and lone surrogates are refused. -/
def readString (acc : List Char) : List Char → Option (String × List Char)
  | [] => none
  | '"' :: r => some (String.ofList acc.reverse, r)
  | '\\' :: 'u' :: a :: b :: c :: d :: r =>
    match hex4? [a, b, c, d] with
    | none => none
    | some v =>
      if 0xD800 ≤ v && v < 0xDC00 then
        match r with
        | '\\' :: 'u' :: e :: f :: g :: h :: r' =>
          match hex4? [e, f, g, h] with
          | some w =>
            if 0xDC00 ≤ w && w < 0xE000 then
              readString (Char.ofNat (0x10000 + (v - 0xD800) * 0x400 + (w - 0xDC00)) :: acc) r'
            else none
          | none => none
        | _ => none
      else if 0xDC00 ≤ v && v < 0xE000 then none
      else readString (Char.ofNat v :: acc) r
  | '\\' :: e :: r =>
    match e with
    | '"' => readString ('"' :: acc) r
    | '\\' => readString ('\\' :: acc) r
    | '/' => readString ('/' :: acc) r
    | 'b' => readString ('\x08' :: acc) r
    | 'f' => readString ('\x0c' :: acc) r
    | 'n' => readString ('\n' :: acc) r
    | 'r' => readString ('\r' :: acc) r
    | 't' => readString ('\t' :: acc) r
    | _ => none
  | c :: r => if c.toNat < 0x20 then none else readString (c :: acc) r

def spanDigits (cs : List Char) : List Char × List Char :=
  (cs.takeWhile Char.isDigit, cs.dropWhile Char.isDigit)

def digitsNat (ds : List Char) : Nat := ds.foldl (fun acc d => acc * 10 + (d.toNat - 48)) 0

/-- A number: `-? (0 | [1-9][0-9]*) (. [0-9]+)? ([eE] [+-]? [0-9]+)?`. The exponent is kept
only in the value's scale when it is not positive; a positive exponent multiplies out. -/
def readNumber (cs : List Char) : Option (Json × List Char) := do
  let (neg, r) := match cs with | '-' :: r => (true, r) | r => (false, r)
  let (intPart, r) ← match r with
    | '0' :: r => some (['0'], r)
    | c :: _ => if c.isDigit then some (spanDigits r) else none
    | [] => none
  let (frac, r) ← match r with
    | '.' :: r =>
      let (f, r) := spanDigits r
      if f.isEmpty then none else some (f, r)
    | r => some ([], r)
  let (expNeg, expDigits, r) ← match r with
    | c :: r =>
      if c == 'e' || c == 'E' then
        let (en, r) := match r with | '-' :: r => (true, r) | '+' :: r => (false, r) | r => (false, r)
        let (ed, r) := spanDigits r
        if ed.isEmpty then none else some (en, ed, r)
      else some (false, [], c :: r)
    | [] => some (false, [], [])
  let mant : Int := digitsNat (intPart ++ frac)
  let mant := if neg then -mant else mant
  let ex := digitsNat expDigits
  if expNeg then some (num mant (frac.length + ex), r)
  else if ex ≥ frac.length then some (num (mant * Int.pow 10 (ex - frac.length)) 0, r)
  else some (num mant (frac.length - ex), r)

def readValue (fuel : Nat) (cs : List Char) : Option (Json × List Char) :=
  match fuel with
  | 0 => none
  | fuel + 1 =>
    match skipSpace cs with
    | 'n' :: 'u' :: 'l' :: 'l' :: r => some (null, r)
    | 't' :: 'r' :: 'u' :: 'e' :: r => some (bool true, r)
    | 'f' :: 'a' :: 'l' :: 's' :: 'e' :: r => some (bool false, r)
    | '"' :: r => (readString [] r).map fun (s, r) => (str s, r)
    | '[' :: r =>
      match skipSpace r with
      | ']' :: r => some (arr [], r)
      | _ => readItems fuel [] r
    | '\x7b' :: r =>
      match skipSpace r with
      | '\x7d' :: r => some (obj [], r)
      | _ => readMembers fuel [] r
    | r => readNumber r
where
  readItems (fuel : Nat) (acc : List Json) (cs : List Char) : Option (Json × List Char) :=
    match fuel with
    | 0 => none
    | fuel + 1 => do
      let (v, r) ← readValue fuel cs
      match skipSpace r with
      | ',' :: r => readItems fuel (v :: acc) r
      | ']' :: r => some (arr (v :: acc).reverse, r)
      | _ => none
  readMembers (fuel : Nat) (acc : List (String × Json)) (cs : List Char) :
      Option (Json × List Char) :=
    match fuel with
    | 0 => none
    | fuel + 1 => do
      let r ← match skipSpace cs with | '"' :: r => some r | _ => none
      let (k, r) ← readString [] r
      let r ← match skipSpace r with | ':' :: r => some r | _ => none
      let (v, r) ← readValue fuel r
      match skipSpace r with
      | ',' :: r => readMembers fuel ((k, v) :: acc) r
      | '\x7d' :: r => some (obj ((k, v) :: acc).reverse, r)
      | _ => none

def parse? (text : String) : Option Json := do
  let cs := text.toList
  let (v, r) ← readValue (cs.length + 1) cs
  if (skipSpace r).isEmpty then some v else none

end Json

end Updater
