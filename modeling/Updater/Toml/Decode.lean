import Updater.Toml.Lexer
import Updater.Toml.Datetime
import Updater.Text.Binary64
/-!
What the tokens of a document mean: the text of strings, the names of keys, and the value of
bare scalars (booleans, numbers, date-times).

Each decoder reads its token from the front and stops at the first mistake, with a message and
the span of the offending characters:

* a string must be closed; a one-line string holds no control character but tab; a basic
  string's escapes are `\b \t \n \f \r \e \" \\`, `\xHH`, `\uHHHH` and `\UHHHHHHHH`, the last
  three naming a Unicode scalar value; in a multi-line basic string a backslash at the end of a
  line joins it to the next non-blank text, and one line break right after the opening quotes
  is dropped;
* a bare key is letters, digits, `-` and `_`, and is not empty;
* a bare value is told by its first character: a sign or digit starts a number or a
  date-time, `t` and `f` (of either case) a boolean, `i` and `n` the floats `inf` and `nan`.
  Numbers are checked part by part: no leading zeros, digits around every `.` and after every
  `e`, `_` only between digits, the right digits after a `0x`, `0o` or `0b` prefix (which takes
  no sign, before or after it). Anything else is a string that was not quoted, or lost its
  opening quote when it ends in one.

A float is rounded to the nearest double, and one too large for a double is an error; an
integer keeps its exact value, whose range the reader of the document judges.
-/

namespace Updater.Toml

open Updater.Text

namespace Decode

def indexed : List Char → Nat → List (Char × Nat)
  | [], _ => []
  | c :: cs, start => (c, start) :: indexed cs (start + c.utf8Size)

def offsetOf (cs : List (Char × Nat)) (stop : Nat) : Nat := (cs.head?.map (·.2)).getD stop

def plain (message : String) (s e : Nat) : ParseError := .at message ⟨s, e⟩

/-! ### Strings -/

def hexValue? (c : Char) : Option Nat :=
  if c.isDigit then some (c.toNat - 48)
  else if 'a' ≤ c && c ≤ 'f' then some (c.toNat - 87)
  else if 'A' ≤ c && c ≤ 'F' then some (c.toNat - 55)
  else none

def escapeExpected : List Expected :=
  [.literal "b", .literal "e", .literal "f", .literal "n", .literal "r", .literal "\\", .literal "\"",
    .literal "x", .literal "u", .literal "U"]

def basicPlain (c : Char) : Bool :=
  c == ' ' || c == '\t' || c.toNat == 0x21 || (0x23 ≤ c.toNat && c.toNat ≤ 0x5B) ||
    (0x5D ≤ c.toNat && c.toNat ≤ 0x7E) || c.toNat ≥ 0x80

def literalPlain (c : Char) : Bool :=
  c == '\t' || (0x20 ≤ c.toNat && c.toNat ≤ 0x26) || (0x28 ≤ c.toNat && c.toNat ≤ 0x7E) ||
    c.toNat ≥ 0x80

def hexEscape (n : Nat) (cs : List (Char × Nat)) (stop : Nat) :
    Except ParseError (Char × List (Char × Nat)) :=
  let start := offsetOf cs stop
  let ds := (cs.take n).takeWhile fun (c, _) => (hexValue? c).isSome
  if ds.length < n then
    .error (errorAt "too few unicode value digits" [.description "unicode hexadecimal value"]
      ⟨start + ds.length, start + ds.length⟩)
  else
    let v := ds.foldl (fun acc (c, _) => 16 * acc + (hexValue? c).getD 0) 0
    if v < 0xD800 || (0xE000 ≤ v && v < 0x110000) then .ok (Char.ofNat v, cs.drop n)
    else .error (errorAt "invalid value" [.description "unicode hexadecimal value"] ⟨start, start⟩)

def escape (cs : List (Char × Nat)) (stop : Nat) : Except ParseError (Char × List (Char × Nat)) :=
  match cs with
  | [] => .error (errorAt "missing escaped value" escapeExpected ⟨stop, stop⟩)
  | (c, o) :: rest =>
    match c with
    | 'b' => .ok ('\x08', rest)
    | 'e' => .ok ('\x1b', rest)
    | 'f' => .ok ('\x0c', rest)
    | 'n' => .ok ('\n', rest)
    | 'r' => .ok ('\r', rest)
    | 't' => .ok ('\t', rest)
    | '\\' => .ok ('\\', rest)
    | '"' => .ok ('"', rest)
    | 'x' => hexEscape 2 rest stop
    | 'u' => hexEscape 4 rest stop
    | 'U' => hexEscape 8 rest stop
    | _ => .error (errorAt "missing escaped value" escapeExpected ⟨o, o⟩)

/-- Blanks and line breaks after a line-ending backslash; a carriage return counts only as the
start of a line break. -/
def skipBlankLines : List (Char × Nat) → List (Char × Nat)
  | (' ', _) :: rest | ('\t', _) :: rest | ('\n', _) :: rest | ('\r', _) :: ('\n', _) :: rest =>
    skipBlankLines rest
  | cs => cs

def loneCarriageReturn (o : Nat) : ParseError :=
  errorAt "carriage return must be followed by newline" [.literal "\n"] ⟨o + 1, o + 1⟩

/-- The body of a basic string; `multi` for the multi-line form. Each step takes at least one
character, so `fuel` at least the length of the text suffices. -/
def basicBody (multi : Bool) (what : String) (stop : Nat) :
    Nat → List (Char × Nat) → List Char → Except ParseError (List Char)
  | 0, _, acc => .ok acc.reverse
  | _, [], acc => .ok acc.reverse
  | fuel + 1, (c, o) :: rest, acc =>
    if c == '\\' then
      let afterBlanks := rest.dropWhile fun (x, _) => x == ' ' || x == '\t'
      let lineEnding := match rest with
        | (x, _) :: _ => multi && (x == ' ' || x == '\t' || x == '\n' || x == '\r')
        | [] => false
      if lineEnding then
        match afterBlanks with
        | ('\n', _) :: _ | ('\r', _) :: ('\n', _) :: _ =>
          basicBody multi what stop fuel (skipBlankLines afterBlanks) acc
        | ('\r', o) :: _ => .error (loneCarriageReturn o)
        | _ =>
          .error (errorAt what [.literal "\n"] ⟨offsetOf afterBlanks stop, offsetOf afterBlanks stop⟩)
      else
        match escape rest stop with
        | .ok (e, rest') => basicBody multi what stop fuel rest' (e :: acc)
        | .error err => .error err
    else if multi && c == '\n' then basicBody multi what stop fuel rest (c :: acc)
    else if multi && c == '\r' then
      if (rest.head?.map (·.1)) == some '\n' then basicBody multi what stop fuel rest (c :: acc)
      else .error (loneCarriageReturn o)
    else if basicPlain c || (multi && c == '"') then basicBody multi what stop fuel rest (c :: acc)
    else if multi then .error (errorAt what [.literal "\\", .description "characters"] ⟨o, o⟩)
    else .error (errorAt what [.description "non-double-quote visible characters", .literal "\\"] ⟨o, o⟩)

def literalBody (multi : Bool) (what : String) : List (Char × Nat) → Except ParseError (List Char)
  | [] => .ok []
  | (c, o) :: rest =>
    let ok := literalPlain c || (multi && (c == '\n' || c == '\'' ||
      (c == '\r' && (rest.head?.map (·.1)) == some '\n')))
    if ok then (literalBody multi what rest).map (c :: ·)
    else if multi && c == '\r' then .error (loneCarriageReturn o)
    else if multi then .error (errorAt what [.description "non-single-quote characters"] ⟨o, o⟩)
    else .error (errorAt what [.description "non-single-quote visible characters"] ⟨o, o⟩)

def trimFirstNewline : List (Char × Nat) → List (Char × Nat)
  | ('\n', _) :: rest => rest
  | ('\r', _) :: ('\n', _) :: rest => rest
  | cs => cs

/-- The text between the quotes: drops `n` characters at the front and, when the text ends in
the quotes, `n` at the back. -/
def between (n : Nat) (q : Char) (cs : List (Char × Nat)) : Option (List (Char × Nat)) :=
  let body := cs.drop n
  if body.length ≥ n && (body.drop (body.length - n)).all (·.1 == q) then some (body.take (body.length - n))
  else none

end Decode

def decodeString (t : Token) : Except ParseError String :=
  let cs := Decode.indexed t.text.toList t.span.start
  let stop := t.span.stop
  let unclosed := fun (what quotes : String) => Except.error (errorAt what [.literal quotes] ⟨stop, stop⟩)
  match t.kind with
  | .literalString =>
    match Decode.between 1 '\'' cs with
    | none => unclosed "invalid literal string" "'"
    | some body => String.ofList <$> Decode.literalBody false "invalid literal string" body
  | .multiLiteralString =>
    match Decode.between 3 '\'' cs with
    | none => unclosed "invalid multi-line literal string" "'''"
    | some body =>
      String.ofList <$> Decode.literalBody true "invalid multi-line literal string" (Decode.trimFirstNewline body)
  | .basicString =>
    match Decode.between 1 '"' cs with
    | none => unclosed "invalid basic string" "\""
    | some body =>
      String.ofList <$> Decode.basicBody false "invalid basic string" (stop - 1) (body.length + 1) body []
  | .multiBasicString =>
    match Decode.between 3 '"' cs with
    | none => unclosed "invalid multi-line basic string" "\"\"\""
    | some body =>
      String.ofList <$> Decode.basicBody true "invalid multi-line basic string" (stop - 3)
        (body.length + 1) (Decode.trimFirstNewline body) []
  | _ => .ok t.text

def isBareKeyChar (c : Char) : Bool :=
  ('A' ≤ c && c ≤ 'Z') || ('a' ≤ c && c ≤ 'z') || ('0' ≤ c && c ≤ '9') || c == '-' || c == '_'

def bareKeyExpected : List Expected := [.description "letters, numbers", .literal "-", .literal "_"]

def keyStringExpected : List Expected := [.description "basic string", .description "literal string"]

def decodeKey (t : Token) : Except ParseError String :=
  match t.kind with
  | .atom =>
    if t.text.isEmpty then .error (errorAt "unquoted keys cannot be empty" bareKeyExpected t.span)
    else
      let bad := (Decode.indexed t.text.toList t.span.start).dropWhile (fun (c, _) => isBareKeyChar c)
      match bad with
      | (_, o) :: _ =>
        let run := bad.takeWhile (fun (c, _) => !isBareKeyChar c)
        .error (errorAt "invalid unquoted key" bareKeyExpected ⟨o, o + byteSize (run.map (·.1))⟩)
      | [] => .ok t.text
  | .multiBasicString => .error (errorAt "keys cannot be multi-line basic strings" keyStringExpected t.span)
  | .multiLiteralString => .error (errorAt "keys cannot be multi-line literal strings" keyStringExpected t.span)
  | _ => decodeString t

/-! ### Bare values -/

inductive Bare
  | boolean (b : Bool)
  | integer (value : Option Int)
  | float (x : Binary64)
  | datetime (d : Datetime)
  deriving Repr, Inhabited

namespace Decode

inductive Radix
  | bin
  | oct
  | dec
  | hex
  deriving DecidableEq, Repr

def Radix.base : Radix → Nat
  | .bin => 2
  | .oct => 8
  | .dec => 10
  | .hex => 16

def Radix.valid (r : Radix) (c : Char) : Bool :=
  match hexValue? c with
  | some v => v < r.base
  | none => false

def Radix.name : Radix → String
  | .bin => "binary"
  | .oct => "octal"
  | .dec => "decimal"
  | .hex => "hexadecimal"

inductive Kind
  | integer (r : Radix)
  | float
  deriving DecidableEq, Repr

abbrev Chars := List (Char × Nat)

def str (cs : Chars) : String := String.ofList (cs.map (·.1))

/-- The error for a value that is not a number, boolean or date-time: a string that lost its
opening quote when the text ends in quotes, else a string written without quotes. -/
def invalid (raw : Chars) (len : Nat) : ParseError :=
  let text := str raw
  match ["'''", "\"\"\"", "'", "\""].find? (fun (q : String) => text.endsWith q) with
  | some q => errorAt "missing opening quote" [.literal q] ⟨0, 0⟩
  | none => errorAt "string values must be quoted" [.description "literal string"] ⟨0, len⟩

def spaced (raw : Chars) : Bool := raw.any (·.1 == ' ')

def noUnderscore (s e : Nat) : ParseError := errorAt "`_` may only go between digits" [] ⟨s, e⟩

def decUint (value : Chars) (len : Nat) (zeros : Bool) (description : String) : Except ParseError Chars :=
  let taken := value.takeWhile fun (c, _) => c.isDigit || c == '_'
  let count := (taken.filter (·.1.isDigit)).length
  let here := offsetOf value len
  if count == 0 then .error (errorAt description [.description "digits"] ⟨here, here⟩)
  else if count ≥ 2 && (value.head?.map (·.1)) == some '0' && !zeros then
    .error (errorAt "unexpected leading zero" [] ⟨here, here + 1⟩)
  else .ok (value.drop taken.length)

def ensureFloat (value : Chars) (len : Nat) : Except ParseError Unit := do
  let rest ← decUint value len false "invalid mantissa"
  let rest ← match rest with
    | ('.', _) :: r => decUint r len true "invalid fraction"
    | r => pure r
  let rest ← match rest with
    | (c, _) :: r =>
      if c == 'e' || c == 'E' then
        let r := match r with
          | (s, _) :: r' => if s == '+' || s == '-' then r' else r
          | [] => r
        decUint r len true "invalid exponent"
      else pure rest
    | [] => pure rest
  if !rest.isEmpty then throw (errorAt "invalid float" [] ⟨offsetOf rest len, len⟩)

def badUnderscore? (digit : Char → Bool) : Option Char → Chars → Option Nat
  | _, [] => none
  | previous, (c, o) :: rest =>
    if c == '_' then
      let after := match rest with
        | (d, _) :: _ => digit d
        | [] => false
      if (previous.map digit).getD false && after then badUnderscore? digit (some c) rest else some o
    else badUnderscore? digit (some c) rest

/-- Checks that every `_` stands between two digits (decimal ones in a float, any digit of a
radix in an integer); the text without them. -/
def dropUnderscores (stream : Chars) (kind : Kind) : Except ParseError String := do
  let digit := fun (c : Char) => match kind with
    | .float => c.isDigit
    | .integer _ => (hexValue? c).isSome
  match badUnderscore? digit none stream with
  | some o => throw (noUnderscore o (o + 1))
  | none => return str (stream.filter (·.1 != '_'))

def radixValue (r : Radix) (cs : List Char) : Option Int :=
  let (neg, ds) := match cs with
    | '-' :: rest => (true, rest)
    | '+' :: rest => (false, rest)
    | rest => (false, rest)
  if ds.isEmpty || !ds.all r.valid then none
  else
    let v : Nat := ds.foldl (fun acc c => r.base * acc + (hexValue? c).getD 0) 0
    some (if neg then -(v : Int) else v)

def floatValue (cs : List Char) : Option Binary64 :=
  let (neg, body) := match cs with
    | '-' :: rest => (true, rest)
    | '+' :: rest => (false, rest)
    | rest => (false, rest)
  let whole := body.takeWhile Char.isDigit
  let rest := body.drop whole.length
  let (frac, rest) := match rest with
    | '.' :: r => (r.takeWhile Char.isDigit, r.drop (r.takeWhile Char.isDigit).length)
    | r => ([], r)
  let exp? : Option Int := match rest with
    | [] => some 0
    | e :: r =>
      if e == 'e' || e == 'E' then
        let (eneg, eds) := match r with
          | '-' :: r' => (true, r')
          | '+' :: r' => (false, r')
          | r' => (false, r')
        if eds.isEmpty || !eds.all Char.isDigit then none
        else
          let v : Nat := eds.foldl (fun acc c => 10 * acc + (c.toNat - 48)) 0
          some (if eneg then -(v : Int) else v)
      else none
  match exp? with
  | none => none
  | some ex =>
    if whole.isEmpty && frac.isEmpty then none
    else
      let digits : Nat := (whole ++ frac).foldl (fun acc c => 10 * acc + (c.toNat - 48)) 0
      some (Binary64.ofDecimal neg digits (ex - frac.length))

def number (stream : Chars) (len : Nat) (kind : Kind) : Except ParseError Bare := do
  let text ← dropUnderscores stream kind
  match kind with
  | .integer r => return .integer (radixValue r text.toList)
  | .float =>
    match text with
    | "inf" | "+inf" => return .float (.infinity false)
    | "-inf" => return .float (.infinity true)
    | "nan" | "+nan" => return .float (.nan false)
    | "-nan" => return .float (.nan true)
    | _ =>
      match floatValue text.toList with
      | some x =>
        match x with
        | .infinity _ => throw (plain "floating-point number overflowed" 0 len)
        | _ => return .float x
      | none => throw (errorAt "invalid float" [] ⟨0, len⟩)

def datetime (raw : Chars) (len : Nat) : Except ParseError Bare :=
  match Datetime.parse (str raw) with
  | .ok d => .ok (.datetime d)
  | .error e => .error (plain e.message 0 len)

/-- A value starting with digits: a date-time, a float or an integer. An integer with
separators is only checked for a leading zero here; whatever else is wrong with it shows when
its digits are read. -/
def datetimeOrNumber (raw value : Chars) (len : Nat) : Except ParseError Bare := do
  let rest := value.dropWhile (·.1.isDigit)
  match rest with
  | [] =>
    if (value.head?.map (·.1)) == some '0' then
      let o := offsetOf value len
      throw (errorAt "unexpected leading zero" [] ⟨o, o + 1⟩)
    number raw len (.integer .dec)
  | (c, _) :: _ =>
    if c == '-' || c == ':' then datetime raw len
    else if spaced rest then throw (invalid raw len)
    else if rest.any (fun (x, _) => x == '.' || x == 'e' || x == 'E') then
      ensureFloat value len
      number raw len .float
    else if c == '_' then
      let _ ← decUint value len false "invalid integer"
      number raw len (.integer .dec)
    else throw (invalid raw len)

def namedFloat (raw value : Chars) (len : Nat) (name : String) : Except ParseError Bare :=
  if str value != name then
    let o := offsetOf value len
    .error (errorAt "invalid float" [.literal name] ⟨o, len⟩)
  else number raw len .float

def zeroPrefix (raw value : Chars) (len : Nat) (signed : Bool) : Except ParseError Bare := do
  match value with
  | [_] => number raw len (.integer .dec)
  | _ :: (p, o) :: stream =>
    let radix? : Option Radix :=
      if p == 'x' || p == 'X' then some .hex
      else if p == 'o' || p == 'O' then some .oct
      else if p == 'b' || p == 'B' then some .bin
      else if p == 'd' || p == 'D' then some .dec
      else none
    match radix? with
    | none => datetimeOrNumber raw value len
    | some r =>
      if spaced raw then throw (invalid raw len)
      if signed then throw (errorAt "integers with a radix cannot be signed" [] ⟨0, 1⟩)
      if r == .dec then throw (errorAt "redundant integer number prefix" [] ⟨o - 1, o + 1⟩)
      if p.isUpper then
        throw (errorAt "radix must be lowercase" [.literal ("0" ++ (Char.toLower p).toString)] ⟨o - 1, o + 1⟩)
      match stream with
      | (c, q) :: _ =>
        if c == '+' || c == '-' then throw (errorAt "unexpected sign" [] ⟨q, q + 1⟩)
      | [] => pure ()
      match stream.find? fun (c, _) => !r.valid c && c != '_' with
      | some (c, q) => throw (plain ("invalid " ++ r.name ++ " number") q (q + c.utf8Size))
      | none => number stream len (.integer r)
  | [] => throw (invalid raw len)

/-- A float starting with its point (or its sign and point): never well formed, and reported
as a mantissa without digits. -/
def pointFloat (raw : Chars) (len : Nat) : Except ParseError Bare := do
  if spaced raw then throw (invalid raw len)
  ensureFloat raw len
  number raw len .float

def afterSign (raw value : Chars) (len : Nat) : Except ParseError Bare :=
  if spaced raw then .error (invalid raw len)
  else match value with
  | [] => .error (invalid raw len)
  | (c, o) :: _ =>
    if c == '+' || c == '-' then .error (errorAt "redundant numeric sign" [] ⟨o, o + 1⟩)
    else if c == '_' || ('1' ≤ c && c ≤ '9') then datetimeOrNumber raw value len
    else if c == '0' then zeroPrefix raw value len true
    else if c == '.' then pointFloat raw len
    else if c == 'i' || c == 'I' then namedFloat raw value len "inf"
    else if c == 'n' || c == 'N' then namedFloat raw value len "nan"
    else .error (invalid raw len)

/-- A value given by a name (`true`, `false`, `inf`, `nan`), told by its first letter in
either case. -/
def symbol (raw : Chars) (len : Nat) (name description : String) (v : Bare) : Except ParseError Bare :=
  if str raw == name then .ok v
  else if spaced raw then .error (invalid raw len)
  else .error (errorAt description [.literal name] ⟨0, len⟩)

def bare (text : String) : Except ParseError Bare :=
  let raw := indexed text.toList 0
  let len := text.utf8ByteSize
  match raw with
  | [] => .error (invalid raw len)
  | (c, _) :: rest =>
    if c == '+' || c == '-' then afterSign raw rest len
    else if c == '_' || ('1' ≤ c && c ≤ '9') then datetimeOrNumber raw raw len
    else if c == '0' then zeroPrefix raw raw len false
    else if c == '.' then pointFloat raw len
    else if c == 't' || c == 'T' then symbol raw len "true" "invalid boolean" (.boolean true)
    else if c == 'f' || c == 'F' then symbol raw len "false" "invalid boolean" (.boolean false)
    else if c == 'i' || c == 'I' then symbol raw len "inf" "invalid float" (.float (.infinity false))
    else if c == 'n' || c == 'N' then symbol raw len "nan" "invalid float" (.float (.nan false))
    else .error (invalid raw len)

end Decode

def decodeBare (t : Token) : Except ParseError Bare :=
  match Decode.bare t.text with
  | .ok v => .ok v
  | .error e => .error { e with span := e.span.map (·.shift t.span.start) }

end Updater.Toml
