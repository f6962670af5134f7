import Updater.Json
import Updater.Text.DebugQuoted
import Updater.Text.Utf8
/-!
Reading a JSON document as a map from text to text.

The document must be one object whose members all have string values, with only blanks
(space, tab, line feed, carriage return) around it. A later member with the same key replaces
an earlier one, and the map is sorted by key.

Reading works on the bytes of the document and stops at the first fault, reported with the
line (from 1) and the column of the byte it was found at, counted in bytes from the start of
the line. A value of the wrong kind is read to its end first, so that the fault names it
(`integer 1`, `string "x"`, `null`) and stands after it; a container is named without being
read (`sequence`, `map`) and the fault stands before it.

Numbers are read only to be named: an integer that fits 64 bits is shown as it is; any other
number is read as a double, from at most the first twenty significant digits scaled by a power
of ten, and shown by its shortest digits.
-/

namespace Updater.Json.TextMap

inductive Fault
  | eofInValue
  | eofInObject
  | eofInString
  | expectedColon
  | expectedCommaOrEnd
  | expectedIdent
  | expectedValue
  | invalidEscape
  | invalidNumber
  | numberOutOfRange
  | controlCharacter
  | keyNotString
  | loneSurrogate
  | endOfHexEscape
  | trailingComma
  | trailingCharacters
  | invalidType (found wanted : String)
  deriving DecidableEq, Repr

def Fault.message : Fault → String
  | .eofInValue => "EOF while parsing a value"
  | .eofInObject => "EOF while parsing an object"
  | .eofInString => "EOF while parsing a string"
  | .expectedColon => "expected `:`"
  | .expectedCommaOrEnd => "expected `,` or `\x7d`"
  | .expectedIdent => "expected ident"
  | .expectedValue => "expected value"
  | .invalidEscape => "invalid escape"
  | .invalidNumber => "invalid number"
  | .numberOutOfRange => "number out of range"
  | .controlCharacter => "control character (\\u0000-\\u001F) found while parsing a string"
  | .keyNotString => "key must be a string"
  | .loneSurrogate => "lone leading surrogate in hex escape"
  | .endOfHexEscape => "unexpected end of hex escape"
  | .trailingComma => "trailing comma"
  | .trailingCharacters => "trailing characters"
  | .invalidType found wanted => "invalid type: " ++ found ++ ", expected " ++ wanted

/-- A fault and where it is reported: the number of bytes up to and including the byte it was
found at. -/
structure Located where
  fault : Fault
  reach : Nat
  deriving DecidableEq, Repr

abbrev Reading (α : Type) := Except Located α

abbrev Bytes := Array UInt8

def failAt {α : Type} (i : Nat) (f : Fault) : Reading α := .error ⟨f, i⟩

def failOn {α : Type} (bs : Bytes) (i : Nat) (f : Fault) : Reading α :=
  .error ⟨f, min bs.size (i + 1)⟩

def lineColumn (bs : Bytes) (reach : Nat) : Nat × Nat :=
  let before := bs.toList.take reach
  let lines := before.count 10
  let lastLine := (before.reverse.takeWhile (· != 10)).length
  (lines + 1, lastLine)

def Located.text (bs : Bytes) (l : Located) : String :=
  let (line, column) := lineColumn bs l.reach
  l.fault.message ++ " at line " ++ toString line ++ " column " ++ toString column

def isBlank (b : UInt8) : Bool := b == 32 || b == 10 || b == 9 || b == 13

def isDigit (b : UInt8) : Bool := 48 ≤ b && b ≤ 57

def skipBlanks (bs : Bytes) (i : Nat) : Nat :=
  if h : i < bs.size then
    if isBlank bs[i] then skipBlanks bs (i + 1) else i
  else i
termination_by bs.size - i

def hexValue (b : UInt8) : Option Nat :=
  if isDigit b then some (b.toNat - 48)
  else if 97 ≤ b && b ≤ 102 then some (b.toNat - 87)
  else if 65 ≤ b && b ≤ 70 then some (b.toNat - 55)
  else none

def hexEscape (bs : Bytes) (i : Nat) : Reading (Nat × Nat) :=
  if i + 4 ≤ bs.size then
    match ([i, i + 1, i + 2, i + 3].map fun k => bs.getD k 0).mapM hexValue with
    | some [a, b, c, d] => .ok (((a * 16 + b) * 16 + c) * 16 + d, i + 4)
    | _ => failAt (i + 4) .invalidEscape
  else failAt bs.size .eofInString

def encodePoint (n : Nat) : List UInt8 := (String.singleton (Char.ofNat n)).toUTF8.toList

/-- A `\u` escape whose digits start at `i`: a code point outside the surrogates, or a leading
surrogate followed by a `\u` escape of a trailing one. -/
def unicodeEscape (bs : Bytes) (i : Nat) : Reading (List UInt8 × Nat) := do
  let (n, i) ← hexEscape bs i
  if 0xDC00 ≤ n && n ≤ 0xDFFF then failAt i .loneSurrogate
  else if n < 0xD800 || n > 0xDBFF then return (encodePoint n, i)
  else match bs[i]? with
    | none => failAt i .eofInString
    | some b =>
      if b != 92 then failAt (i + 1) .endOfHexEscape
      else match bs[i + 1]? with
        | none => failAt (i + 1) .eofInString
        | some c =>
          if c != 117 then failAt (i + 2) .endOfHexEscape
          else do
            let (n2, j) ← hexEscape bs (i + 2)
            if n2 < 0xDC00 || n2 > 0xDFFF then failAt j .loneSurrogate
            else return (encodePoint ((n - 0xD800) * 1024 + (n2 - 0xDC00) + 0x10000), j)

def escape (bs : Bytes) (i : Nat) : Reading (List UInt8 × Nat) :=
  match bs[i]? with
  | none => failAt i .eofInString
  | some b =>
    let simple : Option UInt8 :=
      if b == 34 then some 34 else if b == 92 then some 92 else if b == 47 then some 47
      else if b == 98 then some 8 else if b == 102 then some 12 else if b == 110 then some 10
      else if b == 114 then some 13 else if b == 116 then some 9 else none
    match simple with
    | some c => .ok ([c], i + 1)
    | none => if b == 117 then unicodeEscape bs (i + 1) else failAt (i + 1) .invalidEscape

/-- The rest of a string from `i` on, after its opening quote: its bytes (reversed, after
`acc`) and the index after the closing quote. -/
def stringBytes (bs : Bytes) : Nat → Nat → List UInt8 → Reading (List UInt8 × Nat)
  | 0, i, acc => .ok (acc, i)
  | fuel + 1, i, acc =>
    match bs[i]? with
    | none => failAt i .eofInString
    | some b =>
      if b == 34 then .ok (acc, i + 1)
      else if b == 92 then do
        let (e, j) ← escape bs (i + 1)
        stringBytes bs fuel j (e.reverse ++ acc)
      else if b < 32 then failAt (i + 1) .controlCharacter
      else stringBytes bs fuel (i + 1) (b :: acc)

def string (bs : Bytes) (i : Nat) : Reading (String × Nat) := do
  let (acc, j) ← stringBytes bs (bs.size + 1) i []
  return (Text.decodeLossy acc.reverse, j)

def digitsFrom (bs : Bytes) : Nat → Nat → Nat → Nat × Nat
  | 0, i, n => (n, i)
  | fuel + 1, i, n =>
    match bs[i]? with
    | some b => if isDigit b then digitsFrom bs fuel (i + 1) (10 * n + (b.toNat - 48)) else (n, i)
    | none => (n, i)

def skipDigits (bs : Bytes) (i : Nat) : Nat :=
  if h : i < bs.size then
    if isDigit bs[i] then skipDigits bs (i + 1) else i
  else i
termination_by bs.size - i

def maxWord : Nat := 18446744073709551615

/-- `significand · 10^exponent`, scaled by one power of ten of at most 308 at a time, each step
rounded; a value that grows beyond the doubles is out of range. -/
def fromParts (bs : Bytes) (pos : Nat) (neg : Bool) (significand : Nat) :
    Nat → Text.Binary64 → Int → Reading Text.Binary64
  | 0, f, _ => .ok f
  | fuel + 1, f, exponent =>
    if exponent.natAbs ≤ 308 then
      let pow := Text.Binary64.ofDecimal false 1 exponent.natAbs
      if exponent ≥ 0 then
        match f.mul pow with
        | Text.Binary64.infinity _ => failAt pos .numberOutOfRange
        | g => .ok (if neg then g.negate else g)
      else .ok (let g := f.div pow; if neg then g.negate else g)
    else if f == Text.Binary64.zero false then .ok (if neg then f.negate else f)
    else if exponent ≥ 0 then failAt pos .numberOutOfRange
    else fromParts bs pos neg significand fuel (f.div (Text.Binary64.ofDecimal false 1 308))
      (exponent + 308)

def double (bs : Bytes) (pos : Nat) (neg : Bool) (significand : Nat) (exponent : Int) :
    Reading Text.Binary64 :=
  fromParts bs pos neg significand 8 (Text.Binary64.ofNat significand) exponent

def exponentPart (bs : Bytes) (neg : Bool) (significand : Nat) (start : Int) (i : Nat) :
    Reading (Text.Binary64 × Nat) :=
  let i := i + 1
  let (positive, i) : Bool × Nat := match bs[i]? with
    | some 43 => (true, i + 1)
    | some 45 => (false, i + 1)
    | _ => (true, i)
  match bs[i]? with
  | none => failAt i .eofInValue
  | some b =>
    if !isDigit b then failAt (i + 1) .invalidNumber
    else
      let (exp, j) := digitsFrom bs (bs.size + 1) i 0
      if exp > 2147483647 then
        -- where the exponent first went past the range of 32-bit integers
        let fits := (List.range (j - i)).find? fun k => (digitsFrom bs (k + 1) i 0).1 > 2147483647
        let stop := i + (fits.getD 0) + 1
        if significand != 0 && positive then failAt stop .numberOutOfRange
        else .ok (Text.Binary64.zero neg, skipDigits bs stop)
      else
        let total := if positive then start + exp else start - exp
        let total := max (-2147483648) (min 2147483647 total)
        (double bs j neg significand total).map (·, j)

def fractionPart (bs : Bytes) (neg : Bool) (significand : Nat) (before : Int) (i : Nat) :
    Reading (Text.Binary64 × Nat) :=
  let i := i + 1
  let digitsEnd := skipDigits bs i
  if digitsEnd == i then
    match bs[i]? with
    | some _ => failOn bs i .invalidNumber
    | none => failOn bs i .eofInValue
  else
    -- digits are taken while the significand fits 64 bits; the rest are skipped
    let taken := (List.range (digitsEnd - i)).takeWhile fun k =>
      (digitsFrom bs (k + 1) i significand).1 ≤ maxWord
    let (sig, _) := digitsFrom bs taken.length i significand
    let exponent := before - taken.length
    match bs[digitsEnd]? with
    | some 101 | some 69 => exponentPart bs neg sig exponent digitsEnd
    | _ => (double bs digitsEnd neg sig exponent).map (·, digitsEnd)

def numberShown (x : Text.Binary64) : String := "floating point `" ++ Json.doubleText x ++ "`"

/-- A number whose sign (if any) is already read, from `i` on: how it is named, and the index
after it. -/
def number (bs : Bytes) (neg : Bool) (i : Nat) : Reading (String × Nat) :=
  match bs[i]? with
  | none => failAt i .eofInValue
  | some b =>
    if !isDigit b then failAt (i + 1) .invalidNumber
    else if b == 48 && (bs[i + 1]?.map isDigit).getD false then failOn bs (i + 1) .invalidNumber
    else
      -- the integer digits, taken while they fit 64 bits
      let digitsEnd := if b == 48 then i + 1 else skipDigits bs i
      let taken := (List.range (digitsEnd - i)).takeWhile fun k =>
        (digitsFrom bs (k + 1) i 0).1 ≤ maxWord
      let (sig, j) := digitsFrom bs taken.length i 0
      let shown (r : Reading (Text.Binary64 × Nat)) := r.map fun (x, k) => (numberShown x, k)
      if j < digitsEnd then
        -- too long for 64 bits: the remaining digits only scale it
        let extra : Int := digitsEnd - j
        match bs[digitsEnd]? with
        | some 46 => shown (fractionPart bs neg sig extra digitsEnd)
        | some 101 | some 69 => shown (exponentPart bs neg sig extra digitsEnd)
        | _ => shown ((double bs digitsEnd neg sig extra).map (·, digitsEnd))
      else match bs[j]? with
        | some 46 => shown (fractionPart bs neg sig 0 j)
        | some 101 | some 69 => shown (exponentPart bs neg sig 0 j)
        | _ =>
          if !neg then .ok ("integer `" ++ toString sig ++ "`", j)
          else if sig == 0 then .ok (numberShown (Text.Binary64.zero true), j)
          else if sig ≤ 9223372036854775808 then .ok ("integer `-" ++ toString sig ++ "`", j)
          else .ok (numberShown (Text.Binary64.ofNat sig).negate, j)

def word (bs : Bytes) (i : Nat) : List UInt8 → Reading Nat
  | [] => .ok i
  | c :: rest =>
    match bs[i]? with
    | none => failAt i .eofInValue
    | some b => if b == c then word bs (i + 1) rest else failAt (i + 1) .expectedIdent

def wrongKind {α : Type} (bs : Bytes) (i : Nat) (wanted : String) : Reading α :=
  let found : Reading (String × Nat) := match bs[i]? with
    | some 110 => (word bs (i + 1) [117, 108, 108]).map ("null", ·)
    | some 116 => (word bs (i + 1) [114, 117, 101]).map ("boolean `true`", ·)
    | some 102 => (word bs (i + 1) [97, 108, 115, 101]).map ("boolean `false`", ·)
    | some 45 => number bs true (i + 1)
    | some 34 => (string bs (i + 1)).map fun (s, j) => ("string " ++ Text.debugQuoted s, j)
    | some 91 => .ok ("sequence", i)
    | some 123 => .ok ("map", i)
    | some b => if isDigit b then number bs false i else failOn bs i .expectedValue
    | none => failOn bs i .expectedValue
  match found with
  | .ok (name, j) => failAt j (.invalidType name wanted)
  | .error e => .error e

def textValue (bs : Bytes) (i : Nat) : Reading (String × Nat) :=
  let i := skipBlanks bs i
  match bs[i]? with
  | none => failOn bs i .eofInValue
  | some 34 => string bs (i + 1)
  | some _ => wrongKind bs i "a string"

def insertMember (k v : String) : List (String × String) → List (String × String)
  | [] => [(k, v)]
  | (k', v') :: rest =>
    if k == k' then (k, v) :: rest
    else if k < k' then (k, v) :: (k', v') :: rest
    else (k', v') :: insertMember k v rest

/-- The members of an object from `i` on, after its `{`; `first` while none has been read.
Stops at the closing `}` without reading it. -/
def members (bs : Bytes) : Nat → Bool → Nat → List (String × String) →
    Reading (List (String × String) × Nat)
  | 0, _, i, acc => .ok (acc, i)
  | fuel + 1, first, i, acc =>
    let i := skipBlanks bs i
    match bs[i]? with
    | none => failOn bs i .eofInObject
    | some b =>
      if b == 125 then .ok (acc, i)
      else if !first && b != 44 then failOn bs i .expectedCommaOrEnd
      else
        let k := if first then i else skipBlanks bs (i + 1)
        match bs[k]? with
        | none => failOn bs k .eofInValue
        | some 34 => do
          let (key, j) ← string bs (k + 1)
          let j := skipBlanks bs j
          match bs[j]? with
          | none => failOn bs j .eofInObject
          | some 58 =>
            let (value, j) ← textValue bs (j + 1)
            members bs fuel false j (insertMember key value acc)
          | some _ => failOn bs j .expectedColon
        | some 125 => failOn bs k .trailingComma
        | some _ => failOn bs k .keyNotString

def read (text : String) : Except String (List (String × String)) :=
  let bs : Bytes := text.toUTF8.data
  let result : Reading (List (String × String)) := do
    let i := skipBlanks bs 0
    match bs[i]? with
    | none => failOn bs i .eofInValue
    | some 123 =>
      let (m, j) ← members bs (bs.size + 1) true (i + 1) []
      let j := skipBlanks bs (j + 1)
      match bs[j]? with
      | some _ => failOn bs j .trailingCharacters
      | none => return m
    | some _ => wrongKind bs i "a map"
  result.mapError (·.text bs)

end Updater.Json.TextMap
