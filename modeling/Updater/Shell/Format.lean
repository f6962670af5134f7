import Updater.Shell.Arith
import Updater.Text.FloatDigits
/-!
The `echo` and `printf` builtins: escapes, conversions and numeric arguments.

Both work on bytes. `echo` writes its arguments separated by blanks and followed by a line
break, which `-n` (only as the first argument) leaves out; it understands backslash escapes:
`\a \b \e \f \n \r \t \v \\`, `\0NNN` and `\NNN` for up to three octal digits, and `\c`, which
stops all output. Any other backslash stands for itself.

`printf` copies its format, with the same escapes except `\c` (and octal only as `\NNN`), and
replaces each conversion `%[flags][width][.precision]letter` by its argument formatted as C
formats it: `s` text, `b` text with the escapes of `echo`, `c` the first byte, `d i` signed and
`o u x X` unsigned whole numbers, `e E f F g G a A` doubles. A width or precision `*` takes an
argument. A missing argument is empty, or zero for a number. While arguments are left after a
pass that used some, the format is used again.

A numeric argument is read as C reads numbers, with any base prefix; a leading quote stands for
the value of the byte after it. An argument that is not wholly a number gives a warning (it is
used as far as it was read) and makes the status `1`; so does one out of range, which stands
for the nearest value in range. A conversion letter that is missing or unknown is an error.
-/

namespace Updater.Shell

namespace Format

def byteChars (s : String) : List Char := s.toUTF8.toList.map fun b => Char.ofNat b.toNat

def toByte (c : Char) : UInt8 := c.toNat.toUInt8

def isOctal (c : Char) : Bool := '0' ≤ c && c ≤ '7'

def octalByte (cs : List Char) : UInt8 × List Char :=
  let ds := (cs.take 3).takeWhile isOctal
  ((ds.foldl (fun v (d : Char) => 8 * v + (d.toNat - 48)) 0 % 256).toUInt8, cs.drop ds.length)

/-- The escape after a backslash: its byte and what follows. An unknown escape is the
backslash alone; what follows it is read as usual. -/
def escape (cs : List Char) : UInt8 × List Char :=
  match cs with
  | '\\' :: r => (92, r)
  | 'a' :: r => (7, r)
  | 'b' :: r => (8, r)
  | 'e' :: r => (27, r)
  | 'f' :: r => (12, r)
  | 'n' :: r => (10, r)
  | 'r' :: r => (13, r)
  | 't' :: r => (9, r)
  | 'v' :: r => (11, r)
  | c :: _ => if isOctal c then octalByte cs else (92, cs)
  | [] => (92, [])

def expandEscapes : Nat → List Char → List UInt8 × Bool
  | 0, _ => ([], false)
  | _, [] => ([], false)
  | _ + 1, '\\' :: 'c' :: _ => ([], true)
  | f + 1, '\\' :: rest =>
    let rest := match rest with
      | '0' :: d :: r => if isOctal d then d :: r else rest
      | _ => rest
    let (b, r) := escape rest
    let (more, stop) := expandEscapes f r
    (b :: more, stop)
  | f + 1, c :: rest =>
    let (more, stop) := expandEscapes f rest
    (toByte c :: more, stop)

def escapedBytes (s : String) : List UInt8 × Bool :=
  let cs := byteChars s
  expandEscapes (cs.length + 1) cs

end Format

def echoBytes (args : List String) : List UInt8 :=
  let (newline, args) := match args with
    | "-n" :: rest => (false, rest)
    | rest => (true, rest)
  let rec go : List String → List UInt8
    | [] => if newline then [10] else []
    | [a] =>
      let (bs, stop) := Format.escapedBytes a
      if stop then bs else bs ++ (if newline then [10] else [])
    | a :: rest =>
      let (bs, stop) := Format.escapedBytes a
      if stop then bs else bs ++ [32] ++ go rest
  go args

/-! ## Numeric arguments -/

/-- A number read off the front of an argument: its value, whether any of the argument was
read, what was left, and whether it was out of range. -/
structure NumberRead (α : Type) where
  value : α
  converted : Bool
  rest : List Char
  outOfRange : Bool

namespace Format

def twoTo63 : Nat := 9223372036854775808
def twoTo64 : Nat := 18446744073709551616

def readMagnitude (cs : List Char) : Option (Bool × Nat × List Char) :=
  let cs := cs.dropWhile Arith.isSpace
  let (neg, body) := match cs with
    | '-' :: r => (true, r)
    | '+' :: r => (false, r)
    | r => (false, r)
  (Arith.unsigned body).map fun (v, r) => (neg, v, r)

def readSigned (s : String) : NumberRead Int :=
  let cs := s.toList
  match readMagnitude cs with
  | none => ⟨0, false, cs, false⟩
  | some (neg, v, r) =>
    if neg then
      if v > twoTo63 then ⟨-(twoTo63 : Int), true, r, true⟩ else ⟨-(v : Int), true, r, false⟩
    else if v ≥ twoTo63 then ⟨((twoTo63 - 1 : Nat) : Int), true, r, true⟩ else ⟨(v : Int), true, r, false⟩

def readUnsigned (s : String) : NumberRead Nat :=
  let cs := s.toList
  match readMagnitude cs with
  | none => ⟨0, false, cs, false⟩
  | some (neg, v, r) =>
    if v ≥ twoTo64 then ⟨twoTo64 - 1, true, r, true⟩
    else if neg && v != 0 then ⟨twoTo64 - v, true, r, false⟩
    else ⟨v, true, r, false⟩

def hexValue (c : Char) : Option Nat :=
  match Arith.digitValue c with
  | some d => if d < 16 then some d else none
  | none => none

/-- Digits of a base with an optional point: the digits as one number, how many came after the
point, and what follows; none without a digit. -/
def mantissa (base : Nat) (cs : List Char) : Option (Nat × Nat × List Char) :=
  let isD := fun (c : Char) => match Arith.digitValue c with
    | some d => d < base
    | none => false
  let whole := cs.takeWhile isD
  let r := cs.drop whole.length
  let (frac, r) := match r with
    | '.' :: more => let f := more.takeWhile isD; (f, more.drop f.length)
    | _ => ([], r)
  if whole.isEmpty && frac.isEmpty then none
  else
    let v := (whole ++ frac).foldl (fun v c => base * v + (Arith.digitValue c).getD 0) 0
    some (v, frac.length, r)

def exponent (cs : List Char) : Option (Int × List Char) :=
  let (neg, body) := match cs with
    | '-' :: r => (true, r)
    | '+' :: r => (false, r)
    | r => (false, r)
  let ds := body.takeWhile Char.isDigit
  if ds.isEmpty then none
  else
    let v : Nat := ds.foldl (fun v (c : Char) => 10 * v + (c.toNat - 48)) 0
    some (if neg then -(v : Int) else v, body.drop ds.length)

def lowerList (cs : List Char) : List Char := cs.map Char.toLower

def tinyInexact (x : Text.Binary64) (n d : Nat) : Bool :=
  match x with
  | .finite _ m e =>
    if m ≥ Nat.pow 2 52 then false
    else
      let (pn, pd) := Text.Binary64.magnitude m e
      n * pd != pn * d
  | _ => false

/-- A double as C reads one: blanks, a sign, then a decimal with an optional exponent, a
hexadecimal `0x...p...`, `inf`, `infinity` or `nan`. -/
def readDouble (s : String) : NumberRead Text.Binary64 :=
  let cs0 := s.toList
  let cs := cs0.dropWhile Arith.isSpace
  let (neg, body) := match cs with
    | '-' :: r => (true, r)
    | '+' :: r => (false, r)
    | r => (false, r)
  let low := lowerList body
  if low.take 8 == "infinity".toList then ⟨.infinity neg, true, body.drop 8, false⟩
  else if low.take 3 == "inf".toList then ⟨.infinity neg, true, body.drop 3, false⟩
  else if low.take 3 == "nan".toList then
    let r := body.drop 3
    let r := match r with
      | '(' :: more =>
        let inner := more.takeWhile fun c => c.isAlphanum || c == '_'
        match more.drop inner.length with
        | ')' :: after => after
        | _ => r
      | _ => r
    ⟨.nan neg, true, r, false⟩
  else
    let hex := match body with
      | '0' :: x :: r => if x == 'x' || x == 'X' then
          (mantissa 16 r).map fun (v, k, r') => (v, k, r')
        else none
      | _ => none
    match hex with
    | some (v, k, r) =>
      let (p, r) := match r with
        | c :: more => if c == 'p' || c == 'P' then
            match exponent more with
            | some (p, r') => (p, r')
            | none => (0, r)
          else (0, r)
        | [] => (0, r)
      let e : Int := p - 4 * (k : Int)
      let x := if v == 0 then Text.Binary64.zero neg
        else if e > 5000 then .infinity neg
        else if e < -5000 then Text.Binary64.zero neg
        else
          let (pn, pd) := Text.Binary64.pow2 e
          Text.Binary64.ofFrac neg (v * pn) pd
      let (pn, pd) := Text.Binary64.pow2 (max (min e 5000) (-5000))
      let range := (v != 0 && !x.isFinite) || (v != 0 && x == Text.Binary64.zero neg) ||
        tinyInexact x (v * pn) pd
      ⟨x, true, r, range⟩
    | none =>
      match mantissa 10 body with
      | none => ⟨Text.Binary64.zero false, false, cs0, false⟩
      | some (v, k, r) =>
        let (e, r) := match r with
          | c :: more => if c == 'e' || c == 'E' then
              match exponent more with
              | some (e, r') => (e, r')
              | none => (0, r)
            else (0, r)
          | [] => (0, r)
        let x := Text.Binary64.ofDecimal neg v (e - k)
        let range := v != 0 && (!x.isFinite || x == Text.Binary64.zero neg ||
          (let (pn, pd) := Text.Binary64.pow10 (e - k)
           -- only small enough values can be subnormal, and only those are compared exactly
           (e - k < -280 && tinyInexact x (v * pn) pd)))
        ⟨x, true, r, range⟩

def warning {α : Type} (arg : String) (n : NumberRead α) : Option String :=
  if !n.rest.isEmpty then
    some (arg ++ (if n.converted then ": not completely converted" else ": expected numeric value"))
  else if n.outOfRange then some (arg ++ ": Numerical result out of range")
  else none

def quoted? (arg : String) : Option Nat :=
  match byteChars arg with
  | '\'' :: rest | '"' :: rest => some ((rest.head?.map Char.toNat).getD 0)
  | _ => none

/-! ## Conversions -/

structure Spec where
  flags : List Char
  width : Option Int
  precision : Option Int
  letter : Char

def Spec.left (s : Spec) : Bool := s.flags.contains '-' || (s.width.getD 0) < 0

def Spec.widthNat (s : Spec) : Nat := (s.width.getD 0).natAbs

def Spec.precisionNat (s : Spec) : Option Nat :=
  match s.precision with
  | some p => if p < 0 then none else some p.toNat
  | none => none

def spaces (n : Nat) : List UInt8 := List.replicate n 32

/-- Pads to the width: on the right when left-aligned, else on the left, with zeros after
`prefixLen` bytes (sign and base prefix) when `zeros`. -/
def pad (s : Spec) (zeros : Bool) (prefixLen : Nat) (body : List UInt8) : List UInt8 :=
  let n := body.length
  let w := s.widthNat
  if n ≥ w then body
  else if s.left then body ++ spaces (w - n)
  else if zeros then body.take prefixLen ++ List.replicate (w - n) 48 ++ body.drop prefixLen
  else spaces (w - n) ++ body

def ascii (s : String) : List UInt8 := s.toUTF8.toList

/-- Text with a precision and a width, as `%s` writes it; text is padded with blanks, whatever
the flags say. -/
def text (s : Spec) (bytes : List UInt8) : List UInt8 :=
  let bytes := match s.precisionNat with
    | some p => bytes.take p
    | none => bytes
  pad s false 0 bytes

def whole (s : Spec) (neg : Bool) (magnitude : Nat) : List UInt8 :=
  let base := if s.letter == 'o' then 8 else if s.letter == 'x' || s.letter == 'X' then 16 else 10
  let ds := Nat.toDigits base magnitude
  let ds := if s.letter == 'X' then ds.map Char.toUpper else ds
  let ds := match s.precisionNat with
    | some 0 => if magnitude == 0 then [] else ds
    | some p => List.replicate (p - ds.length) '0' ++ ds
    | none => ds
  let alt := s.flags.contains '#'
  let ds := if alt && s.letter == 'o' && ds.head? != some '0' then '0' :: ds else ds
  let signed := s.letter == 'd' || s.letter == 'i'
  let pre : String :=
    if signed then
      if neg then "-" else if s.flags.contains '+' then "+" else if s.flags.contains ' ' then " " else ""
    else if alt && magnitude != 0 && s.letter == 'x' then "0x"
    else if alt && magnitude != 0 && s.letter == 'X' then "0X"
    else ""
  let zeros := s.flags.contains '0' && s.precisionNat.isNone
  pad s zeros pre.length (ascii pre ++ ascii (String.ofList ds))

def double (s : Spec) (x : Text.Binary64) : List UInt8 :=
  let body := x.formatMagnitude s.letter s.precisionNat (s.flags.contains '#')
  let pre := if x.isNegative then "-" else if s.flags.contains '+' then "+"
    else if s.flags.contains ' ' then " " else ""
  let zeros := s.flags.contains '0' && x.isFinite
  pad s zeros pre.length (ascii (pre ++ body))

end Format

/-- What `printf` did: the bytes written, the warnings, its status, and the error that
stopped it, if one did; the bytes written before an error are still written. -/
structure Printed where
  out : List UInt8
  warnings : List String
  status : Nat
  error : Option String

namespace Format

structure Args where
  left : List String
  used : Bool

def Args.next (a : Args) : Option String × Args :=
  match a.left with
  | x :: rest => (some x, ⟨rest, true⟩)
  | [] => (none, a)

def Args.signed (a : Args) : Int × Option String × Args :=
  match a.next with
  | (none, a) => (0, none, a)
  | (some arg, a) =>
    match quoted? arg with
    | some v => (v, none, a)
    | none => let n := readSigned arg; (n.value, warning arg n, a)

def Args.unsigned (a : Args) : Nat × Option String × Args :=
  match a.next with
  | (none, a) => (0, none, a)
  | (some arg, a) =>
    match quoted? arg with
    | some v => (v, none, a)
    | none => let n := readUnsigned arg; (n.value, warning arg n, a)

def Args.double (a : Args) : Text.Binary64 × Option String × Args :=
  match a.next with
  | (none, a) => (Text.Binary64.zero false, none, a)
  | (some arg, a) =>
    match quoted? arg with
    | some v => (Text.Binary64.ofNat v, none, a)
    | none => let n := readDouble arg; (n.value, warning arg n, a)

def asInt (v : Int) : Int :=
  let m := v % 4294967296
  if m ≥ 2147483648 then m - 4294967296 else m

structure Pass where
  out : List UInt8 := []
  warnings : List String := []
  stopped : Bool := false

def Pass.warn (p : Pass) (w : Option String) : Pass :=
  match w with
  | some m => { p with warnings := p.warnings ++ [m] }
  | none => p

def flagChars : List Char := ['#', '-', '+', ' ', '0']

def skipSet : List Char := ['*', '0', '1', '2', '3', '4', '5', '6', '7', '8', '9']

def readDecimal (cs : List Char) : Nat :=
  (cs.filter Char.isDigit).foldl (fun v c => 10 * v + (c.toNat - 48)) 0

/-- One conversion, its `%` already read: the pass after it and what follows in the format,
or the error with the pass so far, whose output is still written. -/
def conversion (p : Pass) (args : Args) (cs : List Char) :
    Except (String × Pass) (Pass × Args × List Char) := do
  let flags := cs.takeWhile (flagChars.contains ·)
  let r := cs.drop flags.length
  let (width, p, args, r) : Option Int × Pass × Args × List Char :=
    match r with
    | '*' :: _ =>
      let (v, w, args) := args.signed
      let skipped := r.takeWhile (skipSet.contains ·)
      (some (asInt v), p.warn w, args, r.drop skipped.length)
    | _ =>
      let ds := r.takeWhile (skipSet.contains ·)
      (if ds.isEmpty then none else some (readDecimal ds : Int), p, args, r.drop ds.length)
  let (precision, p, args, r) : Option Int × Pass × Args × List Char :=
    match r with
    | '.' :: '*' :: _ =>
      let (v, w, args) := args.signed
      let more := r.drop 1
      let skipped := more.takeWhile (skipSet.contains ·)
      (some (asInt v), p.warn w, args, more.drop skipped.length)
    | '.' :: more =>
      let ds := more.takeWhile (skipSet.contains ·)
      (some (readDecimal ds : Int), p, args, more.drop ds.length)
    | _ => (none, p, args, r)
  match r with
  | [] => throw ("missing format character", p)
  | c :: rest =>
    let spec : Spec := ⟨flags, width, precision, c⟩
    let written := cs.take (cs.length - rest.length)
    if c == 's' then
      let (a, args) := args.next
      return ({ p with out := p.out ++ text spec ((a.getD "").toUTF8.toList) }, args, rest)
    else if c == 'b' then
      let (a, args) := args.next
      let (bs, stop) := escapedBytes (a.getD "")
      return ({ p with out := p.out ++ text spec bs, stopped := stop }, args, rest)
    else if c == 'c' then
      let (a, args) := args.next
      let b : UInt8 := ((a.getD "").toUTF8.toList.head?).getD 0
      return ({ p with out := p.out ++ pad spec false 0 [b] }, args, rest)
    else if c == 'd' || c == 'i' then
      let (v, w, args) := args.signed
      return ({ (p.warn w) with out := p.out ++ whole spec (v < 0) v.natAbs }, args, rest)
    else if c == 'o' || c == 'u' || c == 'x' || c == 'X' then
      let (v, w, args) := args.unsigned
      return ({ (p.warn w) with out := p.out ++ whole spec false v }, args, rest)
    else if "aAeEfFgG".toList.contains c then
      let (v, w, args) := args.double
      return ({ (p.warn w) with out := p.out ++ double spec v }, args, rest)
    else throw ("%" ++ String.ofList written ++ ": invalid directive", p)

def pass : Nat → Pass → Args → List Char → Except (String × Pass) (Pass × Args)
  | 0, p, args, _ => .ok (p, args)
  | _, p, args, [] => .ok (p, args)
  | f + 1, p, args, '\\' :: rest =>
    let (b, r) := escape rest
    pass f { p with out := p.out ++ [b] } args r
  | f + 1, p, args, '%' :: '%' :: rest => pass f { p with out := p.out ++ [37] } args rest
  | f + 1, p, args, '%' :: rest => do
    let (p, args, r) ← conversion p args rest
    if p.stopped then return (p, args)
    pass f p args r
  | f + 1, p, args, c :: rest => pass f { p with out := p.out ++ [toByte c] } args rest

def passes : Nat → Pass → List Char → Args → Except (String × Pass) Pass
  | 0, p, _, _ => .ok p
  | f + 1, p, fmt, args => do
    let (p, args) ← pass (fmt.length + 1) p ⟨args.left, false⟩ fmt
    if p.stopped || !args.used || args.left.isEmpty then return p
    passes f p fmt args

end Format

def printfFormat (fmt : String) (rest : List String) : Printed :=
  let cs := Format.byteChars fmt
  match Format.passes (rest.length + 1) {} cs ⟨rest, false⟩ with
  | .ok p => ⟨p.out, p.warnings, if p.warnings.isEmpty then 0 else 1, none⟩
  | .error (e, p) => ⟨p.out, p.warnings, 2, some e⟩

/-- The shell's `printf` with its words: a first word `--` is skipped, and otherwise a first
word that starts with `-` is an option, which it has none of. -/
def printf (args : List String) : Printed :=
  let usage : Printed := ⟨[], [], 2, some "usage: printf format [arg ...]"⟩
  match args with
  | [] => usage
  | ["--"] => usage
  | "--" :: fmt :: rest => printfFormat fmt rest
  | fmt :: rest =>
    match fmt.toList with
    | '-' :: c :: _ => ⟨[], [], 2, some ("Illegal option -" ++ c.toString)⟩
    | _ => printfFormat fmt rest

end Updater.Shell
