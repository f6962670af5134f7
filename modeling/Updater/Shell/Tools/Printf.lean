import Updater.Shell.Tools.Program
import Updater.Shell.Tools.Help
import Updater.Shell.Tools.Echo
import Updater.Shell.Format
import Updater.Text.Extended
/-!
The machine's `printf`: its format, copied with its conversions replaced by its arguments.

It differs from the shell's own in what it accepts and how it says so:

* a conversion is `%[flags][width][.precision][length]letter` with the letters
  `d i o u x X c s e E f F g G a A`, and `%b` and `%q`; a flag that makes no sense for the
  letter (`0` for `c` and `s`, `#` for `c d i s u`, `'` for `a c e o s x`), a precision for `c`,
  or any other letter ends the program with `invalid conversion specification`;
* numbers read as C reads them, with any base prefix; floating point numbers are read and written
  as 80-bit extended values. An argument that is not wholly a number is reported by name, and
  makes the status `1`;
* `%b` writes its argument with `echo`'s escapes, where octal escapes are `\0NNN`; `%q` writes it
  quoted for the shell;
* the escapes of the format are those of `%b`, but with octal as `\NNN`, and `\"`, `\uHHHH` and
  `\UHHHHHHHH`. A Unicode character is written as UTF-8 when text is UTF-8, and as its escape
  otherwise; `\c` ends the program at once with status `0`.

The format is used again while arguments are left after a pass that used some; arguments left
over from a pass that used none are reported, and ignored.

Output and messages reach their streams in the order they arise.
-/

namespace Updater.Shell

namespace Printf

inductive Stop
  | quiet
  | failed
  deriving DecidableEq, Repr

inductive Piece
  | output (bs : List UInt8)
  | message (bs : List UInt8)

/-- A run so far: the output since the last message (reversed), what was written before it (the
latest first), the status, and how it stopped if it did. -/
structure Run where
  pending : List UInt8 := []
  written : List Piece := []
  status : Nat := 0
  stop : Option Stop := none

def Run.emit (r : Run) (bs : List UInt8) : Run := { r with pending := bs.reverse ++ r.pending }

def Run.flushed (r : Run) : List Piece :=
  if r.pending.isEmpty then r.written else .output r.pending.reverse :: r.written

def Run.say (r : Run) (msg : List UInt8) : Run :=
  { r with pending := [], written := .message msg :: r.flushed }

def Run.pieces (r : Run) : List Piece := r.flushed.reverse

def Run.complain (r : Run) (msg : List UInt8) : Run := { r.say msg with status := 1 }

def Run.fail (r : Run) (msg : List UInt8) : Run := { r.say msg with status := 1, stop := some .failed }

def bytes (s : String) : List UInt8 := s.toUTF8.toList

def isOctal (c : UInt8) : Bool := 48 ≤ c && c ≤ 55

def octalDigits : Nat → Nat → List UInt8 → Nat × List UInt8
  | 0, v, cs => (v % 256, cs)
  | n + 1, v, c :: cs => if isOctal c then octalDigits n (8 * v + (c.toNat - 48)) cs else (v % 256, c :: cs)
  | _, v, [] => (v % 256, [])

def hexDigits : Nat → Nat → List UInt8 → Option (Nat × List UInt8)
  | 0, v, cs => some (v, cs)
  | n + 1, v, c :: cs => (Echo.hexValue c).bind fun d => hexDigits n (16 * v + d) cs
  | _ + 1, _, [] => none

def hexText (width : Nat) (upper : Bool) (v : Nat) : String :=
  let ds := Nat.toDigits 16 v
  let ds := if upper then ds.map Char.toUpper else ds
  String.ofList (List.replicate (width - ds.length) '0' ++ ds)

/-- The bytes of a Unicode character: UTF-8 when text is UTF-8 and it is one, its escape
otherwise. -/
def unicodeBytes (utf8 : Bool) (v : Nat) : List UInt8 :=
  if v < 0x80 then [v.toUInt8]
  else if utf8 && v ≤ 0x10FFFF then bytes (String.singleton (Char.ofNat v))
  else if v < 0x10000 then bytes ("\\u" ++ hexText 4 true v)
  else bytes ("\\U" ++ hexText 8 true v)

inductive Escape
  | bytes (bs : List UInt8)
  | stop
  | error (msg : List UInt8)

/-- The escape after a backslash: what it comes to and what follows it. With `octalZero`,
octal escapes are `\0NNN` (`%b`); otherwise `\NNN` (the format). -/
def escape (utf8 octalZero : Bool) (cs : List UInt8) : Escape × List UInt8 :=
  match cs with
  | [] => (.bytes [92], [])
  | c :: rest =>
    if c == 120 then
      match rest with
      | h :: r =>
        match Echo.hexValue h with
        | none => (.error (bytes "missing hexadecimal number in escape"), rest)
        | some v =>
          match r with
          | h2 :: r2 =>
            match Echo.hexValue h2 with
            | some w => (.bytes [(16 * v + w).toUInt8], r2)
            | none => (.bytes [v.toUInt8], r)
          | [] => (.bytes [v.toUInt8], r)
      | [] => (.error (bytes "missing hexadecimal number in escape"), rest)
    else if isOctal c then
      let ds := if octalZero && c == 48 then rest else c :: rest
      let (v, r) := octalDigits 3 0 ds
      (.bytes [v.toUInt8], r)
    else if c == 117 || c == 85 then
      let n := if c == 117 then 4 else 8
      match hexDigits n 0 rest with
      | none => (.error (bytes "missing hexadecimal number in escape"), rest)
      | some (v, r) =>
        if (v ≤ 0x9F && v != 0x24 && v != 0x40 && v != 0x60) || (0xD800 ≤ v && v ≤ 0xDFFF) then
          (.error (bytes ("invalid universal character name \\" ++ String.singleton (Char.ofNat c.toNat) ++
            hexText n false v)), r)
        else (.bytes (unicodeBytes utf8 v), r)
    else if c == 99 then (.stop, rest)
    else
      let simple : Option UInt8 :=
        if c == 34 then some 34 else if c == 92 then some 92 else if c == 97 then some 7
        else if c == 98 then some 8 else if c == 101 then some 27 else if c == 102 then some 12
        else if c == 110 then some 10 else if c == 114 then some 13 else if c == 116 then some 9
        else if c == 118 then some 11 else none
      match simple with
      | some b => (.bytes [b], rest)
      | none => (.bytes [92, c], rest)

def escapedText (utf8 : Bool) : Nat → List UInt8 → Run → Run
  | 0, _, r => r
  | _, [], r => r
  | f + 1, 92 :: rest, r =>
    match escape utf8 true rest with
    | (.bytes bs, rest') => escapedText utf8 f rest' (r.emit bs)
    | (.stop, _) => { r with stop := some .quiet }
    | (.error msg, _) => r.fail msg
  | f + 1, c :: rest, r => escapedText utf8 f rest (r.emit [c])

/-! ## Numeric arguments -/

/-- The code of the character after a leading quote, and what follows that character: a byte in
the C locale, a whole character when text is UTF-8. -/
def quotedCode (utf8 : Bool) (bs : List UInt8) : Nat × List UInt8 :=
  match bs with
  | [] => (0, [])
  | b :: rest =>
    if utf8 && b ≥ 0x80 && !rest.isEmpty then
      match Text.leadInfo b with
      | some (lo, hi, need) =>
        if Text.validPrefix lo hi need rest == need then
          ((Text.charOf b (rest.take need)).toNat, rest.drop need)
        else (b.toNat, rest)
      | none => (b.toNat, rest)
    else (b.toNat, rest)

/-- A number from a character constant: its value, and the run with the warning for what
follows the character. -/
def constant (prog : Program) (arg : List UInt8) (r : Run) : Option (Nat × Run) :=
  match arg with
  | q :: c :: more =>
    if q == 34 || q == 39 then
      let (v, rest) := quotedCode prog.utf8 (c :: more)
      let r := if !rest.isEmpty && !prog.strict then
          r.say (bytes "warning: " ++ rest ++ bytes ": character(s) following character constant have been ignored")
        else r
      some (v, r)
    else none
  | _ => none

/-- The run after an argument read as a number: out of range, not a number at all, or not wholly
one. -/
def checked {α : Type} (prog : Program) (arg : String) (n : NumberRead α) (r : Run) : Run :=
  if n.outOfRange then r.complain (prog.quoteText arg ++ bytes ": Numerical result out of range")
  else if !n.rest.isEmpty then
    r.complain (prog.quoteText arg ++
      bytes (if n.converted then ": value not completely converted" else ": expected a numeric value"))
  else r

def signedArg (prog : Program) (arg : String) (r : Run) : Int × Run :=
  match constant prog arg.toUTF8.toList r with
  | some (v, r) => (v, r)
  | none => let n := Format.readSigned arg; (n.value, checked prog arg n r)

def unsignedArg (prog : Program) (arg : String) (r : Run) : Nat × Run :=
  match constant prog arg.toUTF8.toList r with
  | some (v, r) => (v, r)
  | none => let n := Format.readUnsigned arg; (n.value, checked prog arg n r)

/-- A floating point number as C reads one into an extended value: blanks, a sign, then a
decimal with an optional exponent, a hexadecimal `0x...p...`, `inf`, `infinity` or `nan`. -/
def readExtended (s : String) : NumberRead Text.Extended :=
  let cs0 := s.toList
  let cs := cs0.dropWhile Arith.isSpace
  let (neg, body) := match cs with
    | '-' :: r => (true, r)
    | '+' :: r => (false, r)
    | r => (false, r)
  let low := Format.lowerList body
  if low.take 8 == "infinity".toList then ⟨.infinity neg, true, body.drop 8, false⟩
  else if low.take 3 == "inf".toList then ⟨.infinity neg, true, body.drop 3, false⟩
  else if low.take 3 == "nan".toList then
    let r := body.drop 3
    let r := match r with
      | '(' :: more =>
        let inner := more.takeWhile fun c => c.isAlphanum || c == '_'
        match more.drop inner.length with
        | ')' :: after => after
        | _ => r
      | _ => r
    ⟨.nan neg, true, r, false⟩
  else
    let hex := match body with
      | '0' :: x :: r => if x == 'x' || x == 'X' then Format.mantissa 16 r else none
      | _ => none
    match hex with
    | some (v, k, r) =>
      let (p, r) := match r with
        | c :: more => if c == 'p' || c == 'P' then
            match Format.exponent more with
            | some (p, r') => (p, r')
            | none => (0, r)
          else (0, r)
        | [] => (0, r)
      let e : Int := p - 4 * (k : Int)
      let x := Text.Extended.ofBinary neg v e
      let (pn, pd) := Text.Binary64.pow2 (max (min e 17000) (-17000))
      ⟨x, true, r, x.outOfRange (v * pn) pd⟩
    | none =>
      match Format.mantissa 10 body with
      | none => ⟨Text.Extended.zero false, false, cs0, false⟩
      | some (v, k, r) =>
        let (e, r) := match r with
          | c :: more => if c == 'e' || c == 'E' then
              match Format.exponent more with
              | some (e, r') => (e, r')
              | none => (0, r)
            else (0, r)
          | [] => (0, r)
        let x := Text.Extended.ofDecimal neg v (e - k)
        let range := v != 0 &&
          (match x with
           | .infinity _ => true
           | .finite _ m _ =>
             m == 0 || (m < Nat.pow 2 63 &&
               (let (pn, pd) := Text.Binary64.pow10 (e - k)
                x.outOfRange (v * pn) pd))
           | .nan _ => false)
        ⟨x, true, r, range⟩

def floatArg (prog : Program) (arg : String) (r : Run) : Text.Extended × Run :=
  match constant prog arg.toUTF8.toList r with
  | some (v, r) => (Text.Extended.ofNat v, r)
  | none => let n := readExtended arg; (n.value, checked prog arg n r)

def floatText (s : Format.Spec) (x : Text.Extended) : List UInt8 :=
  let body := x.formatMagnitude s.letter s.precisionNat (s.flags.contains '#')
  let pre := if x.isNegative then "-" else if s.flags.contains '+' then "+"
    else if s.flags.contains ' ' then " " else ""
  let zeros := s.flags.contains '0' && x.isFinite
  let prefixLen := pre.length + (if x.isFinite && (s.letter == 'a' || s.letter == 'A') then 2 else 0)
  Format.pad s zeros prefixLen (bytes (pre ++ body))

/-! ## Conversions -/

structure Args where
  left : List String
  used : Nat := 0

def Args.next (a : Args) : Option String × Args :=
  match a.left with
  | x :: rest => (some x, ⟨rest, a.used + 1⟩)
  | [] => (none, a)

def flagBytes : List UInt8 := bytes "'-+ #0I"

def lengthBytes : List UInt8 := bytes "lLhjtz"

def allowed (flags : List UInt8) (precision : Bool) : List Char :=
  let all := "aAcdeEfFgGiosuxX".toList
  let all := if flags.any (fun f => f == 39 || f == 73) then all.filter (!"aAceEosxX".toList.contains ·) else all
  let all := if flags.contains 35 then all.filter (!"cdisu".toList.contains ·) else all
  let all := if flags.contains 48 then all.filter (!"cs".toList.contains ·) else all
  if precision then all.filter (· != 'c') else all

def isDigit (c : UInt8) : Bool := 48 ≤ c && c ≤ 57

def decimalOf (ds : List UInt8) : Nat := ds.foldl (fun v d => 10 * v + (d.toNat - 48)) 0

def intMax : Int := 2147483647

/-- A width or precision given by `*`: the next argument, read as a number; none when it is out of
the range of an `int` (for a precision: above it). -/
def starArg (prog : Program) (args : Args) (r : Run) (isWidth : Bool) :
    Option Int × Args × Run :=
  match args.next with
  | (none, args) => (some 0, args, r)
  | (some a, args) =>
    let (v, r) := signedArg prog a r
    if isWidth then
      if v < -intMax - 1 || v > intMax then (none, args, r.fail (bytes "invalid field width: " ++ prog.quoteText a))
      else (some v, args, r)
    else if v < 0 then (some (-1), args, r)
    else if v > intMax then (none, args, r.fail (bytes "invalid precision: " ++ prog.quoteText a))
    else (some v, args, r)

/-- One directive, its `%` already read: the run after it, the arguments left, and what follows
in the format. -/
def directive (prog : Program) (r : Run) (args : Args) (cs : List UInt8) : Run × Args × List UInt8 :=
  let start := cs
  let flags := cs.takeWhile (flagBytes.contains ·)
  let rest := cs.drop flags.length
  -- the width
  let (width, args, r, rest) : Option Int × Args × Run × List UInt8 :=
    match rest with
    | 42 :: more =>
      let (w, args, r) := starArg prog args r true
      (w, args, r, more)
    | _ =>
      let ds := rest.takeWhile isDigit
      (if ds.isEmpty then none else some (decimalOf ds : Int), args, r, rest.drop ds.length)
  if r.stop.isSome then (r, args, rest)
  else
  -- the precision
  let (precision, hasPrecision, args, r, rest) : Option Int × Bool × Args × Run × List UInt8 :=
    match rest with
    | 46 :: 42 :: more =>
      let (p, args, r) := starArg prog args r false
      (p, true, args, r, more)
    | 46 :: more =>
      let ds := more.takeWhile isDigit
      (some (decimalOf ds : Int), true, args, r, more.drop ds.length)
    | _ => (none, false, args, r, rest)
  if r.stop.isSome then (r, args, rest)
  else
  let rest := rest.dropWhile (lengthBytes.contains ·)
  let letter : Option Char := rest.head?.map fun b => Char.ofNat b.toNat
  let written := start.take (start.length - rest.length + (if rest.isEmpty then 0 else 1))
  match letter with
  | none => (r.fail (bytes "%" ++ written ++ bytes ": invalid conversion specification"), args, [])
  | some c =>
    if !(allowed flags hasPrecision).contains c then
      (r.fail (bytes "%" ++ written ++ bytes ": invalid conversion specification"), args, rest.drop 1)
    else
      let spec : Format.Spec := ⟨flags.map fun b => Char.ofNat b.toNat, width, precision, c⟩
      let (arg, args) := args.next
      let text := arg.getD ""
      let r :=
        if c == 'd' || c == 'i' then
          let (v, r) := signedArg prog text r
          r.emit (Format.whole spec (v < 0) v.natAbs)
        else if c == 'o' || c == 'u' || c == 'x' || c == 'X' then
          let (v, r) := unsignedArg prog text r
          r.emit (Format.whole spec false v)
        else if c == 'c' then r.emit (Format.pad spec false 0 [(text.toUTF8.toList.head?).getD 0])
        else if c == 's' then r.emit (Format.text spec text.toUTF8.toList)
        else
          let (v, r) := floatArg prog text r
          r.emit (floatText spec v)
      (r, args, rest.drop 1)

def pass (prog : Program) : Nat → List UInt8 → Args → Run → Run × Args
  | 0, _, args, r => (r, args)
  | _, [], args, r => (r, args)
  | f + 1, 37 :: rest, args, r =>
    match rest with
    | 37 :: more => pass prog f more args (r.emit [37])
    | 98 :: more =>
      match args.next with
      | (some a, args) =>
        let bs := a.toUTF8.toList
        let r := escapedText prog.utf8 (bs.length + 1) bs r
        if r.stop.isSome then (r, args) else pass prog f more args r
      | (none, args) => pass prog f more args r
    | 113 :: more =>
      match args.next with
      | (some a, args) => pass prog f more args (r.emit (prog.quote (.shell false) a))
      | (none, args) => pass prog f more args r
    | _ =>
      let (r, args, more) := directive prog r args rest
      if r.stop.isSome then (r, args) else pass prog f more args r
  | f + 1, 92 :: rest, args, r =>
    match escape prog.utf8 false rest with
    | (.bytes bs, more) => pass prog f more args (r.emit bs)
    | (.stop, _) => ({ r with stop := some .quiet }, args)
    | (.error msg, _) => (r.fail msg, args)
  | f + 1, c :: rest, args, r => pass prog f rest args (r.emit [c])

/-- Passes over the format while arguments are left and the last pass used some; arguments left
after a pass that used none are reported. -/
def passes (prog : Program) (fmt : List UInt8) : Nat → List String → Run → Run
  | 0, _, r => r
  | f + 1, left, r =>
    let (r, args) := pass prog (fmt.length + 1) fmt ⟨left, 0⟩ r
    if r.stop.isSome then r
    else if args.used > 0 && !args.left.isEmpty then passes prog fmt f args.left r
    else match args.left with
      | first :: _ =>
        if args.used == 0 then
          r.say (bytes "warning: ignoring excess arguments, starting with " ++ prog.quoteText first)
        else r
      | [] => r

end Printf

def runPrintf (name : String) (args : List String) : Sh Nat := do
  let prog ← Program.start name
  if args == ["--help"] then
    say 1 (helpText "printf" name)
    return 0
  if args == ["--version"] then return 0
  let args := match args with
    | "--" :: rest => rest
    | other => other
  match args with
  | [] => prog.usageError (Printf.bytes "missing operand")
  | fmt :: rest =>
    let r := Printf.passes prog fmt.toUTF8.toList (rest.length + 1) rest {}
    for piece in r.pieces do
      match piece with
      | .output bs => write 1 bs
      | .message msg => prog.complain msg
    return match r.stop with
      | some .quiet => 0
      | some .failed => 1
      | none => r.status

end Updater.Shell
