import Updater.Text.Binary64
/-!
Doubles written with a chosen number of digits, as the C formatting functions write them.

The exact value of the double is rounded once to the digit grid asked for, a tie going to the
even last digit:

* positional (`%f`): `p` digits after the point;
* scientific (`%e`): one digit, `p` more after the point, and the power of ten, with a sign and
  at least two digits;
* general (`%g`): `p` significant digits (at least one), positional when the power of ten is
  at least `-4` and below `p`, scientific otherwise, trailing zeros dropped unless asked to keep
  them;
* hexadecimal (`%a`): `0x1.` and the fraction in hexadecimal digits, `p` then the power of two
  in decimal; without a precision exactly as many digits as the value needs.

Infinities are `inf` and NaNs `nan`, with a `-` when negative; upper-case conversions use upper
case letters throughout.
-/

namespace Updater.Text

namespace FloatDigits

def padDigits (width : Nat) (n : Nat) : String :=
  let s := toString n
  String.ofList (List.replicate (width - s.length) '0') ++ s

def fixed (n d : Nat) (p : Nat) (alt : Bool) : String :=
  let q := roundHalfEven (n * Nat.pow 10 p) d
  let s := padDigits (p + 1) q
  let k := s.length - p
  let whole := String.ofList (s.toList.take k)
  let frac := String.ofList (s.toList.drop k)
  if p == 0 then whole ++ (if alt then "." else "") else whole ++ "." ++ frac

/-- The digits of `n / d` rounded to `p + 1` significant digits, and the power of ten of the
first; zero has power `0`. -/
def significant (n d : Nat) (p : Nat) : Nat × Int :=
  if n == 0 then (0, 0)
  else
    let x := Binary64.leadingDecimal n d
    let shift : Int := (p : Int) - x
    let (sn, sd) := Binary64.pow10 shift
    let q := roundHalfEven (n * sn) (d * sd)
    if q ≥ Nat.pow 10 (p + 1) then (q / 10, x + 1) else (q, x)

def exponentText (x : Int) : String :=
  (if x < 0 then "-" else "+") ++ padDigits 2 x.natAbs

def scientific (n d : Nat) (p : Nat) (alt : Bool) : String :=
  let (q, x) := significant n d p
  let s := padDigits (p + 1) q
  let head := String.ofList (s.toList.take 1)
  let tail := String.ofList (s.toList.drop 1)
  head ++ (if p == 0 && !alt then "" else ".") ++ tail ++ "e" ++ exponentText x

def trimFraction (s : String) : String :=
  if s.contains '.' then
    let cs := (s.toList.reverse.dropWhile (· == '0'))
    let cs := match cs with
      | '.' :: rest => rest
      | other => other
    String.ofList cs.reverse
  else s

def general (n d : Nat) (p : Nat) (alt : Bool) : String :=
  let p := if p == 0 then 1 else p
  let (_, x) := significant n d (p - 1)
  if x < (p : Int) && x ≥ -4 then
    let s := fixed n d (p - 1 - x).toNat alt
    if alt then s else trimFraction s
  else
    let s := scientific n d (p - 1) alt
    if alt then s
    else
      match s.splitOn "e" with
      | [m, e] => trimFraction m ++ "e" ++ e
      | _ => s

def hexDigit (upper : Bool) (k : Nat) : Char :=
  let c := (Nat.toDigits 16 (k % 16)).headD '0'
  if upper then c.toUpper else c

/-- A double's magnitude `m · 2^e` in hexadecimal form; `p` is the number of fraction digits,
none for as many as it needs. -/
def hexadecimal (m : Nat) (e : Int) (p : Option Nat) (alt upper : Bool) : String :=
  -- the leading digit, the 52 fraction bits and the power of two of the leading digit
  let (lead, frac, pow) : Nat × Nat × Int :=
    if m == 0 then (0, 0, 0)
    else if m < Nat.pow 2 52 then (0, m, Binary64.minExponent + 52)
    else (1, m - Nat.pow 2 52, e + 52)
  let digits := 13
  let (lead, fracDigits, count) : Nat × Nat × Nat := match p with
    | none =>
      -- drop the trailing zero digits
      let count := (List.range (digits + 1)).find? (fun k =>
        frac % Nat.pow 16 (digits - k) == 0) |>.getD digits
      (lead, frac / Nat.pow 16 (digits - count), count)
    | some q =>
      if q ≥ digits then (lead, frac * Nat.pow 16 (q - digits), q)
      else
        let whole := lead * Nat.pow 16 digits + frac
        let r := roundHalfEven whole (Nat.pow 16 (digits - q))
        (r / Nat.pow 16 q, r % Nat.pow 16 q, q)
  let fracText := String.ofList ((List.range count).map fun i =>
    hexDigit upper (fracDigits / Nat.pow 16 (count - 1 - i)))
  let point := if count > 0 || alt then "." else ""
  (if upper then "0X" else "0x") ++ toString lead ++ point ++ fracText ++
    (if upper then "P" else "p") ++ (if pow < 0 then "-" else "+") ++ toString pow.natAbs

end FloatDigits

/-- How a double is written: the conversion letter (`f`, `e`, `g`, `a` or their upper case
forms), the precision (`none` for the default), and whether the alternative form (`#`) was
asked for. The sign is left to the caller: this is the magnitude. -/
def Binary64.formatMagnitude (x : Binary64) (conv : Char) (precision : Option Nat) (alt : Bool) :
    String :=
  let upper := conv.isUpper
  let lower := conv.toLower
  let text := match x with
    | .infinity _ => "inf"
    | .nan _ => "nan"
    | .finite _ m e =>
      let (n, d) := Binary64.magnitude m e
      let p := precision.getD 6
      if lower == 'f' then FloatDigits.fixed n d p alt
      else if lower == 'e' then FloatDigits.scientific n d p alt
      else if lower == 'g' then FloatDigits.general n d p alt
      else FloatDigits.hexadecimal m e precision alt upper
  if upper then text.toUpper else text

def Binary64.isNegative : Binary64 → Bool
  | .finite neg _ _ => neg
  | .infinity neg => neg
  | .nan neg => neg

def Binary64.isFinite : Binary64 → Bool
  | .finite .. => true
  | _ => false

end Updater.Text
