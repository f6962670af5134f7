import Updater.Text.FloatDigits
/-!
Extended: the 80-bit floating point numbers of the x87 unit, in which C's `long double` is held.

A finite value is `±mantissa · 2^exponent` in canonical form, with a 64-bit mantissa whose
leading bit is explicit: a normal value has `2^63 ≤ mantissa < 2^64` and
`-16445 ≤ exponent ≤ 16320`, a subnormal value (and zero) has `mantissa < 2^63` and
`exponent = -16445`. As with doubles, a value is made by rounding an exact fraction once to the
nearest one, a tie going to the even mantissa, and beyond the largest finite value lies infinity.

Written out, an extended value follows the same digit rules as a double (`%f`, `%e`, `%g` round
its exact value once). Its hexadecimal form is its own: the leading digit is the first four bits
of the mantissa, so `1` is `0x8p-3` and `0.1` is `0xc.ccccccccccccccdp-7`.
-/

namespace Updater.Text

inductive Extended
  | finite (neg : Bool) (mantissa : Nat) (exponent : Int)
  | infinity (neg : Bool)
  | nan (neg : Bool)
  deriving DecidableEq, Repr, Inhabited

namespace Extended

def minExponent : Int := -16445

def maxExponent : Int := 16320

def zero (neg : Bool) : Extended := finite neg 0 minExponent

def ofFrac (neg : Bool) (n d : Nat) : Extended :=
  if n = 0 || d = 0 then zero neg
  else
    let e := max (Binary64.leadingExponent n d - 63) minExponent
    let m := Binary64.roundScaled n d e
    let (m, e) := if m = Nat.pow 2 64 then (Nat.pow 2 63, e + 1) else (m, e)
    if e > maxExponent then infinity neg else finite neg m e

def ofNat (n : Nat) : Extended := ofFrac false n 1

/-- The extended value nearest to `±digits · 10^exp`. Values far beyond the range are decided
without computing them: at least `10^4933` is infinite, below `10^-4952` is zero. -/
def ofDecimal (neg : Bool) (digits : Nat) (exp : Int) : Extended :=
  if digits = 0 then zero neg
  else
    let len : Int := Binary64.decimalLength digits
    if len - 1 + exp ≥ 4933 then infinity neg
    else if len + exp ≤ -4952 then zero neg
    else
      let (pn, pd) := Binary64.pow10 exp
      ofFrac neg (digits * pn) pd

/-- The extended value nearest to `±digits · 2^exp`; far beyond the range it is decided
without computing it. -/
def ofBinary (neg : Bool) (digits : Nat) (exp : Int) : Extended :=
  if digits = 0 then zero neg
  else
    let top : Int := (Nat.log2 digits : Int) + exp
    if top ≥ 16400 then infinity neg
    else if top < -16500 then zero neg
    else
      let (pn, pd) := Binary64.pow2 exp
      ofFrac neg (digits * pn) pd

def isNegative : Extended → Bool
  | .finite neg _ _ => neg
  | .infinity neg => neg
  | .nan neg => neg

def isFinite : Extended → Bool
  | .finite .. => true
  | _ => false

/-- Whether a value read as `n / d` came out as an infinity, as zero, or as an inexact
subnormal: the cases in which reading it reports a range error. -/
def outOfRange (x : Extended) (n d : Nat) : Bool :=
  n != 0 &&
  match x with
  | .infinity _ => true
  | .nan _ => false
  | .finite _ m e =>
    m == 0 ||
    (m < Nat.pow 2 63 &&
      (let (pn, pd) := Binary64.magnitude m e
       n * pd != pn * d))

/-- The hexadecimal form of a magnitude `m · 2^e`: the leading digit is the mantissa's first
four bits, the fraction its other sixty, and the power of two is written in decimal. Rounding
to `p` fraction digits goes to the nearest, a tie to the even digit; a carry out of a leading
`f` makes the leading digit `1` and the power four greater. -/
def hexadecimal (m : Nat) (e : Int) (p : Option Nat) (alt upper : Bool) : String :=
  let lead := m / Nat.pow 2 60
  let frac := m % Nat.pow 2 60
  let pow : Int := if m == 0 then 0 else e + 60
  -- the fraction's fifteen digits, trailing zeros dropped
  let count := (List.range 16).find? (fun k => frac % Nat.pow 16 (15 - k) == 0) |>.getD 15
  let digits := frac / Nat.pow 16 (15 - count)
  let (lead, digits, count, pow) : Nat × Nat × Nat × Int :=
    match p with
    | none => (lead, digits, count, pow)
    | some q =>
      if q ≥ count then (lead, digits * Nat.pow 16 (q - count), q, pow)
      else
        let whole := lead * Nat.pow 16 count + digits
        let r := roundHalfEven whole (Nat.pow 16 (count - q))
        let lead' := r / Nat.pow 16 q
        if lead' ≥ 16 then (1, 0, q, pow + 4) else (lead', r % Nat.pow 16 q, q, pow)
  let fracText := String.ofList ((List.range count).map fun i =>
    FloatDigits.hexDigit upper (digits / Nat.pow 16 (count - 1 - i)))
  let point := if count > 0 || alt then "." else ""
  (if upper then "0X" else "0x") ++ String.singleton (FloatDigits.hexDigit upper lead) ++ point ++
    fracText ++ (if upper then "P" else "p") ++ (if pow < 0 then "-" else "+") ++
    toString pow.natAbs

/-- How an extended value is written: the conversion letter (`f`, `e`, `g`, `a` or an upper case
form), the precision (`none` for the default), and whether the alternative form was asked for.
The sign is left to the caller: this is the magnitude. -/
def formatMagnitude (x : Extended) (conv : Char) (precision : Option Nat) (alt : Bool) : String :=
  let upper := conv.isUpper
  let lower := conv.toLower
  let text := match x with
    | .infinity _ => "inf"
    | .nan _ => "nan"
    | .finite _ m e =>
      let (n, d) := Binary64.magnitude m e
      let p := precision.getD 6
      if lower == 'f' then FloatDigits.fixed n d p alt
      else if lower == 'e' then FloatDigits.scientific n d p alt
      else if lower == 'g' then FloatDigits.general n d p alt
      else hexadecimal m e precision alt upper
  if upper then text.toUpper else text

end Extended

end Updater.Text
