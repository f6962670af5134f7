/-!
Binary64: the double-precision floating point numbers of IEEE 754.

A finite value is `±mantissa · 2^exponent` in canonical form: a normal value has
`2^52 ≤ mantissa < 2^53` and `-1074 ≤ exponent ≤ 971`, a subnormal value (and zero) has
`mantissa < 2^52` and `exponent = -1074`. The sign is kept apart, so there is a negative zero.

Every operation computes its exact result as a fraction and rounds it once to the nearest
double, a tie going to the even mantissa; a result beyond the largest finite double becomes an
infinity. That is how `+` and `/` work on doubles, and how a correctly rounding reader turns a
decimal such as `0.1` or `1e400` into a double.

The decimal of a double is the shortest one that reads back as the same double; of two
shortest ones the nearer wins, and of two equally near ones the larger. Written out in full it
never uses an exponent: `1e22` is `10000000000000000000000` and `1e-7` is `0.0000001`.
-/

namespace Updater.Text

def roundHalfEven (n d : Nat) : Nat :=
  let q := n / d
  let r := n % d
  if 2 * r < d then q
  else if 2 * r > d then q + 1
  else if q % 2 = 0 then q else q + 1

inductive Binary64
  | finite (neg : Bool) (mantissa : Nat) (exponent : Int)
  | infinity (neg : Bool)
  | nan (neg : Bool)
  deriving DecidableEq, Repr, Inhabited

namespace Binary64

def minExponent : Int := -1074

def maxExponent : Int := 971

def zero (neg : Bool) : Binary64 := finite neg 0 minExponent

def pow2 (k : Int) : Nat × Nat :=
  if k ≥ 0 then (Nat.pow 2 k.toNat, 1) else (1, Nat.pow 2 k.natAbs)

def pow10 (k : Int) : Nat × Nat :=
  if k ≥ 0 then (Nat.pow 10 k.toNat, 1) else (1, Nat.pow 10 k.natAbs)

def fracBelow (n d : Nat) (k : Int) : Bool :=
  let (pn, pd) := pow2 k
  n * pd < pn * d

def leadingExponent (n d : Nat) : Int :=
  let k : Int := (Nat.log2 n : Int) - (Nat.log2 d : Int)
  if fracBelow n d k then k - 1 else k

def roundScaled (n d : Nat) (e : Int) : Nat :=
  let (pn, pd) := pow2 e
  roundHalfEven (n * pd) (d * pn)

def ofFrac (neg : Bool) (n d : Nat) : Binary64 :=
  if n = 0 || d = 0 then zero neg
  else
    let e := max (leadingExponent n d - 52) minExponent
    let m := roundScaled n d e
    let (m, e) := if m = Nat.pow 2 53 then (Nat.pow 2 52, e + 1) else (m, e)
    if e > maxExponent then infinity neg else finite neg m e

def ofNat (n : Nat) : Binary64 := ofFrac false n 1

def magnitude (m : Nat) (e : Int) : Nat × Nat :=
  let (pn, pd) := pow2 e
  (m * pn, pd)

def decimalLength (n : Nat) : Nat := (toString n).length

/-- The double nearest to `±digits · 10^exp`. Values far beyond the range of doubles are
decided without computing them: at least `10^309` is infinite, below `10^-324` is zero. -/
def ofDecimal (neg : Bool) (digits : Nat) (exp : Int) : Binary64 :=
  if digits = 0 then zero neg
  else
    let len : Int := decimalLength digits
    if len - 1 + exp ≥ 309 then infinity neg
    else if len + exp ≤ -324 then zero neg
    else
      let (pn, pd) := pow10 exp
      ofFrac neg (digits * pn) pd

/-! ### Arithmetic -/

def signedFrac (neg : Bool) (m : Nat) (e : Int) : Int × Nat :=
  let (n, d) := magnitude m e
  (if neg then -(n : Int) else n, d)

def add : Binary64 → Binary64 → Binary64
  | nan s, _ => nan s
  | _, nan s => nan s
  | infinity s, infinity t => if s == t then infinity s else nan true
  | infinity s, _ => infinity s
  | _, infinity t => infinity t
  | finite s m e, finite t k f =>
    let (a, b) := signedFrac s m e
    let (c, d) := signedFrac t k f
    let num := a * d + c * b
    if num = 0 then zero (s && t)
    else ofFrac (num < 0) num.natAbs (b * d)

def negate : Binary64 → Binary64
  | finite s m e => finite (!s) m e
  | infinity s => infinity (!s)
  | nan s => nan (!s)

def mul : Binary64 → Binary64 → Binary64
  | nan s, _ => nan s
  | _, nan s => nan s
  | infinity s, infinity t => infinity (s != t)
  | infinity s, finite t k _ => if k = 0 then nan true else infinity (s != t)
  | finite s m _, infinity t => if m = 0 then nan true else infinity (s != t)
  | finite s m e, finite t k f =>
    let (a, b) := magnitude m e
    let (c, d) := magnitude k f
    ofFrac (s != t) (a * c) (b * d)

def div : Binary64 → Binary64 → Binary64
  | nan s, _ => nan s
  | _, nan s => nan s
  | infinity _, infinity _ => nan true
  | infinity s, finite t _ _ => infinity (s != t)
  | finite s _ _, infinity t => zero (s != t)
  | finite s m e, finite t k f =>
    let (a, b) := magnitude m e
    let (c, d) := magnitude k f
    if c = 0 then (if a = 0 then nan true else infinity (s != t))
    else ofFrac (s != t) (a * d) (b * c)

def lt : Binary64 → Binary64 → Bool
  | nan _, _ => false
  | _, nan _ => false
  | infinity s, infinity t => s && !t
  | infinity s, finite .. => s
  | finite .., infinity t => !t
  | finite s m e, finite t k f =>
    let (a, b) := signedFrac s m e
    let (c, d) := signedFrac t k f
    a * d < c * b

def le (x y : Binary64) : Bool :=
  match x, y with
  | nan _, _ => false
  | _, nan _ => false
  | _, _ => !lt y x

/-! ### Decimals -/

def fracLe (strict : Bool) (a b c d : Nat) : Bool :=
  if strict then a * d < c * b else a * d ≤ c * b

def leadingDecimal (n d : Nat) : Int :=
  let guess := (leadingExponent n d * 30103) / 100000
  let (pn, pd) := pow10 (guess + 1)
  if fracLe false pn pd n d then guess + 1
  else
    let (qn, qd) := pow10 guess
    if fracLe true n d qn qd then guess - 1 else guess

def stripZeros : Nat → Nat → Int → Nat × Int
  | 0, digits, exp => (digits, exp)
  | fuel + 1, digits, exp =>
    if digits ≠ 0 && digits % 10 = 0 then stripZeros fuel (digits / 10) (exp + 1) else (digits, exp)

/-- The shortest decimal `digits · 10^exp` that reads back as the positive double
`m · 2^e`: the values that read back are those between the midpoints to the two neighbouring
doubles, the midpoints themselves included when `m` is even. -/
def shortest (m : Nat) (e : Int) : Nat × Int :=
  -- the value and the two midpoints, in units of a quarter of the last place
  let lowGap := if m = Nat.pow 2 52 && e > minExponent then 1 else 2
  let (un, ud) := pow2 (e - 2)
  let v := 4 * m
  let lo := 4 * m - lowGap
  let hi := 4 * m + 2
  let inclusive := m % 2 = 0
  -- `c = cn / cd` lies between the midpoints
  let inside := fun (cn cd : Nat) =>
    fracLe (!inclusive) (lo * un) ud cn cd && fracLe (!inclusive) cn cd (hi * un) ud
  let top := leadingDecimal (v * un) ud
  let pick := (List.range 17).findSome? fun (i : Nat) =>
    let j : Int := top - (i : Int)
    let (pn, pd) := pow10 j
    -- the grid points `below · 10^j` and `(below + 1) · 10^j` around the value
    let below := (v * un * pd) / (ud * pn)
    let downIn := inside (below * pn) pd
    let upIn := inside ((below + 1) * pn) pd
    -- the distances to the two, both scaled by `ud · pd`
    let value := v * un * pd
    let downGap := value - below * pn * ud
    let upGap := (below + 1) * pn * ud - value
    if downIn && upIn then some (if downGap < upGap then below else below + 1, j)
    else if downIn then some (below, j)
    else if upIn then some (below + 1, j)
    else none
  let (digits, exp) := pick.getD (roundScaled (v * un) ud 0, 0)
  stripZeros 400 digits exp

def positional (digits : Nat) (exp : Int) : String :=
  let ds := toString digits
  if exp ≥ 0 then ds ++ String.ofList (List.replicate exp.toNat '0')
  else
    let k := exp.natAbs
    if ds.length > k then
      String.ofList (ds.toList.take (ds.length - k)) ++ "." ++ String.ofList (ds.toList.drop (ds.length - k))
    else "0." ++ String.ofList (List.replicate (k - ds.length) '0') ++ ds

def decimal? : Binary64 → Option (Bool × Nat × Int)
  | finite neg m e => if m = 0 then some (neg, 0, 0) else
      let (d, x) := shortest m e
      some (neg, d, x)
  | _ => none

/-- A double as a decimal without exponent: a `-` for negative values (negative zero too), then
the shortest digits; `inf`, `-inf` and `NaN` for the others. -/
def toDecimalString : Binary64 → String
  | finite neg m e =>
    (if neg then "-" else "") ++ (if m = 0 then "0" else
      let (d, x) := shortest m e
      positional d x)
  | infinity neg => if neg then "-inf" else "inf"
  | nan _ => "NaN"

def isWhole : Binary64 → Bool
  | finite _ m e => e ≥ 0 || m % Nat.pow 2 e.natAbs = 0
  | _ => false

end Binary64

end Updater.Text
