/-!
Semantic versions.

`SemVer.parse?` reads the strict grammar of Semantic Versioning 2.0: three numeric parts
without leading zeros, each below 2^64, an optional pre-release and optional build metadata,
both dot-separated lists of non-empty identifiers of letters, digits and hyphens; a numeric
pre-release identifier has no leading zero. `SemVer.compare` is version precedence: the numeric
parts, then the pre-release (a version without one is greater; numeric identifiers are less
than others and compare by value; a shorter list is less), and last the build metadata as a
tie-break, identifier by identifier.
-/

namespace Updater

inductive PreIdent
  | num (n : Nat)
  | alnum (s : String)
  deriving DecidableEq, Repr, Inhabited

namespace PreIdent

def text : PreIdent → String
  | num n => toString n
  | alnum s => s

def compare : PreIdent → PreIdent → Ordering
  | num a, num b => Ord.compare a b
  | num _, alnum _ => .lt
  | alnum _, num _ => .gt
  | alnum a, alnum b => Ord.compare a b

end PreIdent

structure SemVer where
  major : Nat
  minor : Nat
  patch : Nat
  pre : List PreIdent := []
  build : List String := []
  deriving DecidableEq, Repr, Inhabited

namespace SemVer

def wordLimit : Nat := Nat.pow 2 64

def isIdentChar (c : Char) : Bool := c.isAlphanum || c == '-'

def digitsValue (ds : List Char) : Nat :=
  ds.foldl (fun acc d => acc * 10 + (d.toNat - '0'.toNat)) 0

def numericPart? (cs : List Char) : Option (Nat × List Char) :=
  let ds := cs.takeWhile Char.isDigit
  let v := digitsValue ds
  if ds.isEmpty then none
  else if ds.length > 1 && ds.head? == some '0' then none
  else if v ≥ wordLimit then none
  else some (v, cs.dropWhile Char.isDigit)

/-- The identifiers of a dot-separated list that stops at the first character that is neither
an identifier character nor a dot. Empty identifiers, and with `strictNumbers` numeric ones
with a leading zero, are refused. -/
def identifiers? (strictNumbers : Bool) (cs : List Char) : Option (List String × List Char) :=
  let body := cs.takeWhile fun c => isIdentChar c || c == '.'
  let rest := cs.dropWhile fun c => isIdentChar c || c == '.'
  let parts := (body.splitOn '.').map String.ofList
  let badZero (p : String) : Bool :=
    strictNumbers && p.length > 1 && p.toList.all Char.isDigit && p.toList.head? == some '0'
  if parts.any (·.isEmpty) || parts.any badZero then none else some (parts, rest)

def preIdentOfText (s : String) : PreIdent :=
  if s.toList.all Char.isDigit then .num (digitsValue s.toList) else .alnum s

def dot? : List Char → Option (List Char)
  | '.' :: r => some r
  | _ => none

def preRelease? : List Char → Option (List PreIdent × List Char)
  | '-' :: r => (identifiers? true r).map fun (ids, r) => (ids.map preIdentOfText, r)
  | r => some ([], r)

def buildMetadata? : List Char → Option (List String × List Char)
  | '+' :: r => identifiers? false r
  | r => some ([], r)

def parse? (s : String) : Option SemVer := do
  let (major, r) ← numericPart? s.toList
  let (minor, r) ← numericPart? (← dot? r)
  let (patch, r) ← numericPart? (← dot? r)
  let (pre, r) ← preRelease? r
  let (build, r) ← buildMetadata? r
  if r.isEmpty then some ⟨major, minor, patch, pre, build⟩ else none

def compareLists {α : Type} (cmp : α → α → Ordering) : List α → List α → Ordering
  | [], [] => .eq
  | [], _ :: _ => .lt
  | _ :: _, [] => .gt
  | a :: as, b :: bs => (cmp a b).then (compareLists cmp as bs)

def comparePre : List PreIdent → List PreIdent → Ordering
  | [], [] => .eq
  | [], _ :: _ => .gt
  | _ :: _, [] => .lt
  | as, bs => compareLists PreIdent.compare as bs

def compareBuildIdent (a b : String) : Ordering :=
  let na := a.toList.all Char.isDigit
  let nb := b.toList.all Char.isDigit
  match na, nb with
  | true, true =>
    let za := a.toList.dropWhile (· == '0')
    let zb := b.toList.dropWhile (· == '0')
    ((Ord.compare (digitsValue za) (digitsValue zb))).then (Ord.compare a.length b.length)
  | true, false => .lt
  | false, true => .gt
  | false, false => Ord.compare a b

def compare (a b : SemVer) : Ordering :=
  (Ord.compare a.major b.major).then <| (Ord.compare a.minor b.minor).then <|
    (Ord.compare a.patch b.patch).then <| (comparePre a.pre b.pre).then <|
      compareLists compareBuildIdent a.build b.build

end SemVer

end Updater
