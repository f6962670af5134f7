import Updater.Text.Blank
import Updater.Text.Digit
/-!
Coarse version comparison.

Installed and published versions are compared by their leading `major.minor.patch` only: the
text may start with blanks and one `v`, each part is a run of decimal digits of any script, and
whatever follows the third run is ignored. A part whose digits are not all ASCII, or whose
value does not fit in 64 bits, makes the version unreadable, and two versions compare only
when both are readable.
-/

namespace Updater.Version

open Text

def digitRun (cs : List Char) : List Char × List Char :=
  (cs.takeWhile isDecimalDigit, cs.dropWhile isDecimalDigit)

def partValue? (ds : List Char) : Option Nat :=
  if ds.all Char.isDigit then
    let v := ds.foldl (fun acc d => acc * 10 + (d.toNat - '0'.toNat)) 0
    if v < Nat.pow 2 64 then some v else none
  else none

def dropV : List Char → List Char
  | 'v' :: r => r
  | r => r

def tripleRuns? (s : String) : Option (List Char × List Char × List Char) :=
  let cs := dropV (dropBlank s.toList)
  let (a, r) := digitRun cs
  match r with
  | '.' :: r =>
    let (b, r) := digitRun r
    match r with
    | '.' :: r =>
      let (c, _) := digitRun r
      if a.isEmpty || b.isEmpty || c.isEmpty then none else some (a, b, c)
    | _ => none
  | _ => none

def triple? (s : String) : Option (Nat × Nat × Nat) := do
  let (a, b, c) ← tripleRuns? s
  return (← partValue? a, ← partValue? b, ← partValue? c)

def compareCoarse (left right : String) : Option Ordering := do
  let (a1, b1, c1) ← triple? left
  let (a2, b2, c2) ← triple? right
  return (Ord.compare a1 a2).then ((Ord.compare b1 b2).then (Ord.compare c1 c2))

end Updater.Version
