import Updater.Text.Binary64
/-!
How alike two words are, for "a similar argument exists" tips.

The measure is Jaro similarity. Two characters match when they are equal and no further apart
than half the longer word's length less one; each character of the second word matches at most
once, the first free one from the left. With `m` matches out of lengths `a` and `b`, and `t`
half the number of matched pairs that appear in a different order, the similarity is
`(m/a + m/b + (m-t)/m) / 3`; two empty words are alike (1), an empty and a non-empty one are
not (0). The similarity is computed in double precision, each quotient and sum rounded as it is
formed, and the rounding decides borderline cases: `(3/5 + 3/6 + 3/3) / 3` is a little above
the double nearest 0.7.

A word is suggested when its similarity to what was typed is above the double nearest 0.7;
among several, the most similar comes last.
-/

namespace Updater.Cli

open Updater.Text (Binary64)

abbrev Score := Binary64

namespace Score

def close (x : Score) : Bool := (Binary64.ofDecimal false 7 (-1)).lt x

end Score

def claim (b : List Char) (flags : List Bool) (c : Char) (lo hi : Nat) : List Bool × Bool :=
  let pick := ((b.zip flags).zipIdx).find? fun ((d, used), j) => lo ≤ j && j < hi && d == c && !used
  match pick with
  | some (_, j) => (flags.set j true, true)
  | none => (flags, false)

def matchFlags (a b : List Char) : List Bool × List Bool :=
  let range := (max a.length b.length) / 2 - 1
  let (aFlags, bFlags) := (a.zipIdx).foldl (fun (acc : List Bool × List Bool) (c, i) =>
    let (flags, found) := claim b acc.2 c (i - range) (min b.length (i + range + 1))
    (acc.1 ++ [found], flags)) ([], List.replicate b.length false)
  (aFlags, bFlags)

def jaro (x y : String) : Score :=
  let a := x.toList
  let b := y.toList
  if a.isEmpty && b.isEmpty then Binary64.ofNat 1
  else if a.isEmpty || b.isEmpty then Binary64.ofNat 0
  else
    let (aFlags, bFlags) := matchFlags a b
    let ma := ((a.zip aFlags).filter (·.2)).map (·.1)
    let mb := ((b.zip bFlags).filter (·.2)).map (·.1)
    let m := ma.length
    if m = 0 then Binary64.ofNat 0
    else
      let t := ((ma.zip mb).filter fun (p, q) => p != q).length / 2
      let d := Binary64.ofNat
      ((((d m).div (d a.length)).add ((d m).div (d b.length))).add ((d (m - t)).div (d m))).div (d 3)

def insertByScore (e : Score × String) : List (Score × String) → List (Score × String)
  | [] => [e]
  | x :: rest => if Binary64.le x.1 e.1 then x :: insertByScore e rest else e :: x :: rest

def similar (word : String) (candidates : List String) : List String :=
  let scored := candidates.map fun c => (jaro word c, c)
  let close := scored.filter (·.1.close)
  (close.foldl (fun acc e => insertByScore e acc) []).map (·.2)

def closest? (word : String) (candidates : List String) : Option String :=
  (similar word candidates).getLast?

end Updater.Cli
