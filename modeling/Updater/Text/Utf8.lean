/-!
Reading bytes as text, replacing what is not UTF-8.

A well-formed sequence of one to four bytes becomes its character. Anything else becomes one
replacement character per maximal prefix of a well-formed sequence: a stray continuation byte or
an impossible lead byte is one replacement on its own, and a sequence cut short is one
replacement for the bytes it had.
-/

namespace Updater.Text

def isCont (b : UInt8) : Bool := 0x80 ≤ b && b ≤ 0xBF

/-- The range the second byte of a sequence must fall in, and how many continuation bytes the
lead byte asks for in all; none for a byte that cannot start a sequence. -/
def leadInfo (b : UInt8) : Option (UInt8 × UInt8 × Nat) :=
  if 0xC2 ≤ b && b ≤ 0xDF then some (0x80, 0xBF, 1)
  else if b == 0xE0 then some (0xA0, 0xBF, 2)
  else if (0xE1 ≤ b && b ≤ 0xEC) || b == 0xEE || b == 0xEF then some (0x80, 0xBF, 2)
  else if b == 0xED then some (0x80, 0x9F, 2)
  else if b == 0xF0 then some (0x90, 0xBF, 3)
  else if 0xF1 ≤ b && b ≤ 0xF3 then some (0x80, 0xBF, 3)
  else if b == 0xF4 then some (0x80, 0x8F, 3)
  else none

def charOf (lead : UInt8) (rest : List UInt8) : Char :=
  let low := rest.foldl (fun acc b => acc * 64 + (b.toNat % 64)) 0
  let n := rest.length
  let top := if n == 1 then lead.toNat % 32 else if n == 2 then lead.toNat % 16 else lead.toNat % 8
  Char.ofNat (top * Nat.pow 64 n + low)

def validPrefix (lo hi : UInt8) (need : Nat) (rest : List UInt8) : Nat :=
  match rest with
  | b :: more =>
    if lo ≤ b && b ≤ hi then 1 + ((more.take (need - 1)).takeWhile isCont).length else 0
  | [] => 0

def decodeChars : Nat → List UInt8 → List Char
  | 0, _ => []
  | _, [] => []
  | fuel + 1, b :: rest =>
    if b < 0x80 then Char.ofNat b.toNat :: decodeChars fuel rest
    else match leadInfo b with
      | none => '�' :: decodeChars fuel rest
      | some (lo, hi, need) =>
        let k := validPrefix lo hi need rest
        if k == need then charOf b (rest.take need) :: decodeChars fuel (rest.drop need)
        else '�' :: decodeChars fuel (rest.drop k)

def decodeLossy (bs : List UInt8) : String := String.ofList (decodeChars (bs.length + 1) bs)

end Updater.Text
