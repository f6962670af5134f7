import Updater.Shell.Tools.Program
import Updater.Shell.Tools.Help
/-!
The machine's `echo`: its arguments separated by blanks and followed by a line break.

Leading arguments made only of the letters `n`, `e` and `E` after a `-` are options: `-n` leaves
the line break out, `-e` turns backslash escapes on and `-E` off again, the last one winning.
Anything else, `-` or `--` included, is the first word to write. `--help` is only understood as
the sole argument. With `POSIXLY_CORRECT` in the environment, options are only read when the
first argument is `-n`, and escapes are always on.

The escapes are `\a \b \e \f \n \r \t \v \\`, `\xHH` with one or two hexadecimal digits, `\0NNN`
and `\NNN` with up to three octal digits in all, and `\c`, which ends the output there, line
break included. A backslash before anything else stands for itself.
-/

namespace Updater.Shell

namespace Echo

def isOctal (c : UInt8) : Bool := 48 ≤ c && c ≤ 55

def hexValue (c : UInt8) : Option Nat :=
  if 48 ≤ c && c ≤ 57 then some (c.toNat - 48)
  else if 97 ≤ c && c ≤ 102 then some (c.toNat - 87)
  else if 65 ≤ c && c ≤ 70 then some (c.toNat - 55)
  else none

def moreOctal : Nat → Nat → List UInt8 → Nat × List UInt8
  | 0, v, cs => (v % 256, cs)
  | n + 1, v, c :: cs => if isOctal c then moreOctal n (8 * v + (c.toNat - 48)) cs else (v % 256, c :: cs)
  | _, v, [] => (v % 256, [])

def escapes : Nat → List UInt8 → List UInt8 × Bool
  | 0, _ => ([], false)
  | _, [] => ([], false)
  | f + 1, 92 :: c :: rest =>
    let emit := fun (b : UInt8) (r : List UInt8) =>
      let (more, stop) := escapes f r
      (b :: more, stop)
    if c == 99 then ([], true)
    else if c == 97 then emit 7 rest
    else if c == 98 then emit 8 rest
    else if c == 101 then emit 27 rest
    else if c == 102 then emit 12 rest
    else if c == 110 then emit 10 rest
    else if c == 114 then emit 13 rest
    else if c == 116 then emit 9 rest
    else if c == 118 then emit 11 rest
    else if c == 92 then emit 92 rest
    else if c == 120 then
      match rest with
      | h :: r =>
        match hexValue h with
        | some v =>
          match r with
          | h2 :: r2 =>
            match hexValue h2 with
            | some w => emit (16 * v + w).toUInt8 r2
            | none => emit v.toUInt8 r
          | [] => emit v.toUInt8 r
        | none => let (more, stop) := escapes f rest; (92 :: c :: more, stop)
      | [] => let (more, stop) := escapes f rest; (92 :: c :: more, stop)
    else if c == 48 then
      match rest with
      | d :: r =>
        if isOctal d then let (v, r') := moreOctal 2 (d.toNat - 48) r; emit v.toUInt8 r'
        else emit 0 rest
      | [] => emit 0 rest
    else if isOctal c then
      let (v, r') := moreOctal 2 (c.toNat - 48) rest
      emit v.toUInt8 r'
    else
      let (more, stop) := escapes f rest
      (92 :: c :: more, stop)
  | f + 1, c :: rest =>
    let (more, stop) := escapes f rest
    (c :: more, stop)

def isOptionWord (w : String) : Bool :=
  match w.toList with
  | '-' :: c :: rest => (c :: rest).all fun c => c == 'n' || c == 'e' || c == 'E'
  | _ => false

def wordsWith (escaped : Bool) : List String → List UInt8 × Bool
  | [] => ([], false)
  | w :: rest =>
    let bs := w.toUTF8.toList
    let (mine, stop) := if escaped then escapes (bs.length + 1) bs else (bs, false)
    if stop then (mine, true)
    else if rest.isEmpty then (mine, false)
    else
      let (more, stop) := wordsWith escaped rest
      (mine ++ [32] ++ more, stop)

end Echo

def runEcho (name : String) (args : List String) : Sh Nat := do
  let prog ← Program.start name
  let allowOptions := !prog.strict || args.head? == some "-n"
  if allowOptions && args == ["--help"] then
    say 1 (helpText "echo" name)
    return 0
  if allowOptions && args == ["--version"] then return 0
  let opts := if allowOptions then args.takeWhile Echo.isOptionWord else []
  let words := args.drop opts.length
  let letters := opts.flatMap fun w => w.toList.drop 1
  let escaped := prog.strict ||
    (letters.filter fun c => c == 'e' || c == 'E').getLast? == some 'e'
  let (bytes, stopped) := Echo.wordsWith escaped words
  write 1 (if stopped || letters.contains 'n' then bytes else bytes ++ [10])
  return 0

end Updater.Shell
