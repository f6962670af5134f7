import Updater.Text.Utf8
/-!
Permission modes as the machine's programs take them on their command lines, the way `chmod`
does: octal digits, or symbolic clauses such as `u=rwx,go+r-w`.

A mode reads as a list of changes, each an operator `=`, `+` or `-` with the bits it is about
and the bits it gives. A clause names who it is about (`u`, `g`, `o`, `a`) and then one or more
operators, each followed by letters (`rwxXst`), by one of `u`, `g` and `o` to copy what that
class may do, or by octal digits. A clause that names nobody is about everyone, but only as far
as the mask of the process allows. Octal digits alone set every bit.

Applying the changes to a starting mode gives the mode that results. A directory keeps its
set-user and set-group bits unless a change names them.
-/

namespace Updater.Shell.Mode

inductive Op
  | set
  | add
  | remove
  deriving DecidableEq, Repr

inductive Source
  | bits
  | copy
  | executeIfAny
  deriving DecidableEq, Repr

structure Change where
  op : Op
  source : Source
  affected : Nat
  value : Nat
  mentioned : Nat
  deriving DecidableEq, Repr

def allBits : Nat := 0o7777

def outside (x : Nat) : Nat := allBits ^^^ (x &&& allBits)

def classBits : Char → Option Nat
  | 'u' => some 0o4700
  | 'g' => some 0o2070
  | 'o' => some 0o1007
  | 'a' => some allBits
  | _ => none

def operator : Char → Option Op
  | '=' => some .set
  | '+' => some .add
  | '-' => some .remove
  | _ => none

def isOctal (c : Char) : Bool := '0' ≤ c && c ≤ '7'

/-- Octal digits, while the value stays a mode: the value and what follows, or none when it
grows too large. -/
def octal : Nat → Nat → List Char → Option (Nat × List Char)
  | 0, v, cs => some (v, cs)
  | _, v, [] => some (v, [])
  | f + 1, v, c :: cs =>
    if isOctal c then
      let v' := 8 * v + (c.toNat - 48)
      if v' > allBits then none else octal f v' cs
    else some (v, c :: cs)

def letterBits : Char → Option Nat
  | 'r' => some 0o444
  | 'w' => some 0o222
  | 'x' => some 0o111
  | 's' => some 0o6000
  | 't' => some 0o1000
  | 'X' => some 0
  | _ => none

/-- What follows an operator: the bits it gives, where they come from, the bits it speaks of
when that is fixed, and what is left; none when the text is not a mode. -/
def operand (affected : Nat) (cs : List Char) : Option ((Nat × Source × Option Nat) × List Char) :=
  match cs with
  | 'u' :: rest => some ((0o700, .copy, none), rest)
  | 'g' :: rest => some ((0o70, .copy, none), rest)
  | 'o' :: rest => some ((0o7, .copy, none), rest)
  | c :: _ =>
    if isOctal c then do
      let (v, rest) ← octal (cs.length + 1) 0 cs
      if affected != 0 || !(rest.isEmpty || rest.head? == some ',') then none
      else some ((v, .bits, some allBits), rest)
    else
      let letters := cs.takeWhile fun c => (letterBits c).isSome
      let value := letters.foldl (fun v c => v ||| (letterBits c).getD 0) 0
      let source := if letters.contains 'X' then .executeIfAny else .bits
      some ((value, source, none), cs.drop letters.length)
  | [] => some ((0, .bits, none), [])

def clauseChanges (affected : Nat) : Nat → List Char → Option (List Change × List Char)
  | 0, _ => none
  | f + 1, cs =>
    match cs with
    | c :: rest =>
      match operator c with
      | none => some ([], cs)
      | some op => do
        let ((value, source, fixed), rest) ← operand affected rest
        -- octal digits speak of every bit, and the clause is then about every bit
        let affected := if fixed.isSome then allBits else affected
        let mentioned := fixed.getD (if affected != 0 then affected &&& value else value)
        let (more, rest) ← clauseChanges affected f rest
        some (⟨op, source, affected, value, mentioned⟩ :: more, rest)
    | [] => some ([], [])

def clauses : Nat → List Char → Option (List Change)
  | 0, _ => none
  | f + 1, cs =>
    let who := cs.takeWhile fun c => (classBits c).isSome
    let affected := who.foldl (fun a c => a ||| (classBits c).getD 0) 0
    match cs.drop who.length with
    | c :: rest =>
      if (operator c).isNone then none
      else do
        let (changes, rest) ← clauseChanges affected (rest.length + 2) (c :: rest)
        match rest with
        | [] => some changes
        | ',' :: more => (clauses f more).map (changes ++ ·)
        | _ => none
    | [] => none

def compile (s : String) : Option (List Change) :=
  let cs := s.toList
  match cs with
  | c :: _ =>
    if isOctal c then do
      let (v, rest) ← octal (cs.length + 1) 0 cs
      if !rest.isEmpty then none
      else
        -- up to four digits leave the set-user and set-group bits of a directory alone
        let mentioned := if cs.length < 5 then (v &&& 0o6000) ||| 0o1000 ||| 0o777 else allBits
        some [⟨.set, .bits, allBits, v, mentioned⟩]
    else clauses (cs.length + 1) cs
  | [] => none

def anyOf (m x : Nat) : Bool := m &&& x != 0

def applyChange (dir : Bool) (umask : Nat) (mode : Nat) (c : Change) : Nat :=
  let omitted := (if dir then 0o6000 else 0) &&& outside c.mentioned
  let value :=
    match c.source with
    | .bits => c.value
    | .copy =>
      let v := c.value &&& mode
      v ||| (if anyOf v 0o444 then 0o444 else 0) ||| (if anyOf v 0o222 then 0o222 else 0) |||
        (if anyOf v 0o111 then 0o111 else 0)
    | .executeIfAny => if anyOf mode 0o111 || dir then c.value ||| 0o111 else c.value
  let value := value &&& (if c.affected != 0 then c.affected else outside umask) &&& outside omitted
  match c.op with
  | .set =>
    let kept := (if c.affected != 0 then outside c.affected else 0) ||| omitted
    (mode &&& kept) ||| value
  | .add => mode ||| value
  | .remove => mode &&& outside value

def adjust (dir : Bool) (umask : Nat) (mode : Nat) (changes : List Change) : Nat :=
  changes.foldl (applyChange dir umask) (mode &&& allBits)

end Updater.Shell.Mode
