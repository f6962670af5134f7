import Updater.System.Machine
import Updater.Text.Alphanumeric
/-!
Shell-style expansion of paths.

Variables come first: `$NAME`, `${NAME}` and `${NAME:-default}`. A set variable gives its
value, even an empty one; an unset one gives the default when there is one and is an error
otherwise. `$$` is one `$`, and a `$` before anything else stays as it is. An unclosed `${` is
kept as text. Then a leading `~`, alone or before `/`, becomes the home directory, unless the
`~` only came from a variable.

A bare name starts with a letter, digit or `_` in the Unicode sense and runs over the name
characters after it (`$aéb/` names `aéb`, and `/` follows).
-/

namespace Updater.Expand

structure LookupError where
  name : String
  deriving DecidableEq, Repr

def LookupError.texts (e : LookupError) : List String :=
  ["error looking key '" ++ e.name ++ "' up: environment variable not found",
   "environment variable not found"]

def isNameChar (c : Char) : Bool := Text.isAlphanumeric c || c == '_'

def defaultSplit? : List Char → Nat → Option Nat
  | ':' :: '-' :: _, i => some i
  | _ :: r, i => defaultSplit? r (i + 1)
  | [], _ => none

theorem length_dropWhile_le (p : Char → Bool) : ∀ l : List Char, (l.dropWhile p).length ≤ l.length
  | [] => by simp
  | c :: r => by
    by_cases h : p c
    · have := length_dropWhile_le p r
      simp [h]; omega
    · simp [h]

def bareName (c : Char) (rest : List Char) : List Char × List Char :=
  (c :: rest.takeWhile isNameChar, rest.dropWhile isNameChar)

theorem bareName_length (c : Char) (rest : List Char) :
    (bareName c rest).2.length ≤ rest.length + 1 := by
  simp only [bareName]
  have := length_dropWhile_le isNameChar rest
  omega

def expandVars (lookup : String → Option String) : List Char → List Char → Except LookupError (List Char)
  | acc, [] => .ok acc.reverse
  | acc, '$' :: '\x7b' :: rest =>
    match rest.findIdx? (· == '\x7d') with
    | none => expandVars lookup ('\x7b' :: '$' :: acc) rest
    | some close =>
      let inner := rest.take close
      let after := rest.drop (close + 1)
      let (name, dflt) := match defaultSplit? inner 0 with
        | some k => if k = 0 then (inner, none) else (inner.take k, some (inner.drop (k + 2)))
        | none => (inner, none)
      match lookup (String.ofList name), dflt with
      | some v, _ => expandVars lookup (v.toList.reverse ++ acc) after
      | none, some d => expandVars lookup (d.reverse ++ acc) after
      | none, none => .error ⟨String.ofList name⟩
  | acc, '$' :: c :: rest =>
    if isNameChar c then
      let r := bareName c rest
      have _hr : (bareName c rest).2.length ≤ rest.length + 1 := bareName_length c rest
      match lookup (String.ofList r.1) with
      | some v => expandVars lookup (v.toList.reverse ++ acc) r.2
      | none => .error ⟨String.ofList r.1⟩
    else if c == '$' then expandVars lookup ('$' :: acc) rest
    else expandVars lookup ('$' :: acc) (c :: rest)
  | acc, c :: rest => expandVars lookup (c :: acc) rest
termination_by _ cs => cs.length
decreasing_by
  all_goals
    simp_wf <;> omega

def tilde (home : String) (s : String) : String :=
  match s.toList with
  | '~' :: rest => if rest.isEmpty || rest.head? == some '/' then home ++ String.ofList rest else s
  | _ => s

def full (m : Machine) (raw : String) : Except LookupError String := do
  let lookup := fun k => if k.isEmpty then none else m.getEnv? k
  let out := String.ofList (← expandVars lookup [] raw.toList)
  if !raw.startsWith "~" && out.startsWith "~" then return out
  return tilde m.home out

end Updater.Expand
