import Updater.Text.Utf8
/-!
How the machine's programs read their command lines.

A program names its short options, one byte each, with what each takes after it, and its long
options, each with a key it reports under (the key of a short option is its letter). The words
are read in order:

* `--` ends the options: every word after it is an operand;
* `-` and every word not starting with `-` is an operand, and reading goes on past it, so
  options may follow operands (unless the order is strict, when the first operand ends them);
* `--name` or `--name=value` is a long option. A name that is no option's name in full may be
  the start of one: of several such, the first is taken when they all mean the same, and
  otherwise the word is ambiguous. An option that takes an argument takes the `=value` or else
  the next word, whatever it is; one that may take an argument takes only the `=value`;
* any other word is a cluster of short options: an option that takes an argument takes the rest
  of the cluster, or else the next word; one that may take one takes only the rest.

Reading stops at the first word that is wrong, with the message for it. The operands read
before that point are kept, but the program does not get to use them.
-/

namespace Updater.Shell.Arguments

inductive Takes
  | nothing
  | required
  | optional
  deriving DecidableEq, Repr

structure Long where
  name : String
  takes : Takes
  key : String
  deriving DecidableEq, Repr

structure Spec where
  short : List (UInt8 × Takes)
  long : List Long
  strict : Bool := false

/-- The short options of a program, written as letters, each followed by `:` when it takes an
argument and by `::` when it may take one. -/
def shortOptions (letters : String) : List (UInt8 × Takes) :=
  let rec go : Nat → List Char → List (UInt8 × Takes)
    | 0, _ => []
    | _, [] => []
    | f + 1, c :: ':' :: ':' :: rest => (c.toNat.toUInt8, .optional) :: go f rest
    | f + 1, c :: ':' :: rest => (c.toNat.toUInt8, .required) :: go f rest
    | f + 1, c :: rest => (c.toNat.toUInt8, .nothing) :: go f rest
  go (letters.length + 1) letters.toList

structure Found where
  key : String
  arg : Option String
  word : String
  deriving DecidableEq, Repr

/-- A reading of a command line: the options found, in order, the operands, and the message of
the word that stopped the reading, if one did. -/
structure Reading where
  found : List Found := []
  operands : List String := []
  error : Option (List UInt8) := none
  deriving Repr

def bytes (s : String) : List UInt8 := s.toUTF8.toList

def keyOf (c : UInt8) : String := String.singleton (Char.ofNat c.toNat)

/-- Reads a cluster of short options, the `-` already dropped: what it found, and the words
left after it, or the message that stopped it. -/
def cluster (spec : Spec) (word : String) :
    List UInt8 → List String → List Found × Except (List UInt8) (List String)
  | [], rest => ([], .ok rest)
  | c :: more, rest =>
    match (spec.short.find? (·.1 == c)).map (·.2) with
    | none => ([], .error (bytes "invalid option -- '" ++ [c] ++ bytes "'"))
    | some .nothing =>
      let (fs, r) := cluster spec word more rest
      (⟨keyOf c, none, word⟩ :: fs, r)
    | some .optional =>
      ([⟨keyOf c, if more.isEmpty then none else some (Text.decodeLossy more), word⟩], .ok rest)
    | some .required =>
      if !more.isEmpty then ([⟨keyOf c, some (Text.decodeLossy more), word⟩], .ok rest)
      else match rest with
        | x :: rest' => ([⟨keyOf c, some x, word⟩], .ok rest')
        | [] => ([], .error (bytes "option requires an argument -- '" ++ [c] ++ bytes "'"))

/-- The long options a name may stand for: one meant in full, the first of several that start
with it and all mean the same, or, when they differ, all those that differ from the first. -/
def meanings (spec : Spec) (name : String) : List Long :=
  match spec.long.find? (·.name == name) with
  | some o => [o]
  | none =>
    match spec.long.filter (name.isPrefixOf ·.name) with
    | [] => []
    | first :: others =>
      let differing := others.filter fun o => o.takes != first.takes || o.key != first.key
      first :: differing

/-- Reads a long option, the `--` already dropped: what it found and the words left, or the
message that stopped it. -/
def longOption (spec : Spec) (body : String) (rest : List String) :
    Except (List UInt8) (Found × List String) :=
  let name := String.ofList (body.toList.takeWhile (· != '='))
  let value : Option String :=
    if body.toList.contains '=' then some (String.ofList (body.toList.drop (name.length + 1)))
    else none
  match meanings spec name with
  | [] => .error (bytes ("unrecognized option '--" ++ body ++ "'"))
  | [o] =>
    match value, o.takes with
    | some _, .nothing => .error (bytes ("option '--" ++ o.name ++ "' doesn't allow an argument"))
    | some v, _ => .ok (⟨o.key, some v, "--" ++ body⟩, rest)
    | none, .required =>
      match rest with
      | x :: rest' => .ok (⟨o.key, some x, "--" ++ body⟩, rest')
      | [] => .error (bytes ("option '--" ++ o.name ++ "' requires an argument"))
    | none, _ => .ok (⟨o.key, none, "--" ++ body⟩, rest)
  | several =>
    .error (bytes ("option '--" ++ body ++ "' is ambiguous; possibilities:" ++
      String.join (several.map fun o => " '--" ++ o.name ++ "'")))

def readWords (spec : Spec) : Nat → List String → Reading → Reading
  | 0, _, r => r
  | _, [], r => r
  | f + 1, w :: rest, r =>
    if w == "--" then { r with operands := r.operands ++ rest }
    else if w == "-" || !w.startsWith "-" then
      if spec.strict then { r with operands := r.operands ++ w :: rest }
      else readWords spec f rest { r with operands := r.operands ++ [w] }
    else if w.startsWith "--" then
      match longOption spec (String.ofList (w.toList.drop 2)) rest with
      | .error msg => { r with error := some msg }
      | .ok (found, rest') => readWords spec f rest' { r with found := r.found ++ [found] }
    else
      match cluster spec w ((bytes w).drop 1) rest with
      | (fs, .error msg) => { r with found := r.found ++ fs, error := some msg }
      | (fs, .ok rest') => readWords spec f rest' { r with found := r.found ++ fs }

def read (spec : Spec) (words : List String) : Reading :=
  readWords spec (words.length + 1) words {}

inductive BadChoice
  | invalid
  | ambiguous
  deriving DecidableEq, Repr

/-- The value an option's argument names among its choices: a choice named in full, or else
the one choice it starts, or several that all have one value. -/
def choose {α : Type} [BEq α] (choices : List (String × α)) (arg : String) : Except BadChoice α :=
  match choices.find? (·.1 == arg) with
  | some (_, v) => .ok v
  | none =>
    match choices.filter (arg.isPrefixOf ·.1) with
    | [] => .error .invalid
    | (_, v) :: others => if others.all (·.2 == v) then .ok v else .error .ambiguous

def groups {α : Type} [BEq α] : List (String × α) → List (List String)
  | [] => []
  | (n, v) :: rest =>
    let same := rest.takeWhile (·.2 == v)
    (n :: same.map (·.1)) :: groups (rest.drop same.length)
termination_by cs => cs.length
decreasing_by simp only [List.length_drop, List.length_cons]; omega

end Updater.Shell.Arguments
