/-!
The syntax of the small POSIX shell that runs scripts on the machine.

A word is a list of pieces: text, quoted or not, and expansions: parameters (`$name`, `$1`,
`$*`, ...), parameters with an operation (`${name:-word}`, `${name%pattern}`, ...), the length
of a parameter (`${#name}`), command substitutions (`$(...)` and backquotes, kept as the text
of their script and read when they run), arithmetic (`$((...))`) and a leading `~`. Quoting
decides what expansion may do to a piece: quoted text is never split and never a pattern.

A command is a simple command (assignments, words and redirections, with its line for error
messages), a pipeline, an and-or list, a sequence, a negation, a group `{ ...; }`, a subshell
`( ... )`, `if`, `case`, `for`, `while`, `until`, a function definition, or one of these with
redirections of its own.
-/

namespace Updater.Shell

/-- What `${name...}` does with its parameter. `colon` says whether an empty value counts as
unset. -/
inductive ParamOp
  | orElse (colon : Bool)
  | assign (colon : Bool)
  | orFail (colon : Bool)
  | andThen (colon : Bool)
  | dropSuffix (longest : Bool)
  | dropPrefix (longest : Bool)
  | bad
  deriving DecidableEq, Repr, Inhabited

inductive Piece
  | text (s : String) (quoted : Bool)
  | param (name : String) (quoted : Bool)
  | length (name : String) (quoted : Bool)
  | paramOp (name : String) (op : ParamOp) (word : List Piece) (quoted : Bool)
  | command (script : String) (backquoted : Bool) (quoted : Bool) (line : Nat)
  | arith (expr : List Piece) (quoted : Bool)
  /-- A `~` starting a word, or a part of an assignment's value: the home directory of the
  user named, or of this one (`HOME`) when none is. -/
  | tilde (user : String)
  deriving Repr, Inhabited

abbrev Word := List Piece

inductive Redir
  /-- Output to a file, truncating it or appending to it; `force` (from `>|`) truncates even
  when `set -C` keeps files from being overwritten. -/
  | toFile (fd : Nat) (target : Word) (append : Bool) (force : Bool)
  | fromFile (fd : Nat) (target : Word)
  | dup (fd : Nat) (target : Word)
  | here (fd : Nat) (body : Word)
  deriving Repr, Inhabited

inductive Cmd
  | simple (assigns : List (String × Word)) (words : List Word) (redirs : List Redir) (line : Nat)
  | pipe (first second : Cmd)
  | seq (first second : Cmd)
  | andIf (first second : Cmd)
  | orIf (first second : Cmd)
  | negate (c : Cmd)
  | group (body : Cmd)
  | subshell (body : Cmd)
  | redirected (c : Cmd) (redirs : List Redir) (line : Nat)
  | ifThen (cond body orElse : Cmd)
  | caseOf (subject : Word) (arms : List (List Word × Cmd)) (line : Nat)
  | forIn (name : String) (words : Option (List Word)) (body : Cmd) (line : Nat)
  | loop (negated : Bool) (cond body : Cmd)
  | function (name : String) (body : Cmd) (line : Nat)
  | background (c : Cmd)
  | skip
  deriving Repr, Inhabited

inductive Token
  | word (w : Word) (plain : Option String)
  | op (s : String)
  | redir (fd : Option Nat) (op : String)
  | eof
  | error (message : String)
  /-- A `$(` whose text runs to the end of the script without being closed: the text after it.
  Reading it is a syntax error: the first mistake of the commands there, or the missing `)`. -/
  | openCommand (script : String)
  deriving Repr, Inhabited

structure Tok where
  token : Token
  line : Nat
  deriving Repr, Inhabited

end Updater.Shell
