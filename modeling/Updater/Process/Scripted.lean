import Updater.Process.Command
/-!
A runner that answers from a script instead of starting processes.

A script is a list of rules. A command's line is its argv joined by spaces; a rule matches when
its pattern occurs in the line, and the last matching rule answers. An unmatched command
succeeds silently. A rule may also fail the run itself, and may change files just before it
answers, the way a real install would.
-/

namespace Updater

inductive Effect
  | write (path content : String)
  | mkdir (path : String)
  | remove (path : String)
  deriving DecidableEq, Repr, Inhabited

inductive Reply
  | output (o : Output)
  | error (message : String)
  deriving DecidableEq, Repr, Inhabited

structure Rule where
  pattern : String
  reply : Reply := .output {}
  effects : List Effect := []
  deriving DecidableEq, Repr, Inhabited

def occursIn (pat s : String) : Bool :=
  pat.isEmpty || (s.splitOn pat).length > 1

def countRuns (calls : List String) (pat : String) : Nat := (calls.filter (occursIn pat)).length

def Rule.select? (rules : List Rule) (line : String) : Option Rule :=
  rules.reverse.find? fun r => occursIn r.pattern line

end Updater
