import Updater.Text.Blank
/-!
Commands and what they print.

A command is a program with arguments, an optional working directory, extra environment
variables, an optional time limit and a label for logs. Its line is the program and the
arguments joined by single spaces, without quoting: that line is what step results, logs and
scripted runners see. An output carries both streams and the exit code, which is absent when
the process was killed or timed out.
-/

namespace Updater

def defaultStepTimeoutMs : Nat := 1200000

structure Command where
  program : String
  args : List String := []
  cwd : Option String := none
  env : List (String × String) := []
  timeoutMs : Option Nat := some defaultStepTimeoutMs
  context : Option String := none
  deriving DecidableEq, Repr, Inhabited

namespace Command

def ofArgv? : List String → Option Command
  | [] => none
  | p :: args => some { program := p, args := args }

def argv (c : Command) : List String := c.program :: c.args

def line (c : Command) : String := " ".intercalate c.argv

def inDir (c : Command) (dir : String) : Command := { c with cwd := some dir }

def withTimeout (c : Command) (ms : Option Nat) : Command := { c with timeoutMs := ms }

def withContext (c : Command) (label : String) : Command := { c with context := some label }

end Command

structure Output where
  stdout : String := ""
  stderr : String := ""
  code : Option Int := some 0
  deriving DecidableEq, Repr, Inhabited

namespace Output

def success (o : Output) : Bool := o.code == some 0

def stdoutTrimmed? (o : Output) : Option String :=
  if o.success then
    let t := Text.trim o.stdout
    if t.isEmpty then none else some t
  else none

end Output

def trimLogTail (text : String) (max : Nat) : Option String :=
  if text.isEmpty then none
  else
    let cs := text.toList
    some (String.ofList (cs.drop (cs.length - max)))

def maxLogChars : Nat := 8000

end Updater
