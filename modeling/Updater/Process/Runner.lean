import Updater.World
/-!
Running a command in the world.

Every command line run is logged. A scripted runner answers from its rules, applying the
rule's file changes first; a runner failure carries the rule's message. The system runner
starts the program on the machine; its behaviour is given by `spawn`, which the process layer
supplies.
-/

namespace Updater

def Effect.apply : Effect → Act Unit
  | .write p content => do
    let _ ← Act.changeFs fun fs cwd => do
      let fs ← match Path.parent? p with
        | some q => fs.createDirs cwd q
        | none => .ok fs
      fs.writeFile cwd p content
  | .mkdir p => do
    let _ ← Act.changeFs fun fs cwd => fs.createDirs cwd p
  | .remove p => do
    let _ ← Act.changeFs fun fs cwd => fs.removeAll cwd p

def answerFromScript (rules : List Rule) (line : String) : Act (Except Failure Output) := do
  match Rule.select? rules line with
  | none => return .ok {}
  | some r =>
    for e in r.effects do e.apply
    match r.reply with
    | .output o => return .ok o
    | .error m => return .error (.ofText m)

end Updater
