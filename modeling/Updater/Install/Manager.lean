import Updater.Text.Blank
/-!
Global package managers.

A published install belongs to npm, pnpm or bun. Each installs a spec globally (`npm i -g`,
`pnpm add -g`, `bun add -g`), installs a checkout's dependencies (`install`) and runs its
scripts (`run <script>`). When a manager must be chosen without knowing the owner, they are
tried in the order npm, pnpm, bun.
-/

namespace Updater

inductive Manager
  | npm
  | pnpm
  | bun
  deriving DecidableEq, Repr, Inhabited

namespace Manager

def all : List Manager := [npm, pnpm, bun]

def program : Manager → String
  | npm => "npm"
  | pnpm => "pnpm"
  | bun => "bun"

def globalInstallArgs (m : Manager) (spec : String) : List String :=
  match m with
  | npm => ["npm", "i", "-g", spec]
  | pnpm => ["pnpm", "add", "-g", spec]
  | bun => ["bun", "add", "-g", spec]

def installDepsArgs (m : Manager) : List String := [m.program, "install"]

def runScriptArgs (m : Manager) (script : String) : List String := [m.program, "run", script]

def ofName? : String → Option Manager
  | "npm" => some npm
  | "pnpm" => some pnpm
  | "bun" => some bun
  | _ => none

end Manager

/-- The package a spec names: the spec without a version or range after `@` (a scope's own
leading `@` is kept). -/
def packageNameOfSpec (spec : String) : String :=
  let cs := (spec.toList.dropWhile isBlank).reverse.dropWhile isBlank |>.reverse
  let hasScope := cs.head? == some '@'
  let body := if hasScope then cs.drop 1 else cs
  let name := body.takeWhile (· != '@')
  String.ofList ((if hasScope then ['@'] else []) ++ name)
where
  isBlank (c : Char) : Bool := Text.isBlank c

end Updater
