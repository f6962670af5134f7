/-!
Kinds of installation: a git checkout of the core package, a package installed globally by a
package manager, or something the updater does not recognise.
-/

namespace Updater

inductive InstallKind
  | git
  | package
  | unknown
  deriving DecidableEq, Repr, Inhabited

def InstallKind.name : InstallKind → String
  | .git => "git"
  | .package => "package"
  | .unknown => "unknown"

end Updater
