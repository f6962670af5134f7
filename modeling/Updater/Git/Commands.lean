import Updater.Process.Command
/-!
The git commands the updater runs.

Every command but the clone runs `git -C <dir>`, so it works on the checkout without changing
directory. The clean check ignores the generated control UI.
-/

namespace Updater.Git

def repositoryUrl : String := "https://github.com/openclaw/openclaw.git"

def gitIn (dir : String) (args : List String) : Command :=
  { program := "git", args := ["-C", dir] ++ args }

def statusPorcelain (dir : String) : Command :=
  gitIn dir ["status", "--porcelain", "--", ":!dist/control-ui/"]

def upstream (dir : String) : Command :=
  gitIn dir ["rev-parse", "--abbrev-ref", "--symbolic-full-name", "@\x7bupstream\x7d"]

def fetch (dir : String) : Command := gitIn dir ["fetch", "--all", "--prune", "--tags"]

def rebaseUpstream (dir : String) : Command := gitIn dir ["rebase", "@\x7bupstream\x7d"]

def clone (url target : String) : Command := { program := "git", args := ["clone", url, target] }

def checkoutDetached (dir tag : String) : Command := gitIn dir ["checkout", "--detach", tag]

def listReleaseTags (dir : String) : Command := gitIn dir ["tag", "--list", "v*"]

def revParseHead (dir : String) : Command := gitIn dir ["rev-parse", "HEAD"]

def currentBranch (dir : String) : Command := gitIn dir ["rev-parse", "--abbrev-ref", "HEAD"]

def exactTag (dir : String) : Command := gitIn dir ["describe", "--tags", "--exact-match"]

end Updater.Git
