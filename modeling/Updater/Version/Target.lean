import Updater.Failure
import Updater.Text.Blank
import Updater.Version.SemVer
import Updater.Version.Triple
/-!
Version targets and the downgrade rule.

A target is a registry tag together with the version it names, when known. A tag given on the
command line is trimmed and may carry the package name in front (`openclaw@1.9.0`); a tag that
reads as a version (after one leading `v`) names that version without asking the registry.
Moving to a version older than the installed one, or to one that cannot be determined, needs
confirmation, except after the beta channel fell back to `latest`.
-/

namespace Updater

structure VersionTarget where
  tag : String
  version : Option String := none
  deriving DecidableEq, Repr, Inhabited

def VersionTarget.label (t : VersionTarget) : String := t.version.getD t.tag

namespace Version

def corePackage : String := "openclaw"

/-- A tag from the command line: trimmed, one `openclaw@` dropped, trimmed again; an empty tag
is refused. -/
def normalizeTag (raw : String) : Except UpdateError String :=
  let t := Text.trimChars raw.toList
  let prefixChars := (corePackage ++ "@").toList
  let t := if prefixChars.isPrefixOf t then Text.trimChars (t.drop prefixChars.length) else t
  if t.isEmpty then .error .invalidTag else .ok (String.ofList t)

/-- The version a tag names by itself: the trimmed tag without one leading `v`, when it is a
semantic version. -/
def ofTag? (tag : String) : Option String :=
  let t := Text.trimChars tag.toList
  let t := match t with | 'v' :: r => r | r => r
  (SemVer.parse? (String.ofList t)).map fun _ => String.ofList t

def needsConfirmation (current target : Option String) (fellBack : Bool) : Bool :=
  if fellBack then false
  else match current, target with
    | none, _ => false
    | some _, none => true
    | some c, some t => compareCoarse c t == some .gt

end Version

end Updater
