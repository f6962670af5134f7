import Updater.Channel
import Updater.Text.Blank
import Updater.Version.SemVer
/-!
Choosing the release tag a checkout moves to.

A listing of tags holds one tag per line. A line counts when, trimmed, it is `v` followed by a
semantic version without build metadata; a pre-release counts only on the beta channel and
only when it starts with `beta.`. The newest counting tag by version precedence wins, and of
equal ones the last listed.
-/

namespace Updater.Git

def releaseVersion? (channel : Channel) (line : String) : Option SemVer :=
  match line.toList with
  | 'v' :: r => do
    let v ← SemVer.parse? (String.ofList r)
    if !v.build.isEmpty then none
    else if v.pre.isEmpty then some v
    else if channel = .beta && "beta.".isPrefixOf (".".intercalate (v.pre.map PreIdent.text))
      then some v
    else none
  | _ => none

def laterTag (a b : SemVer × String) : SemVer × String :=
  if SemVer.compare a.1 b.1 == .gt then a else b

/-- The listed lines that count on a channel, trimmed and with their versions, in listed
order. -/
def releaseCandidates (listing : String) (channel : Channel) : List (SemVer × String) :=
  (listing.splitOn "\n").filterMap fun raw =>
    let line := Text.trim raw
    (releaseVersion? channel line).map fun v => (v, line)

def latestReleaseTag (listing : String) (channel : Channel) : Option String :=
  match releaseCandidates listing channel with
  | [] => none
  | c :: cs => some (cs.foldl laterTag c).2

end Updater.Git
