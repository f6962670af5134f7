import Updater.Channel
import Updater.Version.Triple
/-!
Dist-tags and what a channel resolves to.

A registry publishes, per package, a map from dist-tags to versions. A channel reads its own tag
(`latest`, `beta`, or `dev`). The beta channel falls back to `latest` when it has no beta, or its
beta is older than `latest`; the target then is `latest` and the fallback is recorded, since a
fallback is never a downgrade to confirm. A registry that cannot be reached leaves the version
unknown.
-/

namespace Updater.Registry

def defaultUrl : String := "https://registry.npmjs.org"

def devTag : String := "dev"

/-- Where the dist-tags of a package are published: the base without trailing slashes, and the
package name with `/` written `%2f`. -/
def distTagsUrl (base package : String) : String :=
  let b := String.ofList (base.toList.reverse.dropWhile (· == '/')).reverse
  b ++ "/-/package/" ++ package.replace "/" "%2f" ++ "/dist-tags"

abbrev DistTags := List (String × String)

def lookupTag (tags : DistTags) (tag : String) : Option String :=
  (tags.find? (·.1 == tag)).map (·.2)

structure ResolvedTag where
  tag : String
  version : Option String := none
  fellBack : Bool := false
  deriving DecidableEq, Repr, Inhabited

def resolveChannel (channel : Channel) (tags : Option DistTags) : ResolvedTag :=
  let tag := channel.distTag?.getD devTag
  match tags with
  | none => ⟨tag, none, false⟩
  | some tags =>
    let version := lookupTag tags tag
    if channel ≠ .beta then ⟨tag, version, false⟩
    else match lookupTag tags "latest" with
      | none => ⟨tag, version, false⟩
      | some latest =>
        let stale : Bool := match version with
          | none => true
          | some beta => Version.compareCoarse beta latest == some .lt
        if stale then ⟨"latest", some latest, true⟩ else ⟨tag, version, false⟩

end Updater.Registry
