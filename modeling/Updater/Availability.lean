import Updater.Json
import Updater.Version.Triple
/-!
Whether a newer version is published: the installed version against the channel's published
one, compared by their leading `major.minor.patch`.
-/

namespace Updater

inductive Availability
  | upToDate
  | available (version : String)
  | unknown
  deriving DecidableEq, Repr, Inhabited

namespace Availability

def of (current latest : Option String) : Availability :=
  match current, latest with
  | some c, some l =>
    match Version.compareCoarse c l with
    | some .lt => available l
    | some _ => upToDate
    | none => unknown
  | _, _ => unknown

def display : Availability → String
  | upToDate => "up to date"
  | available v => "update available (" ++ v ++ ")"
  | unknown => "unknown"

def toJson : Availability → Json
  | upToDate => .obj [("state", .str "up-to-date")]
  | available v => .obj [("state", .str "available"), ("version", .str v)]
  | unknown => .obj [("state", .str "unknown")]

end Availability

end Updater
