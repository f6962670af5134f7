import Updater.Json
/-!
What a checkout says about itself: branch, exact tag and head commit, each when known.
-/

namespace Updater

def shortSha (sha : String) : String := String.ofList (sha.toList.take 8)

structure GitInfo where
  branch : Option String := none
  tag : Option String := none
  sha : Option String := none
  deriving DecidableEq, Repr, Inhabited

def GitInfo.summary (g : GitInfo) : String :=
  " · ".intercalate
    ([g.branch.getD "detached"] ++ g.tag.toList ++ (g.sha.map fun s => "@" ++ shortSha s).toList)

def GitInfo.toJson (g : GitInfo) : Json :=
  .objOpt [("branch", g.branch.map .str), ("tag", g.tag.map .str), ("sha", g.sha.map .str)]

end Updater
