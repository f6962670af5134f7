import Updater.Failure
import Updater.Install.Kind
import Updater.Text.Blank
/-!
Update channels and where the effective one comes from.

A channel is `stable`, `beta` or `dev`. The effective channel of a run is the one asked for on
the command line, else the one stored in the configuration, else the default of the kind of
installation (`dev` for checkouts, `stable` otherwise). Asking for `dev` on a package install,
or for a release channel on a checkout, switches the kind of installation.
-/

namespace Updater

inductive Channel
  | stable
  | beta
  | dev
  deriving DecidableEq, Repr, Inhabited

namespace Channel

def name : Channel → String
  | stable => "stable"
  | beta => "beta"
  | dev => "dev"

def distTag? : Channel → Option String
  | stable => some "latest"
  | beta => some "beta"
  | dev => none

/-- Reads a channel name, ignoring blanks around it and ASCII case. The error quotes the text
as given. -/
def parse (raw : String) : Except UpdateError Channel :=
  match (String.ofList ((Text.trimChars raw.toList).map Char.toLower)) with
  | "stable" => .ok stable
  | "beta" => .ok beta
  | "dev" => .ok dev
  | _ => .error (.invalidChannel raw)

/-- An optional channel argument: absent or blank means none; otherwise the trimmed text must
name a channel. -/
def normalize (raw : Option String) : Except UpdateError (Option Channel) :=
  match raw.map Text.trim with
  | none => .ok none
  | some "" => .ok none
  | some v => (parse v).map some

def defaultFor : InstallKind → Channel
  | .git => dev
  | .package | .unknown => stable

end Channel

inductive ChannelSource
  | explicit
  | storedConfig
  | installDefault
  deriving DecidableEq, Repr, Inhabited

namespace ChannelSource

def label : ChannelSource → String
  | explicit => "explicit"
  | storedConfig => "config"
  | installDefault => "default"

def name : ChannelSource → String
  | explicit => "explicit"
  | storedConfig => "stored-config"
  | installDefault => "install-default"

end ChannelSource

structure Resolution where
  channel : Channel
  source : ChannelSource
  deriving DecidableEq, Repr, Inhabited

def Resolution.resolve (requested stored : Option Channel) (kind : InstallKind) : Resolution :=
  match requested, stored with
  | some c, _ => ⟨c, .explicit⟩
  | none, some c => ⟨c, .storedConfig⟩
  | none, none => ⟨Channel.defaultFor kind, .installDefault⟩

inductive KindTransition
  | stay
  | switchToGit
  | switchToPackage
  deriving DecidableEq, Repr, Inhabited

namespace KindTransition

/-- `dev` asked for on anything but a checkout moves to a checkout; a release channel asked
for on a checkout moves to a package. -/
def ofRequest (requested : Option Channel) (current : InstallKind) : KindTransition :=
  match requested with
  | some .dev => if current = .git then stay else switchToGit
  | some .stable | some .beta => if current = .git then switchToPackage else stay
  | none => stay

def targetKind (t : KindTransition) (current : InstallKind) : InstallKind :=
  match t with
  | stay => current
  | switchToGit => .git
  | switchToPackage => .package

def name : KindTransition → String
  | stay => "stay"
  | switchToGit => "switch-to-git"
  | switchToPackage => "switch-to-package"

end KindTransition

end Updater
