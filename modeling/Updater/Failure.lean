/-!
Why an update stops.

`UpdateError` names every cause that ends a run before (or instead of) a result: bad
arguments, preconditions, a confirmation that cannot be asked for, and trouble with the
machine. A `Failure` is such a cause under a chain of context lines, outermost first, the way
errors travel up through the engine. `Failure.advice` turns a failure into what a person
reads: the error, details and a suggestion.
-/

namespace Updater

inductive IoKind
  | notFound
  | permissionDenied
  | alreadyExists
  | notADirectory
  | isADirectory
  | invalidInput
  | directoryNotEmpty
  | other
  deriving DecidableEq, Repr, Inhabited

def IoKind.name : IoKind → String
  | .notFound => "NotFound"
  | .permissionDenied => "PermissionDenied"
  | .alreadyExists => "AlreadyExists"
  | .notADirectory => "NotADirectory"
  | .isADirectory => "IsADirectory"
  | .invalidInput => "InvalidInput"
  | .directoryNotEmpty => "DirectoryNotEmpty"
  | .other => "Other"

def IoKind.ofName (name : String) : IoKind :=
  ([IoKind.notFound, .permissionDenied, .alreadyExists, .notADirectory, .isADirectory,
    .invalidInput, .directoryNotEmpty].find? (·.name == name)).getD .other

structure IoError where
  kind : IoKind
  text : String
  deriving DecidableEq, Repr, Inhabited

namespace IoError

def ofCode (kind : IoKind) (description : String) (code : Nat) : IoError :=
  ⟨kind, description ++ " (os error " ++ toString code ++ ")"⟩

def notFound : IoError := ofCode .notFound "No such file or directory" 2
def permissionDenied : IoError := ofCode .permissionDenied "Permission denied" 13
def alreadyExists : IoError := ofCode .alreadyExists "File exists" 17
def notADirectory : IoError := ofCode .notADirectory "Not a directory" 20
def isADirectory : IoError := ofCode .isADirectory "Is a directory" 21
def directoryNotEmpty : IoError := ofCode .directoryNotEmpty "Directory not empty" 39
def execFormat : IoError := ofCode .other "Exec format error" 8

end IoError

inductive UpdateError
  | invalidChannel (value : String)
  | invalidTimeout (value : String)
  | invalidTag
  | configInvalid (path : String) (issues : List String)
  | confirmationRequired (current target reason : String)
  | gitDirNotCheckout (path : String)
  | gitDirNotCore (path : String)
  | lockHeld (path : String)
  | configError (message : String)
  | spawnFailed (program reason : String)
  | interrupted
  | fileSystemError (operation path : String)
  | permissionDenied (operation path : String)
  | other (message : String)
  deriving DecidableEq, Repr, Inhabited

namespace UpdateError

def message : UpdateError → String
  | invalidChannel v =>
    "--channel must be \"stable\", \"beta\", or \"dev\" (got \"" ++ v ++ "\")"
  | invalidTimeout v => "--timeout must be a positive integer (seconds), got \"" ++ v ++ "\""
  | invalidTag => "--tag must not be empty"
  | configInvalid p _ => "Config is invalid; cannot set update channel (" ++ p ++ ")"
  | confirmationRequired c t _ => "Downgrade confirmation required (" ++ c ++ " -> " ++ t ++ ")"
  | gitDirNotCheckout p => "OPENCLAW_GIT_DIR points at a non-git directory: " ++ p
  | gitDirNotCore p => "OPENCLAW_GIT_DIR does not look like a core checkout: " ++ p
  | lockHeld p => "Another update is already running (lock held: " ++ p ++ ")"
  | configError m => "Configuration error: " ++ m
  | spawnFailed p r => "Failed to run " ++ p ++ ": " ++ r
  | interrupted => "Update interrupted"
  | fileSystemError o p => "File system error: " ++ o ++ " on " ++ p
  | permissionDenied o p => "Permission denied: " ++ o ++ " on " ++ p
  | other m => m

def kindName : UpdateError → String
  | invalidChannel _ => "InvalidChannel"
  | invalidTimeout _ => "InvalidTimeout"
  | invalidTag => "InvalidTag"
  | configInvalid _ _ => "ConfigInvalid"
  | confirmationRequired _ _ _ => "ConfirmationRequired"
  | gitDirNotCheckout _ => "GitDirNotCheckout"
  | gitDirNotCore _ => "GitDirNotCore"
  | lockHeld _ => "LockHeld"
  | configError _ => "ConfigError"
  | spawnFailed _ _ => "SpawnFailed"
  | interrupted => "Interrupted"
  | fileSystemError _ _ => "FileSystemError"
  | permissionDenied _ _ => "PermissionDenied"
  | other _ => "Other"

/-- The error named by its variant, its fields read by name, as text or as a list of texts;
an unknown name stands for `other` with the field `message`. -/
def ofFields (kind : String) (text : String → String) (texts : String → List String) :
    UpdateError :=
  match kind with
  | "InvalidChannel" => invalidChannel (text "value")
  | "InvalidTimeout" => invalidTimeout (text "value")
  | "InvalidTag" => invalidTag
  | "ConfigInvalid" => configInvalid (text "path") (texts "issues")
  | "ConfirmationRequired" => confirmationRequired (text "current") (text "target") (text "reason")
  | "GitDirNotCheckout" => gitDirNotCheckout (text "path")
  | "GitDirNotCore" => gitDirNotCore (text "path")
  | "LockHeld" => lockHeld (text "path")
  | "ConfigError" => configError (text "message")
  | "SpawnFailed" => spawnFailed (text "program") (text "reason")
  | "Interrupted" => interrupted
  | "FileSystemError" => fileSystemError (text "operation") (text "path")
  | "PermissionDenied" => permissionDenied (text "operation") (text "path")
  | _ => other (text "message")

end UpdateError

inductive Cause
  | update (error : UpdateError)
  | io (error : IoError)
  | plain (texts : List String)
  deriving DecidableEq, Repr, Inhabited

namespace Cause

def chain : Cause → List String
  | update e => [e.message]
  | io e => [e.text]
  | plain ts => ts

end Cause

structure Failure where
  cause : Cause
  context : List String := []
  deriving DecidableEq, Repr, Inhabited

namespace Failure

def ofUpdate (e : UpdateError) : Failure := ⟨.update e, []⟩
def ofIo (e : IoError) : Failure := ⟨.io e, []⟩
def ofText (t : String) : Failure := ⟨.plain [t], []⟩

def within (f : Failure) (line : String) : Failure := { f with context := line :: f.context }

def chain (f : Failure) : List String := f.context ++ f.cause.chain

def headline (f : Failure) : String := (f.chain.head?).getD ""

def fullText (f : Failure) : String := ": ".intercalate f.chain

def updateError? (f : Failure) : Option UpdateError :=
  match f.cause with
  | .update e => some e
  | _ => none

/-- The kind of a failure: the variant of its updater error, `Io` and the kind of its system
error, or `Error` for a plain one. -/
def kindName (f : Failure) : String :=
  match f.cause with
  | .update e => e.kindName
  | .io e => "Io" ++ e.kind.name
  | .plain _ => "Error"

end Failure

structure Advice where
  error : UpdateError
  suggestion : Option String := none
  details : Option String := none
  deriving DecidableEq, Repr, Inhabited

namespace Advice

def ofUpdateError (e : UpdateError) : Advice :=
  match e with
  | .invalidChannel _ => ⟨e, some "Use one of: --channel stable, --channel beta, --channel dev", none⟩
  | .invalidTimeout _ => ⟨e, some "Pass the step timeout in whole seconds, e.g. --timeout 1200", none⟩
  | .invalidTag => ⟨e, some "Pass a dist-tag (latest, beta) or a version such as 1.4.2", none⟩
  | .configInvalid _ issues =>
    ⟨e, some "Fix the configuration file, or re-run without --channel", some ("\n".intercalate issues)⟩
  | .confirmationRequired _ _ reason => ⟨e, some "Re-run with --yes to accept the downgrade", some reason⟩
  | .gitDirNotCheckout _ =>
    ⟨e, some "Point OPENCLAW_GIT_DIR at an empty directory or an existing checkout",
      some "Switching to the dev channel clones the repository into that directory"⟩
  | .gitDirNotCore _ => ⟨e, some "Point OPENCLAW_GIT_DIR at a checkout of the openclaw repository", none⟩
  | .lockHeld _ =>
    ⟨e, some "Wait for the other update to finish, then try again",
      some "Only one update may modify an installation at a time"⟩
  | .spawnFailed p _ => ⟨e, some ("Make sure '" ++ p ++ "' is installed and on your PATH"), none⟩
  | .interrupted => ⟨e, some "Re-run the update; completed steps are safe to repeat", none⟩
  | .configError _ =>
    ⟨e, some "Check the config file at ~/.openclaw/config.toml (or $OPENCLAW_CONFIG_PATH)", none⟩
  | .fileSystemError _ _ | .permissionDenied _ _ | .other _ => ⟨e, none, none⟩

def render (a : Advice) : String :=
  a.error.message ++ (a.details.map ("\nDetails: " ++ ·)).getD "" ++
    (a.suggestion.map ("\nSuggestion: " ++ ·)).getD ""

end Advice

/-- The advice for a failure: its updater error when it has one; access problems of the
operating system by kind; anything else as a plain error listing its causes. -/
def Failure.advice (f : Failure) : Advice :=
  match f.cause with
  | .update e => Advice.ofUpdateError e
  | .io ⟨.permissionDenied, _⟩ =>
    ⟨.permissionDenied "file access" "unknown",
      some "Check ownership of the installation directory, or re-run with the permissions used to install it",
      some "Global package installs often live in directories owned by root"⟩
  | .io ⟨.notFound, _⟩ =>
    ⟨.fileSystemError "file access" "unknown",
      some "Check that the file or directory exists and the path is correct", none⟩
  | _ =>
    let causes := f.chain.drop 1
    let numbered := (causes.zipIdx 1).map fun (c, i) => "\n  " ++ toString i ++ ": " ++ c
    let listing := if causes.isEmpty then "" else "\n\nCaused by:" ++ String.join numbered
    ⟨.other (f.headline ++ listing), none, none⟩

end Updater
