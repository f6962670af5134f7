import Updater.Toml.Source
import Updater.Toml.Datetime
import Updater.Text.Binary64
/-!
TOML documents that remember how they were written.

A document is a tree of nodes. Besides the values, it keeps everything a person wrote around
them: the text before and after each key, value and table header (`Decor`, absent meaning "the
usual"), the text of each key and scalar as written, the order of the entries, and the place of
each table header in the file. Writing a document out again reproduces its text, and a change
to one entry leaves the rest of the text alone.

Tables come in three kinds: a table opened by a header, an implicit table that only exists
because a deeper header or a dotted key names it, and a dotted table made by dotted keys. The
spans (byte ranges of the source) of values and headers let errors point at what they are
about.
-/

namespace Updater.Toml

structure Decor where
  pre : Option String := none
  suf : Option String := none
  deriving DecidableEq, Repr, Inhabited

/-- A key: its name, how it was written, the text around it as the last part of a path
(`leaf`) and as an inner part (`dotted`), and where it was written. -/
structure Key where
  name : String
  raw : Option String := none
  leaf : Decor := {}
  dotted : Decor := {}
  span : Option Span := none
  deriving DecidableEq, Repr, Inhabited

inductive Scalar
  | string (s : String)
  | integer (i : Int)
  | float (x : Text.Binary64)
  | boolean (b : Bool)
  | datetime (d : Datetime)
  deriving DecidableEq, Repr, Inhabited

inductive TableKind
  | header
  | implicit
  | dotted
  deriving DecidableEq, Repr, Inhabited

inductive Node
  | scalar (v : Scalar) (raw : Option String) (decor : Decor) (span : Option Span)
  | array (items : List Node) (trailing : String) (comma : Bool) (decor : Decor) (span : Option Span)
  | inline (entries : List (Key × Node)) (preamble : String) (dotted : Bool) (decor : Decor)
      (span : Option Span)
  | table (entries : List (Key × Node)) (kind : TableKind) (decor : Decor) (position : Option Nat)
      (span : Option Span)
  | tables (items : List Node) (span : Option Span)
  deriving Repr, Inhabited

namespace Node

def emptyTable : Node := .table [] .header {} none none

def isTableLike : Node → Bool
  | .table .. | .inline .. => true
  | _ => false

def isValue : Node → Bool
  | .scalar .. | .array .. | .inline .. => true
  | _ => false

def span? : Node → Option Span
  | .scalar _ _ _ s | .array _ _ _ _ s | .inline _ _ _ _ s | .table _ _ _ _ s | .tables _ s => s

def entries? : Node → Option (List (Key × Node))
  | .table es .. | .inline es .. => some es
  | _ => none

def withEntries (n : Node) (es : List (Key × Node)) : Node :=
  match n with
  | .table _ k d p s => .table es k d p s
  | .inline _ pre dt d s => .inline es pre dt d s
  | other => other

def decor : Node → Decor
  | .scalar _ _ d _ | .array _ _ _ d _ | .inline _ _ _ d _ | .table _ _ d _ _ => d
  | .tables .. => {}

def decorate (n : Node) (d : Decor) : Node :=
  match n with
  | .scalar v raw _ s => .scalar v raw d s
  | .array items trailing comma _ s => .array items trailing comma d s
  | .inline es pre dt _ s => .inline es pre dt d s
  | other => other

def typeName : Node → String
  | .scalar (.string _) .. => "string"
  | .scalar (.integer _) .. => "integer"
  | .scalar (.float _) .. => "float"
  | .scalar (.boolean _) .. => "boolean"
  | .scalar (.datetime _) .. => "datetime"
  | .array .. => "array"
  | .inline .. => "inline table"
  | .table .. => "table"
  | .tables .. => "array of tables"

end Node

mutual

/-- How deeply a node nests: a scalar not at all, an array or a table one level more than its
deepest item. -/
def Node.depth : Node → Nat
  | .scalar .. => 0
  | .array items .. => nodesDepth items + 1
  | .inline es .. => entriesDepth es + 1
  | .table es .. => entriesDepth es + 1
  | .tables items _ => nodesDepth items + 1

def nodesDepth : List Node → Nat
  | [] => 0
  | n :: rest => max n.depth (nodesDepth rest)

def entriesDepth : List (Key × Node) → Nat
  | [] => 0
  | (_, n) :: rest => max n.depth (entriesDepth rest)

end

def lookup (es : List (Key × Node)) (name : String) : Option Node :=
  (es.find? (·.1.name == name)).map (·.2)

def replaceEntry (es : List (Key × Node)) (name : String) (n : Node) : List (Key × Node) :=
  es.map fun (k, m) => if k.name == name then (k, n) else (k, m)

def setEntry (es : List (Key × Node)) (name : String) (n : Node) : List (Key × Node) :=
  if es.any (·.1.name == name) then replaceEntry es name n else es ++ [({ name := name }, n)]

structure Document where
  root : Node := .table [] .header {} (some 0) none
  trailing : String := ""
  deriving Repr, Inhabited

end Updater.Toml
