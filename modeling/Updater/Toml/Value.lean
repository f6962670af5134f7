import Updater.Toml.Document
import Updater.Json
/-!
Plain TOML values: what a document means once the way it was written is forgotten.

Tables are lists of entries sorted by name, so two documents that say the same thing give the
same value. Arrays of tables become arrays of tables' values, inline tables become tables.

As JSON, a date-time is an object with the one member `$__toml_private_datetime` holding its
text, a float is a double, and floats that are not finite are `null`.
-/

namespace Updater.Toml

inductive Value
  | string (s : String)
  | integer (i : Int)
  | float (x : Text.Binary64)
  | boolean (b : Bool)
  | datetime (d : Datetime)
  | array (items : List Value)
  | table (entries : List (String × Value))
  deriving Repr, Inhabited

def sortByName {α : Type} (es : List (String × α)) : List (String × α) :=
  es.mergeSort fun a b => decide (a.1 ≤ b.1)

def Scalar.toValue : Scalar → Value
  | .string s => .string s
  | .integer i => .integer i
  | .float x => .float x
  | .boolean b => .boolean b
  | .datetime d => .datetime d

mutual

def Node.toValue : Node → Value
  | .scalar v .. => v.toValue
  | .array items .. => .array (nodesToValues items)
  | .inline es .. => .table (sortByName (entriesToValues es))
  | .table es .. => .table (sortByName (entriesToValues es))
  | .tables items _ => .array (nodesToValues items)

def nodesToValues : List Node → List Value
  | [] => []
  | n :: rest => n.toValue :: nodesToValues rest

def entriesToValues : List (Key × Node) → List (String × Value)
  | [] => []
  | (k, n) :: rest => (k.name, n.toValue) :: entriesToValues rest

end

mutual

def Value.toJson : Value → Json
  | .string s => .str s
  | .integer i => .int i
  | .float x =>
    match x with
    | .finite .. => .double x
    | _ => .null
  | .boolean b => .bool b
  | .datetime d => .obj [("$__toml_private_datetime", .str d.render)]
  | .array items => .arr (valuesToJson items)
  | .table es => .obj (entriesToJson es)

def valuesToJson : List Value → List Json
  | [] => []
  | v :: rest => v.toJson :: valuesToJson rest

def entriesToJson : List (String × Value) → List (String × Json)
  | [] => []
  | (k, v) :: rest => (k, v.toJson) :: entriesToJson rest

end

end Updater.Toml
