import Updater.Toml.Syntax
import Updater.Toml.Decode
import Updater.Toml.Document
/-!
Building a document from its lines.

The lines are read first (`parseLines`): a mistake in their arrangement is reported before
anything is built. Then each line is built in turn: its keys and values are decoded, and the
result is put in its place. The builder keeps the root table, the table that entries go into
(apart from the root until the next header finishes it), and how many headers were seen (the
position of the next one). Headers descend from the root, making implicit tables on the way and
going into the last table of an array of tables; entries descend from the current table along
their dotted key, making dotted tables. So a mistake in the entries of a table is reported
before a clash of its `[[header]]` with what is already there.

A table may be opened once; a table only named by a deeper header may still be opened later;
dotted keys may extend only tables they made themselves; a key may be given once per table; a
value that is not a table cannot be extended by a longer key.

The text around everything is kept as decor: the trivia before a line goes in front of its key
or header, the blanks and comment after it behind its value or header; inside arrays and
inline tables each item keeps the text around it.
-/

namespace Updater.Toml

inductive IntegerRange
  | any
  | int64
  deriving DecidableEq, Repr

def duplicateKey (k : Key) : ParseError := ⟨"duplicate key", some (k.span.getD ⟨0, 0⟩)⟩

def cannotExtend (k : Key) (n : Node) : ParseError :=
  ⟨"cannot extend value of type " ++ n.typeName ++ " with a dotted key", some (k.span.getD ⟨0, 0⟩)⟩

/-- Descends from a table along keys, making missing tables (dotted ones for a dotted key,
implicit ones for a header), and applies `f` to the table reached, which also gives a result
back. Arrays of tables lead into their last table; a dotted key may not enter a table opened by a
header, and no key may go through a value. -/
def descendWith {α : Type} (dotted : Bool) (f : Node → Except ParseError (Node × α)) :
    List Key → Node → Except ParseError (Node × α)
  | [], n => f n
  | k :: rest, n =>
    match n.entries? with
    | none => .error (duplicateKey k)
    | some es =>
      match lookup es k.name with
      | none => do
        let fresh : Node := .table [] (if dotted then .dotted else .implicit) {} none k.span
        let (child, a) ← descendWith dotted f rest fresh
        .ok (n.withEntries (es ++ [(k, child)]), a)
      | some (.tables items s) =>
        match items.getLast? with
        | some last => do
          let (last', a) ← descendWith dotted f rest last
          .ok (n.withEntries (replaceEntry es k.name (.tables (items.dropLast ++ [last']) s)), a)
        | none => .error (duplicateKey k)
      | some (.table ces kind d p s) =>
        if dotted && kind == .header then .error (duplicateKey k)
        else do
          let (child, a) ← descendWith dotted f rest (.table ces kind d p s)
          .ok (n.withEntries (replaceEntry es k.name child), a)
      | some other => .error (cannotExtend k other)

def descend (dotted : Bool) (f : Node → Except ParseError Node) (keys : List Key) (n : Node) :
    Except ParseError Node :=
  (·.1) <$> descendWith dotted (fun m => (fun r => (r, ())) <$> f m) keys n

def kindOf : Node → Option TableKind
  | .table _ k _ _ _ => some k
  | _ => none

def insertInline (es : List (Key × Node)) (leaf : Key) (v : Node) : List Key → Except ParseError (List (Key × Node))
  | [] =>
    if es.any (·.1.name == leaf.name) then .error (duplicateKey leaf)
    else .ok (es ++ [(leaf, v)])
  | k :: rest =>
    match lookup es k.name with
    | none => do
      let inner ← insertInline [] leaf v rest
      .ok (es ++ [(k, .inline inner "" true {} none)])
    | some (.inline inner pre true d s) => do
      let inner ← insertInline inner leaf v rest
      .ok (replaceEntry es k.name (.inline inner pre true d s))
    | some other => .error (cannotExtend k other)

/-- A document being built. The table that entries go into is kept apart from the root until
the next header (or the end) finishes it: only then is it put in its place, so that a table
named twice is found when the second one is finished. -/
structure Builder where
  root : Node := .table [] .header {} (some 0) none
  current : Node := .table [] .header {} (some 0) none
  path : List Key := []
  leaf : Key := { name := "" }
  inArray : Bool := false
  headers : Nat := 0
  deriving Inhabited

namespace Builder

/-- Puts the table being filled in its place: the root itself before the first header, else
below its parent, as a new table (or in place of an implicit one) or as the next table of an
array of tables. -/
def finish (b : Builder) : Except ParseError Builder := do
  if b.path.isEmpty then return { b with root := b.current }
  let leaf := b.leaf
  let root ← descend false (fun parent =>
    match parent.entries? with
    | none => .error (duplicateKey leaf)
    | some es =>
      match lookup es leaf.name, b.inArray with
      | none, false => .ok (parent.withEntries (es ++ [(leaf, b.current)]))
      | none, true => .ok (parent.withEntries (es ++ [(leaf, .tables [b.current] b.current.span?)]))
      | some (.table _ .implicit _ _ _), false =>
        .ok (parent.withEntries (replaceEntry es leaf.name b.current))
      | some (.tables items s), true =>
        .ok (parent.withEntries (replaceEntry es leaf.name (.tables (items ++ [b.current]) s)))
      | some _, _ => .error (duplicateKey leaf)) b.path.dropLast b.root
  return { b with root := root }

/-- Starts a `[header]` table. A table its parent already holds may only be an implicit one,
whose entries it takes over. -/
def startTable (b : Builder) (path : List Key) (leaf : Key) (decor : Decor) (span : Span) :
    Except ParseError Builder := do
  let pos := b.headers + 1
  let (root, children) ← descendWith false (fun parent =>
    match parent.entries? with
    | none => .error (duplicateKey leaf)
    | some es =>
      match lookup es leaf.name with
      | none => .ok (parent, [])
      | some (.table ces .implicit _ _ _) =>
        .ok (parent.withEntries (es.filter (·.1.name != leaf.name)), ces)
      | some _ => .error (duplicateKey leaf)) path.dropLast b.root
  return { b with root := root, current := .table children .header decor (some pos) (some span),
                  path := path, leaf := leaf, inArray := false, headers := pos }

/-- Starts a `[[header]]` table; whether it may go where it is named is judged when it is
finished. -/
def startArrayTable (b : Builder) (path : List Key) (leaf : Key) (decor : Decor) (span : Span) : Builder :=
  let pos := b.headers + 1
  { b with current := .table [] .header decor (some pos) (some span), path := path, leaf := leaf,
           inArray := true, headers := pos }

def addEntry (b : Builder) (path : List Key) (leaf : Key) (v : Node) : Except ParseError Builder := do
  let parts := path.dropLast
  let current ← descend true (fun t =>
    if (kindOf t == some .dotted) != !parts.isEmpty then .error (duplicateKey leaf)
    else match t.entries? with
      | none => .error (duplicateKey leaf)
      | some es =>
        if es.any (·.1.name == leaf.name) then .error (duplicateKey leaf)
        else .ok (t.withEntries (es ++ [(leaf, v)]))) parts b.current
  return { b with current := current }

end Builder

def KeyPart.toKey (p : KeyPart) : Except ParseError Key := do
  let name ← decodeKey p.token
  let around : Decor := ⟨some p.before, some p.after⟩
  return { name := name, raw := some p.token.text, dotted := around, span := some p.token.span }

def leafOf (path : List Key) (pre : String) : Key :=
  match path.getLast? with
  | some k =>
    let first := (path.head?.bind (·.dotted.pre)).getD ""
    { k with leaf := ⟨some (pre ++ first), k.dotted.suf⟩ }
  | none => { name := "" }

def int64Bound : Nat := Nat.pow 2 63

def scalarNode (range : IntegerRange) (t : Token) : Except ParseError Node := do
  let v ← match t.kind with
    | .atom | .dot =>
      match ← decodeBare t with
      | .boolean b => pure (Scalar.boolean b)
      | .integer none => throw (.at "integer number overflowed" t.span)
      | .integer (some i) =>
        if range == .int64 && (i ≥ int64Bound || i < -(int64Bound : Int)) then
          throw (.at "integer number overflowed" t.span)
        else pure (.integer i)
      | .float x => pure (.float x)
      | .datetime d => pure (.datetime d)
    | _ => Scalar.string <$> decodeString t
  return .scalar v (some t.text) {} (some t.span)

mutual

def valueNode (range : IntegerRange) : Nat → ValueSyntax → Except ParseError Node
  | 0, _ => .error (.at "cannot recurse further; max recursion depth met" ⟨0, 0⟩)
  | _ + 1, .scalar t => scalarNode range t
  | fuel + 1, .array openTok items trailing comma close => do
    let nodes ← itemNodes range fuel items
    return .array nodes trailing comma {} (some (openTok.span.append close))
  | fuel + 1, .inline openTok entries preamble close => do
    let es ← inlineNodes range fuel [] entries
    return .inline es preamble false {} (some (openTok.span.append close))
termination_by fuel => (fuel, 0)

def itemNodes (range : IntegerRange) (fuel : Nat) :
    List (String × ValueSyntax × String) → Except ParseError (List Node)
  | [] => .ok []
  | (pre, v, suf) :: rest => do
    let n ← valueNode range fuel v
    let ns ← itemNodes range fuel rest
    return n.decorate ⟨some pre, some suf⟩ :: ns
termination_by items => (fuel, items.length + 1)

def inlineNodes (range : IntegerRange) (fuel : Nat) (acc : List (Key × Node)) :
    List (String × List KeyPart × String × ValueSyntax × String) → Except ParseError (List (Key × Node))
  | [] => .ok acc
  | (pre, parts, vpre, v, suf) :: rest => do
    let path ← parts.mapM KeyPart.toKey
    let n ← valueNode range fuel v
    let acc ← insertInline acc (leafOf path pre) (n.decorate ⟨some vpre, some suf⟩) path.dropLast
    inlineNodes range fuel acc rest
termination_by entries => (fuel, entries.length + 1)

end

def buildDepth : Nat := Syntax.depthLimit + 2

def buildLines (range : IntegerRange) : List Line → Builder → String → Except ParseError (Builder × String)
  | [], b, pending => .ok (b, pending)
  | .trivia text :: rest, b, pending => buildLines range rest b (pending ++ text)
  | .header arrayOfTables _ parts span after :: rest, b, pending => do
    let path ← parts.mapM KeyPart.toKey
    let leaf := leafOf path ""
    let decor : Decor := ⟨some pending, some after⟩
    let b ← b.finish
    let b ← if arrayOfTables then pure (b.startArrayTable path leaf decor span)
      else b.startTable path leaf decor span
    buildLines range rest b ""
  | .entry parts vpre v vsuf :: rest, b, pending => do
    let path ← parts.mapM KeyPart.toKey
    let n ← valueNode range buildDepth v
    let b ← b.addEntry path (leafOf path pending) (n.decorate ⟨some vpre, some vsuf⟩)
    buildLines range rest b ""

def Document.parse (range : IntegerRange) (text : String) : Except ParseError Document := do
  let lines ← parseLines text
  let (b, trailing) ← buildLines range lines {} ""
  let b ← b.finish
  return { root := b.root, trailing := trailing }

end Updater.Toml
