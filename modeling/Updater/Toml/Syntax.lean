import Updater.Toml.Lexer
/-!
The shape of a TOML document, read from its tokens.

A document is a sequence of lines: trivia (blanks, comments, line breaks), table headers
`[a.b]` and `[[a.b]]`, and entries `key = value`. Values are strings, bare values, arrays and
inline tables. Everything a person wrote is kept: the blanks inside keys, the blanks and
comments around values, the text after the last separator of an array or inline table. What
the keys and values mean is left to the reader of this shape (`Updater.Toml.Read`); here only
their arrangement is checked.

The rules, in the order they are checked while reading from the front:

* a line starts with a key, a header, or trivia; a header ends with `]` (`]]`) after its key,
  and an entry has `=` after its key;
* after a header or an entry only blanks and a comment may follow on the line
  (`unexpected key or value, expected newline, `#``);
* a bare value runs over the tokens that belong to it: `1.5` is `1`, `.`, `5`, and a space
  followed by another bare token belongs to it too, which is how `1979-05-27 07:32:00` is one
  value (and `1 2` is one bad value);
* arrays and inline tables need separators between their items, may end with one, and may hold
  line breaks and comments; they nest at most 80 deep, and a key has at most 80 parts; an
  array or inline table left open is reported just after the last token read in it;
* a comment holds no control character but tab, and a carriage return comes before a line
  feed.

A missing key or value is kept as an empty one at the place it was expected, so that reading it
reports what is missing; a header whose key is missing ends there, the rest of its line unread.
-/

namespace Updater.Toml

structure KeyPart where
  before : String := ""
  token : Token
  after : String := ""
  deriving Repr, Inhabited

inductive ValueSyntax
  | scalar (token : Token)
  /-- An array: each item with the text before and after it, the text after the last
  separator, and whether a separator ends the items. -/
  | array (openTok : Token) (items : List (String × ValueSyntax × String)) (trailing : String)
      (comma : Bool) (close : Span)
  /-- An inline table: each entry with the text before its key, the key, the text before and
  after its value; then the text after the last separator. -/
  | inline (openTok : Token) (entries : List (String × List KeyPart × String × ValueSyntax × String))
      (preamble : String) (close : Span)
  deriving Repr, Inhabited

inductive Line
  | trivia (text : String)
  /-- A header, with its span from the first bracket to the last and the blanks and comment
  after it on its line. -/
  | header (arrayOfTables : Bool) (openTok : Token) (parts : List KeyPart) (span : Span) (after : String)
  | entry (parts : List KeyPart) (valuePre : String) (value : ValueSyntax) (valueSuf : String)
  deriving Repr, Inhabited

namespace Syntax

def depthLimit : Nat := 80

/-- Where reading stands: the tokens left, and the end of the last token taken that is not
trivia (where an unclosed array or inline table is reported). -/
structure Cursor where
  tokens : List Token
  lastEnd : Nat := 0

abbrev Parser := StateT Cursor (Except ParseError)

def peek : Parser Token := do
  match (← get).tokens with
  | t :: _ => pure t
  | [] => pure ⟨.eof, ⟨0, 0⟩, ""⟩

def next : Parser Token := do
  let c ← get
  match c.tokens with
  | t :: rest =>
    if t.kind == .eof then pure t
    else do
      set { tokens := rest, lastEnd := if t.kind.isTrivia then c.lastEnd else t.span.stop : Cursor }
      pure t
  | [] => pure ⟨.eof, ⟨0, 0⟩, ""⟩

def pushBack (t : Token) : Parser Unit := modify fun c => { c with tokens := t :: c.tokens }

def lastEnd : Parser Nat := return (← get).lastEnd

def peekSecond : Parser (Option Token) := do
  match (← get).tokens with
  | _ :: t :: _ => pure (some t)
  | _ => pure none

/-- A key of more parts than this is refused: the parts of a key are tables nested in each
other. -/
def keyDepthLimit : Nat := 80

def checkKeyDepth (parts : List KeyPart) : Parser Unit :=
  if parts.length > keyDepthLimit then throw ⟨"recursion limit", none⟩ else pure ()

def fail {α : Type} (e : ParseError) : Parser α := throw e

def commentChar (c : Char) : Bool := c == '\t' || (0x20 ≤ c.toNat && c.toNat ≤ 0x7E) || c.toNat ≥ 0x80

def badCommentChar? (text : String) : Option Nat :=
  let step := fun (acc : Option Nat × Nat) (c : Char) =>
    match acc.1 with
    | some _ => acc
    | none => if commentChar c then (none, acc.2 + c.utf8Size) else (some acc.2, acc.2)
  (text.toList.foldl step (none, 0)).1

def checkTrivia (t : Token) : Parser Unit := do
  match t.kind with
  | .comment =>
    match badCommentChar? t.text with
    | some i =>
      fail (errorAt "invalid comment character" [.description "printable characters"]
        ⟨t.span.start + i, t.span.start + i⟩)
    | none => pure ()
  | .newline =>
    if t.text == "\r" then
      fail (errorAt "carriage return must be followed by newline" [.literal "\n"] t.span.after)
    else pure ()
  | _ => pure ()

def optWhitespace : Parser String := do
  let t ← peek
  if t.kind == .whitespace then do let _ ← next; pure t.text else pure ""

def afterComment (c : Token) : Parser String := do
  checkTrivia c
  let t ← peek
  if t.kind == .newline then do
    let _ ← next
    checkTrivia t
    pure (c.text ++ t.text)
  else pure c.text

def missingAt (t : Token) : Token := ⟨.atom, t.span.before, ""⟩

/-- The rest of a key after `parts`; `key` says whether the last part is a key (rather than a
separator waiting for one). Whether the key is complete. -/
def keyRest : Nat → List KeyPart → Bool → String → Parser (List KeyPart × Bool)
  | 0, parts, _, _ => pure (parts, true)
  | fuel + 1, parts, key, before => do
    let t ← peek
    if key then
      match t.kind with
      | .whitespace =>
        let _ ← next
        let parts := match parts.getLast? with
          | some p => parts.dropLast ++ [{ p with after := p.after ++ t.text }]
          | none => parts
        keyRest fuel parts true ""
      | .dot => let _ ← next; keyRest fuel parts false ""
      | _ => pure (parts, true)
    else
      match t.kind with
      | .whitespace => let _ ← next; keyRest fuel parts false (before ++ t.text)
      | .dot =>
        let _ ← next
        keyRest fuel (parts ++ [{ before := before, token := missingAt t }]) false ""
      | .atom | .literalString | .basicString | .multiLiteralString | .multiBasicString =>
        let _ ← next
        keyRest fuel (parts ++ [{ before := before, token := t }]) true ""
      | _ => pure (parts ++ [{ before := before, token := missingAt t }], false)

def scalarRest : Nat → Token → Parser Token
  | 0, acc => pure acc
  | fuel + 1, acc => do
    let t ← peek
    let joined := fun (more : List Token) =>
      (⟨.atom, acc.span.append (more.getLast?.map (·.span) |>.getD acc.span),
        acc.text ++ String.join (more.map (·.text))⟩ : Token)
    match t.kind with
    | .dot | .atom => let _ ← next; scalarRest fuel (joined [t])
    | .whitespace =>
      match ← peekSecond with
      | some u =>
        if u.kind == .atom then do
          let _ ← next
          let _ ← next
          scalarRest fuel (joined [t, u])
        else pure acc
      | none => pure acc
    | _ => pure acc

/-- The end of a line after a header or an entry: blanks and a comment, whose text is the
result, then a line break or the end. -/
def lineEnd : Nat → String → Parser String
  | 0, acc => pure acc
  | fuel + 1, acc => do
    let t ← next
    match t.kind with
    | .whitespace => lineEnd fuel (acc ++ t.text)
    | .comment =>
      checkTrivia t
      let n ← peek
      if n.kind == .newline then do let _ ← next; checkTrivia n
      pure (acc ++ t.text)
    | .newline => checkTrivia t; pure acc
    | .eof => pure acc
    | _ => fail (errorAt "unexpected key or value" [.literal "\n", .literal "#"] t.span.before)

inductive Wait
  | key
  | equals
  | value
  | comma
  deriving DecidableEq, Repr

def Wait.expected : Wait → List Expected
  | .key => [.description "key"]
  | .equals => [.literal "="]
  | .value => [.description "value"]
  | .comma => [.literal ","]

/-- An entry of an inline table being read: text before the key, key, text before the value,
value. -/
structure Partial where
  pre : String := ""
  parts : List KeyPart := []
  valuePre : String := ""
  value : ValueSyntax := .scalar ⟨.atom, ⟨0, 0⟩, ""⟩

def Partial.finish (p : Partial) (suf : String) : String × List KeyPart × String × ValueSyntax × String :=
  (p.pre, p.parts, p.valuePre, p.value, suf)

def appendAfter (parts : List KeyPart) (text : String) : List KeyPart :=
  match parts.getLast? with
  | some p => parts.dropLast ++ [{ p with after := p.after ++ text }]
  | none => parts

mutual

def value (fuel depth : Nat) : Parser ValueSyntax :=
  match fuel with
  | 0 => do pure (.scalar (missingAt (← peek)))
  | fuel + 1 => do
    let t ← peek
    match t.kind with
    | .comment | .comma | .newline | .eof | .whitespace =>
      pure (.scalar (missingAt t))
    | .equals => fail (errorAt "extra `=`" [] t.span)
    | .closeBrace => fail (errorAt "missing inline table opening" [.literal "\x7b"] t.span.before)
    | .closeBracket => fail (errorAt "missing array opening" [.literal "["] t.span.before)
    | .openBrace =>
      let _ ← next
      if depth + 1 > depthLimit then
        fail (.at "cannot recurse further; max recursion depth met" t.span)
      inlineItems fuel (depth + 1) t .key [] {} ""
    | .openBracket =>
      let _ ← next
      if depth + 1 > depthLimit then
        fail (.at "cannot recurse further; max recursion depth met" t.span)
      arrayItems fuel (depth + 1) t false [] none ""
    | .literalString | .basicString | .multiLiteralString | .multiBasicString =>
      let _ ← next
      pure (.scalar t)
    | .atom | .dot =>
      let _ ← next
      pure (.scalar (← scalarRest fuel t))
termination_by (fuel, 0)

/-- The items of an array after `[`: those read, the item waiting for its separator with the
text before it, and the text read since. -/
def arrayItems (fuel depth : Nat) (openTok : Token) (sawComma : Bool)
    (items : List (String × ValueSyntax × String)) (current : Option (String × ValueSyntax))
    (pending : String) : Parser ValueSyntax :=
  match fuel with
  | 0 => fail (errorAt "unclosed array" [.literal "]"] openTok.span)
  | fuel + 1 => do
    let t ← peek
    match t.kind with
    | .comment =>
      let _ ← next
      let text ← afterComment t
      arrayItems fuel depth openTok sawComma items current (pending ++ text)
    | .whitespace =>
      let _ ← next
      arrayItems fuel depth openTok sawComma items current (pending ++ t.text)
    | .newline =>
      let _ ← next
      checkTrivia t
      arrayItems fuel depth openTok sawComma items current (pending ++ t.text)
    | .eof => fail (errorAt "unclosed array" [.literal "]"] ⟨← lastEnd, ← lastEnd⟩)
    | .equals => fail (errorAt "unexpected `=` in array" [.description "value", .literal "]"] t.span)
    | .comma =>
      match current with
      | some (pre, v) =>
        let _ ← next
        arrayItems fuel depth openTok true (items ++ [(pre, v, pending)]) none ""
      | none => fail (errorAt "extra comma in array" [.description "value"] t.span.before)
    | .closeBracket =>
      let _ ← next
      match current with
      | some (pre, v) => pure (.array openTok (items ++ [(pre, v, pending)]) "" false t.span)
      | none => pure (.array openTok items pending sawComma t.span)
    | _ =>
      match current with
      | some _ =>
        fail (errorAt "missing comma between array elements" [.literal ","] t.span.before)
      | none =>
        let v ← value fuel depth
        arrayItems fuel depth openTok sawComma items (some (pending, v)) ""
termination_by (fuel, 1)

def inlineItems (fuel depth : Nat) (openTok : Token) (wait : Wait)
    (entries : List (String × List KeyPart × String × ValueSyntax × String)) (current : Partial)
    (pending : String) : Parser ValueSyntax :=
  match fuel with
  | 0 => fail (errorAt "unclosed inline table" [.literal "\x7d"] openTok.span)
  | fuel + 1 => do
    let t ← peek
    match t.kind with
    | .comment =>
      let _ ← next
      let text ← afterComment t
      inlineItems fuel depth openTok wait entries current (pending ++ text)
    | .whitespace =>
      let _ ← next
      inlineItems fuel depth openTok wait entries current (pending ++ t.text)
    | .newline =>
      let _ ← next
      checkTrivia t
      inlineItems fuel depth openTok wait entries current (pending ++ t.text)
    | .eof => fail (errorAt "unclosed inline table" [.literal "\x7d"] ⟨← lastEnd, ← lastEnd⟩)
    | .comma =>
      if wait == .comma then do
        let _ ← next
        inlineItems fuel depth openTok .key (entries ++ [current.finish pending]) {} ""
      else fail (errorAt "extra comma in inline table" wait.expected t.span.before)
    | .equals =>
      match wait with
      | .key =>
        let _ ← next
        inlineItems fuel depth openTok .value entries
          { pre := pending, parts := [{ token := missingAt t }] } ""
      | .equals =>
        let _ ← next
        inlineItems fuel depth openTok .value entries
          { current with parts := appendAfter current.parts pending } ""
      | _ => fail (errorAt "extra assignment between key-value pairs" wait.expected t.span.before)
    | .closeBrace =>
      match wait with
      | .key =>
        let _ ← next
        pure (.inline openTok entries pending t.span)
      | .comma =>
        let _ ← next
        pure (.inline openTok (entries ++ [current.finish pending]) "" t.span)
      | .value =>
        let _ ← next
        let done := { current with valuePre := pending, value := .scalar (missingAt t) }
        pure (.inline openTok (entries ++ [done.finish ""]) "" t.span)
      | .equals =>
        fail (errorAt "missing assignment between key-value pairs" [.literal "="] t.span.before)
    | .openBrace | .openBracket =>
      if wait == .value then do
        let v ← value fuel depth
        inlineItems fuel depth openTok .comma entries { current with valuePre := pending, value := v } ""
      else fail (errorAt "missing key for inline table element" wait.expected t.span.before)
    | .closeBracket =>
      if wait == .value then do
        let v ← value fuel depth
        inlineItems fuel depth openTok .comma entries { current with valuePre := pending, value := v } ""
      else fail (errorAt "invalid inline table element" wait.expected t.span.before)
    | _ =>
      match wait with
      | .key =>
        let (parts, _) ← keyRest fuel [] false ""
        checkKeyDepth parts
        inlineItems fuel depth openTok .equals entries { pre := pending, parts := parts } ""
      | .equals =>
        fail (errorAt "missing assignment between key-value pairs" [.literal "="] t.span.before)
      | .value =>
        let v ← value fuel depth
        inlineItems fuel depth openTok .comma entries { current with valuePre := pending, value := v } ""
      | .comma =>
        fail (errorAt "missing comma between key-value pairs" [.literal ","] t.span.before)
termination_by (fuel, 1)

end

def skipLine : Nat → Parser Unit
  | 0 => pure ()
  | fuel + 1 => do
    let t ← peek
    if t.kind == .newline || t.kind == .eof then pure ()
    else do
      let _ ← next
      skipLine fuel

def header (fuel : Nat) (openTok : Token) : Parser Line := do
  let second ← peek
  let arrayOfTables := second.kind == .openBracket
  if arrayOfTables then do let _ ← next
  let ws ← optWhitespace
  let (parts, valid) ← keyRest fuel [] false ws
  checkKeyDepth parts
  let close ← peek
  let lastKey := (parts.getLast?.map (·.token.span)).getD openTok.span
  if close.kind == .closeBracket then
    let _ ← next
    let last ← if arrayOfTables then do
        let close2 ← peek
        if close2.kind == .closeBracket then do
          let _ ← next
          pure close2.span
        else fail (errorAt "unclosed array table" [.literal "]"] close.span.after)
      else pure close.span
    let after ← lineEnd fuel ""
    pure (.header arrayOfTables openTok parts (openTok.span.append last) after)
  else if valid then
    if arrayOfTables then fail (errorAt "unclosed array table" [.literal "]]"] lastKey.after)
    else fail (errorAt "unclosed table" [.literal "]"] lastKey.after)
  else do
    -- the key is missing, which its reader reports; the rest of the line is passed over
    skipLine fuel
    pure (.header arrayOfTables openTok parts (openTok.span.append close.span.before) "")

def entry (fuel : Nat) (parts : List KeyPart) : Parser Line := do
  let (parts, _) ← keyRest fuel parts true ""
  checkKeyDepth parts
  let t ← peek
  if t.kind != .equals then
    fail (errorAt "key with no value" [.literal "="] t.span.before)
  let _ ← next
  let pre ← optWhitespace
  let v ← value fuel 0
  let suf ← lineEnd fuel ""
  pure (.entry parts pre v suf)

def lines : Nat → List Line → String → Parser (List Line)
  | 0, acc, pending => pure (acc ++ [.trivia pending])
  | fuel + 1, acc, pending => do
    let t ← next
    let flushed := if pending.isEmpty then acc else acc ++ [.trivia pending]
    match t.kind with
    | .whitespace => lines fuel acc (pending ++ t.text)
    | .newline => checkTrivia t; lines fuel acc (pending ++ t.text)
    | .comment => let text ← afterComment t; lines fuel acc (pending ++ text)
    | .eof => pure flushed
    | .openBracket => let l ← header fuel t; lines fuel (flushed ++ [l]) ""
    | .closeBracket => fail (errorAt "missing table open" [.literal "["] t.span.before)
    | .atom | .literalString | .basicString | .multiLiteralString | .multiBasicString =>
      let l ← entry fuel [{ token := t }]
      lines fuel (flushed ++ [l]) ""
    | .equals =>
      pushBack t
      let l ← entry fuel [{ token := missingAt t }]
      lines fuel (flushed ++ [l]) ""
    | .dot =>
      pushBack t
      let l ← entry fuel [{ token := missingAt t }]
      lines fuel (flushed ++ [l]) ""
    | .comma | .openBrace | .closeBrace =>
      fail (errorAt "invalid key-value pair" [.description "key"] t.span.before)

end Syntax

def parseLines (text : String) : Except ParseError (List Line) :=
  let ts := lex text
  let fuel := 8 * ts.length + 16
  (Syntax.lines fuel [] "" |>.run { tokens := ts }).map (·.1)

end Updater.Toml
