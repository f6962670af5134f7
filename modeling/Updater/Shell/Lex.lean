import Updater.Shell.Syntax
/-!
Splitting a script into tokens.

Blanks separate words; a line break is a token of its own (it ends a command); `#` at the start
of a word starts a comment to the end of the line. Operators are `;` `;;` `&` `&&` `|` `||`
`(` `)` and the redirections `<` `>` `>>` `>&` `<&` `>|` `<>` `<<` `<<-`, which may follow a
descriptor number written right before them.

A word runs to the next blank, line break or operator character outside quotes and
expansions. Single quotes keep everything up to the next single quote. Double quotes keep
everything but expansions and the backslash before `$`, a backquote, `"`, a backslash or a line
break. Outside quotes a backslash quotes the next character, and a backslash before a line break
joins the lines. `${...}`, `$(...)`, `$((...))` and backquotes run to their closing bracket or
quote, over any quotes and expansions inside; a command substitution ends at the first `)`
that no `(` opened, except inside a `case`, whose patterns end in `)`. Inside `$((...))` quotes
are plain characters.

`${` is read the way the shell reads it: a parameter's name, then one character for the
operation; a character that names none is dropped, and the expansion fails when it runs. So
`${$(` names the parameter `$`, and `${x"}"` leaves a quote open after the brace.

A here-document (`<<word`) takes the lines after the end of its line, up to a line that is the
word; its body is expanded like double-quoted text unless the word had quotes, and `<<-` drops
the tabs that start its lines. In an expanded body a command substitution runs to its own end,
and a line that a backslash continues is not looked at for the word.

A mistake (an unclosed quote, an unclosed expansion) becomes an error token where it is found, so
that the commands before it still run; a mistake in a here-document belongs to the command it
is read for. A `$(` left open becomes a token of its own, which the parser reads as commands to
find the first mistake in them. Every step takes one unit of fuel, so lexing always ends.
Tokens carry the line where they end, as the shell counts lines after reading a token.
-/

namespace Updater.Shell

def isBlankChar (c : Char) : Bool := c == ' ' || c == '\t'

def isOpChar (c : Char) : Bool := c == ';' || c == '&' || c == '|' || c == '(' || c == ')' || c == '<' || c == '>'

def isNameStart (c : Char) : Bool := c.isAlpha || c == '_'

def isNameChar (c : Char) : Bool := c.isAlphanum || c == '_'

def isSpecialParam (c : Char) : Bool :=
  c == '*' || c == '@' || c == '#' || c == '?' || c == '$' || c == '!' || c == '-'

def isName (s : String) : Bool :=
  match s.toList with
  | c :: rest => isNameStart c && rest.all isNameChar
  | [] => false

def unterminatedQuote : String := "Syntax error: Unterminated quoted string"

def unclosedParen : String := "Syntax error: end of file unexpected (expecting \")\")"

def unclosedBrace : String := "Syntax error: Missing '\x7d'"

def unclosedBackquote : String := "Syntax error: EOF in backquote substitution"

def unclosedArith : String := "Syntax error: Missing '))'"

/-- How `${...}` starts, as the shell reads it. After the brace it reads a parameter's name and
then one character for the operation (two for `:-`, `%%` and the like); a character that names
no operation is dropped, and the expansion is then an error when it runs. -/
inductive BraceHead
  | value (name : String)
  | length (name : String)
  | op (name : String) (op : ParamOp)
  /-- `${name:}`: the value. The brace after the colon was read as the operation, so the text up
  to the next closing brace follows the value as text. -/
  | valueThen (name : String)
  | bad
  deriving DecidableEq, Repr

/-- Backslash-newline pairs at the start of the text, which the shell skips while it reads the
start of `${`, and what follows them. -/
def joinsAt : List Char → List Char × List Char
  | '\\' :: '\n' :: r => let (j, rest) := joinsAt r; ('\\' :: '\n' :: j, rest)
  | r => ([], r)

/-- The next character of the start of `${`, after any backslash-newline pairs: the character
(none at the end), the text read, and what follows. -/
def headChar (cs : List Char) : Option Char × List Char × List Char :=
  match joinsAt cs with
  | (j, c :: r) => (some c, j ++ [c], r)
  | (j, []) => (none, j, [])

/-- Characters while they pass `ok`, across backslash-newline pairs: the characters, the text
read, and what follows from the first character that fails. -/
def headRun (ok : Char → Bool) : Nat → List Char → List Char × List Char × List Char
  | 0, cs => ([], [], cs)
  | f + 1, cs =>
    match joinsAt cs with
    | (j, c :: r) =>
      if ok c then
        let (m, t, rest) := headRun ok f r
        (c :: m, j ++ c :: t, rest)
      else ([], j, c :: r)
    | (j, []) => ([], j, [])

/-- A dropped character as it stays in the text read: a dropped line break becomes a blank,
since the shell does not count it as a line, and every other character stays. Either way the
start of `${` reads the same. -/
def droppedChar (c : Char) : Char := if c == '\n' then ' ' else c

/-- The operation after the name in `${name...}`: the head, the text read, and what follows (the
word, or what follows the closing brace of a plain value). -/
def opHead (name : String) (cs : List Char) : BraceHead × List Char × List Char :=
  match headChar cs with
  | (some ':', t, r) =>
    match headChar r with
    | (some '\x7d', t2, r2) => (.valueThen name, t ++ t2, r2)
    | (some '-', t2, r2) => (.op name (.orElse true), t ++ t2, r2)
    | (some '=', t2, r2) => (.op name (.assign true), t ++ t2, r2)
    | (some '?', t2, r2) => (.op name (.orFail true), t ++ t2, r2)
    | (some '+', t2, r2) => (.op name (.andThen true), t ++ t2, r2)
    | (some c, t2, r2) => (.bad, t ++ t2.dropLast ++ [droppedChar c], r2)
    | (none, t2, r2) => (.bad, t ++ t2, r2)
  | (some '\x7d', t, r) => (.value name, t, r)
  | (some '-', t, r) => (.op name (.orElse false), t, r)
  | (some '=', t, r) => (.op name (.assign false), t, r)
  | (some '?', t, r) => (.op name (.orFail false), t, r)
  | (some '+', t, r) => (.op name (.andThen false), t, r)
  | (some '%', t, r) =>
    match headChar r with
    | (some '%', t2, r2) => (.op name (.dropSuffix true), t ++ t2, r2)
    | _ => (.op name (.dropSuffix false), t, r)
  | (some '#', t, r) =>
    match headChar r with
    | (some '#', t2, r2) => (.op name (.dropPrefix true), t ++ t2, r2)
    | _ => (.op name (.dropPrefix false), t, r)
  | (some c, t, r) => (.bad, t.dropLast ++ [droppedChar c], r)
  | (none, t, r) => (.bad, t, r)

/-- A name of letters, digits and `_`, or of digits only, at the start of the text (its first
character is one of them), and then the operation, or for a length the closing brace. -/
def namedHead (length : Bool) (cs : List Char) : BraceHead × List Char × List Char :=
  let digits := (cs.head?.map Char.isDigit).getD false
  let (n, t, rest) := headRun (if digits then Char.isDigit else isNameChar) (cs.length + 1) cs
  let name := String.ofList n
  if length then
    match joinsAt rest with
    | (j, '\x7d' :: r) => (.length name, t ++ j, '\x7d' :: r)
    | (j, r) => (.bad, t ++ j, r)
  else
    let (h, t2, rest2) := opHead name rest
    (h, t ++ t2, rest2)

/-- The start of `${#...}`, from the text after the `#`: the length of a name, the length of a
special parameter (`${#?}`), or `#` itself as the parameter (`${#}`, `${#:-w}`, `${##p}`). -/
def hashHead (cs : List Char) : BraceHead × List Char × List Char :=
  match joinsAt cs with
  | (j, []) => (.bad, j, [])
  | (j, d :: r) =>
    if d == '_' || d.isAlphanum then
      let (h, t, rest) := namedHead true (d :: r)
      (h, j ++ t, rest)
    else
      match joinsAt r with
      | (j2, '\x7d' :: r2) =>
        if d == '\x7d' then
          let (h, t, rest) := opHead "#" (d :: r)
          (h, j ++ t, rest)
        else if isSpecialParam d then (.length d.toString, j ++ [d] ++ j2, '\x7d' :: r2)
        else (.bad, j ++ [droppedChar d] ++ j2, '\x7d' :: r2)
      | _ =>
        let (h, t, rest) := opHead "#" (d :: r)
        (h, j ++ t, rest)

/-- The start of `${...}`, from the text after the brace: the head, the text read (the closing
brace included for a plain value), and what follows. -/
def braceHead (cs : List Char) : BraceHead × List Char × List Char :=
  match joinsAt cs with
  | (j, []) => (.bad, j, [])
  | (j, c :: r) =>
    if isNameStart c || c.isDigit then
      let (h, t, rest) := namedHead false (c :: r)
      (h, j ++ t, rest)
    else if c == '\x7d' then (.bad, j, c :: r)
    else if c == '#' then
      let (h, t, rest) := hashHead r
      (h, j ++ ['#'] ++ t, rest)
    else if isSpecialParam c then
      let (h, t, rest) := opHead c.toString r
      (h, j ++ [c] ++ t, rest)
    else
      let (j2, r2) := joinsAt r
      (.bad, j ++ [droppedChar c] ++ j2, r2)

def lineBreaks (cs : List Char) : Nat := (cs.filter (· == '\n')).length

/-- What a piece of text means inside: a word, double quotes, a here-document body, or an
arithmetic expression. -/
inductive Mode
  | bare
  | double
  | here
  | arith
  deriving DecidableEq, Repr

def spanSingle (cs : List Char) : Except String (List Char × List Char) :=
  let body := cs.takeWhile (· != '\'')
  match cs.drop body.length with
  | '\'' :: rest => .ok (body, rest)
  | _ => .error unterminatedQuote

/-- The words that open and close a `case` inside a command substitution change how deep it
is in patterns. -/
def caseDepthAfter (word : List Char) (depth : Nat) : Nat :=
  if word == "case".toList then depth + 1
  else if word == "esac".toList then depth - 1
  else depth

mutual

def spanDouble : Nat → List Char → List Char → Except String (List Char × List Char)
  | 0, _, _ => .error unterminatedQuote
  | _, [], _ => .error unterminatedQuote
  | f + 1, c :: r, acc =>
    if c == '"' then .ok (acc.reverse, r)
    else if c == '\\' then
      match r with
      | d :: r' => spanDouble f r' (d :: c :: acc)
      | [] => .error unterminatedQuote
    else if c == '$' then
      match spanDollar f r with
      | .ok (some (taken, rest)) => spanDouble f rest (taken.reverse ++ c :: acc)
      | .ok none => spanDouble f r (c :: acc)
      -- the quote is still open when the text ends inside `${`, which is what is reported
      | .error e => .error (if e == unclosedBrace && r.head? == some '\x7b' then unterminatedQuote else e)
    else if c == '`' then
      match spanBack f r [] with
      | .ok (body, rest) => spanDouble f rest ('`' :: body.reverse ++ c :: acc)
      | .error e => .error e
    else spanDouble f r (c :: acc)

/-- After a `$`: a bracketed expansion (`{...}`, `(...)`, `((...))`) with its brackets, or the
`$` of `$$`, and what follows; none when the `$` opens neither. -/
def spanDollar : Nat → List Char → Except String (Option (List Char × List Char))
  | 0, _ => .error unclosedParen
  | _ + 1, '$' :: r => .ok (some (['$'], r))
  | f + 1, '\x7b' :: r =>
    match braceHead r with
    | (.value _, taken, rest) => .ok (some ('\x7b' :: taken, rest))
    | (_, taken, rest) =>
      match spanBrace f rest [] with
      | .ok (word, rest') => .ok (some ('\x7b' :: taken ++ word ++ ['\x7d'], rest'))
      | .error e => .error e
  | f + 1, '(' :: '(' :: r =>
    match spanArith f r 0 [] with
    | .ok (body, rest) => .ok (some (['(', '('] ++ body ++ [')', ')'], rest))
    | .error e => .error e
  | f + 1, '(' :: r =>
    match spanParen f r 0 0 [] [] with
    | .ok (body, rest) => .ok (some ('(' :: body ++ [')'], rest))
    | .error e => .error e
  | _, _ => .ok none

def spanBrace : Nat → List Char → List Char → Except String (List Char × List Char)
  | 0, _, _ => .error unclosedBrace
  | _, [], _ => .error unclosedBrace
  | f + 1, c :: r, acc =>
    if c == '\x7d' then .ok (acc.reverse, r)
    else if c == '\\' then
      match r with
      | d :: r' => spanBrace f r' (d :: c :: acc)
      | [] => .error unclosedBrace
    else if c == '\'' then
      match spanSingle r with
      | .ok (body, rest) => spanBrace f rest ('\'' :: body.reverse ++ c :: acc)
      | .error e => .error e
    else if c == '"' then
      match spanDouble f r [] with
      | .ok (body, rest) => spanBrace f rest ('"' :: body.reverse ++ c :: acc)
      | .error e => .error e
    else if c == '$' then
      match spanDollar f r with
      | .ok (some (taken, rest)) => spanBrace f rest (taken.reverse ++ c :: acc)
      | .ok none => spanBrace f r (c :: acc)
      | .error e => .error e
    else if c == '`' then
      match spanBack f r [] with
      | .ok (body, rest) => spanBrace f rest ('`' :: body.reverse ++ c :: acc)
      | .error e => .error e
    else spanBrace f r (c :: acc)

/-- After `$((`: the expression up to the `))` that closes it. A `)` that closes no bracket
opened inside and is not followed by another is part of the expression. Quotes are plain
characters here; the expression keeps them, and its evaluation refuses them. -/
def spanArith : Nat → List Char → Nat → List Char → Except String (List Char × List Char)
  | 0, _, _, _ => .error unclosedArith
  | _, [], _, _ => .error unclosedArith
  | f + 1, c :: r, depth, acc =>
    if c == ')' then
      if depth == 0 then
        match r with
        | ')' :: r' => .ok (acc.reverse, r')
        | _ => spanArith f r 0 (c :: acc)
      else spanArith f r (depth - 1) (c :: acc)
    else if c == '(' then spanArith f r (depth + 1) (c :: acc)
    else if c == '\\' then
      match r with
      | d :: r' => spanArith f r' depth (d :: c :: acc)
      | [] => .error unclosedArith
    else if c == '$' then
      match spanDollar f r with
      | .ok (some (taken, rest)) => spanArith f rest depth (taken.reverse ++ c :: acc)
      | .ok none => spanArith f r depth (c :: acc)
      -- `${` inside arithmetic reads its word as if quoted
      | .error e => .error (if e == unclosedBrace && r.head? == some '\x7b' then unterminatedQuote else e)
    else if c == '`' then
      match spanBack f r [] with
      | .ok (body, rest) => spanArith f rest depth ('`' :: body.reverse ++ c :: acc)
      | .error e => .error e
    else spanArith f r depth (c :: acc)

/-- After `$(`: the script up to the `)` that closes it. `depth` counts the brackets opened
inside, `cases` the `case` commands open (whose patterns end in `)`), and `word` is the word
being read, to see `case` and `esac`. -/
def spanParen : Nat → List Char → Nat → Nat → List Char → List Char → Except String (List Char × List Char)
  | 0, _, _, _, _, _ => .error unclosedParen
  | _, [], _, _, _, _ => .error unclosedParen
  | f + 1, c :: r, depth, cases, word, acc =>
    let cases' := caseDepthAfter word.reverse cases
    if c == ')' then
      if depth == 0 && cases' == 0 then .ok (acc.reverse, r)
      else if depth == 0 then spanParen f r 0 cases' [] (c :: acc)
      else spanParen f r (depth - 1) cases' [] (c :: acc)
    else if c == '(' then spanParen f r (depth + 1) cases' [] (c :: acc)
    else if isBlankChar c || c == '\n' || c == ';' || c == '&' || c == '|' then
      spanParen f r depth cases' [] (c :: acc)
    else if c == '#' && word.isEmpty then
      let comment := r.takeWhile (· != '\n')
      spanParen f (r.drop comment.length) depth cases [] (comment.reverse ++ c :: acc)
    else if c == '\\' then
      match r with
      | d :: r' => spanParen f r' depth cases (d :: c :: word) (d :: c :: acc)
      | [] => .error unclosedParen
    else if c == '\'' then
      match spanSingle r with
      | .ok (body, rest) => spanParen f rest depth cases (c :: word) ('\'' :: body.reverse ++ c :: acc)
      | .error e => .error e
    else if c == '"' then
      match spanDouble f r [] with
      | .ok (body, rest) => spanParen f rest depth cases (c :: word) ('"' :: body.reverse ++ c :: acc)
      | .error e => .error e
    else if c == '$' then
      match spanDollar f r with
      | .ok (some (taken, rest)) => spanParen f rest depth cases (c :: word) (taken.reverse ++ c :: acc)
      | .ok none => spanParen f r depth cases (c :: word) (c :: acc)
      | .error e => .error e
    else if c == '`' then
      match spanBack f r [] with
      | .ok (body, rest) => spanParen f rest depth cases (c :: word) ('`' :: body.reverse ++ c :: acc)
      | .error e => .error e
    else spanParen f r depth cases (c :: word) (c :: acc)

def spanBack : Nat → List Char → List Char → Except String (List Char × List Char)
  | 0, _, _ => .error unclosedBackquote
  | _, [], _ => .error unclosedBackquote
  | f + 1, c :: r, acc =>
    if c == '`' then .ok (acc.reverse, r)
    else if c == '\\' then
      match r with
      | d :: r' => spanBack f r' (d :: c :: acc)
      | [] => .error unclosedBackquote
    else spanBack f r (c :: acc)

end

/-- Where the outermost `$(` starts in a text that runs to the end of the script because that
`$(` is not closed: the text before the `$(` and the text after it. `double` says whether the scan is
inside double quotes, where a single quote is a plain character. -/
def openCommandAt : Nat → Bool → List Char → List Char → Option (List Char × List Char)
  | 0, _, _, _ => none
  | _, _, [], _ => none
  | f + 1, double, c :: r, seen =>
    if c == '\\' then
      match r with
      | d :: r' => openCommandAt f double r' (d :: c :: seen)
      | [] => none
    else if c == '\'' && !double then
      match spanSingle r with
      | .ok (body, rest) => openCommandAt f double rest ('\'' :: body.reverse ++ c :: seen)
      | .error _ => none
    else if c == '"' then openCommandAt f (!double) r (c :: seen)
    else if c == '`' then
      match spanBack f r [] with
      | .ok (body, rest) => openCommandAt f double rest ('`' :: body.reverse ++ c :: seen)
      | .error _ => none
    else if c == '$' then
      match r with
      | '$' :: r' => openCommandAt f double r' ('$' :: c :: seen)
      | '\x7b' :: r' =>
        -- the start of `${` is read its own way: `${$(` names `$`
        let (_, taken, rest) := braceHead r'
        openCommandAt f double rest (taken.reverse ++ '\x7b' :: c :: seen)
      | '(' :: '(' :: r' => openCommandAt f double r' ('(' :: '(' :: c :: seen)
      | '(' :: r' =>
        match spanParen f r' 0 0 [] [] with
        | .ok (body, rest) => openCommandAt f double rest (')' :: body.reverse ++ '(' :: c :: seen)
        | .error _ => some (seen.reverse, r')
      | _ => openCommandAt f double r (c :: seen)
    else openCommandAt f double r (c :: seen)

/-- The script of a backquoted command: a backslash before `$`, a backquote or a backslash
(and, inside double quotes, before `"`) is dropped. -/
def backquoteScript (inDouble : Bool) : List Char → List Char
  | '\\' :: c :: r =>
    if c == '$' || c == '`' || c == '\\' || (inDouble && c == '"') then c :: backquoteScript inDouble r
    else '\\' :: c :: backquoteScript inDouble r
  | c :: r => c :: backquoteScript inDouble r
  | [] => []

def flush (acc : List Piece) (buf : String) (quoted : Bool) : List Piece :=
  if buf.isEmpty then acc else acc ++ [.text buf quoted]

mutual

/-- The pieces of a text read in a mode, starting at line `line`; a command substitution in it
keeps the line its text starts on. -/
def piecesOf : Nat → Mode → Nat → List Char → List Piece → String → Except String (List Piece)
  | 0, _, _, _, _, _ => .error "script too long"
  | _, mode, _, [], acc, buf => .ok (flush acc buf (mode != .bare))
  | f + 1, mode, line, c :: r, acc, buf =>
    let quoted := mode != .bare
    if mode == .bare && c == '\'' then
      match spanSingle r with
      | .ok (body, rest) =>
        piecesOf f mode (line + lineBreaks body) rest
          (flush acc buf false ++ [.text (String.ofList body) true]) ""
      | .error e => .error e
    else if mode == .bare && c == '"' then
      match spanDouble f r [] with
      | .ok (body, rest) =>
        match piecesOf f .double line body [] "" with
        | .ok ps =>
          piecesOf f mode (line + lineBreaks body) rest
            (flush acc buf false ++ (if ps.isEmpty then [.text "" true] else ps)) ""
        | .error e => .error e
      | .error e => .error e
    else if mode == .double && c == '"' then piecesOf f mode line r acc buf
    else if c == '\\' then
      match r with
      | '\n' :: r' => piecesOf f mode (line + 1) r' acc buf
      | d :: r' =>
        if mode == .bare then piecesOf f mode line r' (flush acc buf false ++ [.text d.toString true]) ""
        else if d == '$' || d == '`' || d == '\\' || (d == '"' && mode != .here) then
          piecesOf f mode line r' acc (buf.push d)
        else piecesOf f mode line r' acc ((buf.push '\\').push d)
      | [] => piecesOf f mode line [] acc (buf.push '\\')
    else if c == '$' then
      match dollarPiece f quoted line r with
      | .ok (some (ps, rest)) =>
        piecesOf f mode (line + lineBreaks (r.take (r.length - rest.length))) rest
          (flush acc buf quoted ++ ps) ""
      | .ok none => piecesOf f mode line r acc (buf.push '$')
      | .error e => .error e
    else if c == '`' then
      match spanBack f r [] with
      | .ok (body, rest) =>
        let script := String.ofList (backquoteScript (mode == .double) body)
        piecesOf f mode (line + lineBreaks body) rest
          (flush acc buf quoted ++ [.command script true quoted line]) ""
      | .error e => .error e
    else piecesOf f mode (if c == '\n' then line + 1 else line) r acc (buf.push c)

/-- The pieces of the expansion after a `$` at line `line`, and what follows it; none when the
`$` is plain text. -/
def dollarPiece : Nat → Bool → Nat → List Char → Except String (Option (List Piece × List Char))
  | 0, _, _, _ => .error "script too long"
  | f + 1, quoted, line, r =>
    match r with
    | '\x7b' :: r2 =>
      match braceHead r2 with
      | (.value name, _, rest) => .ok (some ([.param name quoted], rest))
      | (head, taken, rest) =>
        match spanBrace f rest [] with
        | .ok (word, rest') =>
          match bracePieces f quoted (line + lineBreaks taken) head word with
          | .ok ps => .ok (some (ps, rest'))
          | .error e => .error e
        | .error e => .error e
    | '(' :: '(' :: r2 =>
      match spanArith f r2 0 [] with
      | .ok (body, rest) =>
        match piecesOf f .arith line body [] "" with
        | .ok ps => .ok (some ([.arith ps quoted], rest))
        | .error e => .error e
      | .error e => .error e
    | '(' :: r2 =>
      match spanParen f r2 0 0 [] [] with
      | .ok (body, rest) => .ok (some ([.command (String.ofList body) false quoted line], rest))
      | .error e => .error e
    | c :: rest =>
      if isNameStart c then
        let n := (c :: rest).takeWhile isNameChar
        .ok (some ([.param (String.ofList n) quoted], (c :: rest).drop n.length))
      else if c.isDigit || isSpecialParam c then .ok (some ([.param c.toString quoted], rest))
      else .ok none
    | [] => .ok none

/-- The pieces of `${...}` from its head and its word, which starts at line `line`. The word of
an operation is read as quoted text inside double quotes, but a pattern always as bare text. -/
def bracePieces : Nat → Bool → Nat → BraceHead → List Char → Except String (List Piece)
  | 0, _, _, _, _ => .error "script too long"
  | f + 1, quoted, line, head, word =>
    match head with
    | .value name => .ok [.param name quoted]
    | .length name => .ok [.length name quoted]
    | .bad => .ok [.paramOp "" .bad [] quoted]
    | .valueThen name =>
      match piecesOf f (if quoted then .double else .bare) line word [] "" with
      | .ok ps => .ok (.param name quoted :: ps)
      | .error e => .error e
    | .op name op =>
      let pattern := match op with
        | .dropSuffix _ | .dropPrefix _ => true
        | _ => false
      match piecesOf f (if quoted && !pattern then .double else .bare) line word [] "" with
      | .ok ps => .ok [.paramOp name op ps quoted]
      | .error e => .error e

end

def wordExtent : Nat → List Char → List Char → Except String (List Char × List Char)
  | 0, _, _ => .error "script too long"
  | _, [], acc => .ok (acc.reverse, [])
  | f + 1, c :: r, acc =>
    if isBlankChar c || c == '\n' || isOpChar c then .ok (acc.reverse, c :: r)
    else if c == '\'' then
      match spanSingle r with
      | .ok (body, rest) => wordExtent f rest ('\'' :: body.reverse ++ c :: acc)
      | .error e => .error e
    else if c == '"' then
      match spanDouble f r [] with
      | .ok (body, rest) => wordExtent f rest ('"' :: body.reverse ++ c :: acc)
      | .error e => .error e
    else if c == '\\' then
      match r with
      | d :: r' => wordExtent f r' (d :: c :: acc)
      | [] => .ok ((c :: acc).reverse, [])
    else if c == '$' then
      match spanDollar f r with
      | .ok (some (taken, rest)) => wordExtent f rest (taken.reverse ++ c :: acc)
      | .ok none => wordExtent f r (c :: acc)
      | .error e => .error e
    else if c == '`' then
      match spanBack f r [] with
      | .ok (body, rest) => wordExtent f rest ('`' :: body.reverse ++ c :: acc)
      | .error e => .error e
    else wordExtent f r (c :: acc)

/-- After an opening `"` in the delimiter of a here-document: the text up to the closing quote,
over backslash pairs, and what follows. -/
def plainDouble : List Char → List Char → Except String (List Char × List Char)
  | [], _ => .error unterminatedQuote
  | '"' :: r, acc => .ok (acc.reverse, r)
  | '\\' :: d :: r, acc => plainDouble r (d :: '\\' :: acc)
  | c :: r, acc => plainDouble r (c :: acc)

/-- The extent of the word after `<<`, the delimiter of a here-document: quotes and backslashes
work as in any word, but `$` and backquotes are plain characters there. -/
def delimiterExtent : Nat → List Char → List Char → Except String (List Char × List Char)
  | 0, cs, acc => .ok (acc.reverse, cs)
  | _, [], acc => .ok (acc.reverse, [])
  | f + 1, c :: r, acc =>
    if isBlankChar c || c == '\n' || isOpChar c then .ok (acc.reverse, c :: r)
    else if c == '\'' then
      match spanSingle r with
      | .ok (body, rest) => delimiterExtent f rest ('\'' :: body.reverse ++ c :: acc)
      | .error e => .error e
    else if c == '"' then
      match plainDouble r [] with
      | .ok (body, rest) => delimiterExtent f rest ('"' :: body.reverse ++ c :: acc)
      | .error e => .error e
    else if c == '\\' then
      match r with
      | d :: r' => delimiterExtent f r' (d :: c :: acc)
      | [] => .ok ((c :: acc).reverse, [])
    else delimiterExtent f r (c :: acc)

/-- Whether a character may stand in the user name after `~`: quoting or an expansion there
keeps the `~` as it is. -/
def tildeNameChar (c : Char) : Bool :=
  c != '\'' && c != '"' && c != '\\' && c != '$' && c != '`'

/-- The pieces of a word from its characters, which start at line `line`; a leading `~` with
the user name up to the first `/` is a home directory. -/
def wordPieces (cs : List Char) (line : Nat) : Except String Word :=
  let fuel := 4 * cs.length + 8
  match cs with
  | '~' :: rest =>
    let user := rest.takeWhile (· != '/')
    if user.all tildeNameChar then
      (.tilde (String.ofList user) :: ·) <$> piecesOf fuel .bare line (rest.drop user.length) [] ""
    else piecesOf fuel .bare line cs [] ""
  | _ => piecesOf fuel .bare line cs [] ""

def plainText (w : Word) : Option String :=
  w.foldl (fun acc p => match acc, p with
    | some s, .text t false => some (s ++ t)
    | _, _ => none) (some "")

def operatorAt : List Char → Option (Token × List Char)
  | ';' :: ';' :: r => some (.op ";;", r)
  | ';' :: r => some (.op ";", r)
  | '&' :: '&' :: r => some (.op "&&", r)
  | '&' :: r => some (.op "&", r)
  | '|' :: '|' :: r => some (.op "||", r)
  | '|' :: r => some (.op "|", r)
  | '(' :: r => some (.op "(", r)
  | ')' :: r => some (.op ")", r)
  | '>' :: '>' :: r => some (.redir none ">>", r)
  | '>' :: '&' :: r => some (.redir none ">&", r)
  | '>' :: '|' :: r => some (.redir none ">|", r)
  | '>' :: r => some (.redir none ">", r)
  | '<' :: '&' :: r => some (.redir none "<&", r)
  | '<' :: '<' :: '-' :: r => some (.redir none "<<-", r)
  | '<' :: '<' :: r => some (.redir none "<<", r)
  | '<' :: '>' :: r => some (.redir none "<>", r)
  | '<' :: r => some (.redir none "<", r)
  | _ => none

/-- A here-document waiting for the end of its line: its delimiter, whether the delimiter was
quoted, and whether leading tabs are dropped. -/
structure HereDoc where
  delimiter : String
  quoted : Bool
  stripTabs : Bool

/-- The delimiter of a here-document as written: quotes and backslashes are removed, and any
of them makes the body literal. -/
def delimiterOf (cs : List Char) : HereDoc :=
  let quoted := cs.any fun c => c == '\'' || c == '"' || c == '\\'
  let rec strip : List Char → List Char
    | '\\' :: c :: r => c :: strip r
    | c :: r => if c == '\'' || c == '"' then strip r else c :: strip r
    | [] => []
  { delimiter := String.ofList (strip cs), quoted := quoted, stripTabs := false }

/-- A here-document body, read from the start of a line (`start`): the text up to the line that
is its delimiter, what follows that line, and how many lines it took (the delimiter line counts
even when the text ends with it); or the error met in it, with how many lines there are up to
the end of the text.

With `<<-` the tabs that start a line are dropped. When the delimiter is not quoted, a line that a
backslash continues is not a line start, and a backquoted or `$(...)` command inside runs to its
own end, over the delimiter if need be; when it is quoted, every line is taken as it is. -/
def hereScan (h : HereDoc) : Nat → List Char → Bool → List Char → Nat →
    Except (String × Nat) (List Char × List Char × Nat)
  | 0, cs, _, acc, n => .ok (acc.reverse, cs, n)
  | f + 1, cs, start, acc, n =>
    let cs := if start && h.stripTabs then cs.dropWhile (· == '\t') else cs
    let line := cs.takeWhile (· != '\n')
    if start && String.ofList line == h.delimiter then .ok (acc.reverse, (cs.drop line.length).drop 1, n + 1)
    else match cs with
      | [] => .ok (acc.reverse, [], n)
      | '\n' :: r => hereScan h f r true ('\n' :: acc) (n + 1)
      | c :: r =>
        if h.quoted then hereScan h f r false (c :: acc) n
        else if c == '\\' then
          match r with
          | d :: r' => hereScan h f r' false (d :: c :: acc) (if d == '\n' then n + 1 else n)
          | [] => .ok ((c :: acc).reverse, [], n)
        else if c == '`' then
          match spanBack f r [] with
          | .ok (body, rest) => hereScan h f rest false ('`' :: body.reverse ++ c :: acc) (n + lineBreaks body)
          | .error e => .error (e, n + lineBreaks r)
        else if c == '$' then
          match spanDollar f r with
          | .ok (some (taken, rest)) => hereScan h f rest false (taken.reverse ++ c :: acc) (n + lineBreaks taken)
          | .ok none => hereScan h f r false (c :: acc) n
          | .error e => .error (e, n + lineBreaks r)
        else hereScan h f r false (c :: acc) n

/-- The bodies of the here-documents waiting at the end of a line, read in order from the next
line, whose number is `line`: what follows them, the number of the line after them, and the
bodies; or the first error met, with its line. -/
def readHereDocs : List HereDoc → List Char → Nat → List Word →
    Except (String × Nat) (List Char × Nat × List Word)
  | [], cs, line, bodies => .ok (cs, line, bodies)
  | h :: hs, cs, line, bodies =>
    match hereScan h (cs.length + 1) cs true [] 0 with
    | .error (e, n) => .error (e, line + n)
    | .ok (body, rest, n) =>
      let w : Except String Word :=
        if h.quoted then .ok [.text (String.ofList body) true]
        else piecesOf (4 * body.length + 8) .here line body [] ""
      match w with
      | .ok w => readHereDocs hs rest (line + n) (bodies ++ [w])
      | .error e => .error (e, line + n)

structure Lexed where
  toks : List Tok
  bodies : List Word

/-- The tokens of a script from `line` on. `pending` holds here-documents whose bodies follow
the current line; `delim` says that the next word is the delimiter of one (and whether its tabs
are dropped). -/
def tokenize : Nat → List Char → Nat → List Tok → List HereDoc → Option Bool → List Word → Lexed
  | 0, _, line, acc, _, _, bodies => ⟨(⟨.error "script too long", line⟩ :: acc).reverse, bodies⟩
  | _, [], line, acc, _, _, bodies => ⟨(⟨.eof, line⟩ :: acc).reverse, bodies⟩
  | f + 1, c :: r, line, acc, pending, delim, bodies =>
    if isBlankChar c then tokenize f r line acc pending delim bodies
    else if c == '\\' && r.head? == some '\n' then tokenize f (r.drop 1) (line + 1) acc pending delim bodies
    else if c == '\n' then
      -- a mistake in a here-document body belongs to the command it is read for
      match readHereDocs pending r (line + 1) bodies with
      -- the shell counts the line break as it reads it, and the bodies after it
      | .ok (rest, line', bodies') => tokenize f rest line' (⟨.op "\n", line'⟩ :: acc) [] none bodies'
      | .error (e, errLine) => ⟨(⟨.error e, errLine⟩ :: acc).reverse, bodies⟩
    else if c == '#' then tokenize f (r.dropWhile (· != '\n')) line acc pending delim bodies
    else match operatorAt (c :: r) with
      | some (t, rest) =>
        let delim' := match t with
          | .redir _ "<<" => some false
          | .redir _ "<<-" => some true
          | _ => none
        tokenize f rest line (⟨t, line⟩ :: acc) pending delim' bodies
      | none =>
        let extent := if delim.isSome then delimiterExtent (4 * (r.length + 2)) (c :: r) []
          else wordExtent (4 * (r.length + 2)) (c :: r) []
        match extent with
        | .error e =>
          -- a `$(` left open is read by the parser, which finds the first mistake in it
          let unclosed := openCommandAt (4 * (r.length + 2)) false (c :: r) []
          let tok : Tok := match unclosed with
            | some (before, script) => ⟨.openCommand (String.ofList script), line + lineBreaks before⟩
            | none => ⟨.error e, line + lineBreaks (c :: r)⟩
          ⟨(tok :: acc).reverse, bodies⟩
        | .ok (cs, rest) =>
          let line' := line + lineBreaks cs
          let redirection := if cs.all Char.isDigit then
              match operatorAt rest with
              | some (.redir _ o, rest') => some (o, rest')
              | _ => none
            else none
          match redirection with
          | some (o, rest') =>
            let fd := cs.foldl (fun n d => 10 * n + (d.toNat - 48)) 0
            let delim' := if o == "<<" then some false else if o == "<<-" then some true else none
            tokenize f rest' line' (⟨.redir (some fd) o, line'⟩ :: acc) pending delim' bodies
          | none =>
            -- a delimiter is only text: nothing in it is expanded
            match (if delim.isSome then .ok [.text (String.ofList cs) false] else wordPieces cs line) with
            | .error e => ⟨(⟨.error e, line'⟩ :: acc).reverse, bodies⟩
            | .ok ps =>
              let pending := match delim with
                | some strip => pending ++ [{ delimiterOf cs with stripTabs := strip }]
                | none => pending
              -- a word is at the line where it ends, as the shell counts lines after reading it
              tokenize f rest line' (⟨.word ps (plainText ps), line'⟩ :: acc) pending none bodies

/-- The tokens of a script whose first line has the number `line`, and its here-document
bodies. -/
def lex (script : String) (line : Nat := 1) : Lexed :=
  tokenize (script.length + 1) script.toList line [] [] none []

end Updater.Shell
