import Updater.Shell.Lex
/-!
Reading tokens as commands.

A script is read one complete command at a time: the and-or lists of one line, separated by
`;` or `&`, or a compound command that spans lines. The caller runs each before reading the
next, so a mistake further on does not stop the commands before it.

An and-or list is pipelines joined by `&&` and `||`; a pipeline is commands joined by `|`,
possibly negated by `!`. A command is `if`, `while`, `until`, `for`, `case`, `{ ...; }`,
`( ... )`, a function definition `name() command`, or a simple command: leading `NAME=value`
assignments, then words and redirections in any order. A compound command may be followed by
redirections. Inside compound commands the lists may span lines; a list ends at a reserved word
that closes it (`then`, `fi`, `do`, `done`, `esac`, `}` ...), at `)`, at `;;` or at the end, and
only the body of a `case` arm may be empty.

Reserved words count only where a command starts (and `in`, `do` where a `for` or `case` expects
them). A syntax error names the token it found, as `"fi" unexpected` for a reserved word, `word`
for any other word, and `newline` or `end of file`, with what was expected when one thing was.
Each step takes one unit of fuel, so reading always ends.
-/

namespace Updater.Shell

structure SyntaxError where
  message : String
  line : Nat
  deriving Repr, Inhabited

/-- Where reading stands: the tokens left and the here-document bodies not yet taken, how
the command substitutions in a word are checked when the word is met, and how many tokens were
left when the first of them was last checked. -/
structure ParseState where
  toks : List Tok
  bodies : List Word
  check : String → Bool → Nat → Option SyntaxError := fun _ _ _ => none
  /-- The line reading has reached when a complete command is read: that of the line break that
  ends it (after the here-document bodies it reads), or of the end of the script. -/
  endLine : Nat := 0
  openCheck : String → Nat → SyntaxError := fun _ l => ⟨unclosedParen, l⟩
  checked : Nat := 0
  /-- The aliases defined when the command is read, and those already replaced where the
  command being read starts. -/
  aliases : List (String × String) := []
  expanded : List String := []

abbrev Parser := StateT ParseState (Except SyntaxError)

def reservedWords : List String :=
  ["!", "case", "do", "done", "elif", "else", "esac", "fi", "for", "if", "in", "then", "until",
   "while", "\x7b", "\x7d"]

def closingWords : List String := ["do", "done", "elif", "else", "esac", "fi", "then", "\x7d"]

def specialBuiltins : List String :=
  [".", ":", "break", "continue", "eval", "exec", "exit", "export", "local", "readonly", "return",
   "set", "shift", "times", "trap", "unset"]

mutual

/-- The command substitutions written in a piece: the script of each, whether it was
backquoted, and the line it starts on. -/
def Piece.substitutions : Piece → List (String × Bool × Nat)
  | .command script backquoted _ line => [(script, backquoted, line)]
  | .paramOp _ _ w _ => substitutionsIn w
  | .arith e _ => substitutionsIn e
  | _ => []

def substitutionsIn : List Piece → List (String × Bool × Nat)
  | [] => []
  | p :: ps => p.substitutions ++ substitutionsIn ps

end

namespace Parser

/-- The next token; a lexing mistake met here is the syntax error, and so is one in the
script of a command substitution in it. -/
def peek : Parser Tok := do
  let s ← get
  match s.toks with
  | t :: _ =>
    match t.token with
    | .error m => throw ⟨m, t.line⟩
    | .openCommand script => throw (s.openCheck script t.line)
    | .word w _ =>
      if s.checked != s.toks.length then
        match (substitutionsIn w).findSome? fun (script, bq, line) => s.check script bq line with
        | some e => throw e
        | none => set { s with checked := s.toks.length }
      return t
    | _ => return t
  | [] => return ⟨.eof, 0⟩

def advance : Parser Unit := modify fun s => { s with toks := s.toks.drop 1 }

def isOp (t : Tok) (s : String) : Bool :=
  match t.token with
  | .op o => o == s
  | _ => false

def isWord (t : Tok) (w : String) : Bool :=
  match t.token with
  | .word _ (some r) => r == w
  | _ => false

def isEof (t : Tok) : Bool :=
  match t.token with
  | .eof => true
  | _ => false

def describe (t : Tok) (keywords : Bool := true) : String :=
  match t.token with
  | .eof => "end of file"
  | .op "\n" => "newline"
  | .op o => "\"" ++ o ++ "\""
  | .redir .. => "redirection"
  | .word _ (some r) => if keywords && reservedWords.contains r then "\"" ++ r ++ "\"" else "word"
  | .word _ none => "word"
  | .error m => m
  | .openCommand _ => unclosedParen

def unexpected {α : Type} (t : Tok) (keywords : Bool := true) : Parser α :=
  throw ⟨"Syntax error: " ++ describe t keywords ++ " unexpected", t.line⟩

def expecting {α : Type} (t : Tok) (what : String) (keywords : Bool := true) : Parser α :=
  throw ⟨"Syntax error: " ++ describe t keywords ++ " unexpected (expecting " ++ what ++ ")", t.line⟩

def expectWord (w : String) : Parser Unit := do
  let t ← peek
  if isWord t w then advance else expecting t ("\"" ++ w ++ "\"")

def aliasTokens (value : String) (line : Nat) : List Tok :=
  (lex value line).toks.filter fun t => !isEof t

def endsInBlank (value : String) : Bool :=
  value.toList.getLast? == some ' ' || value.toList.getLast? == some '\t'

/-- The word after an alias whose text ends in a blank, replaced by its own alias's text when
it names one. -/
def expandFollowing (aliases : List (String × String)) (expanded : List String) :
    Nat → List Tok → List Tok
  | 0, ts => ts
  | _, [] => []
  | n + 1, t :: rest =>
    match t.token with
    | .word _ (some r) =>
      match (if expanded.contains r then none else aliases.lookup r) with
      | some v =>
        let rest := if endsInBlank v then expandFollowing aliases (r :: expanded) n rest else rest
        aliasTokens v t.line ++ rest
      | none => t :: rest
    | _ => t :: rest

/-- Where a command starts, replaces a plain word naming an alias by the alias's text, again
while the text starts with another alias; an alias is not replaced inside its own text. Where
reserved words count (`keywords`), they are never aliases. -/
def expandAlias (keywords : Bool) : Nat → Parser Unit
  | 0 => pure ()
  | n + 1 => do
    let s ← get
    match s.toks with
    | t :: rest =>
      match t.token with
      | .word _ (some r) =>
        if (keywords && reservedWords.contains r) || s.expanded.contains r then pure ()
        else
          match s.aliases.lookup r with
          | none => pure ()
          | some v =>
            let rest := if endsInBlank v then
                expandFollowing s.aliases (r :: s.expanded) rest.length rest
              else rest
            set { s with toks := aliasTokens v t.line ++ rest, expanded := r :: s.expanded,
                         checked := 0 }
            expandAlias keywords n
      | _ => pure ()
    | [] => pure ()

def skipNewlines : Nat → Parser Unit
  | 0 => pure ()
  | n + 1 => do if isOp (← peek) "\n" then advance; skipNewlines n

def newlines : Parser Unit := do skipNewlines (← get).toks.length

/-- The pieces of the unquoted text that starts an assignment's value: a `~` at its start or
after a `:` is a home directory, the user named up to the next `/` or `:`. `more` says that
other pieces follow the text, so that a name running to its end is not whole. -/
def valueTildes : Nat → List Char → Bool → List Piece
  | 0, cs, _ => [.text (String.ofList cs) false]
  | f + 1, cs, more =>
    let seg := cs.takeWhile (· != ':')
    let after := cs.drop seg.length
    let head : List Piece := match seg with
      | '~' :: r =>
        let user := r.takeWhile (· != '/')
        let whole := user.length == r.length
        if whole && after.isEmpty && more then [.text (String.ofList seg) false]
        else .tilde (String.ofList user) ::
          (if whole then [] else [.text (String.ofList (r.drop user.length)) false])
      | _ => if seg.isEmpty then [] else [.text (String.ofList seg) false]
    match after with
    | ':' :: rest => head ++ [.text ":" false] ++ valueTildes f rest more
    | _ => head

/-- `NAME=value` written as the first piece of a word, with the home directories its value
names. -/
def assignment? (w : Word) : Option (String × Word) :=
  match w with
  | .text s false :: rest =>
    let cs := s.toList
    let name := cs.takeWhile isNameChar
    match cs.drop name.length with
    | '=' :: value =>
      if !name.isEmpty && isNameStart (name.headD ' ') then
        some (String.ofList name, valueTildes (value.length + 1) value (!rest.isEmpty) ++ rest)
      else none
    | _ => none
  | _ => none

/-- An operand of `export`, `readonly` or `local` written as an assignment gets the home
directories of one. -/
def declaration (w : Word) : Word :=
  match assignment? w with
  | some (name, value) => .text (name ++ "=") false :: value
  | none => w

def redirection (fd : Option Nat) (o : String) : Parser Redir := do
  let t ← peek
  let target ← match t.token with
    | .word w _ => do advance; pure w
    | _ => unexpected t
  match o with
  | ">" => return .toFile (fd.getD 1) target false false
  | ">|" => return .toFile (fd.getD 1) target false true
  | ">>" => return .toFile (fd.getD 1) target true false
  | "<" | "<>" => return .fromFile (fd.getD 0) target
  | ">&" => return .dup (fd.getD 1) target
  | "<&" => return .dup (fd.getD 0) target
  | _ =>
    let s ← get
    match s.bodies with
    | b :: rest =>
      set { s with bodies := rest }
      return .here (fd.getD 0) b
    | [] => return .here (fd.getD 0) []

def redirections : Nat → List Redir → Parser (List Redir)
  | 0, rs => return rs
  | n + 1, rs => do
    match (← peek).token with
    | .redir fd o => advance; redirections n (rs ++ [← redirection fd o])
    | _ => return rs

def closes (t : Tok) : Bool :=
  isEof t || isOp t ")" || isOp t ";;" || closingWords.any (isWord t ·)

def join (a b : Cmd) : Cmd :=
  match a with
  | .skip => b
  | _ => .seq a b

def withRedirs (c : Cmd) (rs : List Redir) (line : Nat) : Cmd :=
  if rs.isEmpty then c else .redirected c rs line

/-- The token taken as a pattern of a `case` arm: any token stands there, and one that is not
a word is an empty pattern. -/
def patternWord : Parser Word := do
  let t ← peek
  if !isEof t then advance
  match t.token with
  | .word w _ => return w
  | _ => return []

mutual

/-- An inner list: commands separated by `;`, `&` or line breaks, up to a token that closes
it. It may start with a closing token only when `empty` allows it; at the end of the script it
is empty, and the caller says what it expected. -/
def list (fuel : Nat) (empty : Bool) : Parser Cmd :=
  match fuel with
  | 0 => throw ⟨"script too deep", 0⟩
  | f + 1 => do
    newlines
    let t ← peek
    if closes t then
      if empty || isEof t then return .skip else unexpected t
    listRest f .skip

def listRest (fuel : Nat) (acc : Cmd) : Parser Cmd :=
  match fuel with
  | 0 => return acc
  | f + 1 => do
    let c ← andOr f
    let t ← peek
    let acc := join acc (if isOp t "&" then .background c else c)
    if isOp t ";" || isOp t "&" || isOp t "\n" then
      advance
      newlines
      if closes (← peek) then return acc
      listRest f acc
    else return acc

def andOr (fuel : Nat) : Parser Cmd :=
  match fuel with
  | 0 => throw ⟨"script too deep", 0⟩
  | f + 1 => do
    let p ← pipeline f
    andOrRest f p

def andOrRest (fuel : Nat) (acc : Cmd) : Parser Cmd :=
  match fuel with
  | 0 => return acc
  | f + 1 => do
    let t ← peek
    if isOp t "&&" then
      advance; newlines
      andOrRest f (.andIf acc (← pipeline f))
    else if isOp t "||" then
      advance; newlines
      andOrRest f (.orIf acc (← pipeline f))
    else return acc

def pipeline (fuel : Nat) : Parser Cmd :=
  match fuel with
  | 0 => throw ⟨"script too deep", 0⟩
  | f + 1 => do
    if isWord (← peek) "!" then
      advance
      return .negate (← pipeRest f (← command f))
    else pipeRest f (← command f)

def pipeRest (fuel : Nat) (acc : Cmd) : Parser Cmd :=
  match fuel with
  | 0 => return acc
  | f + 1 => do
    if isOp (← peek) "|" then
      advance; newlines
      let next ← command f
      pipeRest f (.pipe acc next)
    else return acc

def command (fuel : Nat) : Parser Cmd :=
  match fuel with
  | 0 => throw ⟨"script too deep", 0⟩
  | f + 1 => do
    modify fun s => { s with expanded := [] }
    expandAlias true (← get).aliases.length
    let t ← peek
    if isWord t "if" then
      advance
      let c ← ifRest f
      return withRedirs c (← redirections (← get).toks.length []) t.line
    else if isWord t "while" || isWord t "until" then
      advance
      let cond ← list f false
      expectWord "do"
      let body ← list f false
      expectWord "done"
      return withRedirs (.loop (isWord t "until") cond body) (← redirections (← get).toks.length []) t.line
    else if isWord t "for" then
      advance
      let c ← forRest f t.line
      return withRedirs c (← redirections (← get).toks.length []) t.line
    else if isWord t "case" then
      advance
      let subject ← match (← peek).token with
        | .word w _ => do advance; pure w
        | _ => expecting (← peek) "word"
      newlines
      expectWord "in"
      let arms ← caseArms f
      return withRedirs (.caseOf subject arms t.line) (← redirections (← get).toks.length []) t.line
    else if isWord t "\x7b" then
      advance
      let body ← list f false
      expectWord "\x7d"
      return withRedirs (.group body) (← redirections (← get).toks.length []) t.line
    else if isOp t "(" then
      advance
      let body ← list f false
      let close ← peek
      if isOp close ")" then advance else expecting close "\")\""
      return withRedirs (.subshell body) (← redirections (← get).toks.length []) t.line
    else
      match t.token with
      | .word _ (some r) => if reservedWords.contains r then unexpected t else simple f t.line
      | .word _ none | .redir .. => simple f t.line
      | _ => unexpected t

def simple (fuel : Nat) (line : Nat) : Parser Cmd :=
  match fuel with
  | 0 => throw ⟨"script too deep", 0⟩
  | f + 1 => do
    let (a, ws, rs) ← simpleParts f [] [] []
    match a, ws, rs with
    | [], [w], [] =>
      if isOp (← peek) "(" then
        advance
        let close ← peek
        -- a reserved word here is only a word
        if isOp close ")" then advance else expecting close "\")\"" false
        let name := (plainText w).getD ""
        if !isName name || specialBuiltins.contains name then throw ⟨"Syntax error: Bad function name", line⟩
        newlines
        let body ← command f
        return .function name body line
      else return .simple a ws rs line
    | _, _, _ => return .simple a ws rs line

def simpleParts (fuel : Nat) (a : List (String × Word)) (ws : List Word) (rs : List Redir) :
    Parser (List (String × Word) × List Word × List Redir) :=
  match fuel with
  | 0 => return (a, ws, rs)
  | n + 1 => do
    -- after the assignments, the command's name may still be an alias
    if ws.isEmpty then expandAlias false (← get).aliases.length
    match (← peek).token with
    | .word w _ =>
      advance
      match (if ws.isEmpty then assignment? w else none) with
      | some asg => simpleParts n (a ++ [asg]) ws rs
      | none =>
        let declares := ws.head?.bind plainText |>.any fun c =>
          c == "export" || c == "readonly" || c == "local"
        simpleParts n a (ws ++ [if declares then declaration w else w]) rs
    | .redir fd o =>
      advance
      let r ← redirection fd o
      simpleParts n a ws (rs ++ [r])
    | _ => return (a, ws, rs)

def ifRest (fuel : Nat) : Parser Cmd :=
  match fuel with
  | 0 => throw ⟨"script too deep", 0⟩
  | f + 1 => do
    let cond ← list f false
    expectWord "then"
    let body ← list f false
    let t ← peek
    if isWord t "elif" then
      advance
      return .ifThen cond body (← ifRest f)
    else if isWord t "else" then
      advance
      let e ← list f false
      expectWord "fi"
      return .ifThen cond body e
    else
      expectWord "fi"
      return .ifThen cond body .skip

def forRest (fuel : Nat) (line : Nat) : Parser Cmd :=
  match fuel with
  | 0 => throw ⟨"script too deep", 0⟩
  | f + 1 => do
    let t ← peek
    let name ← match t.token with
      | .word _ (some n) => if isName n then do advance; pure n else throw ⟨"Syntax error: Bad for loop variable", t.line⟩
      | _ => throw ⟨"Syntax error: Bad for loop variable", t.line⟩
    newlines
    let words ← if isWord (← peek) "in" then do
        advance
        let ws ← forWords f []
        let sep ← peek
        if isOp sep ";" || isOp sep "\n" then advance else unexpected sep false
        pure (some ws)
      else do
        let sep ← peek
        if isOp sep ";" then advance
        pure none
    newlines
    expectWord "do"
    let body ← list f false
    expectWord "done"
    return .forIn name words body line

def forWords (fuel : Nat) (acc : List Word) : Parser (List Word) :=
  match fuel with
  | 0 => return acc
  | f + 1 => do
    match (← peek).token with
    | .word w _ => advance; forWords f (acc ++ [w])
    | _ => return acc

/-- The arms of a `case` up to its `esac`. After the patterns, separated by `|`,
comes `)`. -/
def caseArms (fuel : Nat) : Parser (List (List Word × Cmd)) :=
  match fuel with
  | 0 => throw ⟨"script too deep", 0⟩
  | f + 1 => do
    newlines
    if isWord (← peek) "esac" then
      advance
      return []
    if isOp (← peek) "(" then advance
    let first ← patternWord
    let pats ← patterns f [first]
    let close ← peek
    if isOp close ")" then advance else expecting close "\")\"" false
    let body ← list f true
    newlines
    let t ← peek
    if isOp t ";;" then
      advance
      return (pats, body) :: (← caseArms f)
    else if isWord t "esac" then
      advance
      return [(pats, body)]
    else expecting t "\";;\""

def patterns (fuel : Nat) (acc : List Word) : Parser (List Word) :=
  match fuel with
  | 0 => return acc
  | f + 1 => do
    if isOp (← peek) "|" then
      advance
      patterns f (acc ++ [← patternWord])
    else return acc

end

def complete (fuel : Nat) : Parser (Option Cmd) := do
  newlines
  let t ← peek
  if isEof t then return none
  let c ← topList fuel .skip
  let t ← peek
  if isOp t "\n" then advance
  else if !isEof t then unexpected t
  modify fun s => { s with endLine := t.line }
  return some c
where
  topList : Nat → Cmd → Parser Cmd
    | 0, acc => return acc
    | f + 1, acc => do
      let c ← andOr f
      let t ← peek
      let acc := join acc (if isOp t "&" then .background c else c)
      if isOp t ";" || isOp t "&" then
        advance
        let u ← peek
        if isOp u "\n" || isEof u then return acc
        topList f acc
      else return acc

end Parser

/-- The commands of a command substitution, read whole before any of them runs. Those of
`$(...)` must end at its `)`, and the end of its script is named `")"` in an error; after the
commands of a backquoted script, what is left is not read. With `unclosed`, the text runs to the
end of the script with no `)`, so reading it always fails. Substitutions written inside it are
checked as its words are met, `depth` levels deep. -/
def substitutionParse (aliases : List (String × String)) :
    (depth : Nat) → String → Bool → Bool → Nat → Except SyntaxError Cmd
  | 0, _, _, _, _ => .error ⟨"script too deep", 0⟩
  | n + 1, script, backquoted, unclosed, line =>
    let lexed := lex script line
    let words := lexed.toks.filter fun t => !Parser.isEof t
    let last := (words.getLast?.map (·.line)).getD line
    let toks := if backquoted || unclosed then lexed.toks else words ++ [⟨.op ")", last⟩]
    let check := fun s b l =>
      match substitutionParse aliases n s b false l with
      | .error e => some e
      | .ok _ => none
    let openCheck := fun s l =>
      match substitutionParse aliases n s false true l with
      | .error e => e
      | .ok _ => ⟨unclosedParen, l⟩
    let body : Parser Cmd := do
      let c ← Parser.list (8 * toks.length + 16) true
      if !backquoted then
        let t ← Parser.peek
        if Parser.isOp t ")" then Parser.advance else Parser.expecting t "\")\""
      return c
    body.run' { toks, bodies := lexed.bodies, check, openCheck, aliases }

def substitutionBody (aliases : List (String × String)) (depth : Nat) (script : String)
    (backquoted : Bool) (line : Nat) : Except SyntaxError Cmd :=
  substitutionParse aliases depth script backquoted false line

def substitutionError (script : String) (backquoted : Bool) (line : Nat) : Option SyntaxError :=
  match substitutionBody [] (script.length + 1) script backquoted line with
  | .error e => some e
  | .ok _ => none

def openSubstitutionError (script : String) (line : Nat) : SyntaxError :=
  match substitutionParse [] (script.length + 1) script false true line with
  | .error e => e
  | .ok _ => ⟨unclosedParen, line⟩

structure Reader where
  state : ParseState
  fuel : Nat

def Reader.start (script : String) (line : Nat := 1) : Reader :=
  let lexed := lex script line
  { state := { toks := lexed.toks, bodies := lexed.bodies, check := substitutionError,
                openCheck := openSubstitutionError }
    fuel := 8 * lexed.toks.length + 16 }

/-- The next complete command and the reader after it, none at the end, or the syntax error
that stops the script. -/
def Reader.next (r : Reader) (aliases : List (String × String) := []) :
    Except SyntaxError (Option (Cmd × Reader)) :=
  match (Parser.complete r.fuel).run { r.state with aliases := aliases } with
  | .ok (some c, st) => .ok (some (c, { r with state := st }))
  | .ok (none, _) => .ok none
  | .error e => .error e

def Reader.size (r : Reader) : Nat := r.state.toks.length

def parseAll (script : String) : Except SyntaxError (List Cmd) :=
  go (script.length + 2) (Reader.start script)
where
  go : Nat → Reader → Except SyntaxError (List Cmd)
    | 0, _ => .ok []
    | n + 1, r =>
      match r.next with
      | .ok (some (c, r')) => (c :: ·) <$> go n r'
      | .ok none => .ok []
      | .error e => .error e

end Updater.Shell
