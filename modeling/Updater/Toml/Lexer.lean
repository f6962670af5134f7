import Updater.Toml.Source
/-!
Cutting TOML text into tokens.

Punctuation (`. = , [ ] { }`) is a token of its own. A run of spaces and tabs is whitespace; a
comment runs from `#` to the end of its line; a line break is `\n`, `\r\n` or a lone `\r` (which
is checked later). Strings run from their opening quote to the closing one: a one-line string
stops before a line break when it is not closed, a basic string steps over an escaped quote or
backslash, and a multi-line string takes up to two quotes after its closing delimiter as part of
its text. Anything else up to the next punctuation, blank, comment or line break is an atom (a
quote inside it does not end it): a bare key, a number, a boolean, a date. A float such as
`1.5` is three tokens here; the parser puts them together again.

Lexing never fails: what is wrong with a token is found when it is read. A leading byte-order
mark is skipped, and the token list always ends with an empty end-of-input token.
-/

namespace Updater.Toml

inductive TokenKind
  | dot
  | equals
  | comma
  | openBracket
  | closeBracket
  | openBrace
  | closeBrace
  | whitespace
  | comment
  | newline
  | literalString
  | basicString
  | multiLiteralString
  | multiBasicString
  | atom
  | eof
  deriving DecidableEq, Repr, Inhabited

structure Token where
  kind : TokenKind
  span : Span
  text : String
  deriving Repr, Inhabited

namespace TokenKind

def isTrivia : TokenKind → Bool
  | .whitespace | .comment | .newline => true
  | _ => false

def isString : TokenKind → Bool
  | .literalString | .basicString | .multiLiteralString | .multiBasicString => true
  | _ => false

end TokenKind

namespace Lexer

def atomEnds : List Char :=
  ['.', '=', ',', '[', ']', '\x7b', '\x7d', ' ', '\t', '#', '\r', '\n']

/-- A one-line basic string after its opening quote: up to and with the closing quote, or up to
a line break or the end. -/
def basicRest : List Char → List Char × List Char
  | [] => ([], [])
  | '"' :: r => (['"'], r)
  | '\n' :: r => ([], '\n' :: r)
  | '\\' :: c :: r =>
    if c == '"' || c == '\\' then
      let (t, r') := basicRest r
      ('\\' :: c :: t, r')
    else
      let (t, r') := basicRest (c :: r)
      ('\\' :: t, r')
  | c :: r =>
    let (t, r') := basicRest r
    (c :: t, r')
termination_by cs => cs.length

def literalRest : List Char → List Char × List Char
  | [] => ([], [])
  | '\'' :: r => (['\''], r)
  | '\n' :: r => ([], '\n' :: r)
  | c :: r =>
    let (t, r') := literalRest r
    (c :: t, r')

def extraQuotes (q : Char) : List Char → List Char × List Char
  | a :: b :: r => if a == q then (if b == q then ([a, b], r) else ([a], b :: r)) else ([], a :: b :: r)
  | [a] => if a == q then ([a], []) else ([], [a])
  | [] => ([], [])

def multiLiteralRest : List Char → List Char × List Char
  | [] => ([], [])
  | '\'' :: '\'' :: '\'' :: r =>
    let (extra, r') := extraQuotes '\'' r
    (['\'', '\'', '\''] ++ extra, r')
  | c :: r =>
    let (t, r') := multiLiteralRest r
    (c :: t, r')

def multiBasicRest : List Char → List Char × List Char
  | [] => ([], [])
  | '\\' :: c :: r =>
    if c == '"' || c == '\\' then
      let (t, r') := multiBasicRest r
      ('\\' :: c :: t, r')
    else
      let (t, r') := multiBasicRest (c :: r)
      ('\\' :: t, r')
  | '"' :: '"' :: '"' :: r =>
    let (extra, r') := extraQuotes '"' r
    (['"', '"', '"'] ++ extra, r')
  | c :: r =>
    let (t, r') := multiBasicRest r
    (c :: t, r')
termination_by cs => cs.length

def front : List Char → TokenKind × List Char × List Char
  | [] => (.eof, [], [])
  | '.' :: r => (.dot, ['.'], r)
  | '=' :: r => (.equals, ['='], r)
  | ',' :: r => (.comma, [','], r)
  | '[' :: r => (.openBracket, ['['], r)
  | ']' :: r => (.closeBracket, [']'], r)
  | '\x7b' :: r => (.openBrace, ['\x7b'], r)
  | '\x7d' :: r => (.closeBrace, ['\x7d'], r)
  | '\r' :: '\n' :: r => (.newline, ['\r', '\n'], r)
  | '\r' :: r => (.newline, ['\r'], r)
  | '\n' :: r => (.newline, ['\n'], r)
  | '#' :: r =>
    let body := r.takeWhile fun c => c != '\r' && c != '\n'
    (.comment, '#' :: body, r.drop body.length)
  | '\'' :: '\'' :: '\'' :: r =>
    let (t, r') := multiLiteralRest r
    (.multiLiteralString, ['\'', '\'', '\''] ++ t, r')
  | '\'' :: r =>
    let (t, r') := literalRest r
    (.literalString, '\'' :: t, r')
  | '"' :: '"' :: '"' :: r =>
    let (t, r') := multiBasicRest r
    (.multiBasicString, ['"', '"', '"'] ++ t, r')
  | '"' :: r =>
    let (t, r') := basicRest r
    (.basicString, '"' :: t, r')
  | c :: r =>
    if c == ' ' || c == '\t' then
      let body := r.takeWhile fun x => x == ' ' || x == '\t'
      (.whitespace, c :: body, r.drop body.length)
    else
      let body := r.takeWhile fun x => !atomEnds.contains x
      (.atom, c :: body, r.drop body.length)

def tokens : Nat → List Char → Nat → List Token
  | 0, _, pos => [⟨.eof, ⟨pos, pos⟩, ""⟩]
  | _, [], pos => [⟨.eof, ⟨pos, pos⟩, ""⟩]
  | fuel + 1, c :: cs, pos =>
    let (kind, taken, rest) := front (c :: cs)
    let stop := pos + byteSize taken
    ⟨kind, ⟨pos, stop⟩, String.ofList taken⟩ :: tokens fuel rest stop

end Lexer

/-- The tokens of a document; a leading byte-order mark is skipped but still counts in the
offsets. -/
def lex (text : String) : List Token :=
  match text.toList with
  | '\uFEFF' :: cs => Lexer.tokens (cs.length + 1) cs 3
  | cs => Lexer.tokens (cs.length + 1) cs 0

end Updater.Toml
