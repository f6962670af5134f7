import Updater.Text.Utf8
/-!
How the machine's programs quote names and arguments in their messages.

Three styles are in use, all on bytes:

* `shellAlways` puts the text in single quotes, as a shell reads it back: `'a b'`. What cannot
  stand in single quotes is written as a `$'...'` piece with a backslash escape (`'a'$'\t''b'`);
  a single quote itself is `'\''`, unless the text is best put in double quotes, which is the
  case when a single quote is its only trouble (`"it's"`).
* `shell` does the same, but only when the text needs it: a plain name stays as it is. With
  `colon`, a `:` also counts as trouble.
* `locale` puts the text between the locale's quotation marks (`'...'`, or `‘...’` when text is
  UTF-8) and writes what cannot be shown, and the closing mark, with C backslash escapes.

What can be shown depends on the locale: printable ASCII only in the C locale, and any printable
character, however many bytes it takes, when text is UTF-8.
-/

namespace Updater.Shell.Quoting

inductive Style
  | shellAlways
  | shell (colon : Bool)
  | locale
  deriving DecidableEq, Repr

structure Mode where
  shellQuotes : Bool
  escapes : Bool
  elide : Bool
  closing : List UInt8
  colon : Bool
  utf8 : Bool

structure Acc where
  out : List UInt8 := []
  pending : Bool := false
  sawSingleQuote : Bool := false
  allPlain : Bool := true

def Acc.store (a : Acc) (bs : List UInt8) : Acc := { a with out := bs.reverse ++ a.out }

/-- How a pass ends: with its bytes, or with the finding that the text must be quoted as a
whole. -/
inductive Outcome
  | done (a : Acc)
  | quoteAll

def ch (c : Char) : UInt8 := c.toNat.toUInt8

def isPlain (c : UInt8) : Bool :=
  (c ≥ ch 'a' && c ≤ ch 'z') || (c ≥ ch 'A' && c ≤ ch 'Z') || (c ≥ ch '0' && c ≤ ch '9') ||
  "%+,-./:]_".toList.any (ch · == c)

def isShellSpecial (c : UInt8) : Bool := "!\"$&()*;<=>[^`|".toList.any (ch · == c)

def controlEscape (c : UInt8) : Option UInt8 :=
  if c == 7 then some (ch 'a') else if c == 8 then some (ch 'b')
  else if c == 12 then some (ch 'f') else if c == 10 then some (ch 'n')
  else if c == 13 then some (ch 'r') else if c == 9 then some (ch 't')
  else if c == 11 then some (ch 'v') else none

def startEscape (m : Mode) (a : Acc) : Acc :=
  if m.shellQuotes && !a.pending then
    { (a.store [ch '\'', ch '$', ch '\'', ch '\\']) with pending := true }
  else a.store [ch '\\']

def endEscape (escaping : Bool) (a : Acc) : Acc :=
  if a.pending && !escaping then { (a.store [ch '\'', ch '\'']) with pending := false } else a

def octal (c : UInt8) : List UInt8 :=
  [ch '0' + c / 64, ch '0' + (c / 8) % 8, ch '0' + c % 8]

/-- The length of the character starting a text read as UTF-8, and whether it can be shown;
`none` when the bytes are no character, `some (0, _)` when they are cut short. -/
def utf8Char (bs : List UInt8) : Option (Nat × Bool) :=
  match bs with
  | [] => none
  | b :: rest =>
    if b < 0x80 then some (1, b ≥ 0x20 && b < 0x7F)
    else match Text.leadInfo b with
      | none => none
      | some (lo, hi, need) =>
        let k := Text.validPrefix lo hi need rest
        if k == need then some (need + 1, (Text.charOf b (rest.take need)).toNat ≥ 0xA0)
        else if k == rest.length then some (0, false)
        else none

/-- Writes bytes that cannot be shown as octal escapes, or bytes of one character as they are;
`closeFirst` marks a closing quotation mark that starts here. -/
def storeRun (m : Mode) (printable closeFirst : Bool) (a : Acc) : List UInt8 → Acc
  | [] => a
  | c :: rest =>
    let a := if m.escapes && !printable then
        let a := startEscape m a
        let ds := octal c
        (endEscape true (a.store (ds.take 2))).store (ds.drop 2)
      else
        let a := if closeFirst then a.store [ch '\\'] else a
        (endEscape false a).store [c]
    storeRun m printable false a rest

def pass (m : Mode) (all : List UInt8) : Nat → Nat → List UInt8 → Acc → Outcome
  | 0, _, _, a => .done a
  | _, _, [], a => .done a
  | fuel + 1, i, c :: rest, a =>
    let closes := m.escapes && !m.shellQuotes && !m.closing.isEmpty &&
      m.closing.isPrefixOf (c :: rest)
    if closes && m.elide then .quoteAll
    else
      -- a byte with its escape: stored after a backslash
      let escaped := fun (e : UInt8) (plain : Bool) =>
        if m.elide then Outcome.quoteAll
        else
          let a := startEscape m a
          let a := (endEscape true a).store [e]
          pass m all fuel (i + 1) rest (if plain then a else { a with allPlain := false })
      -- a byte as it is, unless it needs quoting or is the closing mark
      let plainOrEscaped := fun (a : Acc) (b : UInt8) (plain : Bool) =>
        let needs := ((m.escapes && !m.shellQuotes) || m.elide) && m.colon && b == ch ':'
        if needs || closes then
          if m.elide then Outcome.quoteAll
          else
            let a := startEscape m a
            let a := (endEscape true a).store [b]
            pass m all fuel (i + 1) rest (if plain then a else { a with allPlain := false })
        else
          let a := (endEscape false a).store [b]
          pass m all fuel (i + 1) rest (if plain then a else { a with allPlain := false })
      if c == 0 then
        if m.escapes && m.elide then .quoteAll
        else if m.escapes then
          let a := startEscape m a
          let a := if !m.shellQuotes && (rest.head?.any fun d => d ≥ ch '0' && d ≤ ch '9') then
              a.store [ch '0', ch '0'] else a
          let a := (endEscape true a).store [ch '0']
          pass m all fuel (i + 1) rest { a with allPlain := false }
        else plainOrEscaped a c false
      else if c == ch '?' then
        if m.shellQuotes && m.elide then .quoteAll else plainOrEscaped a c false
      else if let some e := controlEscape c then
        let shellTrouble := c == 10 || c == 13 || c == 9
        if shellTrouble && m.shellQuotes && m.elide then .quoteAll
        else if m.escapes then escaped e false
        else plainOrEscaped a c false
      else if c == ch '\\' then
        if m.shellQuotes then
          if m.elide then .quoteAll else plainOrEscaped a c false
        else if m.escapes && m.elide && !m.closing.isEmpty then plainOrEscaped a c false
        else if m.escapes then escaped c false
        else plainOrEscaped a c false
      else if c == ch '\'' then
        let a := { a with sawSingleQuote := true }
        if m.shellQuotes then
          if m.elide then .quoteAll
          else
            let a := { (a.store [ch '\'', ch '\\', ch '\'']) with pending := false }
            plainOrEscaped a c true
        else plainOrEscaped a c true
      else
        let lone := all.length == 1
        let firstOnly := c == ch '#' || c == ch '~'
        let braces := c == ch '{' || c == ch '}'
        if (braces && !lone) || (firstOnly && i != 0) then plainOrEscaped a c false
        else if braces || firstOnly || c == ch ' ' then
          if m.shellQuotes && m.elide then .quoteAll else plainOrEscaped a c true
        else if isShellSpecial c then
          if m.shellQuotes && m.elide then .quoteAll else plainOrEscaped a c false
        else if isPlain c then plainOrEscaped a c true
        else
          -- a byte beyond the cases above: printable or not, and part of a longer character
          let (len, printable) : Nat × Bool :=
            if !m.utf8 then (1, c ≥ 0x20 && c < 0x7F)
            else if c < 0x80 then (1, c ≥ 0x20 && c < 0x7F)
            else match utf8Char (c :: rest) with
              | some (0, _) => ((c :: rest).length, false)
              | some (n, p) => (n, p)
              | none => (1, false)
          if len > 1 || (m.escapes && !printable) then
            if m.escapes && !printable && m.elide then .quoteAll
            else
              let run := (c :: rest).take len
              let a := storeRun m printable closes a run
              let a := if printable then a else { a with allPlain := false }
              pass m all fuel (i + len) (rest.drop (len - 1)) a
          else plainOrEscaped a c printable

def start (style : Style) (utf8 : Bool) : Mode × List UInt8 :=
  match style with
  | .shellAlways => (⟨true, true, false, [ch '\''], false, utf8⟩, [ch '\''])
  | .shell colon => (⟨true, true, true, [ch '\''], colon, utf8⟩, [])
  | .locale =>
    let (opening, closing) : List UInt8 × List UInt8 :=
      if utf8 then ([0xE2, 0x80, 0x98], [0xE2, 0x80, 0x99]) else ([ch '\''], [ch '\''])
    (⟨false, true, false, closing, false, utf8⟩, opening)

/-- The text in double quotes with C escapes, as it is written when a single quote is its only
trouble. -/
def doubleQuoted (utf8 : Bool) (bs : List UInt8) : List UInt8 :=
  let m : Mode := ⟨false, true, false, [ch '"'], false, utf8⟩
  match pass m bs (bs.length + 1) 0 bs ((({} : Acc)).store [ch '"']) with
  | .done a => a.out.reverse ++ [ch '"']
  | _ => [ch '"'] ++ bs ++ [ch '"']

def finish (m : Mode) (utf8 : Bool) (bs : List UInt8) : Outcome → Option (List UInt8)
  | .quoteAll => none
  | .done a =>
    if a.out.isEmpty && m.shellQuotes && m.elide then none
    else if m.shellQuotes && !m.elide && a.sawSingleQuote && a.allPlain then
      some (doubleQuoted utf8 bs)
    else some (a.out.reverse ++ (if m.elide then [] else m.closing))

def quoteBytes (style : Style) (utf8 : Bool) (bs : List UInt8) : List UInt8 :=
  let (m, lead) := start style utf8
  match finish m utf8 bs (pass m bs (bs.length + 1) 0 bs (({} : Acc).store lead)) with
  | some out => out
  | none =>
    -- quoted as a whole after all
    let (m, lead) := start .shellAlways utf8
    match finish m utf8 bs (pass m bs (bs.length + 1) 0 bs (({} : Acc).store lead)) with
    | some out => out
    | none => [ch '\''] ++ bs ++ [ch '\'']

def quote (style : Style) (utf8 : Bool) (s : String) : List UInt8 :=
  quoteBytes style utf8 s.toUTF8.toList

end Updater.Shell.Quoting
