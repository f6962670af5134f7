/-!
TOML date-times: offset date-times, local date-times, local dates and local times.

The text is cut into pieces (runs of digits, `-`, `:`, `.`, `T`, a space, `Z`, `+`; anything
else ends the pieces) and read from the front: a date `YYYY-MM-DD`, then after `T` or a space a
time `HH:MM`, optionally `:SS` and then `.fraction`, then for a date with a time an offset `Z`
or `±HH:MM`. A text starting `HH:` is a time alone. Each part is checked as it is read: its
digits are there, it has the right number of them, it is in range (the day against the month,
February against leap years). The first failure names the part and what was expected, as in
`invalid date, expected month between 01 and 12`; anything left over makes the whole text an
invalid date-time.

Written back, a date-time has its seconds (`:00` when absent), its fraction trimmed of
trailing zeros (and cut to nanoseconds), an upper-case `T` and `Z`, and the offset `-00:00`
written `+00:00`.
-/

namespace Updater.Toml

structure Date where
  year : Nat
  month : Nat
  day : Nat
  deriving DecidableEq, Repr, Inhabited

structure Time where
  hour : Nat
  minute : Nat
  second : Nat
  nanosecond : Nat
  deriving DecidableEq, Repr, Inhabited

inductive Offset
  | utc
  | minutes (m : Int)
  deriving DecidableEq, Repr, Inhabited

structure Datetime where
  date : Option Date := none
  time : Option Time := none
  offset : Option Offset := none
  deriving DecidableEq, Repr, Inhabited

structure DatetimeError where
  what : Option String := none
  expected : Option String := none
  deriving DecidableEq, Repr, Inhabited

def DatetimeError.message : DatetimeError → String
  | ⟨some w, some e⟩ => "invalid " ++ w ++ ", expected " ++ e
  | ⟨some w, none⟩ => "invalid " ++ w
  | ⟨none, some e⟩ => "invalid datetime, expected " ++ e
  | ⟨none, none⟩ => "invalid datetime"

namespace Datetime

inductive Piece
  | digits (ds : List Char)
  | dash
  | colon
  | dot
  | timeMark
  | space
  | zulu
  | plus
  | unknown
  deriving DecidableEq, Repr, Inhabited

def pieces : List Char → List Piece
  | [] => []
  | c :: rest =>
    if c.isDigit then
      let ds := rest.takeWhile Char.isDigit
      .digits (c :: ds) :: pieces (rest.drop ds.length)
    else if c == '-' then .dash :: pieces rest
    else if c == ':' then .colon :: pieces rest
    else if c == '.' then .dot :: pieces rest
    else if c == 'T' || c == 't' then .timeMark :: pieces rest
    else if c == ' ' then .space :: pieces rest
    else if c == 'Z' || c == 'z' then .zulu :: pieces rest
    else if c == '+' then .plus :: pieces rest
    else [.unknown]
termination_by cs => cs.length
decreasing_by all_goals (simp only [List.length_drop, List.length_cons]; omega)

def digitsValue (ds : List Char) : Nat := ds.foldl (fun n d => 10 * n + (d.toNat - 48)) 0

def takeDigits (what expected : String) : List Piece → Except DatetimeError (List Char × List Piece)
  | .digits ds :: rest => .ok (ds, rest)
  | _ => .error ⟨some what, some expected⟩

def takePiece (p : Piece) (what expected : String) : List Piece → Except DatetimeError (List Piece)
  | q :: rest => if q == p then .ok rest else .error ⟨some what, some expected⟩
  | [] => .error ⟨some what, some expected⟩

def leapYear (y : Nat) : Bool := y % 4 == 0 && (y % 100 != 0 || y % 400 == 0)

def daysIn (year month : Nat) : Nat :=
  match month with
  | 2 => if leapYear year then 29 else 28
  | 4 | 6 | 9 | 11 => 30
  | _ => 31

def failIf (cond : Bool) (what expected : String) : Except DatetimeError Unit :=
  if cond then .error ⟨some what, some expected⟩ else .ok ()

def readDate (year : List Char) (ps : List Piece) : Except DatetimeError (Date × List Piece) := do
  let (month, ps) ← takeDigits "date" "month" ps
  let ps ← takePiece .dash "date" "`-` (MM-DD)" ps
  let (day, ps) ← takeDigits "date" "day" ps
  failIf (year.length != 4) "date" "a four-digit year (YYYY)"
  failIf (month.length != 2) "date" "a two-digit month (MM)"
  failIf (day.length != 2) "date" "a two-digit day (DD)"
  let d : Date := ⟨digitsValue year, digitsValue month, digitsValue day⟩
  failIf (d.month < 1 || d.month > 12) "date" "month between 01 and 12"
  let last := daysIn d.year d.month
  failIf (d.day < 1 || d.day > last) "date" ("day between 01 and " ++ toString last)
  return (d, ps)

def nanoseconds (ds : List Char) : Nat :=
  digitsValue ((ds.take 9) ++ List.replicate (9 - min 9 ds.length) '0')

def readTime (ps : List Piece) : Except DatetimeError (Time × List Piece) := do
  let (hour, ps) ← takeDigits "time" "hour" ps
  let ps ← takePiece .colon "time" "`:` (HH:MM)" ps
  let (minute, ps) ← takeDigits "time" "minute" ps
  let (second, ps) ← match ps with
    | .colon :: rest => do
      let (s, rest) ← takeDigits "time" "second" rest
      pure (some s, rest)
    | _ => pure (none, ps)
  let (fraction, ps) ← match second, ps with
    | some _, .dot :: rest => do
      let (f, rest) ← takeDigits "time" "nanosecond" rest
      pure (f, rest)
    | _, _ => pure ([], ps)
  failIf (hour.length != 2) "time" "a two-digit hour (HH)"
  failIf (minute.length != 2) "time" "a two-digit minute (MM)"
  failIf ((second.map (·.length != 2)).getD false) "time" "a two-digit second (SS)"
  let t : Time := ⟨digitsValue hour, digitsValue minute, (second.map digitsValue).getD 0,
    nanoseconds fraction⟩
  failIf (t.hour > 23) "time" "hour between 00 and 23"
  failIf (t.minute > 59) "time" "minute between 00 and 59"
  failIf (t.second > 60) "time" "second between 00 and 60"
  return (t, ps)

def readOffset (negative : Bool) (ps : List Piece) : Except DatetimeError (Offset × List Piece) := do
  let (hours, ps) ← takeDigits "offset" "hour" ps
  let ps ← takePiece .colon "offset" "`:` (HH:MM)" ps
  let (minutes, ps) ← takeDigits "offset" "minute" ps
  failIf (hours.length != 2) "offset" "a two-digit hour (HH)"
  failIf (minutes.length != 2) "offset" "a two-digit minute (MM)"
  let (h, m) := (digitsValue hours, digitsValue minutes)
  failIf (h > 23) "offset" "hours between 00 and 23"
  failIf (m > 59) "offset" "minutes between 00 and 59"
  let total : Int := (60 * h + m : Nat)
  return (.minutes (if negative then -total else total), ps)

def parse (text : String) : Except DatetimeError Datetime := do
  let ps := pieces text.toList
  let (first, rest) ← match ps with
    | .digits ds :: rest => pure (ds, rest)
    | _ => throw ⟨none, some "year or hour"⟩
  let (date, ps) ← match rest with
    | .dash :: rest => do
      let (d, rest) ← readDate first rest
      pure (some d, rest)
    | .colon :: _ => pure (none, ps)
    | _ => throw ⟨none, some "`-` (YYYY-MM) or `:` (HH:MM)"⟩
  let (wantTime, ps) ← match date, ps with
    | none, _ => pure (true, ps)
    | some _, .timeMark :: rest => pure (true, rest)
    | some _, .space :: rest => pure (true, rest)
    | some _, [] => pure (false, ps)
    | some _, _ :: _ => throw ⟨some "date-time", some "`T` between date and time"⟩
  let (time, ps) ← if wantTime then do
      let (t, rest) ← readTime ps
      pure (some t, rest)
    else pure (none, ps)
  let (offset, ps) ← match date, time, ps with
    | some _, some _, .zulu :: rest => pure (some Offset.utc, rest)
    | some _, some _, .plus :: rest => do
      let (o, rest) ← readOffset false rest
      pure (some o, rest)
    | some _, some _, .dash :: rest => do
      let (o, rest) ← readOffset true rest
      pure (some o, rest)
    | some _, some _, _ :: _ => throw ⟨some "offset", some "`Z`, +OFFSET, -OFFSET"⟩
    | _, _, _ => pure (none, ps)
  if !ps.isEmpty then throw {}
  return ⟨date, time, offset⟩

def padded (width n : Nat) : String :=
  let s := toString n
  String.ofList (List.replicate (width - s.length) '0') ++ s

def Date.render (d : Date) : String :=
  padded 4 d.year ++ "-" ++ padded 2 d.month ++ "-" ++ padded 2 d.day

def Time.render (t : Time) : String :=
  let base := padded 2 t.hour ++ ":" ++ padded 2 t.minute ++ ":" ++ padded 2 t.second
  if t.nanosecond = 0 then base
  else
    let digits := (padded 9 t.nanosecond).toList
    base ++ "." ++ String.ofList (digits.reverse.dropWhile (· == '0')).reverse

def Offset.render : Offset → String
  | .utc => "Z"
  | .minutes m => (if m < 0 then "-" else "+") ++ padded 2 (m.natAbs / 60) ++ ":" ++ padded 2 (m.natAbs % 60)

def render (d : Datetime) : String :=
  (d.date.map Date.render).getD "" ++
    (d.time.map fun t => (if d.date.isSome then "T" else "") ++ Time.render t).getD "" ++
    (d.offset.map Offset.render).getD ""

end Datetime

end Updater.Toml
