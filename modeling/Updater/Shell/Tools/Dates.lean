import Updater.Text.Utf8
/-!
Which texts name a moment, as the machine's programs read times on their command lines.

A *stamp* is `[[CC]YY]MMDDhhmm[.ss]`: digits in pairs, the year first when there is one. A year
of two digits is `20YY` below `69` and `19YY` from there, and no year at all means this year. The
month, day, hour and minute must name a real moment; a second of `60` is allowed.

A *description* is free text read as words and numbers:

* calendar dates such as `2024-01-15`, `1/15/2024`, `15 jan 2024`, `jan 15, 2024`, or a number of
  more than four digits read as `YYYYMMDD`;
* times of day such as `10:30`, `10:30:15.5`, `10pm`, with a zone offset such as `+05:30`, or a
  number of up to four digits read as `hhmm`;
* a date and a time joined by `T`, as in `2024-01-15T10:30`;
* zones (`UTC`, `EST`, military letters), week days, and relative amounts such as
  `3 days ago`, `next week`, `tomorrow`, `-2 hours`;
* `@` and a number of seconds, alone.

Text in parentheses is passed over, and case does not matter. Each of the date, the time, the
week day and the zone may be given once; the date and the time must name a real moment. This
year is taken to be a year without a 29 February.
-/

namespace Updater.Shell.Dates

def daysIn (year month : Int) : Int :=
  if month == 2 then
    if (year % 4 == 0 && year % 100 != 0) || year % 400 == 0 then 29 else 28
  else if month == 4 || month == 6 || month == 9 || month == 11 then 30
  else 31

def realDay (year month day : Int) : Bool :=
  1 ≤ month && month ≤ 12 && 1 ≤ day && day ≤ daysIn year month

def thisYear : Int := 2025

def digitValue (c : Char) : Nat := c.toNat - 48

def pairs : List Char → List Nat
  | a :: b :: rest => (10 * digitValue a + digitValue b) :: pairs rest
  | _ => []

def validStamp (s : String) : Bool :=
  let cs := s.toList
  let main := cs.takeWhile (· != '.')
  let secs := cs.drop main.length
  let secsOk := match secs with
    | [] => some 0
    | ['.', a, b] => if a.isDigit && b.isDigit then some (10 * digitValue a + digitValue b) else none
    | _ => none
  match secsOk with
  | none => false
  | some sec =>
    if !(8 ≤ main.length && main.length ≤ 12 && main.length % 2 == 0 && main.all Char.isDigit) then
      false
    else
      let ps := pairs main
      let yearPairs := ps.take (ps.length - 4)
      let year : Int := match yearPairs with
        | [] => thisYear
        | [yy] => if yy ≤ 68 then 2000 + yy else 1900 + yy
        | [cc, yy] => 100 * cc + yy
        | _ => thisYear
      match ps.drop yearPairs.length with
      | [mon, day, hour, minute] =>
        realDay year mon day && hour ≤ 23 && minute ≤ 59 && sec ≤ 60
      | _ => false

/-! ## Descriptions -/

inductive Unit
  | year
  | month
  | day
  | hour
  | minute
  | second
  deriving DecidableEq, Repr

inductive Token
  | unsigned (value digits : Nat)
  | signed (value : Int) (digits : Nat)
  | decimal (value : Nat) (signed : Bool)
  | meridian (pm : Bool)
  | month (n : Nat)
  | weekday
  | zone
  | daylightZone
  | daylight
  | unit (u : Unit)
  | dayShift
  | ordinal
  | ago
  | tee
  | jay
  | char (c : Char)
  | unknown
  deriving DecidableEq, Repr

def monthNames : List (String × Nat) :=
  [("JANUARY", 1), ("FEBRUARY", 2), ("MARCH", 3), ("APRIL", 4), ("MAY", 5), ("JUNE", 6),
   ("JULY", 7), ("AUGUST", 8), ("SEPTEMBER", 9), ("SEPT", 9), ("OCTOBER", 10),
   ("NOVEMBER", 11), ("DECEMBER", 12)]

def dayNames : List String :=
  ["SUNDAY", "MONDAY", "TUESDAY", "TUES", "WEDNESDAY", "WEDNES", "THURSDAY", "THUR", "THURS",
   "FRIDAY", "SATURDAY"]

def zoneNames : List (String × Bool) :=
  [("GMT", false), ("UT", false), ("UTC", false),
   ("WET", false), ("WEST", true), ("BST", true), ("ART", false), ("BRT", false), ("BRST", true),
   ("NST", false), ("NDT", true), ("AST", false), ("ADT", true), ("CLT", false), ("CLST", true),
   ("EST", false), ("EDT", true), ("CST", false), ("CDT", true), ("MST", false), ("MDT", true),
   ("PST", false), ("PDT", true), ("AKST", false), ("AKDT", true), ("HST", false),
   ("HAST", false), ("HADT", true), ("SST", false), ("WAT", false), ("CET", false),
   ("CEST", true), ("MET", false), ("MEZ", false), ("MEST", true), ("MESZ", true),
   ("EET", false), ("EEST", true), ("CAT", false), ("SAST", false), ("EAT", false),
   ("MSK", false), ("MSD", true), ("IST", false), ("SGT", false), ("KST", false),
   ("JST", false), ("GST", false), ("NZST", false), ("NZDT", true)]

def unitNames : List (String × Unit) :=
  [("YEAR", .year), ("MONTH", .month), ("FORTNIGHT", .day), ("WEEK", .day), ("DAY", .day),
   ("HOUR", .hour), ("MINUTE", .minute), ("MIN", .minute), ("SECOND", .second),
   ("SEC", .second)]

def relativeWords : List (String × Token) :=
  [("TOMORROW", .dayShift), ("YESTERDAY", .dayShift), ("TODAY", .dayShift), ("NOW", .dayShift),
   ("LAST", .ordinal), ("THIS", .ordinal), ("NEXT", .ordinal), ("FIRST", .ordinal),
   ("THIRD", .ordinal), ("FOURTH", .ordinal), ("FIFTH", .ordinal), ("SIXTH", .ordinal),
   ("SEVENTH", .ordinal), ("EIGHTH", .ordinal), ("NINTH", .ordinal), ("TENTH", .ordinal),
   ("ELEVENTH", .ordinal), ("TWELFTH", .ordinal), ("AGO", .ago), ("HENCE", .ago)]

def zoneToken (w : String) : Option Token :=
  (zoneNames.lookup w).map fun summer => if summer then .daylightZone else .zone

def word (w : String) : Token :=
  let cs := w.toList
  let abbreviated := cs.length == 3 || (cs.length == 4 && cs.getLast? == some '.')
  let sameAs := fun (name : String) =>
    if abbreviated then name.toList.take 3 == cs.take 3 else name == w
  let plural := if cs.getLast? == some 'S' then some (String.ofList cs.dropLast) else none
  if w == "AM" || w == "A.M." then .meridian false
  else if w == "PM" || w == "P.M." then .meridian true
  else match monthNames.find? (sameAs ·.1) with
  | some (_, n) => .month n
  | none =>
  if dayNames.any sameAs then .weekday
  else match zoneToken w with
  | some t => t
  | none =>
  if w == "DST" then .daylight
  else match unitNames.lookup w with
  | some u => .unit u
  | none =>
  match plural.bind (fun p => unitNames.lookup p) with
  | some u => .unit u
  | none =>
  match relativeWords.lookup w with
  | some t => t
  | none =>
  if cs.length == 1 then
    if w == "T" then .tee else if w == "J" then .jay else .zone
  else if cs.contains '.' then
    (zoneToken (String.ofList (cs.filter (· != '.')))).getD .unknown
  else .unknown

def isBlank (c : Char) : Bool :=
  c == ' ' || c == '\t' || c == '\n' || c == '\r' || c.toNat == 11 || c.toNat == 12

def digitRun (cs : List Char) : Nat × Nat × List Char :=
  let ds := cs.takeWhile Char.isDigit
  (ds.foldl (fun v c => 10 * v + digitValue c) 0, ds.length, cs.drop ds.length)

/-- Text in parentheses, nested, from after the first `(`: what follows it, or none when it is
not closed. -/
def skipComment : Nat → Nat → List Char → Option (List Char)
  | 0, _, _ => none
  | _, _, [] => none
  | f + 1, depth, c :: rest =>
    if c == '(' then skipComment f (depth + 1) rest
    else if c == ')' then (if depth == 0 then some rest else skipComment f (depth - 1) rest)
    else skipComment f depth rest

def tokens : Nat → List Char → List Token
  | 0, _ => []
  | f + 1, cs =>
    match cs.dropWhile isBlank with
    | [] => []
    | c :: rest =>
      if c.isDigit || c == '-' || c == '+' then
        let (sign, body) :=
          if c == '-' || c == '+' then (some (c == '-'), rest.dropWhile isBlank)
          else (none, c :: rest)
        match body with
        | d :: _ =>
          if !d.isDigit then tokens f body
          else
            let (v, n, after) := digitRun body
            if v ≥ 2 ^ 63 then [.unknown]
            else
              match after with
              | p :: e :: more =>
                if (p == '.' || p == ',') && e.isDigit then
                  .decimal v sign.isSome :: tokens f (more.dropWhile Char.isDigit)
                else
                  (match sign with
                   | none => Token.unsigned v n
                   | some neg => Token.signed (if neg then -(v : Int) else v) n) :: tokens f after
              | _ =>
                (match sign with
                 | none => Token.unsigned v n
                 | some neg => Token.signed (if neg then -(v : Int) else v) n) :: tokens f after
        | [] => []
      else if c.isAlpha then
        let w := (c :: rest).takeWhile fun x => x.isAlpha || x == '.'
        word (String.ofList ((w.take 19).map Char.toUpper)) :: tokens f ((c :: rest).drop w.length)
      else if c == '(' then
        match skipComment (rest.length + 1) 0 rest with
        | some after => tokens f after
        | none => []
      else .char c :: tokens f rest

inductive Meridian
  | am
  | pm
  | h24
  deriving DecidableEq, Repr

structure Reading where
  times : Nat := 0
  dates : Nat := 0
  days : Nat := 0
  daylights : Nat := 0
  zones : Nat := 0
  relative : Bool := false
  year : Int := thisYear
  yearDigits : Nat := 0
  month : Int := 1
  day : Int := 1
  hour : Int := 0
  minute : Int := 0
  second : Int := 0
  meridian : Meridian := .h24
  deriving Repr

def Reading.time (r : Reading) (h m s : Int) (mer : Meridian) : Reading :=
  { r with times := r.times + 1, hour := h, minute := m, second := s, meridian := mer }

def Reading.date (r : Reading) (y : Option (Int × Nat)) (m d : Int) : Reading :=
  let r := { r with dates := r.dates + 1, month := m, day := d }
  match y with
  | some (v, n) => { r with year := v, yearDigits := n }
  | none => r

def Reading.zone (r : Reading) : Reading := { r with zones := r.zones + 1 }

def Reading.rel (r : Reading) : Reading := { r with relative := true }

def Reading.number (r : Reading) (v n : Nat) : Reading :=
  if r.dates > 0 && r.yearDigits == 0 && !r.relative && (r.times > 0 || n > 2) then
    { r with year := v, yearDigits := n }
  else if n > 4 then
    r.date (some (v / 10000, n - 4)) (v / 100 % 100) (v % 100)
  else if n ≤ 2 then r.time v 0 0 .h24
  else r.time (v / 100) (v % 100) 0 .h24

def offsetOk (v : Int) (digits : Nat) (minutes : Option Nat) : Bool :=
  let total : Int :=
    match minutes with
    | none =>
      let v := if digits ≤ 2 then v * 100 else v
      (v.tdiv 100) * 60 + v.tmod 100
    | some m => if v < 0 then v * 60 - m else v * 60 + m
  decide (-(24 * 60) ≤ total) && decide (total ≤ 24 * 60)

/-- A zone offset after a time of day, if one follows: the reading and what is left, or none
when it is wrong. -/
def offset (r : Reading) : List Token → Option (Reading × List Token)
  | .signed v n :: .char ':' :: .unsigned m _ :: rest =>
    if offsetOk v n (some m) then some (r.zone, rest) else none
  | .signed _ _ :: .char ':' :: _ => none
  | .signed v n :: rest => if offsetOk v n none then some (r.zone, rest) else none
  | rest => some (r, rest)

def clock (r : Reading) (h m : Int) : List Token → Option (Reading × List Token)
  | .meridian pm :: rest => some (r.time h m 0 (if pm then .pm else .am), rest)
  | .char ':' :: secs :: rest =>
    let s : Option Nat := match secs with
      | .unsigned v _ => some v
      | .decimal v false => some v
      | _ => none
    match s, rest with
    | none, _ => none
    | some s, .meridian pm :: rest => some (r.time h m s (if pm then .pm else .am), rest)
    | some s, rest => offset (r.time h m s .h24) rest
  | .char ':' :: _ => none
  | rest => offset (r.time h m 0 .h24) rest

def joinedTime (r : Reading) : List Token → Option (Reading × List Token)
  | .unsigned h _ :: .char ':' :: .unsigned m _ :: rest =>
    match rest with
    | .char ':' :: secs :: more =>
      let s : Option Nat := match secs with
        | .unsigned v _ => some v
        | .decimal v false => some v
        | _ => none
      s.bind fun s => offset (r.time h m s .h24) more
    | .char ':' :: _ => none
    | _ => offset (r.time h m 0 .h24) rest
  | .unsigned _ _ :: .char ':' :: _ => none
  | .unsigned h _ :: .signed v n :: rest => offset (r.time h 0 0 .h24) (.signed v n :: rest)
  | _ => none

def afterAmount (r : Reading) : List Token → Option (Reading × List Token)
  | .ago :: rest => some (r.rel, rest)
  | rest => some (r.rel, rest)

def isUnit : Token → Bool
  | .unit _ => true
  | _ => false

def afterDigits (r : Reading) (v n : Nat) : List Token → Option (Reading × List Token)
  | .meridian pm :: rest => some (r.time v 0 0 (if pm then .pm else .am), rest)
  | .char ':' :: .unsigned m _ :: rest => clock r v m rest
  | .char ':' :: _ => none
  | .char '/' :: .unsigned a _ :: .char '/' :: .unsigned b bn :: rest =>
    if n ≥ 4 then some (r.date (some (v, n)) a b, rest)
    else some (r.date (some (b, bn)) v a, rest)
  | .char '/' :: .unsigned _ _ :: .char '/' :: _ => none
  | .char '/' :: .unsigned a _ :: rest => some (r.date none v a, rest)
  | .char '/' :: _ => none
  | .signed m _ :: .signed d _ :: rest =>
    let r := r.date (some (v, n)) (-m) (-d)
    match rest with
    | .tee :: more => joinedTime r more
    | more => some (r, more)
  | .signed _ _ :: .unit _ :: rest => some ((r.number v n).rel, rest)
  | .signed s sn :: rest =>
    match rest with
    | .char ':' :: .unsigned m _ :: more =>
      if offsetOk s sn (some m) then some ((r.time v 0 0 .h24).zone, more) else none
    | .char ':' :: _ => none
    | more => if offsetOk s sn none then some ((r.time v 0 0 .h24).zone, more) else none
  | .month m :: .signed y yn :: rest => some (r.date (some (-y, yn)) m v, rest)
  | .month m :: .unsigned y yn :: rest => some (r.date (some (y, yn)) m v, rest)
  | .month m :: rest => some (r.date none m v, rest)
  | .weekday :: rest => some ({ r with days := r.days + 1 }, rest)
  | .unit _ :: rest => afterAmount r rest
  | rest => some (r.number v n, rest)

def item (r : Reading) : List Token → Option (Reading × List Token)
  | .unsigned v n :: rest => afterDigits r v n rest
  | .signed _ _ :: .unit _ :: rest => afterAmount r rest
  | .decimal _ _ :: .unit .second :: rest => afterAmount r rest
  | .month m :: .signed d _ :: .signed y yn :: rest => some (r.date (some (-y, yn)) m (-d), rest)
  | .month m :: .unsigned d _ :: .char ',' :: .unsigned y yn :: rest =>
    some (r.date (some (y, yn)) m d, rest)
  | .month _ :: .unsigned _ _ :: .char ',' :: _ => none
  | .month m :: .unsigned d _ :: rest => some (r.date none m d, rest)
  | .weekday :: .char ',' :: rest => some ({ r with days := r.days + 1 }, rest)
  | .weekday :: rest => some ({ r with days := r.days + 1 }, rest)
  | .ordinal :: .weekday :: rest => some ({ r with days := r.days + 1 }, rest)
  | .ordinal :: .unit _ :: rest => afterAmount r rest
  | .unit _ :: rest => afterAmount r rest
  | .dayShift :: rest => some (r.rel, rest)
  | .zone :: .signed _ _ :: .unit _ :: rest => some (r.zone.rel, rest)
  | .zone :: .signed v n :: .char ':' :: .unsigned m _ :: rest =>
    if offsetOk v n (some m) then some (r.zone, rest) else none
  | .zone :: .signed _ _ :: .char ':' :: _ => none
  | .zone :: .signed v n :: rest => if offsetOk v n none then some (r.zone, rest) else none
  | .zone :: .daylight :: rest => some (r.zone, rest)
  | .zone :: rest => some (r.zone, rest)
  | .tee :: .signed _ _ :: .unit _ :: rest => some (r.zone.rel, rest)
  | .tee :: .signed _ _ :: _ => none
  | .tee :: rest => some (r.zone, rest)
  | .daylightZone :: rest => some (r.zone, rest)
  | .jay :: rest => some (r.zone, rest)
  | _ => none

def items : Nat → Reading → List Token → Option Reading
  | 0, _, _ => none
  | _, r, [] => some r
  | f + 1, r, ts =>
    match item r ts with
    | some (r', rest) => if rest.length < ts.length then items f r' rest else none
    | none => none

def dayHour (h : Int) : Meridian → Option Int
  | .h24 => if 0 ≤ h && h < 24 then some h else none
  | .am => if 0 < h && h < 12 then some h else if h == 12 then some 0 else none
  | .pm => if 0 < h && h < 12 then some (h + 12) else if h == 12 then some 12 else none

def Reading.valid (r : Reading) : Bool :=
  let once := r.times ≤ 1 && r.dates ≤ 1 && r.days ≤ 1 && r.daylights ≤ 1 && r.zones ≤ 1
  let year := if r.year < 0 then -r.year
    else if r.yearDigits == 2 then r.year + (if r.year < 69 then 2000 else 1900)
    else r.year
  let timeOk :=
    if r.times > 0 then
      (dayHour r.hour r.meridian).isSome && 0 ≤ r.minute && r.minute ≤ 59 &&
        0 ≤ r.second && r.second ≤ 59
    else true
  once && timeOk && realDay year r.month r.day

def validDescription (s : String) : Bool :=
  let ts := tokens (s.length + 1) s.toList
  match ts with
  | [.char '@', .unsigned _ _] => true
  | [.char '@', .signed _ _] => true
  | [.char '@', .decimal _ _] => true
  | .char '@' :: _ => false
  | _ =>
    match items (ts.length + 1) {} ts with
    | some r => r.valid
    | none => false

end Updater.Shell.Dates
