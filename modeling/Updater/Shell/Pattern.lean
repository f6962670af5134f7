/-!
Shell patterns, as `case`, `${x#...}` and pathname expansion use them.

A pattern is read from bytes, each marked when it was quoted. Unquoted, `*` matches any run of
bytes, `?` any one byte, and `[...]` one byte of a set: single bytes, ranges `a-z` and classes
such as `[:digit:]`, negated by a leading `!`; a `]` right after the opening bracket (or after
the `!`) belongs to the set. A bracket that is never closed is an ordinary byte. Everything
quoted, and every other byte, matches itself. Matching is on bytes, so `?` matches one byte of
a character that takes several.
-/

namespace Updater.Shell

inductive SetItem
  | range (lo hi : UInt8)
  | cls (name : String)
  deriving DecidableEq, Repr, Inhabited

inductive Glob
  | star
  | one
  | byte (b : UInt8)
  | set (negated : Bool) (items : List SetItem)
  deriving DecidableEq, Repr, Inhabited

abbrev PatByte := UInt8 × Bool

namespace Pattern

def ofChar (c : Char) : UInt8 := c.toNat.toUInt8

def classTest (name : String) (b : UInt8) : Bool :=
  let c := Char.ofNat b.toNat
  let n := b.toNat
  match name with
  | "alnum" => c.isAlphanum
  | "alpha" => c.isAlpha
  | "digit" => c.isDigit
  | "lower" => c.isLower
  | "upper" => c.isUpper
  | "space" => n == 32 || (9 ≤ n && n ≤ 13)
  | "blank" => n == 32 || n == 9
  | "cntrl" => n < 32 || n == 127
  | "print" => 32 ≤ n && n < 127
  | "graph" => 32 < n && n < 127
  | "punct" => 32 < n && n < 127 && !c.isAlphanum
  | "xdigit" => c.isDigit || ('a' ≤ c && c ≤ 'f') || ('A' ≤ c && c ≤ 'F')
  | _ => false

def classNames : List String :=
  ["alnum", "cntrl", "lower", "space", "alpha", "digit", "print", "upper", "blank", "graph",
   "punct", "xdigit"]

def classAt (cs : List PatByte) : Option (String × List PatByte) :=
  classNames.findSome? fun name =>
    let want := (":" ++ name ++ ":]").toList.map ofChar
    if (cs.take want.length).map Prod.fst == want then some (name, cs.drop want.length) else none

/-- The members of a bracket set after its first byte has been read, up to the closing `]`:
the members and what follows the set, or none when the set is never closed. -/
def setBody : Nat → Option PatByte → List PatByte → List SetItem →
    Option (List SetItem × List PatByte)
  | 0, _, _, _ => none
  | _, none, _, _ => none
  | f + 1, some (c, q), rest, acc =>
    -- a class such as `[:digit:]`
    let asClass : Option (SetItem × List PatByte) :=
      if c == ofChar '[' && !q then (classAt rest).map fun (n, r) => (SetItem.cls n, r) else none
    let (item, rest) : SetItem × List PatByte := match asClass with
      | some (it, r) => (it, r)
      | none =>
        match rest with
        | (d, false) :: (e, eq) :: more =>
          if d == ofChar '-' && !(e == ofChar ']' && !eq) then (.range c e, more)
          else (.range c c, rest)
        | _ => (.range c c, rest)
    let acc := acc ++ [item]
    match rest with
    | (d, false) :: more => if d == ofChar ']' then some (acc, more) else setBody f (some (d, false)) more acc
    | x :: more => setBody f (some x) more acc
    | [] => none

def compile : Nat → List PatByte → List Glob
  | 0, _ => []
  | _, [] => []
  | f + 1, (c, q) :: rest =>
    if q then .byte c :: compile f rest
    else if c == ofChar '*' then .star :: compile f rest
    else if c == ofChar '?' then .one :: compile f rest
    else if c == ofChar '[' then
      let (neg, body) := match rest with
        | (b, false) :: r => if b == ofChar '!' then (true, r) else (false, rest)
        | r => (false, r)
      match setBody (body.length + 1) body.head? (body.drop 1) [] with
      | some (items, more) => .set neg items :: compile f more
      | none => .byte c :: compile f rest
    else .byte c :: compile f rest

def SetItem.contains (b : UInt8) : SetItem → Bool
  | .range lo hi => lo ≤ b && b ≤ hi
  | .cls name => classTest name b

def matchesAll : List Glob → List UInt8 → Bool
  | [], s => s.isEmpty
  | .star :: p, s => (List.range (s.length + 1)).any fun i => matchesAll p (s.drop i)
  | .one :: p, _ :: s => matchesAll p s
  | .byte c :: p, d :: s => c == d && matchesAll p s
  | .set neg items :: p, d :: s => (items.any (SetItem.contains d ·)) != neg && matchesAll p s
  | _ :: _, [] => false

def hasMeta (p : List Glob) : Bool :=
  p.any fun g => match g with
    | .byte _ => false
    | _ => true

end Pattern

def Glob.ofBytes (cs : List PatByte) : List Glob := Pattern.compile (cs.length + 1) cs

def Glob.matches (p : List Glob) (s : List UInt8) : Bool := Pattern.matchesAll p s

/-- What `${x#p}` (`longest` for `##`) leaves of a value: the value without the shortest (or
longest) start that the pattern matches, or all of it when none does. -/
def Glob.dropPrefix (p : List Glob) (longest : Bool) (s : List UInt8) : List UInt8 :=
  let cuts := List.range (s.length + 1)
  let order := if longest then cuts.reverse else cuts
  match order.find? (fun i => Glob.matches p (s.take i)) with
  | some i => s.drop i
  | none => s

/-- What `${x%p}` (`longest` for `%%`) leaves of a value: the value without the shortest (or
longest) end that the pattern matches, or all of it when none does. -/
def Glob.dropSuffix (p : List Glob) (longest : Bool) (s : List UInt8) : List UInt8 :=
  let cuts := List.range (s.length + 1)
  let order := if longest then cuts else cuts.reverse
  match order.find? (fun i => Glob.matches p (s.drop i)) with
  | some i => s.take i
  | none => s

end Updater.Shell
