/-!
Arithmetic expansion: `$((...))`.

The expression is read as C reads integer expressions, on signed 64-bit words that wrap:
assignment (`=`, `+=`, ... right to left), the conditional `a ? b : c`, `||`, `&&`, then the
binary operators from loosest to tightest `|`, `^`, `&`, `==` `!=`, `<` `<=` `>` `>=`, `<<`
`>>`, `+` `-`, `*` `/` `%`, and the unary `+`, `-`, `!`, `~` on a number, a variable or a
parenthesised expression. Division truncates toward zero; dividing by zero is an error.

A number is decimal, octal after a leading `0` or hexadecimal after `0x`; there are no binary
numbers, so `0b1` is `0` followed by the name `b1`. Too large a literal stands for the largest
word. A variable stands for its value read as a number the same way, with blanks around it and
a sign allowed; an unset or empty variable is `0`, and anything else is an illegal number. The
branches that `&&`, `||` and `?:` skip are read but not evaluated: their variables are not
looked up and their assignments not made.
-/

namespace Updater.Shell

inductive BinOp
  | mul | div | rem | add | sub | shl | shr | lt | le | gt | ge | eq | ne | band | bxor | bor
  deriving DecidableEq, Repr, Inhabited

def BinOp.level : BinOp → Nat
  | .mul | .div | .rem => 0
  | .add | .sub => 1
  | .shl | .shr => 2
  | .lt | .le | .gt | .ge => 3
  | .eq | .ne => 4
  | .band => 5
  | .bxor => 6
  | .bor => 7

inductive ArithTok
  | num (v : Int64)
  | var (name : String)
  | op (o : BinOp)
  | assign (o : Option BinOp)
  | lparen | rparen | not | bnot | qmark | colon | andAlso | orElse
  | bad
  | eof
  deriving DecidableEq, Repr, Inhabited

inductive ArithError
  | malformed (expected : String) (expr : String)
  | divisionByZero (expr : String)
  | illegalNumber (text : String)
  deriving DecidableEq, Repr, Inhabited

def ArithError.message : ArithError → String
  | .malformed e x => "arithmetic expression: " ++ e ++ ": \"" ++ x ++ "\""
  | .divisionByZero x => "arithmetic expression: division by zero: \"" ++ x ++ "\""
  | .illegalNumber t => "Illegal number: " ++ t

namespace Arith

def maxWord : Nat := 9223372036854775807

def digitValue (c : Char) : Option Nat :=
  if '0' ≤ c && c ≤ '9' then some (c.toNat - 48)
  else if 'a' ≤ c && c ≤ 'z' then some (c.toNat - 87)
  else if 'A' ≤ c && c ≤ 'Z' then some (c.toNat - 55)
  else none

def digitsIn (base : Nat) (cs : List Char) : Nat × Nat × List Char :=
  let ds := cs.takeWhile fun c => match digitValue c with
    | some d => d < base
    | none => false
  (ds.foldl (fun v c => base * v + (digitValue c).getD 0) 0, ds.length, cs.drop ds.length)

def isHexDigit (c : Char) : Bool :=
  match digitValue c with
  | some d => d < 16
  | none => false

/-- An unsigned number in the base its prefix gives: its value, and what follows; `none` when
no digit is there. -/
def unsigned (cs : List Char) : Option (Nat × List Char) :=
  match cs with
  | '0' :: x :: h :: rest =>
    if (x == 'x' || x == 'X') && isHexDigit h then
      let (v, _, r) := digitsIn 16 (h :: rest)
      some (v, r)
    else
      let (v, _, r) := digitsIn 8 (x :: h :: rest)
      some (v, r)
  | '0' :: rest =>
    let (v, _, r) := digitsIn 8 rest
    some (v, r)
  | _ =>
    let (v, n, r) := digitsIn 10 cs
    if n == 0 then none else some (v, r)

def isSpace (c : Char) : Bool :=
  c == ' ' || c == '\t' || c == '\n' || c == '\r' || c == '\x0b' || c == '\x0c'

def valueOf (text : String) : Except ArithError Int64 :=
  let cs := text.toList.dropWhile isSpace
  let (neg, body) := match cs with
    | '-' :: r => (true, r)
    | '+' :: r => (false, r)
    | r => (false, r)
  match unsigned body with
  | none =>
    if (text.toList.dropWhile isSpace).isEmpty then .ok 0 else .error (.illegalNumber text)
  | some (v, rest) =>
    if !(rest.dropWhile isSpace).isEmpty then .error (.illegalNumber text)
    else if neg then
      if v > maxWord + 1 then .error (.illegalNumber text) else .ok (Int64.ofInt (-(v : Int)))
    else if v > maxWord then .error (.illegalNumber text) else .ok (Int64.ofNat v)

def isNameStart (c : Char) : Bool := c.isAlpha || c == '_'

def isNameChar (c : Char) : Bool := c.isAlphanum || c == '_'

def withAssign (o : BinOp) (rest : List Char) : ArithTok × List Char :=
  match rest with
  | '=' :: r => (.assign (some o), r)
  | r => (.op o, r)

def token (cs : List Char) : ArithTok × List Char :=
  match cs with
  | [] => (.eof, [])
  | c :: rest =>
    if '0' ≤ c && c ≤ '9' then
      match unsigned cs with
      | some (v, r) => (.num (if v > maxWord then Int64.ofNat maxWord else Int64.ofNat v), r)
      | none => (.bad, rest)
    else if isNameStart c then
      let n := rest.takeWhile isNameChar
      (.var (String.ofList (c :: n)), rest.drop n.length)
    else match c, rest with
      | '=', '=' :: r => (.op .eq, r)
      | '=', r => (.assign none, r)
      | '>', '=' :: r => (.op .ge, r)
      | '>', '>' :: r => withAssign .shr r
      | '>', r => (.op .gt, r)
      | '<', '=' :: r => (.op .le, r)
      | '<', '<' :: r => withAssign .shl r
      | '<', r => (.op .lt, r)
      | '|', '|' :: r => (.orElse, r)
      | '|', r => withAssign .bor r
      | '&', '&' :: r => (.andAlso, r)
      | '&', r => withAssign .band r
      | '!', '=' :: r => (.op .ne, r)
      | '!', r => (.not, r)
      | '(', r => (.lparen, r)
      | ')', r => (.rparen, r)
      | '*', r => withAssign .mul r
      | '/', r => withAssign .div r
      | '%', r => withAssign .rem r
      | '+', r => withAssign .add r
      | '-', r => withAssign .sub r
      | '~', r => (.bnot, r)
      | '^', r => withAssign .bxor r
      | '?', r => (.qmark, r)
      | ':', r => (.colon, r)
      | _, _ => (.bad, rest)

def tokens : Nat → List Char → List ArithTok
  | 0, _ => [.eof]
  | f + 1, cs =>
    match cs.dropWhile (fun c => c == ' ' || c == '\t' || c == '\n') with
    | [] => [.eof]
    | cs' =>
      match token cs' with
      | (.bad, _) => [.bad]
      | (t, r) => t :: tokens f r

def boolWord (b : Bool) : Int64 := if b then 1 else 0

def apply (expr : String) (o : BinOp) (a b : Int64) : Except ArithError Int64 :=
  match o with
  | .div => if b == 0 then .error (.divisionByZero expr) else .ok (a / b)
  | .rem => if b == 0 then .error (.divisionByZero expr) else .ok (a % b)
  | .mul => .ok (a * b)
  | .add => .ok (a + b)
  | .sub => .ok (a - b)
  | .shl => .ok (a <<< b)
  | .shr => .ok (a >>> b)
  | .lt => .ok (boolWord (a < b))
  | .le => .ok (boolWord (a ≤ b))
  | .gt => .ok (boolWord (a > b))
  | .ge => .ok (boolWord (a ≥ b))
  | .eq => .ok (boolWord (a == b))
  | .ne => .ok (boolWord (a != b))
  | .band => .ok (a &&& b)
  | .bxor => .ok (a ^^^ b)
  | .bor => .ok (a ||| b)

structure Reading where
  toks : List ArithTok
  sets : List (String × String)

abbrev M := StateT Reading (Except ArithError)

structure Ctx where
  expr : String
  lookup : String → Option String

def peek : M ArithTok := do return ((← get).toks.head?).getD .eof

def advance : M Unit := modify fun r => { r with toks := r.toks.drop 1 }

def fail {α : Type} (ctx : Ctx) (expected : String) : M α := throw (.malformed expected ctx.expr)

def lift {α : Type} (e : Except ArithError α) : M α :=
  match e with
  | .ok a => pure a
  | .error err => throw err

def read (ctx : Ctx) (name : String) : M Int64 := do
  let r ← get
  let text := match r.sets.lookup name with
    | some v => v
    | none => (ctx.lookup name).getD ""
  lift (valueOf text)

mutual

def assignment (ctx : Ctx) (fuel : Nat) (skip : Bool) : M Int64 :=
  match fuel with
  | 0 => fail ctx "expression too deep"
  | f + 1 => do
    let r ← get
    match r.toks with
    | .var name :: .assign o :: rest =>
      set { r with toks := rest }
      let v ← assignment ctx f skip
      if skip then return v
      let v ← match o with
        | none => pure v
        | some op => do lift (apply ctx.expr op (← read ctx name) v)
      modify fun r => { r with sets := (name, toString v.toInt) :: r.sets }
      return v
    | _ => conditional ctx f skip

def conditional (ctx : Ctx) (fuel : Nat) (skip : Bool) : M Int64 :=
  match fuel with
  | 0 => fail ctx "expression too deep"
  | f + 1 => do
    let a ← orElse ctx f skip
    if (← peek) != .qmark then return a
    advance
    let b ← assignment ctx f (skip || a == 0)
    if (← peek) != .colon then fail ctx "expecting ':'"
    advance
    let c ← conditional ctx f (skip || a != 0)
    return if a != 0 then b else c

def orElse (ctx : Ctx) (fuel : Nat) (skip : Bool) : M Int64 :=
  match fuel with
  | 0 => fail ctx "expression too deep"
  | f + 1 => do
    let a ← andAlso ctx f skip
    if (← peek) != .orElse then return a
    advance
    let b ← orElse ctx f (skip || a != 0)
    return boolWord (a != 0 || b != 0)

def andAlso (ctx : Ctx) (fuel : Nat) (skip : Bool) : M Int64 :=
  match fuel with
  | 0 => fail ctx "expression too deep"
  | f + 1 => do
    let a ← binary ctx f skip 7
    if (← peek) != .andAlso then return a
    advance
    let b ← andAlso ctx f (skip || a == 0)
    return boolWord (a != 0 && b != 0)

def binary (ctx : Ctx) (fuel : Nat) (skip : Bool) (level : Nat) : M Int64 :=
  match fuel with
  | 0 => fail ctx "expression too deep"
  | f + 1 => do
    let a ← match level with
      | 0 => unary ctx f skip
      | l + 1 => binary ctx f skip l
    binaryRest ctx f skip level a

def binaryRest (ctx : Ctx) (fuel : Nat) (skip : Bool) (level : Nat) (a : Int64) : M Int64 :=
  match fuel with
  | 0 => fail ctx "expression too deep"
  | f + 1 => do
    match ← peek with
    | .op o =>
      if o.level != level then return a
      advance
      let b ← match level with
        | 0 => unary ctx f skip
        | l + 1 => binary ctx f skip l
      let v ← if skip then pure b else lift (apply ctx.expr o a b)
      binaryRest ctx f skip level v
    | _ => return a

def unary (ctx : Ctx) (fuel : Nat) (skip : Bool) : M Int64 :=
  match fuel with
  | 0 => fail ctx "expression too deep"
  | f + 1 => do
    match ← peek with
    | .op .add => advance; unary ctx f skip
    | .op .sub => advance; return -(← unary ctx f skip)
    | .not => advance; return boolWord ((← unary ctx f skip) == 0)
    | .bnot => advance; return ~~~(← unary ctx f skip)
    | .num v => advance; return v
    | .var name =>
      advance
      if skip then return 0 else read ctx name
    | .lparen =>
      advance
      let v ← assignment ctx f skip
      if (← peek) != .rparen then fail ctx "expecting ')'"
      advance
      return v
    | _ => fail ctx "expecting primary"

end

end Arith

/-- Evaluates an arithmetic expression, its variables read through `lookup`: its value and the
assignments it made, in order. -/
def evalArith (lookup : String → Option String) (expr : String) :
    Except ArithError (Int × List (String × String)) :=
  let cs := expr.toList
  let ctx : Arith.Ctx := ⟨expr, lookup⟩
  let run : Arith.M Int64 := do
    let v ← Arith.assignment ctx (20 * cs.length + 40) false
    if (← Arith.peek) != .eof then Arith.fail ctx "expecting EOF"
    return v
  match run.run ⟨Arith.tokens (cs.length + 1) cs, []⟩ with
  | .ok (v, r) => .ok (v.toInt, r.sets.reverse)
  | .error e => .error e

end Updater.Shell
