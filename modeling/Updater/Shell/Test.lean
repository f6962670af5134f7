import Updater.Shell.Arith
/-!
The `test` builtin (also written `[ ... ]`).

Its arguments form an expression: `!` negates, `-a` joins with "and" (tighter) and `-o` with
"or", parentheses group; a primary is a unary test `-z s`, `-n s`, `-e f`, `-f f`, `-d f`, `-r f`,
`-w f`, `-x f`, `-s f`, ... , a binary test `s = t`, `s != t`, `s < t`, `s > t`, `m -eq n`,
`-ne`, `-lt`, `-le`, `-gt`, `-ge`, `f -nt g`, `-ot`, `-ef`, or a lone string, true when not
empty. A unary operator followed by a binary one is read as a string. With one to four
arguments the standard's rules come first: three arguments with a binary operator in the middle
are that comparison, and a leading `!` or surrounding parentheses are taken off.

Numbers are decimal, with blanks around and a sign allowed; anything else is an illegal number.
Something left over, a missing operand, or a missing parenthesis is an error.
-/

namespace Updater.Shell

/-- What `test` may ask about a file: whether it exists, is a regular file or a directory, its
size, its permission bits, and its identity. -/
structure FileFacts where
  isFile : Bool
  isDir : Bool
  size : Nat
  mode : Nat
  identity : String

inductive TestTok
  | operand
  | unary (op : String)
  | binary (op : String)
  | not
  | andAlso
  | orElse
  | lparen
  | rparen
  | eoi
  deriving DecidableEq, Repr, Inhabited

namespace TestExpr

def unaryOps : List String :=
  ["-r", "-w", "-x", "-e", "-f", "-d", "-c", "-b", "-p", "-u", "-g", "-k", "-s", "-t", "-z", "-n",
   "-h", "-O", "-G", "-L", "-S"]

def binaryOps : List String :=
  ["=", "!=", "<", ">", "-eq", "-ne", "-ge", "-gt", "-le", "-lt", "-nt", "-ot", "-ef"]

def opOf (s : String) : Option TestTok :=
  if unaryOps.contains s then some (.unary s)
  else if binaryOps.contains s then some (.binary s)
  else if s == "!" then some .not
  else if s == "-a" then some .andAlso
  else if s == "-o" then some .orElse
  else if s == "(" then some .lparen
  else if s == ")" then some .rparen
  else none

def isBinary (s : String) : Bool :=
  match opOf s with
  | some (.binary _) => true
  | _ => false

/-- The token at a position: a unary operator counts as an operand when it is last, or is
followed by two words of which the first is a binary operator; a `(` that is last is an
operand. -/
def tokAt (args : List String) (i : Nat) : TestTok :=
  match args[i]? with
  | none => .eoi
  | some s =>
    match opOf s with
    | some (.unary o) =>
      let operandHere := match args[i + 1]?, args[i + 2]? with
        | none, _ => true
        | some _, none => false
        | some nxt, some _ => isBinary nxt
      if operandHere then .operand else .unary o
    | some .lparen => if args[i + 1]?.isNone then .operand else .lparen
    | some t => t
    | none => .operand

def number (s : String) : Except String Int :=
  let cs := s.toList.dropWhile Arith.isSpace
  let (neg, body) := match cs with
    | '-' :: r => (true, r)
    | '+' :: r => (false, r)
    | r => (false, r)
  let ds := body.takeWhile Char.isDigit
  let rest := (body.drop ds.length).dropWhile Arith.isSpace
  if ds.isEmpty || !rest.isEmpty then .error ("Illegal number: " ++ s)
  else
    let v : Nat := ds.foldl (fun v (c : Char) => 10 * v + (c.toNat - 48)) 0
    if (neg && v > 9223372036854775808) || (!neg && v > 9223372036854775807) then
      .error ("Illegal number: " ++ s)
    else .ok (if neg then -(v : Int) else v)

def unary (facts : String → Option FileFacts) (op arg : String) : Except String Bool :=
  let f := facts arg
  match op with
  | "-z" => .ok arg.isEmpty
  | "-n" => .ok (!arg.isEmpty)
  | "-t" => do let _ ← number arg; .ok false
  | "-e" => .ok f.isSome
  | "-f" => .ok ((f.map (·.isFile)).getD false)
  | "-d" => .ok ((f.map (·.isDir)).getD false)
  | "-r" | "-w" => .ok f.isSome
  | "-x" => .ok ((f.map fun x => x.isDir || x.mode % 512 &&& 0o111 != 0).getD false)
  | "-s" => .ok ((f.map fun x => x.isDir || x.size > 0).getD false)
  | "-u" => .ok ((f.map fun x => x.mode &&& 0o4000 != 0).getD false)
  | "-g" => .ok ((f.map fun x => x.mode &&& 0o2000 != 0).getD false)
  | "-k" => .ok ((f.map fun x => x.mode &&& 0o1000 != 0).getD false)
  | "-O" | "-G" => .ok f.isSome
  | _ => .ok false

def bytesLt (a b : String) : Bool := decide (a.toUTF8.toList < b.toUTF8.toList)

def binary (facts : String → Option FileFacts) (op a b : String) : Except String Bool := do
  match op with
  | "=" => return a == b
  | "!=" => return a != b
  | "<" => return bytesLt a b
  | ">" => return bytesLt b a
  | "-eq" => return (← number a) == (← number b)
  | "-ne" => return (← number a) != (← number b)
  | "-ge" => return (← number a) ≥ (← number b)
  | "-gt" => return (← number a) > (← number b)
  | "-le" => return (← number a) ≤ (← number b)
  | "-lt" => return (← number a) < (← number b)
  | "-ef" =>
    match facts a, facts b with
    | some x, some y => return x.identity == y.identity
    | _, _ => return false
  | _ => return false

abbrev M := StateT Nat (Except String)

def fail {α : Type} (msg : String) : M α := throw msg

mutual

def orExpr (facts : String → Option FileFacts) (args : List String) (fuel : Nat) (t : TestTok) :
    M Bool :=
  match fuel with
  | 0 => fail "expression too deep"
  | f + 1 => do
    let a ← andExpr facts args f t
    let i ← get
    if tokAt args (i + 1) == .orElse then
      set (i + 2)
      let b ← orExpr facts args f (tokAt args (i + 2))
      return a || b
    else return a

def andExpr (facts : String → Option FileFacts) (args : List String) (fuel : Nat) (t : TestTok) :
    M Bool :=
  match fuel with
  | 0 => fail "expression too deep"
  | f + 1 => do
    let a ← notExpr facts args f t
    let i ← get
    if tokAt args (i + 1) == .andAlso then
      set (i + 2)
      let b ← andExpr facts args f (tokAt args (i + 2))
      return a && b
    else return a

def notExpr (facts : String → Option FileFacts) (args : List String) (fuel : Nat) (t : TestTok) :
    M Bool :=
  match fuel with
  | 0 => fail "expression too deep"
  | f + 1 => do
    if t == .not then
      let i ← get
      set (i + 1)
      return !(← notExpr facts args f (tokAt args (i + 1)))
    else primary facts args f t

def primary (facts : String → Option FileFacts) (args : List String) (fuel : Nat) (t : TestTok) :
    M Bool :=
  match fuel with
  | 0 => fail "expression too deep"
  | f + 1 => do
    let i ← get
    match t with
    -- a missing expression is false
    | .eoi => return false
    | .lparen =>
      set (i + 1)
      if tokAt args (i + 1) == .rparen then return false
      let r ← orExpr facts args f (tokAt args (i + 1))
      let j ← get
      set (j + 1)
      if tokAt args (j + 1) != .rparen then fail "closing paren expected"
      return r
    | .unary op =>
      set (i + 1)
      match args[i + 1]? with
      | none => fail (op ++ ": argument expected")
      | some a => StateT.lift (unary facts op a)
    | _ =>
      match tokAt args (i + 1) with
      | .binary op =>
        let a := args.getD i ""
        set (i + 2)
        match args[i + 2]? with
        | none => fail (op ++ ": argument expected")
        | some b => StateT.lift (binary facts op a b)
      | _ => return !(args.getD i "").isEmpty

end

def run (facts : String → Option FileFacts) (args : List String) (start : Nat) (first : TestTok) :
    Except String Bool := do
  let (r, i) ← (orExpr facts args (4 * args.length + 8) first).run start
  match args[i]?, args[i + 1]? with
  | some w, some _ => .error (w ++ ": unexpected operator")
  | _, _ => .ok r

def evaluate (facts : String → Option FileFacts) : Nat → List String → Bool → Except String Bool
  | 0, _, negated => .ok negated
  | fuel + 1, args, negated =>
    match args with
    | [] => .ok negated
    | _ =>
      let n := args.length
      let threeBinary := n == 3 && isBinary (args.getD 1 "")
      if threeBinary then (· != negated) <$> run facts args 0 .operand
      else if (n == 3 || n == 4) && args.head? == some "(" && args.getLast? == some ")" then
        (· != negated) <$> run facts ((args.drop 1).dropLast) 0 (tokAt ((args.drop 1).dropLast) 0)
      else if (n == 3 || n == 4) && args.head? == some "!" then
        evaluate facts fuel (args.drop 1) true
      else (· != negated) <$> run facts args 0 (tokAt args 0)

end TestExpr

def testArgs (facts : String → Option FileFacts) (args : List String) : Except String Bool :=
  TestExpr.evaluate facts (args.length + 1) args false

end Updater.Shell
