/-!
Web addresses of `http` servers, read as a client reads them before a request.

An address is `http://` (more slashes, or backslashes, are taken as the same), an authority,
a path, and perhaps a query after `?` and a fragment after `#`. Tabs and line breaks anywhere
are dropped, and so are blanks and control characters at either end.

* The authority ends at the first `/`, `\`, `?` or `#`. Before its last `@` stand a user name
  and, after a `:`, a password. The rest is the host and, after a `:`, the port: digits only, at
  most `65535`, left out when it is `80`. Hosts are written in lower case.
* The path is split into segments at `/` and `\`. A segment `.` is dropped and a segment `..`
  drops the one before it (`%2e` counts as a dot); when either ends the path, an empty segment
  stays, so the path ends with `/`.
* Characters that may not stand as they are in a part are written `%XX` for each byte of their
  UTF-8 form: in every part the controls, the blank and anything beyond ASCII; in the user name
  and the password also the delimiters; in the path `" # < > ? { }` and the backquote; in the
  query `" # < > '`; in the fragment `" < >` and the backquote. A `%` always stands as it is.

A request names the path and the query, never the fragment.
-/

namespace Updater.Http

structure Url where
  user : String := ""
  password : String := ""
  host : String
  port : Option Nat := none
  path : List String
  query : Option String := none
  fragment : Option String := none
  deriving DecidableEq, Repr

namespace Url

inductive Fault
  | emptyHost
  | invalidPort
  | invalidDomainCharacter
  | relativeWithoutBase
  deriving DecidableEq, Repr

def Fault.message : Fault → String
  | .emptyHost => "empty host"
  | .invalidPort => "invalid port number"
  | .invalidDomainCharacter => "invalid domain character"
  | .relativeWithoutBase => "relative URL without a base"

def hexDigit (n : Nat) : Char := Char.ofNat (if n < 10 then 48 + n else 55 + n)

def encodeChar (escaped : Char → Bool) (c : Char) : String :=
  if c.toNat < 0x20 || c.toNat > 0x7E || escaped c then
    String.intercalate "" ((String.singleton c).toUTF8.toList.map fun b =>
      String.ofList ['%', hexDigit (b.toNat / 16), hexDigit (b.toNat % 16)])
  else String.singleton c

def encode (escaped : Char → Bool) (s : List Char) : String :=
  String.intercalate "" (s.map (encodeChar escaped))

def inFragmentSet (c : Char) : Bool := " \"<>`".toList.contains c

def inQuerySet (c : Char) : Bool := " \"#<>'".toList.contains c

def inPathSet (c : Char) : Bool := " \"#<>`?\x7b\x7d".toList.contains c

def inUserinfoSet (c : Char) : Bool := inPathSet c || "/:;=@[\\]^|".toList.contains c

def forbiddenInHost (c : Char) : Bool :=
  c.toNat ≤ 0x20 || c.toNat == 0x7F || "#%/:<>?@[\\]^|".toList.contains c

def isSeparator (c : Char) : Bool := c == '/' || c == '\\'

def isSingleDot (s : String) : Bool := s == "." || s.toLower == "%2e"

def isDoubleDot (s : String) : Bool :=
  let t := s.toLower
  t == ".." || t == ".%2e" || t == "%2e." || t == "%2e%2e"

def resolveSegments : List String → List String → List String
  | acc, [] => acc
  | acc, [s] =>
    if isDoubleDot s then acc.dropLast ++ [""]
    else if isSingleDot s then acc ++ [""]
    else acc ++ [s]
  | acc, s :: rest =>
    resolveSegments (if isDoubleDot s then acc.dropLast else if isSingleDot s then acc
      else acc ++ [s]) rest

def pathSegments (cs : List Char) : List String :=
  resolveSegments [] ((cs.splitOnP isSeparator).map (encode inPathSet))

def splitUserinfo (auth : List Char) : Option (List Char) × List Char :=
  match (auth.reverse.findIdx? (· == '@')) with
  | some k =>
    let cut := auth.length - 1 - k
    (some (auth.take cut), auth.drop (cut + 1))
  | none => (none, auth)

def readPort (cs : List Char) : Except Fault (Option Nat) :=
  if cs.isEmpty then .ok none
  else if cs.all Char.isDigit then
    let n := cs.foldl (fun v c => 10 * v + (c.toNat - 48)) 0
    if n > 65535 then .error .invalidPort
    else .ok (if n == 80 then none else some n)
  else .error .invalidPort

def parse (text : String) : Except Fault Url := do
  let cs := text.toList
  let cs := (cs.dropWhile (·.toNat ≤ 0x20)).reverse.dropWhile (·.toNat ≤ 0x20) |>.reverse
  let cs := cs.filter fun c => c != '\t' && c != '\n' && c != '\r'
  let scheme := cs.takeWhile (· != ':')
  if (String.ofList scheme).toLower != "http" then throw .relativeWithoutBase
  let rest := (cs.drop (scheme.length + 1)).dropWhile isSeparator
  let stop := fun (c : Char) => isSeparator c || c == '?' || c == '#'
  let auth := rest.takeWhile (!stop ·)
  let rest := rest.drop auth.length
  let (info, hostPort) := splitUserinfo auth
  let (user, password) := match info with
    | some i =>
      let u := i.takeWhile (· != ':')
      (encode inUserinfoSet u, encode inUserinfoSet (i.drop (u.length + 1)))
    | none => ("", "")
  if hostPort.isEmpty then throw .emptyHost
  let hostText := hostPort.takeWhile (· != ':')
  if hostText.isEmpty then throw .emptyHost
  if hostText.any forbiddenInHost then throw .invalidDomainCharacter
  let port ← readPort (hostPort.drop (hostText.length + 1))
  let host := (String.ofList hostText).toLower
  let pathText := rest.takeWhile fun c => c != '?' && c != '#'
  let rest := rest.drop pathText.length
  let queryText : Option (List Char) := match rest with
    | '?' :: q => some (q.takeWhile (· != '#'))
    | _ => none
  let rest := match queryText with
    | some q => rest.drop (q.length + 1)
    | none => rest
  let fragment := match rest with
    | '#' :: f => some (encode inFragmentSet f)
    | _ => none
  let path := match pathText with
    | [] => [""]
    | _ :: p => pathSegments p
  return { user, password, host, port, path := if path.isEmpty then [""] else path,
           query := queryText.map (encode inQuerySet), fragment }

def target (u : Url) : String :=
  "/" ++ "/".intercalate u.path ++ (match u.query with | some q => "?" ++ q | none => "")

def text (u : Url) : String :=
  let info :=
    if u.user.isEmpty && u.password.isEmpty then ""
    else u.user ++ (if u.password.isEmpty then "" else ":" ++ u.password) ++ "@"
  "http://" ++ info ++ u.host ++ (match u.port with | some p => ":" ++ toString p | none => "") ++
    u.target ++ (match u.fragment with | some f => "#" ++ f | none => "")

end Url

end Updater.Http
