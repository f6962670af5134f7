import Updater.Http.Url
import Updater.Http.Status
/-!
One `GET` request from a client with a time limit to a server on the loopback address.

The server listens on one port of `127.0.0.1` and serves at most one request. It may refuse
connections, answer with a status and a body, or read the request and keep silent for a while
before it closes the connection. The client sends `GET <path and query> HTTP/1.1`; the server
sees that line.

What the client gets:

* an address it cannot read fails before any connection (a builder error);
* an address of another host or port, or a server that refuses, fails to connect;
* a server that stays silent past the time limit times the request out; one that closes first
  leaves the response incomplete;
* a status outside `100`–`999` is not a response at all; a notice (`1xx` but `101`) is skipped,
  and what follows it must be a response of its own, which it is not;
* any other response is returned with its body, which is empty for `204` and `304`.
-/

namespace Updater.Http

inductive Reply
  | answers (status : Nat) (body : String)
  | refuses
  | hangs (silence : Nat)
  deriving DecidableEq, Repr

structure Server where
  port : Nat
  reply : Reply
  deriving DecidableEq, Repr

inductive Failure
  | builder (cause : String)
  | sending (url : String) (cause : String)
  deriving DecidableEq, Repr

def Failure.text : Failure → String
  | .builder cause => "builder error: " ++ cause
  | .sending url cause => "error sending request for url (" ++ url ++ "): " ++ cause

/-- What a `GET` did: the request line the server read, if it read one, and the status and
body of the response, or why there is none. -/
structure Exchange where
  requestLine : Option String
  response : Except Failure (Nat × String)

def refused : String :=
  "client error (Connect): tcp connect error: Connection refused (os error 111)"

def incomplete : String :=
  "client error (SendRequest): connection closed before message completed"

def timedOut : String := "operation timed out"

def get (server : Server) (limit : Nat) (text : String) : Exchange :=
  match Url.parse text with
  | .error f => ⟨none, .error (.builder f.message)⟩
  | .ok url =>
    let fail := fun (cause : String) => Failure.sending url.text cause
    if url.host != "127.0.0.1" || url.port != some server.port then ⟨none, .error (fail refused)⟩
    else
      let line := some ("GET " ++ url.target ++ " HTTP/1.1")
      match server.reply with
      | .refuses => ⟨none, .error (fail refused)⟩
      | .hangs silence =>
        ⟨line, .error (fail (if limit ≤ silence then timedOut else incomplete))⟩
      | .answers status body =>
        if !isStatusCode status then
          ⟨line, .error (fail "client error (SendRequest): invalid HTTP status-code parsed")⟩
        else if isInformational status && status != 101 then
          -- the body is read as the next response, which it cannot be unless it is unfinished
          let unfinished := body.toList.isPrefixOf "HTTP/1.".toList
          ⟨line, .error (fail (if unfinished then incomplete
            else "client error (SendRequest): invalid HTTP version parsed"))⟩
        else ⟨line, .ok (status, if hasNoBody status then "" else body)⟩

end Updater.Http
