import Updater.Toml.Source
/-!
How a TOML error is shown: the line and column it is about, that line with the span
underlined, then the message.

Lines and columns count from one. The column counts characters before the span on its line,
except when the span starts on a character of several bytes, where it counts bytes. A span may
run one past the end of its line; an empty one is still underlined by one caret.
-/

namespace Updater.Toml

def isContinuation (b : UInt8) : Bool := b ≥ 0x80 && b < 0xC0

def position (bytes : List UInt8) (index : Nat) : Nat × Nat :=
  if bytes.isEmpty then (0, index)
  else
    let safe := min index (bytes.length - 1)
    let before := bytes.take safe
    let lineStart := match (before.zipIdx.filter (·.1 == 10)).getLast? with
      | some (_, i) => i + 1
      | none => 0
    let line := (before.filter (· == 10)).length
    let slice := (bytes.take (safe + 1)).drop lineStart
    let whole := match bytes[safe + 1]? with
      | some b => !isContinuation b
      | none => true
    let column :=
      if whole then (slice.filter (fun b => !isContinuation b)).length - 1 else safe - lineStart
    (line, column + (index - safe))

def spaces (n : Nat) : String := String.ofList (List.replicate n ' ')

def showError (raw : String) (message : String) (span : Option Span) : String :=
  match span with
  | none => message ++ "\n"
  | some span =>
    let (line, column) := position raw.toUTF8.toList span.start
    let lineNum := line + 1
    let gutter := (toString lineNum).length
    let content := (raw.splitOn "\n")[line]?.getD ""
    let width := min (span.stop - span.start) (content.utf8ByteSize - column)
    "TOML parse error at line " ++ toString lineNum ++ ", column " ++ toString (column + 1) ++ "\n" ++
      spaces (gutter + 1) ++ "|\n" ++
      toString lineNum ++ " | " ++ content ++ "\n" ++
      spaces (gutter + 1) ++ "|" ++ spaces (column + 1) ++ String.ofList (List.replicate (max 1 width) '^') ++
      "\n" ++ message ++ "\n"

def ParseError.show (raw : String) (e : ParseError) : String := showError raw e.message e.span

end Updater.Toml
