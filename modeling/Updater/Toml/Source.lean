/-!
Places in a TOML source and the errors that point at them.

A span is a range of byte offsets into the source text. An error has a message and, mostly, the
span it is about; an empty span points between two characters. An error about the document as a
whole, such as keys nested too deeply, has no span. Offsets are in bytes because that is how
a reader of the text counts them when it shows the error (see `Updater.Toml.Error`).
-/

namespace Updater.Toml

structure Span where
  start : Nat
  stop : Nat
  deriving DecidableEq, Repr, Inhabited

namespace Span

def before (s : Span) : Span := ⟨s.start, s.start⟩

def after (s : Span) : Span := ⟨s.stop, s.stop⟩

def append (s t : Span) : Span := ⟨min s.start t.start, max s.stop t.stop⟩

def shift (s : Span) (base : Nat) : Span := ⟨base + s.start, base + s.stop⟩

end Span

structure ParseError where
  message : String
  span : Option Span
  deriving DecidableEq, Repr, Inhabited

def ParseError.at (message : String) (span : Span) : ParseError := ⟨message, some span⟩

inductive Expected
  | literal (text : String)
  | description (text : String)
  deriving DecidableEq, Repr

/-- How an expected thing is named: a line break is `newline`, other text is quoted in
backticks, a description stands as it is. -/
def Expected.show : Expected → String
  | .literal "\n" => "newline"
  | .literal t => "`" ++ t ++ "`"
  | .description t => t

def withExpected (message : String) (expected : List Expected) : String :=
  message ++ ", expected " ++ (if expected.isEmpty then "nothing" else ", ".intercalate (expected.map Expected.show))

def errorAt (message : String) (expected : List Expected) (span : Span) : ParseError :=
  ⟨withExpected message expected, some span⟩

def byteSize (cs : List Char) : Nat := cs.foldl (fun n c => n + c.utf8Size) 0

end Updater.Toml
