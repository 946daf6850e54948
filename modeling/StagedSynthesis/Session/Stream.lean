import StagedSynthesis.Session.Line

/-!
# Reading a stream of output

The output of a tool is a stream of bytes. It is read line by line, each line up to and including
its line feed and the last one possibly without, and each line is decoded by itself. Reading ends
at the first line that acknowledges the awaited marker or cannot be decoded, or where the output
ends; of the errors reported before that point the first one is remembered.
-/

namespace StagedSynthesis.Session

/-- Put one byte in front of the lines that follow it. -/
def consByte (byte : UInt8) (lines : List (List UInt8)) : List (List UInt8) :=
  if byte = 10 then [byte] :: lines
  else
    match lines with
    | [] => [[byte]]
    | line :: rest => (byte :: line) :: rest

/-- The lines of a stream, each with its line feed. -/
def streamLines (bytes : List UInt8) : List (List UInt8) :=
  bytes.foldr consByte []

/-- The text of a line, if its bytes are UTF-8. -/
def decode? (line : List UInt8) : Option String :=
  String.fromUTF8? ⟨line.toArray⟩

/-- How reading ended. -/
inductive Reading where
  /-- The marker was read. The first error before it is given, and the bytes after it are left. -/
  | acknowledged (error : Option String) (unread : List UInt8)
  /-- A line was not UTF-8. -/
  | undecodable
  /-- The output ended. The first error in it is given. -/
  | ended (error : Option String)
  deriving DecidableEq, Repr

/-- Read lines until one acknowledges the marker, given the first error seen so far. -/
def readLines (awaited : String) (seen : Option String) : List (List UInt8) → Reading
  | [] => .ended seen
  | line :: rest =>
      match decode? line with
      | none => .undecodable
      | some text =>
          match classify awaited text with
          | .acknowledgement => .acknowledged seen rest.flatten
          | .error message => readLines awaited (seen <|> some message) rest
          | .other => readLines awaited seen rest

/-- Read a stream until a line acknowledges the marker. -/
def readStream (awaited : String) (bytes : List UInt8) : Reading :=
  readLines awaited none (streamLines bytes)

/-- A byte in front of some lines stands in front of their bytes. -/
theorem flatten_cons_byte (byte : UInt8) (lines : List (List UInt8)) :
    (consByte byte lines).flatten = byte :: lines.flatten := by
  unfold consByte
  by_cases hfeed : byte = 10
  · rw [if_pos hfeed, List.flatten_cons, List.singleton_append]
  · rw [if_neg hfeed]
    cases lines with
    | nil => rfl
    | cons line rest => rfl

/-- Splitting a stream into lines loses nothing. -/
theorem flatten_stream_lines (bytes : List UInt8) : (streamLines bytes).flatten = bytes := by
  induction bytes with
  | nil => rfl
  | cons byte rest ih => exact (flatten_cons_byte byte _).trans (congrArg (byte :: ·) ih)

end StagedSynthesis.Session
