import StagedSynthesis.Session

/-!
# Output made of lines

A tool that prints texts, each ended by a line feed, is read back line by line as exactly these
texts: a line feed is the only character whose encoding contains the byte of a line feed, and a
decoder returns what was encoded. `read_stream_output` is the result for a whole answer: reading
stops at the first line that acknowledges the marker and remembers the first error before it.
-/

namespace StagedSynthesis.Session

/-- The bytes of a text. -/
def bytesOf (text : String) : List UInt8 :=
  text.toUTF8.data.toList

/-- A line of output: a text and the line feed that ends it. -/
def ended (line : String) : String :=
  line ++ "\n"

/-- The bytes of some lines in order. -/
def output (lines : List String) : List UInt8 :=
  lines.flatMap fun line => bytesOf (ended line)

/-- The bytes of a text are those of its letters. -/
theorem bytes_of_eq (text : String) : bytesOf text = text.toList.flatMap String.utf8EncodeChar := by
  rw [bytesOf, String.toUTF8_eq_toByteArray, ← String.utf8Encode_toList, List.utf8Encode,
    List.data_toByteArray]

/-- A line ends with the byte of the line break. -/
theorem bytes_of_ended (line : String) : bytesOf (ended line) = bytesOf line ++ [10] := by
  rw [bytes_of_eq, ended, String.toList_append, List.flatMap_append, ← bytes_of_eq]
  rfl

/-- Only the encoding of a line feed contains its byte: the bytes of longer encodings are large. -/
theorem line_feed_mem_encode {c : Char} : 10 ∈ String.utf8EncodeChar c ↔ c = '\n' := by
  have hbyte : ∀ value : Nat, value < 256 → (10 = UInt8.ofNat value ↔ value = 10) := by
    intro value hvalue
    rw [← UInt8.toNat_inj, UInt8.toNat_ofNat', Nat.mod_eq_of_lt hvalue]
    exact eq_comm
  have hchar : c = '\n' ↔ c.val.toNat = 10 := by
    rw [← Char.toNat_inj]
    rfl
  rw [hchar]
  -- One case for each length of an encoding.
  unfold String.utf8EncodeChar
  dsimp only
  split
  · simp (disch := omega) only [List.mem_cons, List.not_mem_nil, or_false, hbyte]
  · split
    · simp (disch := omega) only [List.mem_cons, List.not_mem_nil, or_false, hbyte]
      omega
    · split
      · simp (disch := omega) only [List.mem_cons, List.not_mem_nil, or_false, hbyte]
        omega
      · simp (disch := omega) only [List.mem_cons, List.not_mem_nil, or_false, hbyte]
        omega

/-- The byte of the line break stands for nothing but a line break. -/
theorem line_feed_mem_bytes_of {text : String} : 10 ∈ bytesOf text ↔ '\n' ∈ text.toList := by
  rw [bytes_of_eq, List.mem_flatMap]
  constructor
  · rintro ⟨c, hc, hbyte⟩
    exact line_feed_mem_encode.mp hbyte ▸ hc
  · intro h
    exact ⟨'\n', h, line_feed_mem_encode.mpr rfl⟩

/-- Decoding returns what was encoded. -/
theorem decode_bytes_of (text : String) : decode? (bytesOf text) = some text := by
  have hvalid : text.toUTF8.IsValidUTF8 := text.isValidUTF8
  rw [decode?, bytesOf, Array.toArray_toList, String.fromUTF8?, dif_pos hvalid]
  rfl

/-- The bytes up to the first line feed are the first line of a stream. -/
theorem stream_lines_append {line : List UInt8} (hline : 10 ∉ line) (rest : List UInt8) :
    streamLines (line ++ 10 :: rest) = (line ++ [10]) :: streamLines rest := by
  induction line with
  | nil => rfl
  | cons byte line ih =>
      rw [List.mem_cons, not_or] at hline
      obtain ⟨hbyte, hline⟩ := hline
      show consByte byte (streamLines (line ++ 10 :: rest)) = _
      rw [ih hline, consByte, if_neg (Ne.symm hbyte)]
      rfl

/-- A stream of ended lines, whatever follows it, is read line by line. -/
theorem stream_lines_output {lines : List String} (hlines : ∀ line ∈ lines, '\n' ∉ line.toList)
    (rest : List UInt8) :
    streamLines (output lines ++ rest) =
      (lines.map fun line => bytesOf (ended line)) ++ streamLines rest := by
  induction lines with
  | nil => rfl
  | cons line others ih =>
      obtain ⟨hline, hothers⟩ := List.forall_mem_cons.mp hlines
      have hbytes : 10 ∉ bytesOf line := fun h => hline (line_feed_mem_bytes_of.mp h)
      have houtput : output (line :: others) ++ rest =
          bytesOf line ++ 10 :: (output others ++ rest) := by
        simp [output, bytes_of_ended]
      rw [houtput, stream_lines_append hbytes, ih hothers, ← bytes_of_ended]
      rfl

/-- The message of a line that reports an error. -/
def LineMeaning.error? : LineMeaning → Option String
  | .error message => some message
  | .acknowledgement | .other => none

/-- The first error that some lines report while a marker is awaited. -/
def firstError? (awaited : String) (texts : List String) : Option String :=
  texts.findSome? fun text => (classify awaited text).error?

/-- Lines that do not acknowledge the marker are read past. Of the errors in them the first is kept,
unless one was seen before. -/
theorem read_lines_append {awaited : String} {texts : List String}
    (hearlier : ∀ text ∈ texts, classify awaited text ≠ .acknowledgement) (seen : Option String)
    (rest : List (List UInt8)) :
    readLines awaited seen (texts.map bytesOf ++ rest) =
      readLines awaited (seen <|> firstError? awaited texts) rest := by
  induction texts generalizing seen with
  | nil => cases seen <;> rfl
  | cons text others ih =>
      obtain ⟨htext, hothers⟩ := List.forall_mem_cons.mp hearlier
      simp only [List.map_cons, List.cons_append, readLines, decode_bytes_of]
      cases hmeaning : classify awaited text with
      | acknowledgement => exact absurd hmeaning htext
      | error message =>
          simp only [ih hothers, firstError?, List.findSome?_cons, hmeaning, LineMeaning.error?]
          cases seen <;> rfl
      | other =>
          simp only [ih hothers, firstError?, List.findSome?_cons, hmeaning, LineMeaning.error?]

/-- Reading stops at the first line that acknowledges the marker. -/
theorem read_lines_of_acknowledged {awaited : String} {texts : List String} {ack : String}
    (hearlier : ∀ text ∈ texts, classify awaited text ≠ .acknowledgement)
    (hack : classify awaited ack = .acknowledgement) (seen : Option String)
    (rest : List (List UInt8)) :
    readLines awaited seen (texts.map bytesOf ++ bytesOf ack :: rest) =
      .acknowledged (seen <|> firstError? awaited texts) rest.flatten := by
  rw [read_lines_append hearlier]
  simp only [readLines, decode_bytes_of, hack]

/-- An answer of ended lines is read up to the first that acknowledges the marker. -/
theorem read_stream_output {awaited : String} {lines : List String} {ack : String}
    (hlines : ∀ line ∈ lines, '\n' ∉ line.toList) (hackLine : '\n' ∉ ack.toList)
    (hearlier : ∀ line ∈ lines, classify awaited (ended line) ≠ .acknowledgement)
    (hack : classify awaited (ended ack) = .acknowledgement) (rest : List UInt8) :
    readStream awaited (output (lines ++ [ack]) ++ rest) =
      .acknowledged (firstError? awaited (lines.map ended)) rest := by
  have hall : ∀ line ∈ lines ++ [ack], '\n' ∉ line.toList := by
    intro line hline
    rcases List.mem_append.mp hline with hline | hline
    · exact hlines line hline
    · exact List.mem_singleton.mp hline ▸ hackLine
  have htexts : ∀ text ∈ lines.map ended, classify awaited text ≠ .acknowledgement := by
    intro text htext
    obtain ⟨line, hline, rfl⟩ := List.mem_map.mp htext
    exact hearlier line hline
  have hread := read_lines_of_acknowledged htexts hack none (streamLines rest)
  rw [flatten_stream_lines, List.map_map] at hread
  rw [readStream, stream_lines_output hall, List.map_append, List.append_assoc]
  exact hread

/-- The verdict on a command, given the error that was read in its answer, if there was one. -/
def verdict : Option String → Except String Unit
  | some message => .error message
  | none => .ok ()

/-- A verdict is an error exactly if one was seen. -/
@[simp]
theorem verdict_eq_error_iff {error : Option String} {message : String} :
    verdict error = .error message ↔ error = some message := by
  cases error <;> simp [verdict]

/-- A verdict is good exactly if no error was seen. -/
@[simp]
theorem verdict_eq_ok_iff {error : Option String} : verdict error = .ok () ↔ error = none := by
  cases error <;> simp [verdict]

variable {τ : Type} {tool : Tool τ} {session : Session τ} {command : String}

/-- A session whose request for its next command was written. -/
def requested (session : Session τ) (command : String) (process : τ) : Session τ :=
  { session with
    process := process
    unread := []
    written := session.written ++ [request command (session.count + 1)]
    count := session.count + 1 }

/-- How a command ends, given how reading the answer to it ended. -/
def concluded (session : Session τ) : Reading → Session τ × Except String Unit
  | .acknowledged error unread => ({ session with unread := unread }, verdict error)
  | .undecodable => session.breakOff "reading yosys output: stream did not contain valid UTF-8"
  | .ended seen => session.breakOff (seen.getD "yosys exited unexpectedly")

/-- A request that the tool refuses breaks the session. -/
theorem execute_of_refused (hintact : session.broken = none) {cause : String}
    (hreceive : tool.receive session.process (request command (session.count + 1)) =
      .error cause) :
    session.execute tool command =
      { session with count := session.count + 1 }.breakOff
        ("cannot send command to yosys: " ++ cause) := by
  simp only [execute, hintact, write, hreceive, Except.map]

/-- A request that the tool takes in is followed by reading the answer to it. -/
theorem execute_of_received (hintact : session.broken = none) {process : τ}
    {printed : List UInt8}
    (hreceive : tool.receive session.process (request command (session.count + 1)) =
      .ok (process, printed)) :
    session.execute tool command =
      (session.requested command process).concluded
        (readStream (marker (session.count + 1)) (session.unread ++ printed)) := by
  simp only [execute, hintact, write, hreceive, Except.map, requested]
  cases readStream (marker (session.count + 1)) (session.unread ++ printed) with
  | acknowledged error unread => cases error <;> rfl
  | undecodable => rfl
  | ended seen => rfl

/-- A command whose answer is acknowledged fails with the error that was read, if there was one. -/
theorem execute_of_acknowledged {τ : Type} {tool : Tool τ} {session : Session τ}
    (hbroken : session.broken = none) {command : String} {process : τ} {printed : List UInt8}
    (hreceive : tool.receive session.process (request command (session.count + 1)) =
      .ok (process, printed))
    {error : Option String} {unread : List UInt8}
    (hread : readStream (marker (session.count + 1)) (session.unread ++ printed) =
      .acknowledged error unread) :
    (session.execute tool command).2 = verdict error := by
  rw [execute_of_received hbroken hreceive, hread]
  rfl

end StagedSynthesis.Session
