import StagedSynthesis.Proofs.Session.Reports

/-!
# The line that decides

A tool may print any bytes. They fall into lines in one way only, which `LinesOf` describes without
the function that divides them. Reading goes on up to a line that acknowledges the command or is no
text, and that line decides: what comes after it plays no part, and of what comes before it only the
first error does (`LedBy.read_lines`). The main theorem, `execute_decided`, says for every stream
how the command ends and what becomes of the session.
-/

namespace StagedSynthesis.Session

/-! ## Lines of a stream -/

/-- A stream falls into lines. Every line ends where its first line feed stands, and only the last
may do without one. -/
structure LinesOf (stream : List UInt8) (lines : List (List UInt8)) : Prop where
  whole : lines.flatten = stream
  filled : ∀ line ∈ lines, line ≠ []
  single : ∀ line ∈ lines, 10 ∉ line.dropLast
  ended : ∀ line ∈ lines.dropLast, line.getLast? = some 10

/-- An empty stream has no lines. -/
theorem lines_of_nil : LinesOf [] [] :=
  ⟨rfl, List.forall_mem_nil _, List.forall_mem_nil _, List.forall_mem_nil _⟩

/-- A byte in front of a stream starts a line of its own if it is a line feed, and otherwise becomes
a part of the first line. -/
theorem LinesOf.cons_byte {stream : List UInt8} {lines : List (List UInt8)}
    (h : LinesOf stream lines) (byte : UInt8) :
    LinesOf (byte :: stream) (consByte byte lines) := by
  obtain ⟨rfl, hfilled, hsingle, hended⟩ := h
  unfold consByte
  split
  · next hfeed =>
      refine ⟨rfl, List.forall_mem_cons.mpr ⟨List.cons_ne_nil _ _, hfilled⟩,
        List.forall_mem_cons.mpr ⟨List.not_mem_nil, hsingle⟩, ?_⟩
      cases lines with
      | nil => exact List.forall_mem_nil _
      | cons line rest => exact List.forall_mem_cons.mpr ⟨congrArg some hfeed, hended⟩
  · next hfeed =>
      cases lines with
      | nil =>
          exact ⟨rfl, List.forall_mem_singleton.mpr (List.cons_ne_nil _ _),
            List.forall_mem_singleton.mpr List.not_mem_nil, List.forall_mem_nil _⟩
      | cons line rest =>
          obtain ⟨hline, hfilledRest⟩ := List.forall_mem_cons.mp hfilled
          obtain ⟨hinner, hsingleRest⟩ := List.forall_mem_cons.mp hsingle
          refine ⟨rfl, List.forall_mem_cons.mpr ⟨List.cons_ne_nil _ _, hfilledRest⟩,
            List.forall_mem_cons.mpr ⟨?_, hsingleRest⟩, ?_⟩
          · rw [List.dropLast_cons_of_ne_nil hline, List.mem_cons, not_or]
            exact ⟨Ne.symm hfeed, hinner⟩
          · cases rest with
            | nil => exact List.forall_mem_nil _
            | cons next others =>
                obtain ⟨hlast, hendedRest⟩ := List.forall_mem_cons.mp hended
                refine List.forall_mem_cons.mpr ⟨?_, hendedRest⟩
                rw [List.getLast?_cons, hlast]
                rfl

/-- The lines of a stream are what it divides into. -/
theorem lines_of_stream_lines (stream : List UInt8) : LinesOf stream (streamLines stream) := by
  induction stream with
  | nil => exact lines_of_nil
  | cons byte rest ih => exact ih.cons_byte byte

/-- A line without a line feed inside it is read as one line. -/
theorem stream_lines_line {line : List UInt8} (hfilled : line ≠ []) (hsingle : 10 ∉ line.dropLast) :
    streamLines line = [line] := by
  induction line with
  | nil => contradiction
  | cons byte rest ih =>
      show consByte byte (streamLines rest) = _
      cases rest with
      | nil => unfold consByte; split <;> rfl
      | cons next others =>
          rw [List.dropLast_cons_of_ne_nil (List.cons_ne_nil _ _), List.mem_cons, not_or] at hsingle
          rw [ih (List.cons_ne_nil _ _) hsingle.2, consByte, if_neg (Ne.symm hsingle.1)]

/-- Every stream falls into lines, and in one way only. -/
theorem lines_of_iff {stream : List UInt8} {lines : List (List UInt8)} :
    LinesOf stream lines ↔ lines = streamLines stream := by
  refine ⟨?_, fun h => h ▸ lines_of_stream_lines stream⟩
  rintro ⟨rfl, hfilled, hsingle, hended⟩
  induction lines with
  | nil => rfl
  | cons line rest ih =>
      obtain ⟨hline, hfilledRest⟩ := List.forall_mem_cons.mp hfilled
      obtain ⟨hinner, hsingleRest⟩ := List.forall_mem_cons.mp hsingle
      cases rest with
      | nil => rw [List.flatten_singleton, stream_lines_line hline hinner]
      | cons next others =>
          obtain ⟨hlast, hendedRest⟩ := List.forall_mem_cons.mp hended
          obtain ⟨front, rfl⟩ := List.getLast?_eq_some_iff.mp hlast
          rw [List.dropLast_concat] at hinner
          rw [List.flatten_cons, List.append_assoc]
          show _ = streamLines (front ++ 10 :: (next :: others).flatten)
          rw [stream_lines_append hinner, ← ih hfilledRest hsingleRest hendedRest]

/-- A line is decoded to the text whose bytes it is. -/
theorem decode_eq_some_iff {line : List UInt8} {text : String} :
    decode? line = some text ↔ bytesOf text = line := by
  constructor
  · intro h
    rw [decode?, String.fromUTF8?] at h
    split at h
    · obtain rfl := Option.some.inj h
      rfl
    · contradiction
  · rintro rfl
    exact decode_bytes_of text

/-! ## The deciding line -/

/-- A line decides on the answer to a command: it acknowledges the command, or it is no text. -/
inductive Decides (awaited : String) : List UInt8 → Prop
  | acknowledgement {text : String} (hack : classify awaited text = .acknowledgement) :
      Decides awaited (bytesOf text)
  | garbled {line : List UInt8} (hline : ∀ text, bytesOf text ≠ line) : Decides awaited line

/-- The lines of an answer are some texts, none of which acknowledges the command, and a rest. -/
structure LedBy (awaited : String) (lines : List (List UInt8)) (texts : List String)
    (rest : List (List UInt8)) : Prop where
  whole : lines = texts.map bytesOf ++ rest
  undecided : ∀ text ∈ texts, classify awaited text ≠ .acknowledgement

/-- Some texts lead up to the first line that decides, or to the end of the answer. -/
theorem exists_led_by (awaited : String) (lines : List (List UInt8)) :
    ∃ texts rest, LedBy awaited lines texts rest ∧ ∀ line ∈ rest.head?, Decides awaited line := by
  induction lines with
  | nil => exact ⟨[], [], ⟨rfl, List.forall_mem_nil _⟩, nofun⟩
  | cons line others ih =>
      by_cases hdecides : Decides awaited line
      · refine ⟨[], line :: others, ⟨rfl, List.forall_mem_nil _⟩, ?_⟩
        intro first hfirst
        exact Option.some.inj hfirst ▸ hdecides
      · cases hdecoded : decode? line with
        | none =>
            refine absurd (.garbled ?_) hdecides
            intro text htext
            rw [decode_eq_some_iff.mpr htext] at hdecoded
            contradiction
        | some text =>
            obtain rfl := decode_eq_some_iff.mp hdecoded
            obtain ⟨texts, rest, ⟨rfl, hundecided⟩, hrest⟩ := ih
            refine ⟨text :: texts, rest, ⟨rfl, List.forall_mem_cons.mpr ⟨?_, hundecided⟩⟩, hrest⟩
            exact fun hack => hdecides (.acknowledgement hack)

/-- Reading keeps the first error in the texts that lead an answer. -/
theorem LedBy.read_lines {awaited : String} {lines : List (List UInt8)} {texts : List String}
    {rest : List (List UInt8)} (h : LedBy awaited lines texts rest) :
    readLines awaited none lines = readLines awaited (firstError? awaited texts) rest := by
  rw [h.whole]
  exact read_lines_append h.undecided none rest

/-- A line that is no text ends the reading. -/
theorem read_lines_garbled (awaited : String) (seen : Option String) {line : List UInt8}
    (hline : ∀ text, bytesOf text ≠ line) (rest : List (List UInt8)) :
    readLines awaited seen (line :: rest) = .undecodable := by
  have hdecoded : decode? line = none :=
    Option.eq_none_iff_forall_ne_some.mpr fun text htext => hline text (decode_eq_some_iff.mp htext)
  simp only [readLines, hdecoded]

/-! ## How the command ends -/

variable {τ : Type} {tool : Tool τ} {session : Session τ} {command : String}

/-- A session that is not broken sends a command, and there is a stream of bytes to be read. The
stream falls into lines in one way, and texts that do not acknowledge the command lead up to the
line that decides or to the end.

If that line acknowledges the command, the lines behind it stay unread, the session is not broken,
and the command fails with the first error in the texts or succeeds if there is none. If it is no
text, the session breaks because its output cannot be read. If no line decides, the session breaks
with the first error in the texts, or because the tool is gone. -/
theorem execute_decided (hintact : session.broken = none) {process : τ} {printed : List UInt8}
    (hreceive : tool.receive session.process (request command (session.count + 1)) =
      .ok (process, printed)) :
    let awaited := marker (session.count + 1)
    let after := (session.execute tool command).1
    let result := (session.execute tool command).2
    ∃ lines, (∀ other, LinesOf (session.unread ++ printed) other ↔ other = lines) ∧
      (∃ texts rest, LedBy awaited lines texts rest ∧
        ∀ line ∈ rest.head?, Decides awaited line) ∧
      (∀ texts ack unread, LedBy awaited lines texts (bytesOf ack :: unread) →
        classify awaited ack = .acknowledgement →
        after.unread = unread.flatten ∧ after.broken = none ∧
          result = verdict (firstError? awaited texts)) ∧
      (∀ texts line unread, LedBy awaited lines texts (line :: unread) →
        (∀ text, bytesOf text ≠ line) →
        let reason := "reading yosys output: stream did not contain valid UTF-8"
        after.broken = some reason ∧ result = .error reason) ∧
      ∀ texts, LedBy awaited lines texts [] →
        let reason := (firstError? awaited texts).getD "yosys exited unexpectedly"
        after.broken = some reason ∧ result = .error reason := by
  intro awaited after result
  have hexecute : session.execute tool command =
      (session.requested command process).concluded
        (readLines awaited none (streamLines (session.unread ++ printed))) :=
    execute_of_received hintact hreceive
  refine ⟨streamLines (session.unread ++ printed), fun other => lines_of_iff,
    exists_led_by awaited _, ?_, ?_, ?_⟩
  · intro texts ack unread hled hack
    simp only [after, result, hexecute, hled.read_lines, readLines, decode_bytes_of, hack]
    exact ⟨rfl, hintact, rfl⟩
  · intro texts line unread hled hline
    simp only [after, result, hexecute, hled.read_lines, read_lines_garbled awaited _ hline]
    exact ⟨rfl, rfl⟩
  · intro texts hled
    simp only [after, result, hexecute, hled.read_lines]
    exact ⟨rfl, rfl⟩

/-- Three answers to the third command, behind a prompt that was left unread: an error and the
marker with more behind it, an error and a line that is no text, and an error in a line that does
not end. -/
theorem execute_decided_in_three_ways :
    let session : Session Unit := { process := (), unread := bytesOf "yosys> ", count := 2 }
    let answer := bytesOf "ERROR: \nyosys> qlsynth-ack-3\nyosys> "
    let acknowledged := session.execute (printing answer) "stat"
    let garbled := session.execute (printing (bytesOf "ERROR: \n" ++ 255 :: 10 :: answer)) "stat"
    let unfinished := session.execute (printing (bytesOf "ERROR: no space left")) "stat"
    let reason := "reading yosys output: stream did not contain valid UTF-8"
    (acknowledged.1.unread = bytesOf "yosys> " ∧ acknowledged.1.broken = none ∧
        acknowledged.2 = .error "") ∧
      (garbled.1.broken = some reason ∧ garbled.2 = .error reason) ∧
      (unfinished.1.broken = some "no space left" ∧ unfinished.2 = .error "no space left") := by
  intro session answer acknowledged garbled unfinished reason
  have hreceive : ∀ printed, (printing printed).receive session.process
      (request "stat" (session.count + 1)) = .ok ((), printed) := fun printed => rfl
  have hlines : ∀ printed, LinesOf (session.unread ++ printed)
      (streamLines (session.unread ++ printed)) := fun printed => lines_of_stream_lines _
  refine ⟨?_, ?_, ?_⟩
  · obtain ⟨lines, hunique, -, hacknowledged, -, -⟩ := execute_decided rfl (hreceive answer)
    obtain rfl := (hunique _).mp (hlines answer)
    obtain ⟨hunread, hintact, hresult⟩ := hacknowledged ["yosys> ERROR: \n"]
      "yosys> qlsynth-ack-3\n" [bytesOf "yosys> "] ⟨by decide +kernel, by decide +kernel⟩
      (by decide +kernel)
    have herror : firstError? (marker (session.count + 1)) ["yosys> ERROR: \n"] = some "" := by
      decide +kernel
    exact ⟨hunread, hintact, hresult.trans (verdict_eq_error_iff.mpr herror)⟩
  · obtain ⟨lines, hunique, -, -, hgarbled, -⟩ :=
      execute_decided rfl (hreceive (bytesOf "ERROR: \n" ++ 255 :: 10 :: answer))
    obtain rfl := (hunique _).mp (hlines _)
    have hbad : ∀ text, bytesOf text ≠ [255, 10] := by
      intro text htext
      have hdecoded := decode_eq_some_iff.mpr htext
      rw [show decode? [255, 10] = none by decide +kernel] at hdecoded
      contradiction
    exact hgarbled ["yosys> ERROR: \n"] [255, 10] (streamLines answer)
      ⟨by decide +kernel, by decide +kernel⟩ hbad
  · obtain ⟨lines, hunique, -, -, -, hunfinished⟩ :=
      execute_decided rfl (hreceive (bytesOf "ERROR: no space left"))
    obtain rfl := (hunique _).mp (hlines _)
    have hends := hunfinished ["yosys> ERROR: no space left"] ⟨by decide +kernel, by decide +kernel⟩
    have herror : firstError? (marker (session.count + 1)) ["yosys> ERROR: no space left"] =
        some "no space left" := by decide +kernel
    rwa [herror] at hends

end StagedSynthesis.Session
