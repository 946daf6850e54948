import StagedSynthesis.Proofs.Session.Attribution

/-!
# The meaning of a line

What `classify` makes of a line, said as a grammar. A line that `Marks` the end of a command is
prompts, the marker and blanks. A line that `Complains` reports an error behind its prompts, with a
message that reaches the end of the line. By `classify_eq_acknowledgement_iff_marks` and
`classify_eq_error_iff_complains` the two are recognised exactly, and `line_grammar` draws the
conclusions: prompts never matter, the echo of a request is no acknowledgement, and no line ends two
commands.
-/

namespace StagedSynthesis.Session

open Text

/-- A line is some prompts, the marker of a command and blanks. -/
def Marks (number : Nat) (line : String) : Prop :=
  ∃ (prompts : List (List Char)) (blanks : List Char), (∀ prompt ∈ prompts, IsPrompt prompt) ∧
    Blank blanks ∧ line.toList = prompts.flatten ++ ((marker number).toList ++ blanks)

/-- Behind all the prompts in front of it a line is blanks, `ERROR:` and a report. No line feed is
left in the report once the blanks that lead it are removed, and the message is the report without
the blanks around it. -/
def Complains (line message : String) : Prop :=
  ∃ rest report, StripsTo line.toList rest ∧ Reports rest report ∧ '\n' ∉ trimStart report ∧
    message = String.ofList (trim report)

/-! ## Prompts in front of a line -/

/-- A prompt starts with the letter `y`. -/
theorem IsPrompt.head {prompt : List Char} (h : IsPrompt prompt) :
    ∃ rest, prompt = 'y' :: rest := by
  rcases h with rfl | ⟨name, -, rfl⟩
  · exact ⟨_, rfl⟩
  · exact ⟨_, rfl⟩

/-- Prompts are removed up to a character with which no prompt starts. -/
theorem without_prompts_of_head {prompts : List (List Char)}
    (hprompts : ∀ prompt ∈ prompts, IsPrompt prompt) {first : Char} (hfirst : first ≠ 'y')
    (rest : List Char) : withoutPrompts (prompts.flatten ++ first :: rest) = first :: rest := by
  refine without_prompts_eq_iff.mpr ⟨⟨prompts, hprompts, rfl⟩, ?_⟩
  rintro prompt hprompt ⟨others, hothers⟩
  obtain ⟨inner, rfl⟩ := hprompt.head
  exact hfirst (List.cons.inj hothers).1.symm

/-- A line is classified by what stands behind its prompts. -/
theorem classify_congr {awaited first second : String}
    (h : withoutPrompts first.toList = withoutPrompts second.toList) :
    classify awaited first = classify awaited second := by
  simp only [classify, h]

/-! ## Acknowledgements -/

/-- A marker ends in a digit, so it has no blanks to be trimmed. -/
theorem trim_end_marker (number : Nat) :
    trimEnd (marker number).toList = (marker number).toList := by
  refine List.rdropWhile_eq_self_iff.mpr fun hfilled => ?_
  have hdigits : (decimal number).toList = Nat.toDigits 10 number := by
    rw [decimal, Nat.repr_eq_ofList_toDigits, String.toList_ofList]
  have hsome : (decimal number).toList ≠ [] := by
    rw [hdigits]
    exact Nat.toDigits_ne_nil
  have hmarker : (marker number).toList = "qlsynth-ack-".toList ++ (decimal number).toList :=
    String.toList_append
  have hlast : (marker number).toList.getLast hfilled = (decimal number).toList.getLast hsome := by
    simp only [hmarker, List.getLast_append_of_ne_nil _ hsome]
  have hdigit : ((decimal number).toList.getLast hsome).isDigit = true := by
    refine Nat.isDigit_of_mem_toDigits (by decide) (by decide) (?_ : _ ∈ Nat.toDigits 10 number)
    rw [← hdigits]
    exact List.getLast_mem hsome
  rw [hlast, not_blank_of_digit hdigit]
  exact Bool.false_ne_true

/-- A line acknowledges a command exactly if it marks its number. -/
theorem acknowledges_iff_marks {number : Nat} {line : String} :
    Acknowledges (marker number) line ↔ Marks number line := by
  constructor
  · rintro ⟨rest, hstrips, hmarker⟩
    obtain ⟨prompts, hprompts, hline⟩ := hstrips.prompts
    obtain ⟨blanks, hblanks, hrest⟩ := exists_trim_end_append_blank rest
    rw [hmarker] at hrest
    exact ⟨prompts, blanks, hprompts, hblanks, hrest ▸ hline⟩
  · rintro ⟨prompts, blanks, hprompts, hblanks, hline⟩
    have hrest : withoutPrompts line.toList = (marker number).toList ++ blanks := by
      rw [hline, to_list_marker]
      exact without_prompts_of_head hprompts (by decide) _
    rw [acknowledges_iff, hrest, trim_end_append_blank _ hblanks, trim_end_marker]

/-- A line is taken for an acknowledgement exactly if it marks the awaited number. -/
theorem classify_eq_acknowledgement_iff_marks {number : Nat} {line : String} :
    classify (marker number) line = .acknowledgement ↔ Marks number line :=
  classify_eq_acknowledgement_iff.trans acknowledges_iff_marks

/-! ## Errors -/

/-- A line is taken for an error exactly if it complains with that message. -/
theorem classify_eq_error_iff_complains {number : Nat} {line message : String} :
    classify (marker number) line = .error message ↔ Complains line message := by
  by_cases hack : Acknowledges (marker number) line
  · rw [classify_eq_acknowledgement_iff.mpr hack]
    refine iff_of_false LineMeaning.noConfusion ?_
    rintro ⟨rest, report, hstrips, hreports, -, -⟩
    exact hack.not_reports ⟨rest, hstrips, hreports⟩
  · rw [classify_of_not_acknowledges hack]
    constructor
    · intro h
      cases hfound : errorMessage? (withoutPrompts line.toList) with
      | none =>
          rw [hfound] at h
          contradiction
      | some recognised =>
          rw [hfound] at h
          obtain ⟨report, hreports, hfeed, rfl⟩ := error_message_eq_some_iff.mp hfound
          exact ⟨_, report, strips_to_without_prompts _, hreports, hfeed,
            (LineMeaning.error.inj h).symm⟩
    · rintro ⟨rest, report, hstrips, hreports, hfeed, rfl⟩
      have hfound := error_message_eq_some_iff.mpr ⟨report, hreports, hfeed, rfl⟩
      rw [without_prompts_eq_iff.mpr hstrips, hfound]
      rfl

/-! ## The grammar -/

/-- A line acknowledges a command if it marks its end, it reports an error if it complains, and any
other line means nothing. What stands behind all the prompts of a line is determined by the line.
Prompts in front of a line change nothing, a request that is echoed, with or without prompts, is no
acknowledgement, and a line acknowledges one command at most. -/
theorem line_grammar (number : Nat) (line : String) :
    (classify (marker number) line = .acknowledgement ↔ Marks number line) ∧
      (∀ message, classify (marker number) line = .error message ↔ Complains line message) ∧
      (classify (marker number) line = .other ↔
        ¬ Marks number line ∧ ∀ message, ¬ Complains line message) ∧
      (∃ rest, ∀ other, StripsTo line.toList other ↔ other = rest) ∧
      (∀ prompts : List (List Char), (∀ prompt ∈ prompts, IsPrompt prompt) →
        classify (marker number) (String.ofList (prompts.flatten ++ line.toList)) =
            classify (marker number) line ∧
          ∀ echoed rest,
            classify (marker number) (String.ofList
              (prompts.flatten ++ (("log " ++ marker echoed).toList ++ rest))) ≠
                .acknowledgement) ∧
      ∀ other, classify (marker number) line = .acknowledgement →
        classify (marker other) line = .acknowledgement → number = other := by
  have hmarks := @classify_eq_acknowledgement_iff_marks number line
  have hcomplains := @classify_eq_error_iff_complains number line
  refine ⟨hmarks, fun message => hcomplains, ?_, ?_, ?_, ?_⟩
  · rw [← hmarks]
    simp only [← hcomplains]
    cases classify (marker number) line with
    | acknowledgement => simp
    | error message => simp
    | other => simp
  · exact ⟨withoutPrompts line.toList, fun other => without_prompts_eq_iff.symm.trans eq_comm⟩
  · intro prompts hprompts
    refine ⟨?_, ?_⟩
    · refine classify_congr ?_
      rw [String.toList_ofList, without_prompts_flatten_append hprompts]
    · intro echoed rest hack
      obtain ⟨others, hothers⟩ := (classify_eq_acknowledgement_iff.mp hack).head
      have hecho : ("log " ++ marker echoed).toList ++ rest =
          'l' :: ("og ".toList ++ (marker echoed).toList ++ rest) := by simp
      rw [String.toList_ofList, hecho, without_prompts_of_head hprompts (by decide)] at hothers
      exact absurd (List.cons.inj hothers).1 (by decide)
  · intro other hfirst hsecond
    rw [classify_eq_acknowledgement_iff] at hfirst hsecond
    exact hfirst.number_eq hsecond

/-- A marker with blanks behind it and two prompts in front of it. The same line does not
acknowledge a command whose marker is longer, and the echoed request acknowledges nothing. -/
theorem line_grammar_behind_prompts :
    let prompts := ["yosys> ".toList, "yosys [top[0]> ".toList]
    let line := "qlsynth-ack-3\t\n"
    (∀ prompt ∈ prompts, IsPrompt prompt) ∧ Marks 3 line ∧
      classify (marker 3) (String.ofList (prompts.flatten ++ line.toList)) = .acknowledgement ∧
      classify (marker 3)
          (String.ofList (prompts.flatten ++ (("log " ++ marker 3).toList ++ ['\n']))) ≠
        .acknowledgement ∧
      classify (marker 31) line ≠ .acknowledgement := by
  intro prompts line
  have hprompts : ∀ prompt ∈ prompts, IsPrompt prompt :=
    List.forall_mem_cons.mpr ⟨.inl rfl, List.forall_mem_singleton.mpr
      (.inr ⟨"top[0".toList, by decide, rfl⟩)⟩
  have hline : Marks 3 line :=
    ⟨[], ['\t', '\n'], List.forall_mem_nil _, by decide, by decide +kernel⟩
  obtain ⟨hmarks, -, -, -, hprompted, honce⟩ := line_grammar 3 line
  obtain ⟨hsame, hecho⟩ := hprompted prompts hprompts
  refine ⟨hprompts, hline, hsame.trans (hmarks.mpr hline), hecho 3 ['\n'], ?_⟩
  intro hlonger
  exact absurd (honce 31 (hmarks.mpr hline) hlonger) (by decide)

end StagedSynthesis.Session
