import Mathlib.Data.List.DropRight
import StagedSynthesis.Session.Line

/-!
# The grammar of output lines

What a line of output says is described here without the functions that read it: a line consists of
prompts and a rest, an error report is blanks, `ERROR:` and a text, and so on. The main results,
`without_prompts_eq_iff` and `error_message_eq_some_iff`, say that the functions recognise exactly
this grammar. For a line that ends in a line feed, `error_message_ended_iff` shows what is left of
it: the report is recognised only if its text is blank.
-/

namespace StagedSynthesis.Session

open Text

/-! ## Blanks -/

/-- Every character of a text is blank. -/
def Blank (text : List Char) : Prop :=
  ∀ c ∈ text, isBlank c = true

instance (text : List Char) : Decidable (Blank text) :=
  List.decidableBAll (isBlank · = true) text

/-- A digit is not blank. -/
theorem not_blank_of_digit {c : Char} (h : c.isDigit = true) : isBlank c = false := by
  simp only [Char.isDigit, Bool.and_eq_true, decide_eq_true_eq, UInt32.le_iff_toNat_le] at h
  have hlow : 48 ≤ c.toNat := h.1
  have hhigh : c.toNat ≤ 57 := h.2
  simp only [isBlank, inRanges, blankRanges, List.any_cons, List.any_nil, Bool.or_false,
    Bool.or_eq_false_iff, Bool.and_eq_false_iff, decide_eq_false_iff_not]
  omega

/-- Nothing is left behind the blanks in front exactly of a blank text. -/
theorem trim_start_eq_nil_iff {text : List Char} : trimStart text = [] ↔ Blank text :=
  List.dropWhile_eq_nil_iff

/-- Nothing is left in front of the blanks at the end exactly of a blank text. -/
theorem trim_end_eq_nil_iff {text : List Char} : trimEnd text = [] ↔ Blank text := by
  rw [trimEnd, List.reverse_eq_nil_iff, List.dropWhile_eq_nil_iff]
  simp [Blank]

/-- Two texts one after the other are blank exactly if both are. -/
theorem blank_append_iff {first second : List Char} :
    Blank (first ++ second) ↔ Blank first ∧ Blank second :=
  List.forall_mem_append

/-- Trimming at the start removes exactly blanks. -/
theorem exists_blank_append_trim_start (text : List Char) :
    ∃ blanks, Blank blanks ∧ text = blanks ++ trimStart text := by
  refine ⟨text.takeWhile isBlank, ?_, List.takeWhile_append_dropWhile.symm⟩
  intro c hc
  exact List.mem_takeWhile_imp hc

/-- Further blanks in front are trimmed with the others. -/
theorem trim_start_blank_append {blanks : List Char} (hblanks : Blank blanks) (text : List Char) :
    trimStart (blanks ++ text) = trimStart text :=
  List.dropWhile_append_of_pos hblanks

/-- What stands behind a character that is not blank survives trimming at the start. -/
theorem trim_start_append_of_not_blank {text : List Char} (h : ¬ Blank text) (rest : List Char) :
    trimStart (text ++ rest) = trimStart text ++ rest := by
  have hsome : ¬ (text.dropWhile isBlank).isEmpty = true := by
    rwa [List.isEmpty_iff, ← trimStart, trim_start_eq_nil_iff]
  rw [trimStart, List.dropWhile_append, if_neg hsome]
  rfl

/-- Trimming leaves nothing exactly of a blank text. -/
theorem trim_eq_nil_iff {text : List Char} : trim text = [] ↔ Blank text := by
  rw [trim, trim_end_eq_nil_iff]
  obtain ⟨blanks, hblanks, htext⟩ := exists_blank_append_trim_start text
  constructor
  · intro h
    rw [htext]
    exact blank_append_iff.mpr ⟨hblanks, h⟩
  · intro h
    rw [trim_start_eq_nil_iff.mpr h]
    exact fun _ hc => absurd hc List.not_mem_nil

/-- Further blanks at the end are trimmed with the others. -/
theorem trim_end_append_blank (text : List Char) {blanks : List Char} (hblanks : Blank blanks) :
    trimEnd (text ++ blanks) = trimEnd text := by
  have hreverse : Blank blanks.reverse := fun c hc => hblanks c (List.mem_reverse.mp hc)
  rw [trimEnd, List.reverse_append, ← trimStart, trim_start_blank_append hreverse]
  rfl

/-- Trimming at the end removes exactly blanks. -/
theorem exists_trim_end_append_blank (text : List Char) :
    ∃ blanks, Blank blanks ∧ text = trimEnd text ++ blanks :=
  ⟨text.rtakeWhile isBlank, fun _ hc => List.mem_rtakeWhile_imp hc,
    List.rdropWhile_append_rtakeWhile.symm⟩

/-! ## Prompts -/

/-- A prompt of the tool, with or without the name of a module. -/
def IsPrompt (text : List Char) : Prop :=
  text = "yosys> ".toList ∨
    ∃ name, ']' ∉ name ∧ text = "yosys [".toList ++ name ++ "]> ".toList

/-- A line is some prompts and a rest that starts with none. -/
structure StripsTo (line rest : List Char) : Prop where
  prompts : ∃ prompts : List (List Char), (∀ prompt ∈ prompts, IsPrompt prompt) ∧
    line = prompts.flatten ++ rest
  bare : ∀ prompt, IsPrompt prompt → ¬ prompt <+: rest

/-- One prompt is taken off exactly where a text starts with one. -/
theorem after_prompt_eq_some_iff {text rest : List Char} :
    afterPrompt? text = some rest ↔ ∃ prompt, IsPrompt prompt ∧ text = prompt ++ rest := by
  constructor
  · intro h
    unfold afterPrompt? at h
    split at h
    · cases h
      exact ⟨_, .inl rfl, rfl⟩
    · next inner =>
        split at h
        · next after hdropped =>
            cases h
            refine ⟨_, .inr ⟨inner.takeWhile (· ≠ ']'), ?_, rfl⟩, ?_⟩
            · intro hmem
              simpa using List.mem_takeWhile_imp hmem
            · have hinner := List.takeWhile_append_dropWhile (p := (· ≠ ']')) (l := inner)
              rw [hdropped] at hinner
              rw [List.append_assoc, List.append_assoc]
              exact congrArg ("yosys [".toList ++ ·) hinner.symm
        · contradiction
    · contradiction
  · rintro ⟨prompt, rfl | ⟨name, hname, rfl⟩, rfl⟩
    · rfl
    · have hdropped : (name ++ ("]> ".toList ++ rest)).dropWhile (· ≠ ']') =
          "]> ".toList ++ rest := by
        rw [List.dropWhile_append_of_pos]
        · rfl
        · intro c hc
          simp only [decide_eq_true_eq]
          exact fun hbracket => hname (hbracket ▸ hc)
      rw [List.append_assoc, List.append_assoc]
      show afterPrompt? ('y' :: 'o' :: 's' :: 'y' :: 's' :: ' ' :: '[' ::
        (name ++ ("]> ".toList ++ rest))) = some rest
      simp only [afterPrompt?, hdropped]
      rfl

/-- A prompt in front does not change what is left without prompts. -/
theorem without_prompts_append {prompt : List Char} (hprompt : IsPrompt prompt)
    (rest : List Char) : withoutPrompts (prompt ++ rest) = withoutPrompts rest := by
  rw [withoutPrompts]
  split
  · next after hfound =>
      rw [after_prompt_eq_some_iff.mpr ⟨prompt, hprompt, rfl⟩] at hfound
      rw [Option.some.inj hfound]
  · next hnone =>
      rw [after_prompt_eq_some_iff.mpr ⟨prompt, hprompt, rfl⟩] at hnone
      contradiction

/-- However many prompts stand in front, the same is left without them. -/
theorem without_prompts_flatten_append {prompts : List (List Char)}
    (hprompts : ∀ prompt ∈ prompts, IsPrompt prompt) (rest : List Char) :
    withoutPrompts (prompts.flatten ++ rest) = withoutPrompts rest := by
  induction prompts with
  | nil => rfl
  | cons prompt others ih =>
      obtain ⟨hprompt, hothers⟩ := List.forall_mem_cons.mp hprompts
      rw [List.flatten_cons, List.append_assoc, without_prompts_append hprompt, ih hothers]

/-- Every line is stripped of its prompts. -/
theorem strips_to_without_prompts (line : List Char) : StripsTo line (withoutPrompts line) := by
  fun_induction withoutPrompts line with
  | case1 line rest hfound ih =>
      obtain ⟨prompt, hprompt, rfl⟩ := after_prompt_eq_some_iff.mp hfound
      obtain ⟨prompts, hprompts, hrest⟩ := ih.prompts
      refine ⟨⟨prompt :: prompts, List.forall_mem_cons.mpr ⟨hprompt, hprompts⟩, ?_⟩, ih.bare⟩
      rw [List.flatten_cons, List.append_assoc, ← hrest]
  | case2 line hnone =>
      refine ⟨⟨[], fun _ h => absurd h List.not_mem_nil, rfl⟩, ?_⟩
      rintro prompt hprompt ⟨rest, rfl⟩
      rw [after_prompt_eq_some_iff.mpr ⟨prompt, hprompt, rfl⟩] at hnone
      contradiction

/-- Removing prompts leaves what stands behind all the prompts in front of a line. -/
theorem without_prompts_eq_iff {line rest : List Char} :
    withoutPrompts line = rest ↔ StripsTo line rest := by
  constructor
  · rintro rfl
    exact strips_to_without_prompts line
  · rintro ⟨⟨prompts, hprompts, rfl⟩, hbare⟩
    rw [without_prompts_flatten_append hprompts, withoutPrompts]
    split
    · next after hfound =>
        obtain ⟨prompt, hprompt, hrest⟩ := after_prompt_eq_some_iff.mp hfound
        exact absurd ⟨after, hrest.symm⟩ (hbare prompt hprompt)
    · rfl

/-- A line feed at the end is no part of a prompt. -/
theorem StripsTo.ended {line rest : List Char} (h : StripsTo line rest) :
    StripsTo (line ++ ['\n']) (rest ++ ['\n']) := by
  obtain ⟨⟨prompts, hprompts, rfl⟩, hbare⟩ := h
  refine ⟨⟨prompts, hprompts, List.append_assoc _ _ _⟩, ?_⟩
  intro prompt hprompt hstart
  -- A prompt that took in the line feed would end in it, but every prompt ends in a space.
  rcases List.prefix_concat_iff.mp hstart with hwhole | hstart
  · have hlast : prompt.getLast? = some ' ' := by
      rcases hprompt with rfl | ⟨name, -, rfl⟩
      · rfl
      · rw [List.getLast?_append]
        rfl
    rw [hwhole, List.getLast?_concat] at hlast
    exact absurd hlast (by decide)
  · exact hbare prompt hprompt hstart

/-! ## Error reports -/

/-- A text is blanks, `ERROR:` and a message. -/
def Reports (text message : List Char) : Prop :=
  ∃ blanks, Blank blanks ∧ text = blanks ++ ("ERROR:".toList ++ message)

/-- A text that reports an error starts, behind its blanks, with the word for it. -/
theorem Reports.trim_start {text message : List Char} (h : Reports text message) :
    trimStart text = "ERROR:".toList ++ message := by
  obtain ⟨blanks, hblanks, rfl⟩ := h
  exact trim_start_blank_append hblanks _

/-- A report is recognised if its message, without the blanks that lead it, has no line feed. -/
theorem error_message_eq_some_iff {text recognised : List Char} :
    errorMessage? text = some recognised ↔
      ∃ message, Reports text message ∧ '\n' ∉ trimStart message ∧
        recognised = trim message := by
  constructor
  · intro h
    unfold errorMessage? at h
    split at h
    · next message hstart =>
        obtain ⟨blanks, hblanks, htext⟩ := exists_blank_append_trim_start text
        rw [hstart] at htext
        refine ⟨message, ⟨blanks, hblanks, htext⟩, ?_⟩
        simp only [List.contains_iff_mem] at h
        split at h
        · contradiction
        · next hfeed => exact ⟨hfeed, (Option.some.inj h).symm⟩
    · contradiction
  · rintro ⟨message, hreports, hfeed, rfl⟩
    rw [errorMessage?, hreports.trim_start]
    show (if (trimStart message).contains '\n' then none else some _) = _
    rw [if_neg (by simpa using hfeed)]
    rfl

/-- A line break is blank. -/
theorem blank_line_feed : Blank ['\n'] :=
  List.forall_mem_singleton.mpr (by decide)

/-- The line feed that ends a report belongs to its message. -/
theorem reports_ended_iff {text message : List Char} :
    Reports (text ++ ['\n']) message ↔
      ∃ inner, message = inner ++ ['\n'] ∧ Reports text inner := by
  constructor
  · rintro ⟨blanks, hblanks, htext⟩
    -- Without a message the text would end in a colon.
    rcases List.eq_nil_or_concat message with rfl | ⟨inner, last, rfl⟩
    · have hlast := congrArg List.getLast? htext
      rw [List.getLast?_concat, List.append_nil, List.getLast?_append] at hlast
      change some '\n' = some ':' at hlast
      exact absurd hlast (by decide)
    · rw [List.concat_eq_append, ← List.append_assoc, ← List.append_assoc] at htext
      obtain ⟨hinner, hlast⟩ := List.append_inj' htext rfl
      refine ⟨inner, by rw [List.concat_eq_append, ← hlast], blanks, hblanks, ?_⟩
      rw [hinner, List.append_assoc]
  · rintro ⟨inner, rfl, blanks, hblanks, rfl⟩
    exact ⟨blanks, hblanks, by simp only [List.append_assoc]⟩

/-- Of the reports that a line feed ends, only those with a blank message are recognised: any other
message still has the line feed behind it. -/
theorem error_message_ended_iff {text recognised : List Char} :
    errorMessage? (text ++ ['\n']) = some recognised ↔
      recognised = [] ∧ ∃ message, Reports text message ∧ Blank message := by
  rw [error_message_eq_some_iff]
  constructor
  · rintro ⟨_, hended, hfeed, rfl⟩
    obtain ⟨message, rfl, hreports⟩ := reports_ended_iff.mp hended
    have hblank : Blank message := by
      by_contra hblank
      rw [trim_start_append_of_not_blank hblank] at hfeed
      exact hfeed (List.mem_append_right _ (List.mem_singleton_self _))
    exact ⟨trim_eq_nil_iff.mpr (blank_append_iff.mpr ⟨hblank, blank_line_feed⟩),
      message, hreports, hblank⟩
  · rintro ⟨rfl, message, hreports, hblank⟩
    have hended : Blank (message ++ ['\n']) := blank_append_iff.mpr ⟨hblank, blank_line_feed⟩
    refine ⟨message ++ ['\n'], reports_ended_iff.mpr ⟨message, rfl, hreports⟩, ?_,
      (trim_eq_nil_iff.mpr hended).symm⟩
    rw [trim_start_eq_nil_iff.mpr hended]
    exact List.not_mem_nil

end StagedSynthesis.Session
