import Mathlib.Data.List.DropRight
import StagedSynthesis.StageRange

/-!
# Ranges and their texts

A range can hold any labels, but not every range can be written down: blanks around a label are
trimmed when the text is read, an empty label is read as an open end, and a text is divided at its
first colon. `Plain` says of a range that none of this affects it. Reading a text always gives a
plain range (`plain_parse`), and a plain range is read back from its own text
(`parse_text_of_plain`). The main theorem, `plain_iff_round_trip`, follows from these two.
-/

namespace StagedSynthesis

namespace Text

/-- Behind trimming, no blank is left at the start. -/
theorem trim_start_trim (text : List Char) : trimStart (trim text) = trim text := by
  obtain ⟨rest, hrest⟩ : trim text <+: trimStart text := List.rdropWhile_prefix isBlank _
  cases htrim : trim text with
  | nil => rfl
  | cons first others =>
      -- What is trimmed at the end starts as it did before, and that is no blank.
      rw [htrim] at hrest
      have hfirst : trimStart (first :: (others ++ rest)) = first :: (others ++ rest) := by
        rw [← List.cons_append, hrest]
        exact List.dropWhile_idempotent isBlank text
      have hblank : ¬ isBlank first = true :=
        List.dropWhile_eq_self_iff.mp hfirst (Nat.succ_pos _)
      exact List.dropWhile_cons_of_neg hblank

/-- Trimming a second time changes nothing. -/
theorem trim_trim (text : List Char) : trim (trim text) = trim text := by
  show trimEnd (trimStart (trim text)) = trim text
  rw [trim_start_trim]
  exact List.rdropWhile_idempotent isBlank _

/-- Trimming adds no characters. -/
theorem mem_of_mem_trim {text : List Char} {c : Char} (h : c ∈ trim text) : c ∈ text := by
  have hstart : c ∈ trimStart text := (List.rdropWhile_prefix isBlank _).subset h
  exact (List.dropWhile_sublist isBlank).subset hstart

end Text

namespace StageRange

/-! ## Labels -/

/-- A label that can be written down: it is not empty, and trimming leaves it unchanged. -/
def PlainLabel (label : String) : Prop :=
  label ≠ "" ∧ Text.trim label.toList = label.toList

/-- A part of a text names a label if that is what trimming leaves of the part. -/
theorem label_of_eq_some_iff {part : List Char} {label : String} :
    labelOf part = some label ↔ label ≠ "" ∧ Text.trim part = label.toList := by
  unfold labelOf
  split
  · next hnil =>
      simp only [hnil, reduceCtorEq, false_iff, not_and]
      intro hlabel hempty
      exact hlabel (String.toList_inj.mp hempty.symm)
  · next trimmed hsome =>
      constructor
      · intro h
        obtain rfl := Option.some.inj h
        refine ⟨?_, String.toList_ofList.symm⟩
        intro hempty
        exact hsome (String.ofList_inj.mp hempty)
      · rintro ⟨-, hlabel⟩
        rw [hlabel, String.ofList_toList]

/-- A label that is read from a part of a range is plain. -/
theorem plain_of_label_of {part : List Char} {label : String} (h : labelOf part = some label) :
    PlainLabel label := by
  obtain ⟨hlabel, htrim⟩ := label_of_eq_some_iff.mp h
  refine ⟨hlabel, ?_⟩
  rw [← htrim, Text.trim_trim]

/-- A label that is left out is an open end, and a plain one is read as it stands. -/
theorem label_of_get_d {place : Option String} (h : ∀ label ∈ place, PlainLabel label) :
    labelOf (place.getD "").toList = place := by
  cases place with
  | none => rfl
  | some label => exact label_of_eq_some_iff.mpr (h label rfl)

/-! ## Reading -/

/-- A text without a colon names both ends. -/
theorem parse_of_no_colon {text : String} (h : ':' ∉ text.toList) :
    parse text = ⟨labelOf text.toList, labelOf text.toList⟩ := by
  have hall : ∀ c ∈ text.toList, decide (c ≠ ':') = true :=
    fun c hc => decide_eq_true fun hcolon => h (hcolon ▸ hc)
  simp only [parse, List.dropWhile_eq_nil_iff.mpr hall, List.takeWhile_eq_self_iff.mpr hall]

/-- A text is divided at its first colon. -/
theorem parse_of_colon {front : String} (h : ':' ∉ front.toList) (back : String) :
    parse (front ++ ":" ++ back) = ⟨labelOf front.toList, labelOf back.toList⟩ := by
  have hall : ∀ c ∈ front.toList, decide (c ≠ ':') = true :=
    fun c hc => decide_eq_true fun hcolon => h (hcolon ▸ hc)
  have htext : (front ++ ":" ++ back).toList = front.toList ++ ':' :: back.toList := by simp
  have hfront : (front.toList ++ ':' :: back.toList).takeWhile (· ≠ ':') = front.toList := by
    rw [List.takeWhile_append_of_pos hall]
    simp
  have hback : (front.toList ++ ':' :: back.toList).dropWhile (· ≠ ':') = ':' :: back.toList := by
    rw [List.dropWhile_append_of_pos hall]
    simp
  simp only [parse, htext, hfront, hback]

-- A second colon belongs to the last label, and blanks around a label do not count.
example : parse " coarse : map:luts" = ⟨some "coarse", some "map:luts"⟩ := by
  decide +kernel

/-- The first label is read from what stands before the first colon. -/
theorem first_parse (text : String) :
    (parse text).first = labelOf (text.toList.takeWhile (· ≠ ':')) := by
  unfold parse
  dsimp only
  split <;> rfl

/-- The last label of a range is read from some part of it. -/
theorem last_parse (text : String) : ∃ part, (parse text).last = labelOf part := by
  unfold parse
  dsimp only
  split
  · exact ⟨_, rfl⟩
  · exact ⟨_, rfl⟩

/-! ## Plain ranges -/

/-- A range that can be written down: its labels are plain, and the first one has no colon. -/
structure Plain (range : StageRange) : Prop where
  first : ∀ label ∈ range.first, PlainLabel label
  last : ∀ label ∈ range.last, PlainLabel label
  colon : ∀ label ∈ range.first, ':' ∉ label.toList

/-- Whatever a text says, the range that is read from it is plain. -/
theorem plain_parse (text : String) : (parse text).Plain := by
  refine ⟨?_, ?_, ?_⟩
  · intro label hlabel
    rw [first_parse] at hlabel
    exact plain_of_label_of hlabel
  · intro label hlabel
    obtain ⟨part, hpart⟩ := last_parse text
    rw [hpart] at hlabel
    exact plain_of_label_of hlabel
  · intro label hlabel hcolon
    rw [first_parse] at hlabel
    obtain ⟨-, htrim⟩ := label_of_eq_some_iff.mp hlabel
    rw [← htrim] at hcolon
    have hfront := List.mem_takeWhile_imp (Text.mem_of_mem_trim hcolon)
    simp at hfront

/-- Equal ends are written as one label. -/
theorem text_single (label : String) : (single label).text = label := by
  simp [text, single]

/-- Other ranges are written with a colon between their ends. -/
theorem text_of_ne_single {range : StageRange} (h : ∀ label, range ≠ single label) :
    range.text = range.first.getD "" ++ ":" ++ range.last.getD "" := by
  obtain ⟨first, last⟩ := range
  cases first with
  | none => rfl
  | some first =>
      cases last with
      | none => rfl
      | some last =>
          have hends : first ≠ last := fun hends => h last (hends ▸ rfl)
          simp [text, hends]

/-- A plain range is read back from its text. -/
theorem parse_text_of_plain {range : StageRange} (h : range.Plain) : parse range.text = range := by
  by_cases hsingle : ∃ label, range = single label
  · obtain ⟨label, rfl⟩ := hsingle
    have hlabel : labelOf label.toList = some label :=
      label_of_eq_some_iff.mpr (h.first label rfl)
    rw [text_single, parse_of_no_colon (h.colon label rfl), hlabel]
    rfl
  · have hfront : ':' ∉ (range.first.getD "").toList := by
      cases hfirst : range.first with
      | none => exact List.not_mem_nil
      | some label => exact h.colon label hfirst
    rw [text_of_ne_single (not_exists.mp hsingle), parse_of_colon hfront,
      label_of_get_d h.first, label_of_get_d h.last]

/-- A range is read back from its text if and only if it is plain. Every text is read as a plain
range, so reading, writing and reading again gives the same range, and two texts are read as the
same range if and only if the ranges read from them have the same text. -/
theorem plain_iff_round_trip :
    (∀ range : StageRange, parse range.text = range ↔ range.Plain) ∧
      (∀ text, (parse text).Plain ∧ parse (parse text).text = parse text) ∧
      ∀ first second, parse first = parse second ↔ (parse first).text = (parse second).text := by
  have hread : ∀ text, parse (parse text).text = parse text :=
    fun text => parse_text_of_plain (plain_parse text)
  refine ⟨?_, fun text => ⟨plain_parse text, hread text⟩, ?_⟩
  · intro range
    refine ⟨?_, parse_text_of_plain⟩
    intro hparse
    rw [← hparse]
    exact plain_parse range.text
  · intro first second
    refine ⟨congrArg text, ?_⟩
    intro htext
    rw [← hread first, htext, hread second]

end StageRange

end StagedSynthesis
