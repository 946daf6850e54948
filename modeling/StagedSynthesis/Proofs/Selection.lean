import StagedSynthesis.Proofs.Phases

/-!
# The stages that a range selects

The labels of a script may repeat, and a label of a range stands for its first occurrence. A range
resolves to the positions of its two labels if both occur and stand in order, and is refused
otherwise. Neither looking up the labels of a refusal nor cutting out the selected stages ever
reaches outside the script: `resolveWithin` and `slice?` are the readings that would notice, and
both agree with what is done. The main theorem is `resolve_selects_named_span`.
-/

namespace StagedSynthesis

/-! ## Parts of a list -/

/-- The part of a list from one position to another, both included, or nothing where the list does
not have all these positions. -/
def slice? {α : Type} (items : List α) (start stop : Nat) : Option (List α) :=
  if start ≤ stop + 1 ∧ stop < items.length then some ((items.take (stop + 1)).drop start) else none

/-- A list is cut in three before one position and behind another. -/
theorem take_append_between_append_drop {α : Type} (items : List α) {start stop : Nat}
    (horder : start ≤ stop) :
    items.take start ++ (items.take (stop + 1)).drop start ++ items.drop (stop + 1) = items := by
  have hfront : (items.take (stop + 1)).take start = items.take start := by
    rw [List.take_take, Nat.min_eq_left (by omega)]
  calc items.take start ++ (items.take (stop + 1)).drop start ++ items.drop (stop + 1)
    _ = items.take (stop + 1) ++ items.drop (stop + 1) := by rw [← hfront, List.take_append_drop]
    _ = items := List.take_append_drop _ _

namespace StageRange

/-! ## The two ends of a range -/

/-- Every label that a range names is one of some labels. -/
structure Known (range : StageRange) (labels : List String) : Prop where
  first : ∀ label ∈ range.first, label ∈ labels
  last : ∀ label ∈ range.last, label ∈ labels

/-- Where the first label of a range first occurs. An open range starts with the first stage. -/
def firstIndex (range : StageRange) (labels : List String) : Nat :=
  range.first.elim 0 labels.idxOf

/-- Where the last label of a range first occurs. An open range ends with the last stage. -/
def lastIndex (range : StageRange) (labels : List String) : Nat :=
  range.last.elim (labels.length - 1) labels.idxOf

/-- The positions of a range, or the problem for which it is refused, as `resolve` finds them. Here
a position outside the labels is noticed where a label is read back from it. -/
def resolveWithin (range : StageRange) (labels : List String) :
    Option (Except Problem (Nat × Nat)) :=
  match range.startIn labels, range.stopIn labels with
  | .error problem, _ => some (.error problem)
  | .ok _, .error problem => some (.error problem)
  | .ok start, .ok stop =>
      if stop < start then do
        let first ← labels[start]?
        let last ← labels[stop]?
        pure (.error (.invertedRange first last))
      else
        some (.ok (start, stop))

section

variable {range : StageRange} {labels : List String}

/-- A range that can start has a known first label, or none. -/
theorem known_of_start_in {start : Nat} (h : range.startIn labels = .ok start) :
    ∀ label ∈ range.first, label ∈ labels := by
  intro label hlabel
  rw [startIn, Option.mem_def.mp hlabel] at h
  exact mem_of_position h

/-- A range that can stop has a known last label, or none. -/
theorem known_of_stop_in {stop : Nat} (h : range.stopIn labels = .ok stop) :
    ∀ label ∈ range.last, label ∈ labels := by
  intro label hlabel
  rw [stopIn, Option.mem_def.mp hlabel] at h
  exact mem_of_position h

/-- A start behind the first label is the position of a label. -/
theorem start_lt_length {start : Nat} (h : range.startIn labels = .ok start)
    (hbehind : 0 < start) : start < labels.length := by
  unfold startIn at h
  cases hfirst : range.first with
  | none =>
      rw [hfirst] at h
      have hzero : 0 = start := Except.ok.inj h
      omega
  | some first =>
      rw [hfirst] at h
      exact lt_length_of_position h

/-- The last position of a range is one of the positions of its labels. -/
theorem last_index_lt_length (hlabels : labels ≠ []) (hknown : range.Known labels) :
    range.lastIndex labels < labels.length := by
  have hpositive := List.length_pos_iff.mpr hlabels
  unfold lastIndex
  cases hlast : range.last with
  | none =>
      show labels.length - 1 < labels.length
      omega
  | some last => exact List.idxOf_lt_length_of_mem (hknown.last last hlast)

/-! ## Resolving -/

/-- A range resolves where its labels occur and stand in order, and then to where they first
occur. -/
theorem resolve_eq_ok_iff_known {span : Nat × Nat} :
    range.resolve labels = .ok span ↔
      range.Known labels ∧ range.firstIndex labels ≤ range.lastIndex labels ∧
        span = (range.firstIndex labels, range.lastIndex labels) := by
  obtain ⟨start, stop⟩ := span
  rw [resolve_eq_ok_iff]
  constructor
  · rintro ⟨hstart, hstop, horder⟩
    have hfirst := known_of_start_in hstart
    have hlast := known_of_stop_in hstop
    have hstart' : range.firstIndex labels = start :=
      Except.ok.inj ((start_in_of_known hfirst).symm.trans hstart)
    have hstop' : range.lastIndex labels = stop :=
      Except.ok.inj ((stop_in_of_known hlast).symm.trans hstop)
    rw [hstart', hstop']
    exact ⟨⟨hfirst, hlast⟩, horder, rfl⟩
  · rintro ⟨⟨hfirst, hlast⟩, horder, hspan⟩
    cases hspan
    exact ⟨start_in_of_known hfirst, stop_in_of_known hlast, horder⟩

/-- A range reports the problem for which it is refused. -/
theorem resolve_eq_error_iff {problem : Problem} :
    range.resolve labels = .error problem ↔ range.Refused labels problem := by
  constructor
  · intro herror
    rcases range.resolves_or_refused labels with ⟨span, hspan⟩ | ⟨other, hrefused⟩
    · rw [hspan] at herror
      cases herror
    · have hsame := hrefused.resolve_eq.symm.trans herror
      cases hsame
      exact hrefused
  · exact Refused.resolve_eq

/-- A range with an open end is never refused for the order of its ends. -/
theorem Refused.not_open {first last : String}
    (h : range.Refused labels (.invertedRange first last)) :
    ¬ (range.first = none ∨ range.last = none) := by
  cases h with
  | inverted hfirst hlast _ _ => simp [hfirst, hlast]

/-- The labels of a refusal are read back from inside the labels. -/
theorem resolve_within_eq (range : StageRange) (labels : List String) :
    range.resolveWithin labels = some (range.resolve labels) := by
  rw [resolve_eq_bind, resolveWithin]
  cases hstart : range.startIn labels with
  | error problem => rfl
  | ok start =>
      cases hstop : range.stopIn labels with
      | error problem => rfl
      | ok stop =>
          simp only [Except.bind]
          by_cases horder : stop < start
          · -- A start behind anything is the position of a label, and the end stands before it.
            have hfirst : start < labels.length := start_lt_length hstart (by omega)
            have hlast : stop < labels.length := by omega
            simp [horder, List.getElem?_eq_getElem hfirst, List.getElem?_eq_getElem hlast]
          · simp [horder]

end

end StageRange

/-! ## Selected stages -/

/-- A script has as many labels as stages. -/
theorem Script.length_labels (script : Script) : script.labels.length = script.stages.length :=
  List.length_map _

namespace Executor

variable {script : Script} {range : StageRange}

/-- The selected stages are cut out of the script without reaching outside it, unless there is
nothing to reach into. -/
theorem selected_stages_eq_slice {executor : Executor}
    (hselect : select script range = .ok executor) :
    executor.selectedStages = (slice? script.stages executor.start executor.stop).getD [] := by
  obtain ⟨⟨start, stop⟩, hresolve, rfl⟩ := select_eq_ok_iff.mp hselect
  obtain ⟨horder, hempty | hinside⟩ := StageRange.bounds_of_resolve hresolve
  · have hstages : script.stages = [] := List.map_eq_nil_iff.mp hempty
    simp [selectedStages, slice?, hstages]
  · rw [Script.length_labels] at hinside
    rw [slice?, if_pos ⟨Nat.le_succ_of_le horder, hinside⟩]
    rfl

/-- The selected stages are those from the start to the end of the range, both included. -/
theorem selected_stages_span (executor : Executor) (horder : executor.start ≤ executor.stop)
    (hinside : executor.stop < executor.script.stages.length) :
    ∃ before later, executor.script.stages = before ++ executor.selectedStages ++ later ∧
      before.length = executor.start ∧
      executor.selectedStages.length = executor.stop - executor.start + 1 := by
  refine ⟨executor.script.stages.take executor.start,
    executor.script.stages.drop (executor.stop + 1),
    (take_append_between_append_drop executor.script.stages horder).symm, ?_, ?_⟩
  · rw [List.length_take]
    omega
  · rw [selectedStages, List.length_drop, List.length_take]
    omega

end Executor

namespace StageRange

/-- Against labels of which there are any, a range resolves exactly if the labels it names occur and
the first of them does not stand behind the last; it then resolves to where they first occur, and an
executor selects the stages from the one to the other, of which there is at least one. Otherwise the
range is refused for the first label that does not occur, or else for its own two labels in the
wrong order, which a range with an open end never has. Nothing is read from outside the labels or
the stages, and without labels the whole range selects nothing. -/
theorem resolve_selects_named_span (range : StageRange) (labels : List String) :
    let start := range.firstIndex labels
    let stop := range.lastIndex labels
    (labels ≠ [] →
      (∀ span, range.resolve labels = .ok span ↔
        range.Known labels ∧ start ≤ stop ∧ span = (start, stop)) ∧
      (range.Known labels → start ≤ stop → stop < labels.length ∧
        ∀ script : Script, script.labels = labels →
          ∃ executor, Executor.select script range = .ok executor ∧
            slice? script.stages start stop = some executor.selectedStages ∧
            executor.selectedStages ≠ [] ∧
            ∃ before later, script.stages = before ++ executor.selectedStages ++ later ∧
              before.length = start ∧ executor.selectedStages.length = stop - start + 1) ∧
      ∀ problem, range.resolve labels = .error problem ↔ range.Refused labels problem) ∧
    (range.first = none ∨ range.last = none →
      ∀ first last, range.resolve labels ≠ .error (.invertedRange first last)) ∧
    range.resolveWithin labels = some (range.resolve labels) ∧
    (∀ (script : Script) (executor : Executor), script.labels = labels →
      Executor.select script range = .ok executor →
      executor.selectedStages = (slice? script.stages executor.start executor.stop).getD []) ∧
    (labels = [] → range = .everything → ∀ script : Script, script.labels = labels →
      ∃ executor, Executor.select script range = .ok executor ∧ executor.selectedStages = []) := by
  intro start stop
  refine ⟨?_, ?_, range.resolve_within_eq labels, ?_, ?_⟩
  · intro hlabels
    refine ⟨fun span => resolve_eq_ok_iff_known, ?_, fun problem => resolve_eq_error_iff⟩
    intro hknown horder
    have hinside := last_index_lt_length hlabels hknown
    refine ⟨hinside, ?_⟩
    rintro script rfl
    let executor : Executor := { script := script, start := start, stop := stop }
    have hresolve := resolve_eq_ok_iff_known.mpr ⟨hknown, horder, rfl⟩
    have hselect : Executor.select script range = .ok executor :=
      Executor.select_eq_ok_iff.mpr ⟨_, hresolve, rfl⟩
    rw [Script.length_labels] at hinside
    obtain ⟨before, later, hstages, hbefore, hlength⟩ :=
      executor.selected_stages_span horder hinside
    refine ⟨executor, hselect, ?_, ?_, before, later, hstages, hbefore, hlength⟩
    · exact if_pos ⟨Nat.le_succ_of_le horder, hinside⟩
    · refine List.ne_nil_of_length_pos ?_
      rw [hlength]
      exact Nat.succ_pos _
  · intro hopen first last herror
    exact (resolve_eq_error_iff.mp herror).not_open hopen
  · intro script executor _ hselect
    exact Executor.selected_stages_eq_slice hselect
  · rintro rfl rfl script hempty
    have hstages : script.stages = [] := List.map_eq_nil_iff.mp hempty
    refine ⟨{ script := script, start := 0, stop := 0 }, ?_, ?_⟩
    · rw [Executor.select, hempty]
      rfl
    · simp [Executor.selectedStages, hstages]

/-- Labels that occur twice: a range with an open end, one whose ends are in the wrong order, and
one of two unknown labels. -/
theorem resolve_selects_named_span_repeated :
    let labels := ["prepare", "check", "prepare", "check"]
    let script : Script :=
      ⟨.execute, labels.map fun label => ⟨label, [⟨"stat", .always⟩]⟩⟩
    (StageRange.mk (some "check") none).resolve labels = .ok (1, 3) ∧
      (∃ executor, Executor.select script ⟨some "check", none⟩ = .ok executor ∧
        slice? script.stages 1 3 = some executor.selectedStages) ∧
      (StageRange.mk (some "check") (some "prepare")).resolve labels =
        .error (.invertedRange "check" "prepare") ∧
      (StageRange.mk (some "blif") (some "edif")).resolve labels =
        .error (.unknownStage "blif") := by
  intro labels script
  obtain ⟨hresolve, hselect, -⟩ :=
    (resolve_selects_named_span ⟨some "check", none⟩ labels).1 (by decide)
  obtain ⟨-, -, hinverted⟩ :=
    (resolve_selects_named_span ⟨some "check", some "prepare"⟩ labels).1 (by decide)
  obtain ⟨-, -, hunknown⟩ :=
    (resolve_selects_named_span ⟨some "blif", some "edif"⟩ labels).1 (by decide)
  have hknown : (StageRange.mk (some "check") none).Known labels := by
    refine ⟨?_, ?_⟩ <;> simp [labels]
  obtain ⟨-, hexecutor⟩ := hselect hknown (by decide)
  obtain ⟨executor, hexecutor, hslice, -⟩ := hexecutor script rfl
  refine ⟨(hresolve _).mpr ⟨hknown, by decide, rfl⟩, ⟨executor, hexecutor, hslice⟩, ?_, ?_⟩
  · exact (hinverted _).mpr (.inverted rfl rfl (by decide) (by decide))
  · exact (hunknown _).mpr (.unknownFirst rfl (by decide))

end StageRange

end StagedSynthesis
