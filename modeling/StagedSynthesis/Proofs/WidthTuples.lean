import Mathlib.Algebra.Ring.Nat
import Mathlib.Data.List.Lex
import Mathlib.Data.List.Nodup
import StagedSynthesis.BlockRam

/-!
# Tuples of port widths

The tuples of port widths are built by appending one more width to every shorter tuple. This module
says which tuple stands at which position. Read `width_tuples_get_succ` first: the quotient of a
position by the number of widths is the position of the front, and the remainder selects the last
width. Hence the widths of a tuple are selected by the digits of its position, and the tuples come
in lexicographic order. The main theorem is `width_tuples_enumerate_in_order`.
-/

namespace StagedSynthesis.BlockRam

variable {widths : List Nat}

/-! ## Members -/

/-- The tuples are the lists of the given length whose members are widths. -/
theorem mem_width_tuples_iff {length : Nat} {tuple : List Nat} :
    tuple ∈ widthTuples widths length ↔
      tuple.length = length ∧ ∀ width ∈ tuple, width ∈ widths := by
  induction length generalizing tuple with
  | zero =>
      rw [widthTuples, List.mem_singleton, List.length_eq_zero_iff]
      constructor
      · rintro rfl
        exact ⟨rfl, List.forall_mem_nil _⟩
      · exact And.left
  | succ length ih =>
      rw [widthTuples, List.mem_flatMap]
      constructor
      · rintro ⟨front, hfront, htuple⟩
        obtain ⟨width, hwidth, rfl⟩ := List.mem_map.mp htuple
        obtain ⟨hlength, hmem⟩ := ih.mp hfront
        refine ⟨by rw [List.length_append, hlength]; rfl, ?_⟩
        exact List.forall_mem_append.mpr ⟨hmem, List.forall_mem_singleton.mpr hwidth⟩
      · rintro ⟨hlength, hmem⟩
        -- The fronts are extended at the end, so the tuple is taken apart there.
        obtain rfl | ⟨front, width, rfl⟩ := List.eq_nil_or_concat' tuple
        · cases hlength
        · obtain ⟨hfront, hwidth⟩ := List.forall_mem_append.mp hmem
          have hfrontLength : front.length = length := by
            rw [List.length_append] at hlength
            exact Nat.succ.inj hlength
          exact ⟨front, ih.mpr ⟨hfrontLength, hfront⟩,
            List.mem_map.mpr ⟨width, List.forall_mem_singleton.mp hwidth, rfl⟩⟩

/-- Each tuple has the length it was made for. -/
theorem length_of_mem_width_tuples {length : Nat} {tuple : List Nat}
    (h : tuple ∈ widthTuples widths length) : tuple.length = length :=
  (mem_width_tuples_iff.mp h).1

/-! ## Positions -/

/-- The digit of a number at a place when the number is written with `length` digits. Place `0` has
the most significant digit. -/
def digitAt (base length number place : Nat) : Nat :=
  number / base ^ (length - 1 - place) % base

/-- All digits but the last are those of the number without its last digit. -/
theorem digit_at_front {base length number place : Nat} (hplace : place < length) :
    digitAt base (length + 1) number place = digitAt base length (number / base) place := by
  obtain ⟨behind, rfl⟩ := Nat.exists_eq_add_of_lt hplace
  have hlong : place + behind + 1 + 1 - 1 - place = behind + 1 := by omega
  have hshort : place + behind + 1 - 1 - place = behind := by omega
  rw [digitAt, digitAt, hlong, hshort, Nat.div_div_eq_div_mul, Nat.pow_succ']

/-- The last digit is the remainder. -/
theorem digit_at_last (base length number : Nat) :
    digitAt base (length + 1) number length = number % base := by
  rw [digitAt, Nat.add_sub_cancel, Nat.sub_self, Nat.pow_zero, Nat.div_one]

/-- In a table that is listed row by row, the quotient of a position by the length of the rows tells
the row, and the remainder tells the column. -/
theorem get_rows {α β γ : Type} (pair : α → β → γ) (rows : List α) (columns : List β)
    (position : Nat) :
    (rows.flatMap fun row => columns.map (pair row))[position]? =
      rows[position / columns.length]?.bind fun row =>
        columns[position % columns.length]?.map (pair row) := by
  by_cases hcolumns : columns = []
  · subst hcolumns
    simp
  have hsize : 0 < columns.length := List.length_pos_iff.mpr hcolumns
  induction rows generalizing position with
  | nil => rfl
  | cons row rest ih =>
      rw [List.flatMap_cons, List.getElem?_append, List.length_map]
      by_cases hfirst : position < columns.length
      · rw [if_pos hfirst, Nat.div_eq_of_lt hfirst, Nat.mod_eq_of_lt hfirst, List.getElem?_map]
        rfl
      · obtain ⟨behind, rfl⟩ := Nat.exists_eq_add_of_le' (Nat.le_of_not_lt hfirst)
        rw [if_neg hfirst, Nat.add_sub_cancel, ih, Nat.add_div_right behind hsize,
          Nat.add_mod_right, List.getElem?_cons_succ]

/-- The quotient of a position selects the front of the tuple and the remainder its last width. -/
theorem width_tuples_get_succ (widths : List Nat) (length position : Nat) :
    (widthTuples widths (length + 1))[position]? =
      (widthTuples widths length)[position / widths.length]?.bind fun front =>
        widths[position % widths.length]?.map fun width => front ++ [width] :=
  get_rows (fun front width => front ++ [width]) (widthTuples widths length) widths position

/-- The tuple at a position has the widths that the digits of the position select. -/
theorem exists_width_tuple_at {length position : Nat}
    (hposition : position < widths.length ^ length) :
    ∃ tuple, (widthTuples widths length)[position]? = some tuple ∧ tuple.length = length ∧
      ∀ place < length, tuple[place]? = widths[digitAt widths.length length position place]? := by
  induction length generalizing position with
  | zero =>
      obtain rfl : position = 0 := Nat.lt_one_iff.mp hposition
      exact ⟨[], rfl, rfl, fun place hplace => absurd hplace (Nat.not_lt_zero place)⟩
  | succ length ih =>
      rw [Nat.pow_succ] at hposition
      -- Without widths there would be no position.
      have hsize : 0 < widths.length :=
        Nat.pos_of_mul_pos_left (Nat.zero_lt_of_lt hposition)
      obtain ⟨front, hfront, hlength, hplaces⟩ :=
        ih ((Nat.div_lt_iff_lt_mul hsize).mpr hposition)
      obtain ⟨width, hlast⟩ : ∃ width, widths[position % widths.length]? = some width :=
        ⟨_, List.getElem?_eq_getElem (Nat.mod_lt position hsize)⟩
      refine ⟨front ++ [width], ?_, ?_, ?_⟩
      · rw [width_tuples_get_succ, hfront, hlast]
        rfl
      · rw [List.length_append, hlength]
        rfl
      · intro place hplace
        obtain hbefore | rfl := Nat.lt_succ_iff_lt_or_eq.mp hplace
        · rw [List.getElem?_append_left (hlength.symm ▸ hbefore), hplaces place hbefore,
            digit_at_front hbefore]
        · rw [digit_at_last, hlast, ← hlength, List.getElem?_concat_length]

example : widthTuples [4, 9] 2 = [[4, 4], [4, 9], [9, 4], [9, 9]] := by decide

/-! ## Order -/

/-- Of tuples with one length, what stands behind them does not change the order. -/
theorem lex_append_of_length_eq {before : Nat → Nat → Prop} {first second : List Nat}
    (h : List.Lex before first second) (hlength : first.length = second.length)
    (behind behind' : List Nat) : List.Lex before (first ++ behind) (second ++ behind') := by
  induction h with
  | nil => cases hlength
  | cons _ ih => exact .cons (ih (Nat.succ.inj hlength))
  | rel hbefore => exact .rel hbefore

/-- In whatever order the widths come, the tuples come in its lexicographic order. -/
theorem pairwise_lex_width_tuples {before : Nat → Nat → Prop} (hwidths : widths.Pairwise before)
    (length : Nat) : (widthTuples widths length).Pairwise (List.Lex before) := by
  induction length with
  | zero => exact List.pairwise_singleton _ _
  | succ length ih =>
      rw [widthTuples, List.pairwise_flatMap]
      constructor
      · intro front _
        refine hwidths.map _ ?_
        intro width width' hbefore
        exact List.Lex.append_left before (.rel hbefore) front
      · refine ih.imp_of_mem ?_
        intro front front' hfront hfront' hbefore tuple htuple tuple' htuple'
        obtain ⟨width, -, rfl⟩ := List.mem_map.mp htuple
        obtain ⟨width', -, rfl⟩ := List.mem_map.mp htuple'
        have hlength : front.length = front'.length :=
          (length_of_mem_width_tuples hfront).trans (length_of_mem_width_tuples hfront').symm
        exact lex_append_of_length_eq hbefore hlength _ _

/-- Tuples in the lexicographic order of a list without repetition differ. -/
theorem nodup_width_tuples (hwidths : widths.Nodup) (length : Nat) :
    (widthTuples widths length).Nodup :=
  (pairwise_lex_width_tuples hwidths length).imp List.Lex.to_ne

/-- A repeated width repeats tuples, since every front is extended by all widths. -/
theorem nodup_of_nodup_width_tuples {length : Nat}
    (h : (widthTuples widths (length + 1)).Nodup) : widths.Nodup := by
  cases widths with
  | nil => exact List.nodup_nil
  | cons width rest =>
      have hfront : List.replicate length width ∈ widthTuples (width :: rest) length := by
        refine mem_width_tuples_iff.mpr ⟨List.length_replicate, ?_⟩
        intro other hother
        rw [List.eq_of_mem_replicate hother]
        exact List.mem_cons_self
      rw [widthTuples, List.nodup_flatMap] at h
      exact (h.1 _ hfront).of_map

/-! ## Main theorem -/

/-- The tuples of a length are as many as the power of the number of widths. The tuple at a position
has the widths that the digits of the position select, the most significant digit first. So the
first width varies slowest: in whatever order the widths come, the tuples come in its lexicographic
order. The tuples are all the lists of that length over the widths. None is repeated exactly when no
width is or the length is zero. -/
theorem width_tuples_enumerate_in_order (widths : List Nat) (length : Nat) :
    (widthTuples widths length).length = widths.length ^ length ∧
      (∀ position < widths.length ^ length, ∃ tuple,
        (widthTuples widths length)[position]? = some tuple ∧ tuple.length = length ∧
          ∀ place < length,
            tuple[place]? = widths[digitAt widths.length length position place]?) ∧
      (∀ before : Nat → Nat → Prop,
        widths.Pairwise before → (widthTuples widths length).Pairwise (List.Lex before)) ∧
      (∀ tuple, tuple ∈ widthTuples widths length ↔
        tuple.length = length ∧ ∀ width ∈ tuple, width ∈ widths) ∧
      ((widthTuples widths length).Nodup ↔ widths.Nodup ∨ length = 0) := by
  refine ⟨length_width_tuples widths length, ?positions, ?order, ?members, ?distinct⟩
  case positions =>
    intro position hposition
    exact exists_width_tuple_at hposition
  case order =>
    intro before hwidths
    exact pairwise_lex_width_tuples hwidths length
  case members =>
    intro tuple
    exact mem_width_tuples_iff
  case distinct =>
    constructor
    · intro hdistinct
      cases length with
      | zero => exact Or.inr rfl
      | succ length => exact Or.inl (nodup_of_nodup_width_tuples hdistinct)
    · rintro (hwidths | rfl)
      · exact nodup_width_tuples hwidths length
      · exact List.nodup_singleton []

/-- The four ports of a block in two halves. Position `194` has the digits `1`, `2`, `3` and `4` to
the base `5`. -/
theorem width_tuples_enumerate_in_order_halves :
    let tuples := widthTuples halfWidths 4
    tuples.length = 625 ∧
      (∃ tuple, tuples[194]? = some tuple ∧ tuple.length = 4 ∧ tuple[0]? = some 2 ∧
        tuple[1]? = some 4 ∧ tuple[2]? = some 9 ∧ tuple[3]? = some 18) ∧
      tuples.Pairwise (List.Lex (· < ·)) ∧ [18, 18, 1, 9] ∈ tuples ∧ tuples.Nodup ∧
      ¬ (widthTuples [9, 18, 9] 4).Nodup := by
  intro tuples
  obtain ⟨hcount, hpositions, horder, hmem, hdistinct⟩ :=
    width_tuples_enumerate_in_order halfWidths 4
  obtain ⟨tuple, hget, hlength, hplaces⟩ := hpositions 194 (by decide)
  obtain ⟨-, -, -, -, hrepeated⟩ := width_tuples_enumerate_in_order [9, 18, 9] 4
  refine ⟨hcount, ⟨tuple, hget, hlength, hplaces 0 (by decide), hplaces 1 (by decide),
    hplaces 2 (by decide), hplaces 3 (by decide)⟩, horder _ (by decide), ?_, ?_, ?_⟩
  · exact (hmem _).mpr (by decide)
  · exact hdistinct.mpr (Or.inl (by decide))
  · exact mt hrepeated.mp (by decide)

end StagedSynthesis.BlockRam
