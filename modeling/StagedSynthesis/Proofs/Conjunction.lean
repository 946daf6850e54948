import StagedSynthesis.Proofs.Annotation

/-!
# Joined conditions

Two conditions are joined in one of several ways, depending on which of them are conjunctions
already, so that a listing shows one flat sequence. Joining is nevertheless a monoid on the
conditions themselves, not only on what they mean: `Guard.and_assoc` compares the results as they
are written. A command is therefore recorded under the sequence of the conditions around it, and
how this sequence is divided into scopes makes no difference (`Recipe.invocations_within_groups`).
The main theorem is `joining_is_flat`.
-/

namespace StagedSynthesis

namespace Guard

/-- The test recognizes exactly the condition that always holds. -/
theorem is_always_iff {guard : Guard} : guard.isAlways = true ↔ guard = .always := by
  cases guard <;> simp [isAlways]

/-- The test rejects every other condition. -/
theorem is_always_eq_false {guard : Guard} (h : guard ≠ .always) : guard.isAlways = false :=
  Bool.eq_false_iff.mpr (mt is_always_iff.mp h)

/-! ## Laws -/

/-- The condition that always holds adds nothing in front. -/
theorem always_and (guard : Guard) : always.and guard = guard :=
  rfl

/-- The condition that always holds adds nothing behind. -/
theorem and_always (guard : Guard) : guard.and .always = guard := by
  cases guard <;> rfl

/-- Joining three conditions gives the same condition in both ways. -/
theorem and_assoc (first second third : Guard) :
    (first.and second).and third = first.and (second.and third) := by
  by_cases hfirst : first = .always
  · rw [hfirst, always_and, always_and]
  by_cases hsecond : second = .always
  · rw [hsecond, and_always, always_and]
  by_cases hthird : third = .always
  · rw [hthird, and_always, and_always]
  -- Where none of them always holds, their parts are lined up in order, whichever are joined first.
  have hfirst' := is_always_eq_false hfirst
  have hsecond' := is_always_eq_false hsecond
  have hthird' := is_always_eq_false hthird
  rw [and_eq_all hfirst' hsecond', and_eq_all hsecond' hthird', and_eq_all rfl hthird',
    and_eq_all hfirst' rfl]
  exact congrArg all (List.append_assoc _ _ _)

/-- A condition needs no annotation only if it is joined from conditions that need none. -/
theorem is_always_and_iff {first second : Guard} :
    (first.and second).isAlways = true ↔ first = .always ∧ second = .always := by
  constructor
  · intro h
    by_cases hfirst : first = .always
    · rw [hfirst, always_and, is_always_iff] at h
      exact ⟨hfirst, h⟩
    · by_cases hsecond : second = .always
      · rw [hsecond, and_always, is_always_iff] at h
        exact absurd h hfirst
      · rw [and_eq_all (is_always_eq_false hfirst) (is_always_eq_false hsecond)] at h
        cases h
  · rintro ⟨rfl, rfl⟩
    rfl

/-! ## Flatness -/

/-- A condition that can stand in a flat conjunction: it is no conjunction, and it can fail to
hold. -/
def IsConjunct (guard : Guard) : Prop :=
  guard.isAll = false ∧ guard.isAlways = false

/-- A condition that is not a conjunction with another conjunction, or with a condition that always
holds, directly in it. -/
def Flat : Guard → Prop
  | .all parts => ∀ part ∈ parts, part.IsConjunct
  | _ => True

/-- The conjuncts of a flat condition are no conjunctions and do not always hold. -/
theorem Flat.conjuncts {guard : Guard} (h : guard.Flat) (halways : guard.isAlways = false) :
    ∀ part ∈ guard.conjuncts, part.IsConjunct := by
  cases guard with
  | always => cases halways
  | all parts => exact h
  | family | switch | output | any => exact List.forall_mem_singleton.mpr ⟨rfl, rfl⟩

/-- Joining keeps conditions flat. -/
theorem Flat.and {first second : Guard} (hfirst : first.Flat) (hsecond : second.Flat) :
    (first.and second).Flat := by
  by_cases halways : first = .always
  · rwa [halways, always_and]
  by_cases halways' : second = .always
  · rwa [halways', and_always]
  have hpossible := is_always_eq_false halways
  have hpossible' := is_always_eq_false halways'
  rw [and_eq_all hpossible hpossible']
  exact List.forall_mem_append.mpr ⟨hfirst.conjuncts hpossible, hsecond.conjuncts hpossible'⟩

/-! ## Sequences of conditions -/

/-- Conditions added one by one to a first one are added as one conjunction. -/
theorem foldl_and (guards : List Guard) (first : Guard) :
    guards.foldl Guard.and first = first.and (conjunction guards) := by
  induction guards generalizing first with
  | nil => exact (and_always first).symm
  | cons guard rest ih =>
      rw [conjunction, List.foldl_cons, List.foldl_cons, ih, ih, always_and, and_assoc]

/-- The conjunction of two lists is that of their conjunctions. -/
theorem conjunction_append (first second : List Guard) :
    conjunction (first ++ second) = (conjunction first).and (conjunction second) := by
  rw [conjunction, List.foldl_append, foldl_and]
  rfl

/-- A sequence may be joined in groups. -/
theorem conjunction_flatten (groups : List (List Guard)) :
    conjunction (groups.map conjunction) = conjunction groups.flatten := by
  induction groups with
  | nil => rfl
  | cons group rest ih =>
      rw [List.flatten_cons, conjunction_append, ← ih]
      exact foldl_and (rest.map conjunction) (always.and (conjunction group))

end Guard

/-! ## Scopes inside one another -/

namespace Recipe

/-- A recipe with scopes around it, the outermost first. -/
def within (guards : List Guard) (body : Recipe) : Recipe :=
  guards.foldr provided body

/-- Conditions around a recipe are recorded behind those of the scope. -/
theorem invocations_within (guards scope : List Guard) (body : Recipe) :
    (body.within guards).invocations scope = body.invocations (scope ++ guards) := by
  induction guards generalizing scope with
  | nil => rw [List.append_nil, within, List.foldr_nil]
  | cons guard rest ih =>
      have hscope : scope ++ guard :: rest = scope ++ [guard] ++ rest := by simp
      rw [hscope, ← ih]
      rfl

/-- What a recipe records depends on the conditions around it only through their conjunction. -/
theorem invocations_congr {scope other : List Guard}
    (h : Guard.conjunction scope = Guard.conjunction other) (recipe : Recipe) :
    recipe.invocations scope = recipe.invocations other := by
  rw [invocations_eq, invocations_eq]
  refine List.map_congr_left ?_
  intro occurrence _
  rw [Guard.conjunction_append, Guard.conjunction_append, h]

/-- One scope for each group of conditions records the same as one scope for each condition. -/
theorem invocations_within_groups (groups : List (List Guard)) (scope : List Guard)
    (body : Recipe) :
    (body.within (groups.map Guard.conjunction)).invocations scope =
      (body.within groups.flatten).invocations scope := by
  rw [invocations_within, invocations_within]
  refine invocations_congr ?_ body
  rw [Guard.conjunction_append, Guard.conjunction_append, Guard.conjunction_flatten]

end Recipe

/-- Joining conditions is associative, the condition that always holds is neutral on both sides,
and a joined condition holds exactly where both conditions do. Nothing but that neutral condition
is joined to it, and flat conditions are joined to a flat one. Other conditions are joined with the
parts of the first in front. A command inside several scopes is therefore recorded under the
sequence of their conditions, however the sequence is divided into scopes. -/
theorem joining_is_flat :
    (∀ first second third : Guard,
        (first.and second).and third = first.and (second.and third)) ∧
      (∀ guard : Guard, Guard.always.and guard = guard ∧ guard.and .always = guard) ∧
      (∀ (configuration : Configuration) (first second : Guard),
        (first.and second).holds configuration =
          (first.holds configuration && second.holds configuration)) ∧
      (∀ first second : Guard,
        (first.and second).isAlways = true ↔ first = .always ∧ second = .always) ∧
      (∀ first second : Guard, first.Flat → second.Flat → (first.and second).Flat) ∧
      (∀ first second : Guard, first ≠ .always → second ≠ .always →
        first.and second = .all (first.conjuncts ++ second.conjuncts)) ∧
      ∀ (groups : List (List Guard)) (scope : List Guard) (body : Recipe),
        (body.within (groups.map Guard.conjunction)).invocations scope =
          (body.within groups.flatten).invocations scope :=
  ⟨Guard.and_assoc, fun guard => ⟨guard.always_and, guard.and_always⟩, Guard.holds_and,
    fun _ _ => Guard.is_always_and_iff, fun _ _ hfirst hsecond => hfirst.and hsecond,
    fun _ _ hfirst hsecond =>
      Guard.and_eq_all (Guard.is_always_eq_false hfirst) (Guard.is_always_eq_false hsecond),
    Recipe.invocations_within_groups⟩

/-- A conjunction joined with a disjunction of conjunctions, and four conditions in scopes of which
one is empty. -/
theorem joining_is_flat_in_groups :
    let first : Guard := .all [.without .noBram, .only .pp3]
    let second : Guard := .any [.all [.given .noDsp, .always], .output .edif]
    let groups : List (List Guard) := [[first, .always], [], [.given .bramTypes, second]]
    first.Flat ∧ second.Flat ∧ (first.and second).Flat ∧
      first.and second = .all [.without .noBram, .only .pp3, second] ∧
      ((Recipe.run "stat").within (groups.map Guard.conjunction)).invocations [] =
        [⟨"stat", .all [.without .noBram, .only .pp3, .given .bramTypes, second]⟩] := by
  intro first second groups
  obtain ⟨-, -, -, -, hflat, hparts, hgroups⟩ := joining_is_flat
  have hfirst : first.Flat := by
    simp [first, Guard.Flat, Guard.IsConjunct, Guard.without, Guard.only, Guard.isAll,
      Guard.isAlways]
  exact ⟨hfirst, trivial, hflat first second hfirst trivial,
    hparts first second nofun nofun, hgroups groups [] (.run "stat")⟩

end StagedSynthesis
