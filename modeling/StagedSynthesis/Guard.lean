import StagedSynthesis.Configuration

/-!
# Guards

Conditions on a configuration. A guard decides whether a command runs, and its text annotates the
command in a listing, so the two cannot disagree. Conjunction keeps the result flat.
-/

namespace StagedSynthesis

/-- A condition on a configuration. -/
inductive Guard where
  | always
  /-- The configured family is one of these. -/
  | family (families : List Family)
  /-- The switch is in this position. -/
  | switch (which : Switch) (on : Bool)
  /-- The format has a destination. -/
  | output (format : OutputFormat)
  | all (parts : List Guard)
  | any (parts : List Guard)

namespace Guard

/-- The condition that a switch is off. -/
def without (which : Switch) : Guard :=
  .switch which false

/-- The condition that a switch is on. -/
def given (which : Switch) : Guard :=
  .switch which true

/-- The condition that one family is configured. -/
def only (family : Family) : Guard :=
  .family [family]

/-- Whether this is the condition that is written without annotation. -/
def isAlways : Guard → Bool
  | .always => true
  | _ => false

/-- Whether this is a conjunction. -/
def isAll : Guard → Bool
  | .all _ => true
  | _ => false

/-- Whether this is a disjunction. -/
def isAny : Guard → Bool
  | .any _ => true
  | _ => false

/-- Both conditions, without a conjunction inside the conjunction. -/
def and : Guard → Guard → Guard
  | .always, second => second
  | first, .always => first
  | .all first, .all second => .all (first ++ second)
  | .all first, second => .all (first ++ [second])
  | first, .all second => .all (first :: second)
  | first, second => .all [first, second]

/-- All conditions of a list, from the first on. -/
def conjunction (guards : List Guard) : Guard :=
  guards.foldl and .always

mutual
/-- Whether the condition holds of a configuration. -/
def holds (configuration : Configuration) : Guard → Bool
  | .always => true
  | .family families => families.contains configuration.family
  | .switch which on => configuration.switch which == on
  | .output format => (configuration.output format).isSome
  | .all parts => allHold configuration parts
  | .any parts => anyHolds configuration parts

/-- Whether every condition of a list holds. -/
def allHold (configuration : Configuration) : List Guard → Bool
  | [] => true
  | part :: rest => holds configuration part && allHold configuration rest

/-- Whether some condition of a list holds. -/
def anyHolds (configuration : Configuration) : List Guard → Bool
  | [] => false
  | part :: rest => holds configuration part || anyHolds configuration rest
end

/-- A text in parentheses where they are asked for. -/
def enclosed (inParentheses : Bool) (text : String) : String :=
  if inParentheses then "(" ++ text ++ ")" else text

mutual
/-- The condition as it is written in a listing. Parts of a conjunction are separated by commas
and parts of a disjunction by `or`, and one inside the other stands in parentheses. -/
def text : Guard → String
  | .always => ""
  | .family families => "for " ++ Text.joined ", " (families.map Family.name)
  | .switch which true => "if " ++ which.text
  | .switch which false => "unless " ++ which.text
  | .output format => "if " ++ format.text
  | .all parts => Text.joined ", " (conjunctTexts parts)
  | .any parts => Text.joined " or " (disjunctTexts parts)

/-- The texts of the parts of a conjunction, without the parts that always hold. -/
def conjunctTexts : List Guard → List String
  | [] => []
  | part :: rest =>
      if part.isAlways then conjunctTexts rest
      else enclosed part.isAny part.text :: conjunctTexts rest

/-- The texts of the parts of a disjunction. -/
def disjunctTexts : List Guard → List String
  | [] => []
  | part :: rest => enclosed part.isAll part.text :: disjunctTexts rest
end

/-- A conjunction over a list is the list operation of the same name. -/
theorem all_hold_eq (configuration : Configuration) (parts : List Guard) :
    allHold configuration parts = parts.all (holds configuration) := by
  induction parts with
  | nil => rfl
  | cons part rest ih => simp [allHold, ih]

/-- A disjunction over a list is the list operation of the same name. -/
theorem any_holds_eq (configuration : Configuration) (parts : List Guard) :
    anyHolds configuration parts = parts.any (holds configuration) := by
  induction parts with
  | nil => rfl
  | cons part rest ih => simp [anyHolds, ih]

end Guard

end StagedSynthesis
