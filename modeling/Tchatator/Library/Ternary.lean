/-
**Three-valued logic.**

A comparison with a missing operand is neither true nor false. `Ternary` is that logic (`none` is
"unknown"); a condition selects only when it `Holds`, a constraint is violated only when it is
false (`Passes`). The lemmas say what the two readings do on the connectives, so that a proof about
a query or a constraint never looks at the truth tables again.
-/

import Mathlib.Data.Option.NAry

/-- A truth value, or unknown. -/
abbrev Ternary := Option Bool

namespace Ternary

/-- The condition is true (unknown does not select). -/
def Holds (value : Ternary) : Prop := value = some true

/-- The constraint is not violated (unknown passes). -/
def Passes (value : Ternary) : Prop := value ≠ some false

instance (value : Ternary) : Decidable value.Holds := inferInstanceAs (Decidable (_ = _))

instance (value : Ternary) : Decidable value.Passes := inferInstanceAs (Decidable (_ ≠ _))

/-- Disjunction: true as soon as one side is. -/
def or : Ternary → Ternary → Ternary
  | some true, _ => some true
  | _, some true => some true
  | some false, some false => some false
  | _, _ => none

/-- A comparison of two operands, unknown when either is missing. -/
def compare {α β : Type*} (relation : α → β → Bool) (left : Option α) (right : Option β) :
    Ternary :=
  Option.map₂ relation left right

/-- **A disjunction holds exactly when one side does.** -/
@[simp]
theorem or_holds (left right : Ternary) :
    (or left right).Holds ↔ left.Holds ∨ right.Holds := by
  rcases left with _ | _ | _ <;> rcases right with _ | _ | _ <;> decide

section Compare

variable {α β : Type*} (relation : α → β → Bool) (left : Option α) (right : Option β)

/-- **A comparison holds exactly when both operands are there and related.** -/
theorem compare_holds :
    (compare relation left right).Holds ↔
      ∃ a ∈ left, ∃ b ∈ right, relation a b = true := by
  cases left <;> cases right <;> simp [compare, Holds]

/-- **A comparison passes exactly when no operand is there or they are related.** -/
theorem compare_passes :
    (compare relation left right).Passes ↔
      ∀ a ∈ left, ∀ b ∈ right, relation a b = true := by
  cases left <;> cases right <;> simp [compare, Passes]

@[simp]
theorem compare_none_left : compare relation none right = none := rfl

@[simp]
theorem compare_none_right : compare relation left none = none := by
  cases left <;> rfl

@[simp]
theorem passes_none : Passes none := by
  simp [Passes]

end Compare

end Ternary
