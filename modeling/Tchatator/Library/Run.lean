/-
**Runs of a labelled step relation.**

`Run step first labels last` says that the steps with these labels, in order, lead from `first` to
`last`.

* `Run.append` — runs compose;
* **`Run.invariant`** — what every step preserves, a run preserves, and it holds at both ends of
  every step on the way;
* **`Run.maps`** — what maps steps to steps maps runs to runs, of the same labels;
* **`Run.folds`** — if every step moves the image of the state as a machine does, then the image of
  the last state is where the machine gets by the labels of the run.
-/

import Mathlib.Data.List.Basic

/-- The steps with the given labels lead from the first state to the last. -/
inductive Run {σ ε : Type*} (step : σ → ε → σ → Prop) : σ → List ε → σ → Prop
  | done (state : σ) : Run step state [] state
  | more {state next last : σ} {label : ε} {labels : List ε} :
      step state label next → Run step next labels last → Run step state (label :: labels) last

namespace Run

variable {σ ε : Type*} {step : σ → ε → σ → Prop} {first middle last : σ} {labels more : List ε}

theorem single {label : ε} (taken : step first label last) : Run step first [label] last :=
  .more taken (.done last)

/-- **Runs compose.** -/
theorem append (left : Run step first labels middle) (right : Run step middle more last) :
    Run step first (labels ++ more) last := by
  induction left with
  | done _ => exact right
  | more taken _ ih => exact .more taken (ih right)

/-- **What every step preserves holds all along a run.** -/
theorem invariant (Inv : σ → Prop)
    (preserved : ∀ before label after, step before label after → Inv before → Inv after)
    (run : Run step first labels last) (holds : Inv first) :
    Inv last ∧ ∀ label ∈ labels, ∃ before after,
      step before label after ∧ Inv before ∧ Inv after := by
  induction run with
  | done _ => exact ⟨holds, fun _ none => absurd none List.not_mem_nil⟩
  | more taken _ ih =>
    have next := preserved _ _ _ taken holds
    obtain ⟨atEnd, onTheWay⟩ := ih next
    refine ⟨atEnd, fun label member => ?_⟩
    rcases List.mem_cons.mp member with rfl | later
    · exact ⟨_, _, taken, holds, next⟩
    · exact onTheWay label later

/-- Every label of a run is that of a step. -/
theorem step_of_mem (run : Run step first labels last) {label : ε} (member : label ∈ labels) :
    ∃ before after, step before label after := by
  obtain ⟨_, onTheWay⟩ := run.invariant (fun _ => True) (fun _ _ _ _ _ => trivial) trivial
  obtain ⟨before, after, taken, _, _⟩ := onTheWay label member
  exact ⟨before, after, taken⟩

/-- **What maps steps to steps maps runs to runs**, of the same labels. -/
theorem maps {τ : Type*} {other : τ → ε → τ → Prop} (image : σ → τ) (Inv : σ → Prop)
    (preserved : ∀ before label after, step before label after → Inv before → Inv after)
    (simulated : ∀ before label after, step before label after → Inv before →
      other (image before) label (image after))
    (run : Run step first labels last) (holds : Inv first) :
    Run other (image first) labels (image last) := by
  induction run with
  | done state => exact .done (image state)
  | more taken _ ih =>
    exact .more (simulated _ _ _ taken holds) (ih (preserved _ _ _ taken holds))

/-- **Forward simulation** of a run by a machine that steps by a function: if every step moves the
image of the state as the machine does at its label, then so does the run. -/
theorem folds {τ : Type*} (image : σ → τ) (machine : τ → ε → τ) (Inv : σ → Prop)
    (preserved : ∀ before label after, step before label after → Inv before → Inv after)
    (simulated : ∀ before label after, step before label after → Inv before →
      image after = machine (image before) label)
    (run : Run step first labels last) (holds : Inv first) :
    image last = labels.foldl machine (image first) := by
  induction run with
  | done state => rfl
  | more taken _ ih =>
    rw [ih (preserved _ _ _ taken holds), simulated _ _ _ taken holds, List.foldl_cons]

end Run
