/-
**Texts, as a network delivers them.**

A `Delivery` of a text is the segments it arrives in, and `readSegments` is one read: it returns no
more than it is asked for, and no more than the first segment.

* **`exists_read_iff`** — what a single read can return of a text is any non-empty prefix that is no
  longer than asked.
-/

import Mathlib.Data.List.Basic

namespace Tchatator

variable {α : Type}

/-- The segments in which a text is delivered. -/
structure Delivery (text : List α) where
  segments : List (List α)
  nonempty : ∀ segment ∈ segments, segment ≠ []
  flatten : segments.flatten = text

/-- A text in one segment. -/
def Delivery.whole {text : List α} (hasText : text ≠ []) : Delivery text :=
  { segments := [text]
    nonempty := fun _ member => List.mem_singleton.mp member ▸ hasText
    flatten := List.append_nil text }

/-- A text in two segments. -/
def Delivery.split (before after : List α) (hasBefore : before ≠ []) (hasAfter : after ≠ []) :
    Delivery (before ++ after) :=
  { segments := [before, after]
    nonempty := List.forall_mem_cons.mpr
      ⟨hasBefore, fun _ member => List.mem_singleton.mp member ▸ hasAfter⟩
    flatten := by rw [List.flatten_cons, List.flatten_singleton] }

/-- One read of at most `size` elements; nothing is left at the end of the stream. -/
def readSegments (size : Nat) : List (List α) → List α
  | [] => []
  | segment :: _ => segment.take size

theorem readSegments_starts (size : Nat) {text : List α} (delivery : Delivery text) :
    readSegments size delivery.segments <+: text := by
  obtain ⟨segments, _, rfl⟩ := delivery
  cases segments with
  | nil => exact List.prefix_rfl
  | cons segment rest =>
    exact (List.take_prefix size segment).trans (List.prefix_append segment rest.flatten)

theorem readSegments_length_le (size : Nat) (segments : List (List α)) :
    (readSegments size segments).length ≤ size := by
  cases segments with
  | nil => exact Nat.zero_le size
  | cons segment rest => exact List.length_take_le size segment

theorem readSegments_ne_nil {size : Nat} (positive : 0 < size) {text : List α}
    (delivery : Delivery text) (hasText : text ≠ []) :
    readSegments size delivery.segments ≠ [] := by
  obtain ⟨segments, nonempty, rfl⟩ := delivery
  cases segments with
  | nil => exact absurd rfl hasText
  | cons segment rest =>
    have hasSegment := nonempty segment List.mem_cons_self
    rw [readSegments, ne_eq, List.take_eq_nil_iff, not_or]
    exact ⟨Nat.ne_of_gt positive, hasSegment⟩

/-- A text can be delivered with any non-empty prefix first. -/
theorem exists_delivery_read {size : Nat} {text part : List α} (isPrefix : part <+: text)
    (hasPart : part ≠ []) (fits : part.length ≤ size) :
    ∃ delivery : Delivery text, readSegments size delivery.segments = part := by
  obtain ⟨rest, rfl⟩ := isPrefix
  by_cases hasRest : rest = []
  · subst hasRest
    rw [List.append_nil]
    exact ⟨.whole hasPart, List.take_of_length_le fits⟩
  · exact ⟨.split part rest hasPart hasRest, List.take_of_length_le fits⟩

/-- **What one read can return.** -/
theorem exists_read_iff {size : Nat} (positive : 0 < size) {text part : List α}
    (hasText : text ≠ []) :
    (∃ delivery : Delivery text, readSegments size delivery.segments = part) ↔
      part <+: text ∧ part ≠ [] ∧ part.length ≤ size := by
  constructor
  · rintro ⟨delivery, rfl⟩
    exact ⟨readSegments_starts size delivery, readSegments_ne_nil positive delivery hasText,
      readSegments_length_le size delivery.segments⟩
  · rintro ⟨isPrefix, hasPart, fits⟩
    exact exists_delivery_read isPrefix hasPart fits

end Tchatator
