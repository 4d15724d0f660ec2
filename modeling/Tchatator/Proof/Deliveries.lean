/-
**Requests over a connection** (`interpret_request`).

* **`delivery_independent_iff`** — what `tchatator413_interpret` is given depends on the bytes of the
  request alone exactly when every prefix that a read can return is parsed like the first byte;
* `not_delivery_independent` — so it depends on the delivery for every text whose first byte is
  incomplete and whose first 8191 bytes are a value other than null: the loop that the answer has
  is missing for the request.
-/

import Tchatator.Model.Socket

namespace Tchatator

section

variable (tokener : Tokener) (text : CString)

/-- The value that is interpreted does not depend on how the request is delivered. -/
def DeliveryIndependent : Prop :=
  ∀ delivery other : Delivery text.1,
    receivedJson tokener delivery.segments = receivedJson tokener other.segments

/-- Every prefix that a read can return is parsed like the first byte. -/
def PrefixesParseAlike : Prop :=
  ∀ part, part <+: text.1 → part ≠ [] → part.length < bufsiz →
    tokener.parse (cstring part) = tokener.parse (cstring (text.1.take 1))

/-- Each prefix may be what is read of one delivery, and the first byte of another. -/
theorem prefixes_parse_alike (independent : DeliveryIndependent tokener text) :
    PrefixesParseAlike tokener text := by
  intro part isPrefix hasPart fits
  have hasText : text.1 ≠ [] := by
    intro empty
    rw [empty, List.prefix_nil] at isPrefix
    exact hasPart isPrefix
  have hasFirst : text.1.take 1 ≠ [] := by
    rw [ne_eq, List.take_eq_nil_iff, not_or]
    exact ⟨Nat.one_ne_zero, hasText⟩
  have small : (text.1.take 1).length ≤ bufsiz - 1 :=
    (List.length_take_le 1 text.1).trans (by decide)
  obtain ⟨delivery, isPart⟩ := exists_delivery_read isPrefix hasPart (Nat.le_sub_one_of_lt fits)
  obtain ⟨other, isFirst⟩ := exists_delivery_read (List.take_prefix 1 text.1) hasFirst small
  have same := independent delivery other
  rw [receivedJson, receivedJson, requestBuffer, requestBuffer, isPart, isFirst] at same
  exact same

/-- **When a request means the same however it is delivered.** -/
theorem delivery_independent_iff :
    DeliveryIndependent tokener text ↔ PrefixesParseAlike tokener text := by
  constructor
  · exact prefixes_parse_alike tokener text
  · intro alike delivery other
    by_cases hasText : text.1 = []
    · have noBytes : ∀ delivery : Delivery text.1,
          readSegments (bufsiz - 1) delivery.segments = [] := fun delivery =>
        List.prefix_nil.mp (hasText ▸ readSegments_starts (bufsiz - 1) delivery)
      rw [receivedJson, receivedJson, requestBuffer, requestBuffer, noBytes, noBytes]
    · have positive : 0 < bufsiz - 1 := by decide
      have asFirst : ∀ delivery : Delivery text.1,
          receivedJson tokener delivery.segments = tokener.parse (cstring (text.1.take 1)) := by
        intro delivery
        obtain ⟨isPrefix, hasPart, fits⟩ :=
          (exists_read_iff positive hasText).mp ⟨delivery, rfl⟩
        exact alike _ isPrefix hasPart (Nat.lt_of_le_sub_one (by decide) fits)
      rw [asFirst delivery, asFirst other]

variable {tokener text}

/-- **A text that its first byte does not complete depends on its delivery**, when it is read as a
value. -/
theorem not_delivery_independent
    (incomplete : ¬ tokener.Complete (cstring (text.1.take 1)))
    (isValue : tokener.parse (cstring (text.1.take (bufsiz - 1))) ≠ .null) :
    ¬ DeliveryIndependent tokener text := by
  intro independent
  have alike := prefixes_parse_alike tokener text independent
  by_cases hasText : text.1 = []
  · rw [hasText, List.take_nil] at incomplete isValue
    exact isValue (tokener.parse_incomplete _ incomplete)
  · have hasPart : text.1.take (bufsiz - 1) ≠ [] := by
      rw [ne_eq, List.take_eq_nil_iff, not_or]
      exact ⟨by decide, hasText⟩
    have fits : (text.1.take (bufsiz - 1)).length < bufsiz :=
      Nat.lt_of_le_sub_one (by decide) (List.length_take_le _ _)
    have same := alike _ (List.take_prefix (bufsiz - 1) text.1) hasPart fits
    exact isValue (same.trans (tokener.parse_incomplete _ incomplete))

end

/-- A parser that knows the empty object. -/
def emptyObjectTokener : Tokener :=
  { parse := fun buffer => if buffer = clit "\x7b\x7d" then .object [] else .null
    Complete := fun buffer => buffer = clit "\x7b\x7d"
    parse_incomplete := fun _ incomplete => if_neg incomplete }

/-- An empty object is answered otherwise when its brackets arrive apart. -/
theorem split_object_not_independent :
    ¬ DeliveryIndependent emptyObjectTokener (clit "\x7b\x7d") := by
  have incomplete : cstring ((clit "\x7b\x7d").1.take 1) ≠ clit "\x7b\x7d" := by decide
  have fits : cstring ((clit "\x7b\x7d").1.take (bufsiz - 1)) = clit "\x7b\x7d" := by decide
  refine not_delivery_independent incomplete ?_
  rw [fits]
  exact nofun

end Tchatator
