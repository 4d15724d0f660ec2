/-
**The UUID parser stops at the first character that does not fit** (`uuid4_parse`).

* `uuid4ParseAt_parsed` — over a memory that holds a text, the parser that counts its accesses
  returns what the parser of texts returns: the induction is on the layout;
* `reads_fit` — the characters before one that is read fit the layout; `reads_le_length` — so none
  is read behind the terminator;
* `writes_within` — the octets that are written are those of the layout;
* **`uuid4_codec`** — the codec over every UUID and every string.
-/

import Mathlib.Data.List.GetD
import Tchatator.Proof.Uuid

namespace Tchatator

/-! ### The memory -/

/-- The memory holds some bytes from an index on. -/
def Holds (repr : Nat → UInt8) (i : Nat) (bytes : Bytes) : Prop :=
  ∀ k byte, bytes[k]? = some byte → repr (i + k) = byte

theorem Holds.head {repr : Nat → UInt8} {i : Nat} {c : UInt8} {bytes : Bytes}
    (holds : Holds repr i (c :: bytes)) : repr i = c := holds 0 c rfl

theorem Holds.tail {repr : Nat → UInt8} {i : Nat} {c : UInt8} {bytes : Bytes}
    (holds : Holds repr i (c :: bytes)) : Holds repr (i + 1) bytes := by
  intro k byte found
  rw [Nat.add_assoc, Nat.add_comm 1 k]
  exact holds (k + 1) byte found

theorem holds_memory (bytes : Bytes) (beyond : Nat → UInt8) : Holds (memory bytes beyond) 0 bytes := by
  intro k byte found
  rw [Nat.zero_add, memory, found]
  rfl

/-- The terminator is neither a hex digit nor a hyphen. -/
theorem zero_not_fits (place : UInt8) : ¬ Fits place 0 := by
  unfold Fits
  split <;> decide

theorem hexReprToHalf_zero : hexReprToHalf 0 = invalidHalf := rfl

/-! ### What is returned -/

/-- **The accesses do not change what is returned**: over a memory that holds a text, the end of the
layout or a terminator behind it. -/
theorem uuid4ParseAt_parsed (repr : Nat → UInt8) (layout : List UuidField) (text : Bytes)
    (i idata : Nat) (out : Uuid4) (holds : Holds repr i text)
    (stops : (template layout).length ≤ text.length ∨ repr (i + text.length) = 0) :
    (uuid4ParseAt repr layout i idata out).parsed = uuid4ParseFrom layout text idata out := by
  induction layout generalizing text i idata out with
  | nil => rfl
  | cons field layout ih =>
    cases field with
    | octet =>
      rcases text with _ | ⟨c₁, _ | ⟨c₂, text⟩⟩
      · have isZero : repr i = 0 := stops.resolve_left (by simp [template])
        simp [uuid4ParseAt, uuid4ParseFrom, UuidParse.parsed, isZero, hexReprToHalf_zero]
      · have isZero : repr (i + 1) = 0 := stops.resolve_left (by simp [template])
        by_cases first : hexReprToHalf (repr i) = invalidHalf <;>
          simp [uuid4ParseAt, uuid4ParseFrom, UuidParse.parsed, first, isZero, hexReprToHalf_zero]
      · have later : (template layout).length ≤ text.length ∨ repr (i + 2 + text.length) = 0 := by
          refine stops.imp (fun whole => ?_) fun isZero => ?_
          · simpa [template] using whole
          · have index : i + (c₁ :: c₂ :: text).length = i + 2 + text.length := by
              simp only [List.length_cons]
              omega
            rwa [index] at isZero
        simp only [uuid4ParseAt, uuid4ParseFrom, holds.head, holds.tail.head]
        by_cases first : hexReprToHalf c₁ = invalidHalf
        · simp [first, UuidParse.parsed]
        · by_cases second : hexReprToHalf c₂ = invalidHalf
          · simp [first, second, UuidParse.parsed]
          · simp only [first, second, or_self, if_false]
            exact ih text (i + 2) (idata + 1) _ holds.tail.tail later
    | hyphen =>
      cases text with
      | nil =>
        have isZero : repr i = 0 := stops.resolve_left (by simp [template])
        simp [uuid4ParseAt, uuid4ParseFrom, UuidParse.parsed, isZero]
      | cons c text =>
        have later : (template layout).length ≤ text.length ∨ repr (i + 1 + text.length) = 0 := by
          refine stops.imp (fun whole => ?_) fun isZero => ?_
          · simpa [template] using whole
          · have index : i + (c :: text).length = i + 1 + text.length := by
              simp only [List.length_cons]
              omega
            rwa [index] at isZero
        simp only [uuid4ParseAt, uuid4ParseFrom, holds.head]
        by_cases isHyphen : c = 45
        · simp only [isHyphen, not_true, if_false, ne_eq]
          exact ih text (i + 1) idata out holds.tail later
        · simp [isHyphen, UuidParse.parsed]

/-! ### Accesses -/

theorem fits_digit {c : UInt8} (valid : hexReprToHalf c ≠ invalidHalf) : Fits 120 c := by
  have digit : IsHexDigit c := not_not.mp fun notDigit =>
    valid (hexReprToHalf_eq_invalid_iff.mpr notDigit)
  exact digit

/-- An index is within a text of the layout, and the characters before it fit. -/
def FitsUpTo (repr : Nat → UInt8) (layout : List UuidField) (i index : Nat) : Prop :=
  ∃ k, index = i + k ∧ k < (template layout).length ∧
    ∀ j < k, Fits ((template layout).getD j 0) (repr (i + j))

theorem fitsUpTo_first (repr : Nat → UInt8) (field : UuidField) (layout : List UuidField)
    (i : Nat) : FitsUpTo repr (field :: layout) i i := by
  refine ⟨0, rfl, ?_, fun j before => absurd before (Nat.not_lt_zero j)⟩
  cases field <;> exact Nat.succ_pos _

/-- **The characters before one that is read fit the layout.** -/
theorem reads_fit (repr : Nat → UInt8) (layout : List UuidField) (i idata : Nat) (out : Uuid4) :
    ∀ index ∈ (uuid4ParseAt repr layout i idata out).reads, FitsUpTo repr layout i index := by
  induction layout generalizing i idata out with
  | nil =>
    intro index isRead
    cases isRead
  | cons field layout ih =>
    have atFirst := fitsUpTo_first repr field layout i
    cases field with
    | octet =>
      intro index isRead
      have atSecond (first : hexReprToHalf (repr i) ≠ invalidHalf) :
          FitsUpTo repr (.octet :: layout) i (i + 1) := by
        refine ⟨1, rfl, Nat.succ_lt_succ (Nat.succ_pos _), fun j before => ?_⟩
        obtain rfl := Nat.lt_one_iff.mp before
        exact fits_digit first
      simp only [uuid4ParseAt] at isRead
      split at isRead
      · rwa [List.mem_singleton.mp isRead]
      · rename_i first
        split at isRead
        · rcases List.mem_pair.mp isRead with rfl | rfl
          · exact atFirst
          · exact atSecond first
        · rename_i second
          rcases List.mem_cons.mp isRead with rfl | isRead
          · exact atFirst
          · rcases List.mem_cons.mp isRead with rfl | isRead
            · exact atSecond first
            · obtain ⟨k, rfl, within, fits⟩ := ih (i + 2) _ _ index isRead
              refine ⟨k + 2, by omega, Nat.add_lt_add_right within 2, fun j before => ?_⟩
              rcases j with _ | _ | j
              · exact fits_digit first
              · exact fits_digit second
              · have here := fits j (by omega)
                rwa [Nat.add_assoc, Nat.add_comm 2 j] at here
    | hyphen =>
      intro index isRead
      simp only [uuid4ParseAt] at isRead
      split at isRead
      · rwa [List.mem_singleton.mp isRead]
      · rename_i isHyphen
        rcases List.mem_cons.mp isRead with rfl | isRead
        · exact atFirst
        · obtain ⟨k, rfl, within, fits⟩ := ih (i + 1) _ _ index isRead
          refine ⟨k + 1, by omega, Nat.succ_lt_succ within, fun j before => ?_⟩
          rcases j with _ | j
          · exact not_not.mp isHyphen
          · have here := fits j (by omega)
            rwa [Nat.add_assoc, Nat.add_comm 1 j] at here

/-- **The octets that are written are those of the layout.** -/
theorem writes_within (repr : Nat → UInt8) (layout : List UuidField) (i idata : Nat) (out : Uuid4) :
    ∀ index ∈ (uuid4ParseAt repr layout i idata out).writes,
      idata ≤ index ∧ index < idata + octets layout := by
  induction layout generalizing i idata out with
  | nil =>
    intro index isWritten
    cases isWritten
  | cons field layout ih =>
    intro index isWritten
    cases field with
    | octet =>
      have count : octets (.octet :: layout) = octets layout + 1 := rfl
      simp only [uuid4ParseAt] at isWritten
      split at isWritten
      · cases isWritten
      · split at isWritten
        · cases isWritten
        · rcases List.mem_cons.mp isWritten with rfl | isWritten
          · omega
          · have later := ih _ _ _ index isWritten
            omega
    | hyphen =>
      simp only [uuid4ParseAt] at isWritten
      split at isWritten
      · cases isWritten
      · exact ih _ _ _ index isWritten

/-! ### The codec -/

/-- The template of a UUID. -/
def uuidTemplate : Bytes := lit "xxxxxxxx-xxxx-xxxx-xxxx-xxxxxxxxxxxx"

theorem template_x42226 : template x42226 = uuidTemplate := rfl

/-- **A call reads a string exactly**: it succeeds on the strings that start with a UUID, with the
UUID it starts with; it reads up to the first character that does not fit, and writes the sixteen
octets only. -/
structure ParsesExactly (repr : CString) (call : UuidParse) : Prop where
  accepts : call.returned = true ↔ IsUuid (repr.1.take uuid4ReprLength)
  stored : call.returned = true →
    uuid4Repr call.outUuid = (repr.1.take uuid4ReprLength).map lowerDigit
  reads : ∀ index ∈ call.reads, index < uuid4ReprLength ∧ index ≤ repr.1.length ∧
    ∀ j < index, Fits (uuidTemplate.getD j 0) (repr.1.getD j 0)
  writes : ∀ index ∈ call.writes, index < 16

section String

variable (repr : CString) (beyond : Nat → UInt8) (out : Uuid4)

/-- The memory of a string: its bytes, a terminator, and whatever is behind it. -/
theorem memory_string {j : Nat} (within : j ≤ repr.1.length) :
    memory (repr.1 ++ [0]) beyond j = repr.1.getD j 0 := by
  rcases Nat.lt_or_eq_of_le within with inside | rfl
  · rw [memory, List.getElem?_append_left inside, List.getElem?_eq_getElem inside,
      List.getD_eq_getElem _ _ inside]
    rfl
  · rw [memory, List.getElem?_append_right (le_refl _), Nat.sub_self,
      List.getD_eq_default _ _ (le_refl _)]
    rfl

theorem parsed_string : (uuid4ParseCall (memory (repr.1 ++ [0]) beyond) out).parsed =
    uuid4ParseFrom x42226 repr.1 0 out := by
  refine uuid4ParseAt_parsed _ x42226 repr.1 0 0 out ?_ (Or.inr ?_)
  · intro k byte found
    have within := (List.getElem?_eq_some_iff.mp found).1
    rw [Nat.zero_add, memory_string repr beyond (Nat.le_of_lt within), List.getD_eq_getElem?_getD,
      found]
    rfl
  · rw [Nat.zero_add, memory_string repr beyond (le_refl _), List.getD_eq_default _ _ (le_refl _)]

/-- What a call that returns `true` stores. -/
theorem parsed_of_returned {call : UuidParse} (returned : call.returned = true) :
    call.parsed = some call.outUuid := by
  rw [UuidParse.parsed, returned]
  rfl

/-- No character behind the terminator is read. -/
theorem reads_le_length {index : Nat}
    (isRead : index ∈ (uuid4ParseCall (memory (repr.1 ++ [0]) beyond) out).reads) :
    index ≤ repr.1.length := by
  obtain ⟨k, rfl, _, fits⟩ := reads_fit _ x42226 0 0 out index isRead
  by_contra behind
  have atEnd := fits repr.1.length (by omega)
  rw [Nat.zero_add, memory_string repr beyond (le_refl _), List.getD_eq_default repr.1 _ (le_refl _)]
    at atEnd
  exact zero_not_fits _ atEnd

theorem parsesExactly_call :
    ParsesExactly repr (uuid4ParseCall (memory (repr.1 ++ [0]) beyond) out) := by
  have isParsed := parsed_string repr beyond out
  refine ⟨?_, fun returned => ?_, fun index isRead => ?_, fun index isWritten => ?_⟩
  · have accepts := uuid4ParseFrom_returns_iff x42226 repr.1 0 out
    rw [← isParsed] at accepts
    refine Iff.trans ⟨fun returned => ⟨_, parsed_of_returned returned⟩, ?_⟩ accepts
    rintro ⟨parsed, found⟩
    by_contra failed
    rw [UuidParse.parsed, if_neg failed] at found
    cases found
  · rw [parsed_of_returned returned] at isParsed
    exact uuid4ReprFrom_of_parsed (by decide) isParsed.symm
  · have behind := reads_le_length repr beyond out isRead
    obtain ⟨k, rfl, within, fits⟩ := reads_fit _ x42226 0 0 out index isRead
    rw [Nat.zero_add] at behind ⊢
    refine ⟨within, behind, fun j before => ?_⟩
    have here := fits j before
    rwa [template_x42226, Nat.zero_add, memory_string repr beyond (by omega)] at here
  · exact (writes_within _ x42226 0 0 out index isWritten).2

end String

/-- **The codec is exact**: a UUID that is written is read back; a string is read exactly; and two
strings are read as one UUID when they are the same up to the case. -/
theorem uuid4_codec :
    (∀ (uuid out : Uuid4) (beyond : Nat → UInt8),
      (uuid4ParseCall (memory (uuid4Repr uuid) beyond) out).parsed = some uuid) ∧
    (∀ (repr : CString) (beyond : Nat → UInt8) (out : Uuid4),
      ParsesExactly repr (uuid4ParseCall (memory (repr.1 ++ [0]) beyond) out)) ∧
    ∀ (repr other : CString) (beyond beyond' : Nat → UInt8) (out out' : Uuid4),
      (uuid4ParseCall (memory (repr.1 ++ [0]) beyond) out).returned = true →
      (uuid4ParseCall (memory (other.1 ++ [0]) beyond') out').returned = true →
      (uuid4Eq (uuid4ParseCall (memory (repr.1 ++ [0]) beyond) out).outUuid
          (uuid4ParseCall (memory (other.1 ++ [0]) beyond') out').outUuid = true ↔
        (repr.1.take uuid4ReprLength).map lowerDigit =
          (other.1.take uuid4ReprLength).map lowerDigit) := by
  refine ⟨fun uuid out beyond => ?_, parsesExactly_call, ?_⟩
  · have whole : (template x42226).length ≤ (uuid4Repr uuid).length := le_refl _
    have isParsed := uuid4ParseAt_parsed _ x42226 _ 0 0 out
      (holds_memory (uuid4Repr uuid) beyond) (Or.inl whole)
    have isUuid := uuid4ParseFrom_uuid4Repr uuid out []
    rw [List.append_nil] at isUuid
    exact isParsed.trans isUuid
  · intro repr other beyond beyond' out out' first second
    rw [uuid4Eq_iff, ← (parsesExactly_call repr beyond out).stored first,
      ← (parsesExactly_call other beyond' out').stored second]
    exact uuid4Repr_injective.eq_iff.symm

end Tchatator
