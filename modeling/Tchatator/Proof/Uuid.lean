/-
**The UUID codec reads back what it writes** (`uuid.c`).

* `half_parsed`, `halves` — a hex digit of either half of an octet is read back as that half, and
  the two halves make the octet again;
* `uuid4ParseFrom_repr` — along any layout, the octets read so far are those that were written:
  the induction is on the layout, the invariant on the octets before `idata`;
* **`uuid4Parse_repr`** — a text that starts with the representation of a UUID is read as it;
* `Fits`, `template` — the texts of a layout, character by character;
* `uuid4ParseFrom_returns_iff`, **`uuid4Repr_of_parsed`** — along any layout, what is read is what
  starts with a text of the layout, and writing it back gives this text in lower case.
-/

import Mathlib.Data.List.Forall2
import Tchatator.Model.Uuid

namespace Tchatator

/-! ### One octet -/

theorem half_parsed {value : UInt8} (small : value < 16) :
    hexReprToHalf (hexHalfToRepr value) = value := by
  have digits : ∀ half : Fin 16, hexReprToHalf (hexHalfToRepr (UInt8.ofNat half)) =
      UInt8.ofNat half := by decide
  have bound : value.toNat < 16 := small
  have same := digits ⟨value.toNat, bound⟩
  rwa [UInt8.ofNat_toNat] at same

theorem high_half (byte : UInt8) : byte >>> 4 < 16 := by
  have bound := byte.toNat_lt
  show (byte >>> 4).toNat < 16
  simp [Nat.shiftRight_eq_div_pow]
  omega

theorem low_half (byte : UInt8) : byte &&& 15 < 16 := by
  have small : (byte &&& 15).toNat ≤ 15 := by
    simpa using Nat.and_le_right
  show (byte &&& 15).toNat < 16
  omega

/-- The halves of an octet make the octet. -/
theorem halves (byte : UInt8) : (byte >>> 4) <<< 4 + (byte &&& 15) = byte := by
  have bound := byte.toNat_lt
  have low : byte.toNat &&& 15 = byte.toNat % 16 := by
    simpa using Nat.and_two_pow_sub_one_eq_mod byte.toNat 4
  apply UInt8.toNat_inj.mp
  simp [Nat.shiftRight_eq_div_pow, Nat.shiftLeft_eq, low]
  omega

theorem ne_invalidHalf {value : UInt8} (small : value < 16) : value ≠ invalidHalf := by
  rintro rfl
  exact absurd small (by decide)

/-! ### The layout -/

/-- The number of octets in a layout. -/
def octets : List UuidField → Nat
  | [] => 0
  | .octet :: layout => octets layout + 1
  | .hyphen :: layout => octets layout

/-- An octet that is written leaves the octets before it alone. -/
theorem take_write {uuid out : Uuid4} {idata : Nat} (within : idata < 16)
    (agree : out.data.take idata = uuid.data.take idata) :
    (out.write idata (uuid.data.getD idata 0)).data.take (idata + 1) =
      uuid.data.take (idata + 1) := by
  have inOut : idata < out.data.length := by rw [out.size]; exact within
  have inUuid : idata < uuid.data.length := by rw [uuid.size]; exact within
  rw [Uuid4.write, List.take_add_one, List.take_add_one, List.take_set_of_le (le_refl _), agree,
    List.getElem?_set_self inOut, List.getD_eq_getElem?_getD, List.getElem?_eq_getElem inUuid]
  rfl

/-- **Reading along a layout what was written along it.** -/
theorem uuid4ParseFrom_repr (uuid : Uuid4) (rest : Bytes) (layout : List UuidField) (idata : Nat)
    (out : Uuid4) (fits : idata + octets layout ≤ 16)
    (agree : out.data.take idata = uuid.data.take idata) :
    ∃ parsed, uuid4ParseFrom layout (uuid4ReprFrom uuid layout idata ++ rest) idata out =
        some parsed ∧
      parsed.data.take (idata + octets layout) = uuid.data.take (idata + octets layout) := by
  induction layout generalizing idata out with
  | nil => exact ⟨out, rfl, agree⟩
  | cons field layout ih =>
    cases field with
    | octet =>
      have within : idata + 1 + octets layout ≤ 16 := by
        have count : octets (.octet :: layout) = octets layout + 1 := rfl
        omega
      obtain ⟨parsed, isParsed, same⟩ := ih (idata + 1) _ within (take_write (by omega) agree)
      refine ⟨parsed, ?_, ?_⟩
      · simp only [uuid4ReprFrom, List.cons_append, uuid4ParseFrom, half_parsed (high_half _),
          half_parsed (low_half _), halves, ne_invalidHalf (high_half _),
          ne_invalidHalf (low_half _), or_self, if_false]
        exact isParsed
      · have count : idata + octets (.octet :: layout) = idata + 1 + octets layout := by
          show idata + (octets layout + 1) = _
          omega
        rw [count]
        exact same
    | hyphen =>
      obtain ⟨parsed, isParsed, same⟩ := ih idata out fits agree
      exact ⟨parsed, isParsed, same⟩

theorem uuid4Repr_length (uuid : Uuid4) : (uuid4Repr uuid).length = uuid4ReprLength := rfl

/-- **A text that starts with a UUID's representation is read as that UUID**, whatever the UUID held
before. -/
theorem uuid4ParseFrom_uuid4Repr (uuid out : Uuid4) (rest : Bytes) :
    uuid4ParseFrom x42226 (uuid4Repr uuid ++ rest) 0 out = some uuid := by
  obtain ⟨parsed, isParsed, same⟩ := uuid4ParseFrom_repr uuid rest x42226 0 out (by decide) rfl
  have whole : parsed.data = uuid.data := by
    have all : 0 + octets x42226 = 16 := rfl
    rwa [all, List.take_of_length_le (by rw [parsed.size]),
      List.take_of_length_le (by rw [uuid.size])] at same
  have isUuid : parsed = uuid := by
    cases parsed
    cases uuid
    cases whole
    rfl
  rw [isUuid] at isParsed
  exact isParsed

theorem uuid4Parse_repr (uuid : Uuid4) (rest : Bytes) :
    uuid4Parse (uuid4Repr uuid ++ rest) = some uuid := uuid4ParseFrom_uuid4Repr uuid .zero rest

theorem uuid4Repr_injective : Function.Injective uuid4Repr := by
  intro uuid other same
  have first := uuid4Parse_repr uuid []
  rw [same, uuid4Parse_repr other []] at first
  exact (Option.some.inj first).symm

/-! ### What is read -/

/-- A hex digit, of either case. -/
def IsHexDigit (c : UInt8) : Prop :=
  (48 ≤ c ∧ c ≤ 57) ∨ (65 ≤ c ∧ c ≤ 70) ∨ (97 ≤ c ∧ c ≤ 102)

instance : DecidablePred IsHexDigit := fun c =>
  inferInstanceAs (Decidable ((48 ≤ c ∧ c ≤ 57) ∨ (65 ≤ c ∧ c ≤ 70) ∨ (97 ≤ c ∧ c ≤ 102)))

/-- A character stands where a template has a hyphen, or any other character for a hex digit. -/
def Fits (place c : UInt8) : Prop := if place = 45 then c = 45 else IsHexDigit c

/-- The template of a layout. -/
def template : List UuidField → Bytes
  | [] => []
  | .octet :: layout => 120 :: 120 :: template layout
  | .hyphen :: layout => 45 :: template layout

/-- The lower case of a hex digit. -/
def lowerDigit (c : UInt8) : UInt8 := if 65 ≤ c ∧ c ≤ 70 then c + 32 else c

/-- **A hex digit is read as its value and written in lower case**; nothing else is read. -/
theorem hexReprToHalf_spec (c : UInt8) :
    if IsHexDigit c then
      hexReprToHalf c < 16 ∧ hexHalfToRepr (hexReprToHalf c) = lowerDigit c
    else hexReprToHalf c = invalidHalf := by
  have all : ∀ value : Fin 256,
      if IsHexDigit (UInt8.ofNat value) then
        hexReprToHalf (UInt8.ofNat value) < 16 ∧
          hexHalfToRepr (hexReprToHalf (UInt8.ofNat value)) = lowerDigit (UInt8.ofNat value)
      else hexReprToHalf (UInt8.ofNat value) = invalidHalf := by decide +kernel
  have here := all ⟨c.toNat, c.toNat_lt⟩
  rwa [UInt8.ofNat_toNat] at here

theorem hexReprToHalf_of_digit {c : UInt8} (digit : IsHexDigit c) :
    hexReprToHalf c < 16 ∧ hexHalfToRepr (hexReprToHalf c) = lowerDigit c := by
  have spec := hexReprToHalf_spec c
  rwa [if_pos digit] at spec

theorem hexReprToHalf_eq_invalid_iff {c : UInt8} :
    hexReprToHalf c = invalidHalf ↔ ¬ IsHexDigit c := by
  by_cases digit : IsHexDigit c
  · exact iff_of_false (ne_invalidHalf (hexReprToHalf_of_digit digit).1) (not_not.mpr digit)
  · have spec := hexReprToHalf_spec c
    rw [if_neg digit] at spec
    exact iff_of_true spec digit

/-- The octet of two halves has these halves. -/
theorem halves_of_octet {high low : UInt8} (highSmall : high < 16) (lowSmall : low < 16) :
    (high <<< 4 + low) >>> 4 = high ∧ (high <<< 4 + low) &&& 15 = low := by
  have all : ∀ first second : Fin 16,
      (UInt8.ofNat first <<< 4 + UInt8.ofNat second) >>> 4 = UInt8.ofNat first ∧
        (UInt8.ofNat first <<< 4 + UInt8.ofNat second) &&& 15 = UInt8.ofNat second := by decide
  have here := all ⟨high.toNat, highSmall⟩ ⟨low.toNat, lowSmall⟩
  rwa [UInt8.ofNat_toNat, UInt8.ofNat_toNat] at here

/-- **Along a layout, what is read is what starts with a text of the layout.** -/
theorem uuid4ParseFrom_returns_iff (layout : List UuidField) (text : Bytes) (idata : Nat)
    (out : Uuid4) :
    (∃ parsed, uuid4ParseFrom layout text idata out = some parsed) ↔
      List.Forall₂ Fits (template layout) (text.take (template layout).length) := by
  induction layout generalizing text idata out with
  | nil => exact iff_of_true ⟨out, rfl⟩ .nil
  | cons field layout ih =>
    cases field with
    | octet =>
      match text with
      | [] => simp [uuid4ParseFrom, template]
      | [c] => simp [uuid4ParseFrom, template]
      | first :: second :: text =>
        have fits : List.Forall₂ Fits (template (.octet :: layout))
            ((first :: second :: text).take (template (.octet :: layout)).length) ↔
              (IsHexDigit first ∧ IsHexDigit second) ∧
                List.Forall₂ Fits (template layout) (text.take (template layout).length) := by
          show List.Forall₂ Fits (120 :: 120 :: _) (first :: second :: text.take _) ↔ _
          rw [List.forall₂_cons, List.forall₂_cons, and_assoc]
          rfl
        simp only [uuid4ParseFrom, hexReprToHalf_eq_invalid_iff, fits, ← not_and_or]
        by_cases digits : IsHexDigit first ∧ IsHexDigit second <;> simp [digits, ih]
    | hyphen =>
      match text with
      | [] => simp [uuid4ParseFrom, template]
      | c :: text =>
        have fits : List.Forall₂ Fits (template (.hyphen :: layout))
            ((c :: text).take (template (.hyphen :: layout)).length) ↔
              c = 45 ∧ List.Forall₂ Fits (template layout) (text.take (template layout).length) := by
          show List.Forall₂ Fits (45 :: _) (c :: text.take _) ↔ _
          rw [List.forall₂_cons]
          rfl
        simp only [uuid4ParseFrom, fits]
        by_cases isHyphen : c = 45 <;> simp [isHyphen, ih]

/-- An octet that is read starts with two hex digits. -/
theorem octet_of_parsed {layout : List UuidField} {text : Bytes} {idata : Nat}
    {out parsed : Uuid4} (isParsed : uuid4ParseFrom (.octet :: layout) text idata out = some parsed) :
    ∃ first second rest, text = first :: second :: rest ∧ IsHexDigit first ∧ IsHexDigit second ∧
      uuid4ParseFrom layout rest (idata + 1)
        (out.write idata (hexReprToHalf first <<< 4 + hexReprToHalf second)) = some parsed := by
  match text with
  | [] => cases isParsed
  | [c] => cases isParsed
  | first :: second :: rest =>
    simp only [uuid4ParseFrom, hexReprToHalf_eq_invalid_iff] at isParsed
    split at isParsed
    · cases isParsed
    · rename_i digits
      rw [← not_and_or, not_not] at digits
      exact ⟨first, second, rest, rfl, digits.1, digits.2, isParsed⟩

/-- A hyphen that is read is one. -/
theorem hyphen_of_parsed {layout : List UuidField} {text : Bytes} {idata : Nat}
    {out parsed : Uuid4} (isParsed : uuid4ParseFrom (.hyphen :: layout) text idata out = some parsed) :
    ∃ rest, text = 45 :: rest ∧ uuid4ParseFrom layout rest idata out = some parsed := by
  match text with
  | [] => cases isParsed
  | c :: rest =>
    simp only [uuid4ParseFrom] at isParsed
    split at isParsed
    · cases isParsed
    · rename_i isHyphen
      rw [not_not.mp isHyphen]
      exact ⟨rest, rfl, isParsed⟩

/-- What is read from an octet on leaves the octets before it alone. -/
theorem take_of_parsed {layout : List UuidField} {text : Bytes} {idata : Nat} {out parsed : Uuid4}
    (isParsed : uuid4ParseFrom layout text idata out = some parsed) :
    parsed.data.take idata = out.data.take idata := by
  induction layout generalizing text idata out with
  | nil =>
    cases isParsed
    rfl
  | cons field layout ih =>
    cases field with
    | octet =>
      obtain ⟨first, second, rest, _, _, _, later⟩ := octet_of_parsed isParsed
      have agree := congrArg (List.take idata) (ih later)
      rw [List.take_take, List.take_take, Nat.min_eq_left (Nat.le_succ idata)] at agree
      rw [agree, Uuid4.write, List.take_set_of_le (le_refl _)]
    | hyphen =>
      obtain ⟨rest, _, later⟩ := hyphen_of_parsed isParsed
      exact ih later

/-- **Along a layout, what is read is written back in lower case.** -/
theorem uuid4ReprFrom_of_parsed {layout : List UuidField} {text : Bytes} {idata : Nat}
    {out parsed : Uuid4} (fits : idata + octets layout ≤ 16)
    (isParsed : uuid4ParseFrom layout text idata out = some parsed) :
    uuid4ReprFrom parsed layout idata = (text.take (template layout).length).map lowerDigit := by
  induction layout generalizing text idata out with
  | nil => rfl
  | cons field layout ih =>
    cases field with
    | octet =>
      have count : octets (.octet :: layout) = octets layout + 1 := rfl
      obtain ⟨first, second, rest, rfl, isFirst, isSecond, later⟩ := octet_of_parsed isParsed
      obtain ⟨firstSmall, firstWritten⟩ := hexReprToHalf_of_digit isFirst
      obtain ⟨secondSmall, secondWritten⟩ := hexReprToHalf_of_digit isSecond
      obtain ⟨high, low⟩ := halves_of_octet firstSmall secondSmall
      have isOctet : parsed.data.getD idata 0 =
          hexReprToHalf first <<< 4 + hexReprToHalf second := by
        have within : idata < out.data.length := by
          rw [out.size]
          omega
        have here := congrArg (fun data => data[idata]?) (take_of_parsed later)
        simp only [List.getElem?_take, Nat.lt_succ_self, if_true, Uuid4.write,
          List.getElem?_set_self within] at here
        rw [List.getD_eq_getElem?_getD, here]
        rfl
      show hexHalfToRepr (parsed.data.getD idata 0 >>> 4) ::
        hexHalfToRepr (parsed.data.getD idata 0 &&& 15) :: uuid4ReprFrom parsed layout (idata + 1) =
          lowerDigit first :: lowerDigit second :: (rest.take (template layout).length).map lowerDigit
      rw [isOctet, high, low, firstWritten, secondWritten, ih (by omega) later]
    | hyphen =>
      obtain ⟨rest, rfl, later⟩ := hyphen_of_parsed isParsed
      exact congrArg (45 :: ·) (ih fits later)

/-! ### UUIDs -/

/-- **A UUID**: hyphens between groups of 8, 4, 4, 4 and 12 hex digits. -/
def IsUuid (text : Bytes) : Prop :=
  List.Forall₂ Fits (lit "xxxxxxxx-xxxx-xxxx-xxxx-xxxxxxxxxxxx") text

theorem IsUuid.length {text : Bytes} (isUuid : IsUuid text) : text.length = uuid4ReprLength :=
  isUuid.length_eq.symm

/-- **The texts that are read are those that start with a UUID.** -/
theorem uuid4ParseSlice_returns_iff (text : Bytes) :
    (∃ apiKey, uuid4ParseSlice text = some apiKey) ↔ IsUuid (text.take uuid4ReprLength) := by
  have reads := uuid4ParseFrom_returns_iff x42226 text 0 .zero
  unfold uuid4ParseSlice
  by_cases short : text.length < uuid4ReprLength
  · rw [if_pos short]
    refine iff_of_false ?_ fun isUuid => ?_
    · rintro ⟨_, ⟨⟩⟩
    · have count := isUuid.length
      rw [List.length_take] at count
      omega
  · rw [if_neg short]
    exact reads

/-- **A UUID that is read is written back in lower case.** -/
theorem uuid4Repr_of_parsed {text : Bytes} {apiKey : Uuid4}
    (isParsed : uuid4ParseSlice text = some apiKey) :
    uuid4Repr apiKey = (text.take uuid4ReprLength).map lowerDigit := by
  unfold uuid4ParseSlice at isParsed
  split at isParsed
  · cases isParsed
  · exact uuid4ReprFrom_of_parsed (by decide) isParsed

end Tchatator
