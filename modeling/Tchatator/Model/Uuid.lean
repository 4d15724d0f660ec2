/-
**The UUID codec** (`uuid.c`).

`X_42226(O, H)` is the layout both directions walk: `O` is one octet (two hex digits), `H` one
hyphen. Running out of text is the same as meeting the terminator, which is neither a hex digit
nor a hyphen.

`uuid4ParseAt` is the parser once more, over a memory that goes on behind the text: it keeps the
accesses that `uuid4ParseFrom` leaves out.
-/

import Tchatator.Model.Types

namespace Tchatator

/-- One step of the layout macro. -/
inductive UuidField
  | octet
  | hyphen

/-- `X_42226`. -/
def x42226 : List UuidField :=
  [.octet, .octet, .octet, .octet, .hyphen, .octet, .octet, .hyphen, .octet, .octet, .hyphen,
    .octet, .octet, .hyphen, .octet, .octet, .octet, .octet, .octet, .octet]

/-- `UUID4_REPR_LENGTH`. -/
def uuid4ReprLength : Nat := 36

/-- `INVALID_HALF`. -/
def invalidHalf : UInt8 := 255

/-- `hex_half_to_repr`: the digit of a value below sixteen. -/
def hexHalfToRepr (value : UInt8) : UInt8 :=
  if value < 10 then 48 + value else 97 - 10 + value

/-- `hex_repr_to_half`: the value of a hex digit of either case, `INVALID_HALF` otherwise. -/
def hexReprToHalf (c : UInt8) : UInt8 :=
  if 48 ≤ c ∧ c ≤ 57 then c - 48
  else if 65 ≤ c ∧ c ≤ 70 then c - 65 + 10
  else if 97 ≤ c ∧ c ≤ 102 then c - 97 + 10
  else invalidHalf

/-- The text written by the rest of the layout, from octet `idata` on. -/
def uuid4ReprFrom (uuid : Uuid4) : List UuidField → Nat → Bytes
  | [], _ => []
  | .octet :: layout, idata =>
      let byte := uuid.data.getD idata 0
      hexHalfToRepr (byte >>> 4) :: hexHalfToRepr (byte &&& 15) ::
        uuid4ReprFrom uuid layout (idata + 1)
  | .hyphen :: layout, idata => 45 :: uuid4ReprFrom uuid layout idata

/-- `uuid4_repr`. -/
def uuid4Repr (uuid : Uuid4) : Bytes := uuid4ReprFrom uuid x42226 0

/-- The rest of the layout read from `repr` into `out`, from octet `idata` on. -/
def uuid4ParseFrom : List UuidField → Bytes → Nat → Uuid4 → Option Uuid4
  | [], _, _, out => some out
  | .octet :: layout, c₁ :: c₂ :: repr, idata, out =>
      let v₁ := hexReprToHalf c₁
      let v₂ := hexReprToHalf c₂
      if v₁ = invalidHalf ∨ v₂ = invalidHalf then none
      else uuid4ParseFrom layout repr (idata + 1) (out.write idata ((v₁ <<< 4) + v₂))
  | .hyphen :: layout, c :: repr, idata, out =>
      if c ≠ 45 then none else uuid4ParseFrom layout repr idata out
  | _, _, _, _ => none

/-- `uuid4_parse`: the value stored in `*out_uuid`, when it returns `true`. -/
def uuid4Parse (repr : Bytes) : Option Uuid4 := uuid4ParseFrom x42226 repr 0 .zero

/-! ### Accesses -/

/-- A call of `uuid4_parse`: what it returns, what it leaves in `*out_uuid`, and the indices of
`repr` and `out_uuid->data` that it reads and writes, in order. -/
structure UuidParse where
  returned : Bool
  outUuid : Uuid4
  reads : List Nat
  writes : List Nat

/-- The rest of the layout, character by character: `repr` is the memory from the argument on, and a
call returns at the first character that is not the expected one. -/
def uuid4ParseAt (repr : Nat → UInt8) : List UuidField → Nat → Nat → Uuid4 → UuidParse
  | [], _, _, out => ⟨true, out, [], []⟩
  | .octet :: layout, i, idata, out =>
      let v₁ := hexReprToHalf (repr i)
      if v₁ = invalidHalf then ⟨false, out, [i], []⟩
      else
        let v₂ := hexReprToHalf (repr (i + 1))
        if v₂ = invalidHalf then ⟨false, out, [i, i + 1], []⟩
        else
          let rest := uuid4ParseAt repr layout (i + 2) (idata + 1)
            (out.write idata ((v₁ <<< 4) + v₂))
          { rest with reads := i :: (i + 1) :: rest.reads, writes := idata :: rest.writes }
  | .hyphen :: layout, i, idata, out =>
      if repr i ≠ 45 then ⟨false, out, [i], []⟩
      else
        let rest := uuid4ParseAt repr layout (i + 1) idata out
        { rest with reads := i :: rest.reads }

/-- `uuid4_parse`, with its accesses. -/
def uuid4ParseCall (repr : Nat → UInt8) (outUuid : Uuid4) : UuidParse :=
  uuid4ParseAt repr x42226 0 0 outUuid

/-- The value a call stores, when it returns `true`. -/
def UuidParse.parsed (call : UuidParse) : Option Uuid4 :=
  if call.returned then some call.outUuid else none

/-- The memory that starts with the given bytes. -/
def memory (bytes : Bytes) (beyond : Nat → UInt8) (i : Nat) : UInt8 := bytes[i]?.getD (beyond i)

/-- `uuid4_parse_slice`. -/
def uuid4ParseSlice (repr : Bytes) : Option Uuid4 :=
  if repr.length < uuid4ReprLength then none else uuid4Parse repr

end Tchatator
