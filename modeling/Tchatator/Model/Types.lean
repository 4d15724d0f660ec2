/-
**General types** (`types.h`, `errstatus.h`, `uuid.h`).

The codes that share one integer in the source keep their numeric values: an error status is
`-1`, `0` or `1` and travels in the same `int` as a role or an identifier
(`Errstatus.code`), and a role is a set of bit flags. `serial_t`, `page_number_t` and the other
32-bit quantities are `Int`s; where the source computes with one, `wrap32` keeps it in range.
-/

import Tchatator.Model.Bytes

namespace Tchatator

/-! ### Machine integers -/

def int32Min : Int := -2147483648

def int32Max : Int := 2147483647

/-- A value stored in a 32-bit signed integer, wrapped around. -/
def wrap32 (value : Int) : Int := (value + 2147483648) % 4294967296 - 2147483648

/-- **A value is stored as it is exactly when it fits.** -/
theorem wrap32_eq_self_iff {value : Int} :
    wrap32 value = value ↔ int32Min ≤ value ∧ value ≤ int32Max := by
  unfold wrap32 int32Min int32Max
  omega

theorem wrap32_of_mem {value : Int} (low : int32Min ≤ value) (high : value ≤ int32Max) :
    wrap32 value = value :=
  wrap32_eq_self_iff.mpr ⟨low, high⟩

/-! ### Lengths -/

/-- `EMAIL_LENGTH`. -/
def emailLength : Nat := 319

/-- `PSEUDO_LENGTH`. -/
def pseudoLength : Nat := 255

/-! ### UUIDs -/

/-- `uuid4_t`: sixteen bytes. -/
structure Uuid4 where
  data : Bytes
  size : data.length = 16
deriving DecidableEq

/-- `uuid4_t` filled with zero bytes. -/
def Uuid4.zero : Uuid4 := ⟨List.replicate 16 0, by simp⟩

/-- `out_uuid->data[idata] = byte`. -/
def Uuid4.write (uuid : Uuid4) (idata : Nat) (byte : UInt8) : Uuid4 :=
  ⟨uuid.data.set idata byte, by rw [List.length_set, uuid.size]⟩

/-- `uuid4_eq`. -/
def uuid4Eq (a b : Uuid4) : Bool := a = b

@[simp]
theorem uuid4Eq_iff (a b : Uuid4) : uuid4Eq a b = true ↔ a = b := by
  simp [uuid4Eq]

/-! ### Error statuses -/

/-- `errstatus_t`. -/
inductive Errstatus
  | handled
  | error
  | ok
deriving DecidableEq

/-- The value of an error status where it shares an integer with a payload. -/
def Errstatus.code : Errstatus → Int
  | .handled => -1
  | .error => 0
  | .ok => 1

/-! ### Roles (`role_t`, bit flags) -/

def roleAdmin : Nat := 1

def roleMember : Nat := 2

def rolePro : Nat := 4

def roleAll : Nat := roleAdmin ||| roleMember ||| rolePro

/-! ### Records -/

/-- `constr_t`: a parsed connection string. -/
structure Constr where
  apiKey : Uuid4
  password : Option CString
deriving DecidableEq

/-- `user_identity_t`. -/
structure UserIdentity where
  role : Nat
  id : Int
deriving DecidableEq

/-- The identity record before anything is stored in it. -/
def UserIdentity.indeterminate : UserIdentity := ⟨0, 0⟩

/-- `msg_t`. The ages are `0` when the event never occurred. -/
structure Msg where
  content : CString
  sentAt : Int
  readAge : Int
  editedAge : Int
  deletedAge : Int
  id : Int
  userIdSender : Int
  userIdRecipient : Int
deriving DecidableEq

/-- The union inside `user_t`, by the member last stored. -/
inductive UserName
  | unset
  | member (userName : CString)
  | pro (businessName : CString)
deriving DecidableEq

/-- `user_t`. -/
structure User where
  id : Int
  role : Nat
  name : UserName
deriving DecidableEq

/-! ### Ways for the process to end -/

/-- What can stop the server in the middle of a request. -/
inductive Fault
  /-- `errno_exit`: the process exits with `EXIT_FAILURE`. -/
  | errnoExit
  /-- A null pointer is handed to a function of bcrypt that reads it. -/
  | nullPassword
  /-- A failed `assert`. -/
  | assertion
  /-- `unreachable()` is reached. -/
  | unreachable
  /-- A union is read through another member than the one last stored. -/
  | punnedUnion
deriving DecidableEq

end Tchatator
