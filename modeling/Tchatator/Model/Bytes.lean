/-
**Bytes, C strings and slices.**

json-c hands out counted byte strings, the rest of the program works on NUL-terminated ones. The
two views differ as soon as a string holds a zero byte, so they are two types here:

* `Bytes` — a counted byte string, zero bytes included;
* `CString` — a byte string without a zero byte, i.e. what a `char const *` denotes. PostgreSQL's
  `varchar` has no zero byte either, so the text columns of the schema are `CString`s too.

`cstring` is the only passage from the first to the second: it stops at the first zero byte, as
`strdup`, `strndup` and `strcmp` do.
-/

import Mathlib.Data.List.TakeWhile

namespace Tchatator

/-- A counted byte string. -/
abbrev Bytes := List UInt8

/-- The bytes of a source literal (UTF-8). -/
def lit (text : String) : Bytes := text.toUTF8.data.toList

/-- A NUL-terminated string, without its terminator. -/
abbrev CString := {bytes : Bytes // 0 ∉ bytes}

/-- The C string that starts where `bytes` does: everything before the first zero byte. -/
def cstring (bytes : Bytes) : CString :=
  ⟨bytes.takeWhile (· ≠ 0), fun member => by simpa using List.mem_takeWhile_imp member⟩

/-- A source literal as a C string. -/
abbrev clit (text : String) : CString := cstring (lit text)

@[simp]
theorem cstring_val (text : CString) : cstring text.1 = text := by
  apply Subtype.ext
  simp only [cstring]
  rw [List.takeWhile_eq_self_iff]
  intro byte member
  have nonzero : byte ≠ 0 := fun zero => text.2 (zero ▸ member)
  simpa using nonzero

/-- **A counted string without a zero byte is its own C string.** -/
theorem cstring_of_no_zero {bytes : Bytes} (plain : 0 ∉ bytes) : (cstring bytes).1 = bytes :=
  congrArg Subtype.val (cstring_val ⟨bytes, plain⟩)

/-- `streq`. -/
def streq (x y : CString) : Bool := x = y

/-- `strchr(text, c) != NULL`, for a character other than the terminator. -/
def strchr (text : CString) (c : UInt8) : Bool := text.1.contains c

/-- A read-only memory slice, copied out of a JSON string by `strndup`: `len` is the counted
length, `val` what the copy holds. -/
structure Slice where
  len : Nat
  val : CString
deriving DecidableEq

end Tchatator
