/-
**JSON values and their strict getters** (`json-helpers.c`, and what the program uses of json-c).

A `Json` is what a `json_object *` denotes; `null` is the null pointer. Strings are counted, object
keys are C strings. An integer is unbounded here: json-c keeps 64 bits, signed or not, and its
getters saturate.
-/

import Tchatator.Model.Types

namespace Tchatator

/-- A `json_object *`. A double is kept as its text: the program never computes with one. -/
inductive Json
  | null
  | boolean (value : Bool)
  | double (text : Bytes)
  | int (value : Int)
  | string (text : Bytes)
  | array (elements : List Json)
  | object (members : List (CString × Json))

/-- `json_type`. -/
inductive JsonType
  | null
  | boolean
  | double
  | int
  | object
  | array
  | string
deriving DecidableEq

/-- `json_object_get_type`. -/
def jsonObjectGetType : Json → JsonType
  | .null => .null
  | .boolean _ => .boolean
  | .double _ => .double
  | .int _ => .int
  | .string _ => .string
  | .array _ => .array
  | .object _ => .object

/-- `json_type_to_name`. -/
def jsonTypeToName : JsonType → Bytes
  | .null => lit "null"
  | .boolean => lit "boolean"
  | .double => lit "double"
  | .int => lit "int"
  | .object => lit "object"
  | .array => lit "array"
  | .string => lit "string"

/-- The value of the first member with the given key. -/
def lookupMember (key : CString) : List (CString × Json) → Option Json
  | [] => none
  | (k, value) :: members => if k = key then some value else lookupMember key members

/-- `json_object_object_get_ex`: `none` for a missing key, and for anything but an object. -/
def jsonObjectObjectGetEx (jo : Json) (key : CString) : Option Json :=
  match jo with
  | .object members => lookupMember key members
  | _ => none

/-- `json_object_get_int` of an integer: saturated to 32 bits. -/
def clampInt32 (value : Int) : Int := max int32Min (min int32Max value)

/-- `json_object_get_int_strict`. -/
def jsonObjectGetIntStrict : Json → Option Int
  | .int value => some (clampInt32 value)
  | _ => none

/-- `json_object_get_string_strict`: the counted bytes of the slice. -/
def jsonObjectGetStringStrict : Json → Option Bytes
  | .string text => some text
  | _ => none

end Tchatator
