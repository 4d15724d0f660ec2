/-
**The loop of an answer, call by call** (`json_object_write`, `tchatator413-server.c`).

`output` is kept as an offset from the start of the text, and `len` is a `size_t`. The body of the
loop is run before its condition is looked at. What the calls of `write` return is given: `none`
for -1.
-/

import Tchatator.Model.Socket
import Tchatator.Model.Uuid

namespace Tchatator

/-- `output` and `len`, before a call. -/
structure WriteLoop where
  output : Nat
  len : UInt64

/-- The loop, when it is entered: `++len` counts the terminator. -/
def WriteLoop.start (text : CString) : WriteLoop := ⟨0, UInt64.ofNat text.1.length + 1⟩

/-- `len -= (size_t)bytes_written` and `output += bytes_written`. -/
def WriteLoop.advance (loop : WriteLoop) (bytesWritten : Nat) : WriteLoop :=
  ⟨loop.output + bytesWritten, loop.len - UInt64.ofNat bytesWritten⟩

/-- A call `write(fd, output, len)`, and what it returns. -/
structure WriteCall where
  output : Nat
  len : Nat
  bytesWritten : Nat

/-- The offsets of the bytes that a call hands over. -/
def WriteCall.offsets (call : WriteCall) : List Nat := List.range' call.output call.bytesWritten

/-- The bytes that a call hands over. -/
def WriteCall.bytes (memory : Nat → UInt8) (call : WriteCall) : Bytes := call.offsets.map memory

/-- The loop, from call `index` on: nothing when the fuel runs out before it ends. -/
def writeCalls (results : Nat → Option Nat) :
    Nat → Nat → WriteLoop → Option (Except Fault (List WriteCall))
  | 0, _, _ => none
  | fuel + 1, index, loop =>
      match results index with
      | none => some (.error .errnoExit)
      | some bytesWritten =>
          let call := ⟨loop.output, loop.len.toNat, bytesWritten⟩
          let after := loop.advance bytesWritten
          if 0 < after.len then
            (writeCalls results fuel (index + 1) after).map (·.map (call :: ·))
          else some (.ok [call])

/-- `json_object_write`, call by call. -/
def jsonObjectWriteCalls (host : Host) (results : Nat → Option Nat) (jo : Json) (fuel : Nat) :
    Option (Except Fault (List WriteCall)) :=
  writeCalls results fuel 0 (.start (host.json.minJson jo))

end Tchatator
