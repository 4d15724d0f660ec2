/-
**An answer is handed over byte by byte, once** (`json_object_write`).

* `writeRemaining_flatten` — the segments that are written are the answer, in order;
* `ResultsInRange` — each call of `write` takes between one byte and all that it is offered;
* `WritesOut` — what the loop does from some call on: it ends, the offsets it hands over are those
  that remain, in order, and it is the loop over the remaining bytes;
* `writesOut_more`, `writesOut_last` — a call, and what it leaves;
* **`jsonObjectWrite_exact`** — the text and its terminator are handed over, each byte once, and
  none beyond is offered.
-/

import Mathlib.Algebra.Group.Nat.Defs
import Tchatator.Model.TestData
import Tchatator.Model.WriteLoop

namespace Tchatator

/-! ### Segments -/

/-- What the loop writes is what it was given. -/
theorem writeRemaining_flatten {accepts : Nat → Option Nat} {output : Bytes}
    {segments : List Bytes} (written : writeRemaining accepts output = .ok segments) :
    segments.flatten = output := by
  fun_induction writeRemaining accepts output generalizing segments with
  | case1 =>
    cases written
    rfl
  | case2 => cases written
  | case3 accepts output hasOutput accepted isAccepted bytesWritten =>
    rename_i ih
    rcases later : writeRemaining (fun index => accepts (index + 1))
      (output.drop bytesWritten) with fault | rest
    · rw [later] at written
      cases written
    · rw [later] at written
      cases written
      rw [List.flatten_cons, ih later, List.take_append_drop]

/-! ### Results -/

/-- The number of bytes offered to call `index`, of `total` in all. -/
def offeredTo (results : Nat → Option Nat) (total : Nat) : Nat → Nat
  | 0 => total
  | index + 1 => offeredTo results total index - (results index).getD 0

/-- **Each call takes at least one byte, and no more than it is offered**, as long as some are. -/
def ResultsInRange (results : Nat → Option Nat) (total : Nat) : Prop :=
  ∀ index, 0 < offeredTo results total index →
    ∃ bytesWritten ∈ results index,
      1 ≤ bytesWritten ∧ bytesWritten ≤ offeredTo results total index

/-! ### Offsets -/

theorem WriteLoop.advance_len {loop : WriteLoop} {bytesWritten : Nat}
    (fits : bytesWritten ≤ loop.len.toNat) :
    (loop.advance bytesWritten).len.toNat = loop.len.toNat - bytesWritten := by
  have small : bytesWritten < 2 ^ 64 := fits.trans_lt loop.len.toNat_lt
  have exact : (UInt64.ofNat bytesWritten).toNat = bytesWritten := UInt64.toNat_ofNat_of_lt' small
  have notMore : UInt64.ofNat bytesWritten ≤ loop.len := by
    rw [UInt64.le_iff_toNat_le, exact]
    exact fits
  rw [WriteLoop.advance, UInt64.toNat_sub_of_le _ _ notMore, exact]

theorem WriteLoop.start_len {text : CString} (counted : text.1.length + 1 < 2 ^ 64) :
    (WriteLoop.start text).len.toNat = text.1.length + 1 := by
  have exact : (UInt64.ofNat text.1.length).toNat = text.1.length :=
    UInt64.toNat_ofNat_of_lt' (Nat.lt_of_succ_lt counted)
  rw [WriteLoop.start, UInt64.toNat_add, exact]
  exact Nat.mod_eq_of_lt counted

/-- A call reads the bytes of the text at its offsets. -/
theorem WriteCall.bytes_eq {call : WriteCall} {bytes : Bytes} (beyond : Nat → UInt8)
    (within : call.output + call.bytesWritten ≤ bytes.length) :
    call.bytes (memory bytes beyond) = (bytes.drop call.output).take call.bytesWritten := by
  apply List.ext_getElem
  · rw [WriteCall.bytes, WriteCall.offsets, List.length_map, List.length_range', List.length_take,
      List.length_drop]
    omega
  · intro i inCall inBytes
    rw [WriteCall.bytes, List.length_map, WriteCall.offsets, List.length_range'] at inCall
    have inText : call.output + i < bytes.length := by omega
    simp [WriteCall.bytes, WriteCall.offsets, memory, List.getElem?_eq_getElem inText]

/-! ### The loop -/

section

variable {results : Nat → Option Nat} {bytes : Bytes} {beyond : Nat → UInt8} {index : Nat}
  {loop : WriteLoop} {calls : List WriteCall}

/-- **What the loop does** from call `index` on. -/
structure WritesOut (results : Nat → Option Nat) (bytes : Bytes) (beyond : Nat → UInt8)
    (index : Nat) (loop : WriteLoop) (calls : List WriteCall) : Prop where
  ends : ∀ fuel, loop.len.toNat ≤ fuel → writeCalls results fuel index loop = some (.ok calls)
  offsets : calls.flatMap WriteCall.offsets = List.range' loop.output loop.len.toNat
  within : ∀ call ∈ calls, call.output + call.len ≤ bytes.length
  segments : writeRemaining (fun later => results (index + later)) (bytes.drop loop.output) =
    .ok (calls.map (WriteCall.bytes (memory bytes beyond)))

/-- One call of the loop over the remaining bytes. -/
theorem writeRemaining_step {accepts : Nat → Option Nat} {output : Bytes} {bytesWritten : Nat}
    (accepted : accepts 0 = some bytesWritten) (positive : 1 ≤ bytesWritten)
    (fits : bytesWritten ≤ output.length) :
    writeRemaining accepts output =
      (writeRemaining (fun index => accepts (index + 1)) (output.drop bytesWritten)).map
        (output.take bytesWritten :: ·) := by
  have hasOutput : output ≠ [] := by
    rintro rfl
    exact absurd (positive.trans fits) (Nat.not_succ_le_zero 0)
  rw [writeRemaining, if_neg hasOutput, accepted]
  dsimp only
  rw [Nat.min_eq_left fits, Nat.max_eq_right positive]

/-- The same, at a call of the loop: it hands over the first of the remaining bytes. -/
theorem writeRemaining_call {bytesWritten : Nat} (result : results index = some bytesWritten)
    (positive : 1 ≤ bytesWritten) (fits : loop.output + bytesWritten ≤ bytes.length) :
    writeRemaining (fun later => results (index + later)) (bytes.drop loop.output) =
      (writeRemaining (fun later => results (index + 1 + later))
        (bytes.drop (loop.output + bytesWritten))).map
        (WriteCall.bytes (memory bytes beyond) ⟨loop.output, loop.len.toNat, bytesWritten⟩ :: ·) := by
  have handed : WriteCall.bytes (memory bytes beyond) ⟨loop.output, loop.len.toNat, bytesWritten⟩ =
      (bytes.drop loop.output).take bytesWritten := WriteCall.bytes_eq beyond fits
  have inOutput : bytesWritten ≤ (bytes.drop loop.output).length := by
    rw [List.length_drop]
    exact Nat.le_sub_of_add_le' fits
  have shifted : (fun later => results (index + (later + 1))) =
      fun later => results (index + 1 + later) := by
    funext later
    rw [Nat.add_right_comm, Nat.add_assoc]
  rw [writeRemaining_step (by exact result) positive inOutput, List.drop_drop, handed, shifted]

/-- **A call that takes less than it is offered, then the rest.** -/
theorem writesOut_more {bytesWritten : Nat} (result : results index = some bytesWritten)
    (positive : 1 ≤ bytesWritten) (short : bytesWritten < loop.len.toNat)
    (remains : loop.output + loop.len.toNat = bytes.length)
    (rest : WritesOut results bytes beyond (index + 1) (loop.advance bytesWritten) calls) :
    WritesOut results bytes beyond index loop
      (⟨loop.output, loop.len.toNat, bytesWritten⟩ :: calls) := by
  have remaining := WriteLoop.advance_len short.le
  have more : 0 < (loop.advance bytesWritten).len := by
    rw [UInt64.lt_iff_toNat_lt, remaining]
    exact Nat.sub_pos_of_lt short
  refine ⟨?_, ?_, ?_, ?_⟩
  · intro fuel enough
    cases fuel with
    | zero => omega
    | succ fuel =>
      rw [writeCalls, result]
      dsimp only
      rw [if_pos more, rest.ends fuel (by omega)]
      rfl
  · rw [List.flatMap_cons, rest.offsets, remaining]
    refine List.range'_append_1.trans ?_
    rw [Nat.add_sub_cancel' short.le]
  · intro call isCall
    rcases List.mem_cons.mp isCall with rfl | isLater
    · exact remains.le
    · exact rest.within call isLater
  · have segments := rest.segments
    rw [WriteLoop.advance] at segments
    rw [writeRemaining_call result positive (by omega), segments]
    rfl

/-- **A call that takes all that it is offered** is the last one. -/
theorem writesOut_last (result : results index = some loop.len.toNat)
    (positive : 1 ≤ loop.len.toNat) (remains : loop.output + loop.len.toNat = bytes.length) :
    WritesOut results bytes beyond index loop
      [⟨loop.output, loop.len.toNat, loop.len.toNat⟩] := by
  have noMore : ¬ 0 < (loop.advance loop.len.toNat).len := by
    rw [UInt64.lt_iff_toNat_lt, WriteLoop.advance_len le_rfl, Nat.sub_self]
    exact Nat.lt_irrefl 0
  refine ⟨?_, ?_, ?_, ?_⟩
  · intro fuel enough
    cases fuel with
    | zero => omega
    | succ fuel =>
      rw [writeCalls, result]
      dsimp only
      rw [if_neg noMore]
  · exact List.append_nil _
  · intro call isCall
    rw [List.mem_singleton.mp isCall]
    exact remains.le
  · have nothing : bytes.drop (loop.output + loop.len.toNat) = [] :=
      List.drop_eq_nil_of_le remains.ge
    rw [writeRemaining_call result positive remains.le, nothing, writeRemaining, if_pos rfl]
    rfl

/-- **The loop ends**, by induction on what remains. -/
theorem writesOut_of_inRange (beyond : Nat → UInt8)
    (inRange : ResultsInRange results bytes.length) (remaining : Nat) (positive : 0 < remaining)
    (isLen : loop.len.toNat = remaining)
    (remains : loop.output + remaining = bytes.length)
    (isOffered : offeredTo results bytes.length index = remaining) :
    ∃ calls, WritesOut results bytes beyond index loop calls := by
  induction remaining using Nat.strong_induction_on generalizing index loop with
  | _ remaining ih =>
    obtain ⟨bytesWritten, result, atLeastOne, fits⟩ := inRange index (isOffered.symm ▸ positive)
    rw [isOffered] at fits
    subst isLen
    rcases Nat.lt_or_eq_of_le fits with short | all
    · have remaining := WriteLoop.advance_len short.le
      have offeredNext : offeredTo results bytes.length (index + 1) =
          loop.len.toNat - bytesWritten := by
        rw [offeredTo, isOffered, Option.mem_def.mp result, Option.getD_some]
      have remainsNext : (loop.advance bytesWritten).output + (loop.len.toNat - bytesWritten) =
          bytes.length := by
        rw [WriteLoop.advance, Nat.add_assoc, Nat.add_sub_cancel' short.le]
        exact remains
      obtain ⟨calls, rest⟩ := ih (loop.len.toNat - bytesWritten) (Nat.sub_lt positive atLeastOne)
        (Nat.sub_pos_of_lt short) remaining remainsNext offeredNext
      exact ⟨_, writesOut_more result atLeastOne short remains rest⟩
    · subst all
      exact ⟨_, writesOut_last result atLeastOne remains⟩

end

/-- **The text and its terminator are handed over, each byte once**, and none beyond is offered.
The text is in memory, so that a `size_t` counts it with its terminator. -/
theorem jsonObjectWrite_exact (host : Host) (jo : Json) (beyond : Nat → UInt8)
    (results : Nat → Option Nat) (counted : (host.json.minJson jo).1.length + 1 < 2 ^ 64)
    (inRange : ResultsInRange results ((host.json.minJson jo).1.length + 1)) :
    ∃ calls,
      (∀ fuel, (host.json.minJson jo).1.length + 1 ≤ fuel →
        jsonObjectWriteCalls host results jo fuel = some (.ok calls)) ∧
      calls.flatMap (WriteCall.bytes (memory ((host.json.minJson jo).1 ++ [0]) beyond)) =
        (host.json.minJson jo).1 ++ [0] ∧
      calls.flatMap WriteCall.offsets = List.range ((host.json.minJson jo).1.length + 1) ∧
      (∀ call ∈ calls, call.output + call.len ≤ (host.json.minJson jo).1.length + 1) ∧
      jsonObjectWrite host results jo =
        .ok (calls.map (WriteCall.bytes (memory ((host.json.minJson jo).1 ++ [0]) beyond))) := by
  have length : ((host.json.minJson jo).1 ++ [0]).length =
      (host.json.minJson jo).1.length + 1 := by
    rw [List.length_append, List.length_singleton]
  have isLen := WriteLoop.start_len counted
  rw [← length] at inRange isLen ⊢
  have positive : 0 < ((host.json.minJson jo).1 ++ [0]).length := length ▸ Nat.zero_lt_succ _
  have isOffered : offeredTo results ((host.json.minJson jo).1 ++ [0]).length 0 =
      ((host.json.minJson jo).1 ++ [0]).length := rfl
  obtain ⟨calls, written⟩ :=
    writesOut_of_inRange beyond inRange _ positive isLen (Nat.zero_add _) isOffered
  have segments := written.segments
  simp only [Nat.zero_add] at segments
  refine ⟨calls, fun fuel enough => written.ends fuel (isLen.trans_le enough), ?_, ?_,
    written.within, segments⟩
  · rw [List.flatMap_def]
    exact writeRemaining_flatten segments
  · rw [List.range_eq_range', written.offsets, isLen]
    rfl

/-- A printer of empty arrays. -/
def emptyArrayHost : Host :=
  { testHost with json := { toJsonString := fun _ => clit "[ ]", minJson := fun _ => clit "[]" } }

theorem offeredTo_one (total index : Nat) :
    offeredTo (fun _ => some 1) total index = total - index := by
  induction index with
  | zero => rfl
  | succ index ih => rw [offeredTo, ih, Option.getD_some, Nat.sub_sub]

/-- An empty array, written one byte at a time. -/
theorem emptyArray_exact :
    ∃ calls,
      (∀ fuel, (emptyArrayHost.json.minJson (.array [])).1.length + 1 ≤ fuel →
        jsonObjectWriteCalls emptyArrayHost (fun _ => some 1) (.array []) fuel =
          some (.ok calls)) ∧
      calls.flatMap (WriteCall.bytes
          (memory ((emptyArrayHost.json.minJson (.array [])).1 ++ [0]) fun _ => 35)) =
        (emptyArrayHost.json.minJson (.array [])).1 ++ [0] ∧
      calls.flatMap WriteCall.offsets =
        List.range ((emptyArrayHost.json.minJson (.array [])).1.length + 1) ∧
      (∀ call ∈ calls,
        call.output + call.len ≤ (emptyArrayHost.json.minJson (.array [])).1.length + 1) ∧
      jsonObjectWrite emptyArrayHost (fun _ => some 1) (.array []) =
        .ok (calls.map (WriteCall.bytes
          (memory ((emptyArrayHost.json.minJson (.array [])).1 ++ [0]) fun _ => 35))) := by
  have length : (emptyArrayHost.json.minJson (.array [])).1.length = 2 := by decide
  refine jsonObjectWrite_exact emptyArrayHost (.array []) (fun _ => 35) (fun _ => some 1) ?_ ?_
  · rw [length]
    decide
  · intro index isOffered
    rw [offeredTo_one] at isOffered ⊢
    exact ⟨1, rfl, le_rfl, isOffered⟩

end Tchatator
