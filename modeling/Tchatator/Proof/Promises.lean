/-
**The time a refused client is told** (`turnstile_rate_limit`, `response_for_rate_limit`).

* `nextRequestAt_again` — when a call passes that an address makes some seconds after a refused one;
* `PromiseKept` — the time that is promised lies ahead, and a call from then on passes, whoever else
  calls in between;
* **`promiseKept_iff`** — the wait that is promised starts at the request before the refused one, and
  the counters at the refused one: they agree when both came in the same second.
-/

import Tchatator.Proof.Limiter

namespace Tchatator

open Bursts

/-! ### The next call -/

/-- A counter stays below a limit at a further request. It wraps at `2 ^ 31`. -/
def CounterHasRoom (counter limit : Int) : Prop := wrap32 (counter + 1) < limit

instance (counter limit : Int) : Decidable (CounterHasRoom counter limit) :=
  inferInstanceAs (Decidable (wrap32 (counter + 1) < limit))

section Promises

variable {cfg : Cfg} {allocator : Allocator} {call : Connection} {earlier between : List Connection}
  {stats : UserStats}

/-- The entry of an address is not changed by the calls of others. -/
theorem timesOf_between {inAddr : Nat} (others : ∀ other ∈ between, other.inAddr ≠ inAddr) :
    timesOf inAddr (between ++ earlier) = timesOf inAddr earlier := by
  induction between with
  | nil => rfl
  | cons other between ih =>
    rw [List.cons_append, timesOf_cons_other (others other List.mem_cons_self)]
    exact ih fun later member => others later (List.mem_cons_of_mem _ member)

/-- **A call after a refused one** passes when the counters have been reset or have room. -/
theorem nextRequestAt_again (limits : 2 ≤ cfg.rateLimitM ∧ 2 ≤ cfg.rateLimitH)
    (sinceEpoch : 0 ≤ call.time)
    (isStats : statsOfTimes (timesOf call.inAddr earlier) = some stats)
    (others : ∀ other ∈ between, other.inAddr ≠ call.inAddr) (t : Int) :
    nextRequestAt cfg allocator ⟨call.inAddr, t⟩ (between ++ call :: earlier) = 0 ↔
      (60 ≤ t - call.time ∨ CounterHasRoom (stats.request call.time).nRequestsM cfg.rateLimitM) ∧
        (3600 ≤ t - call.time ∨
          CounterHasRoom (stats.request call.time).nRequestsH cfg.rateLimitH) := by
  have updated : statsOfTimes (timesOf call.inAddr (between ++ call :: earlier)) =
      some (stats.request call.time) := by
    rw [timesOf_between others, timesOf_cons_self rfl, request_statsOfTimes isStats]
  rcases nextRequestAt_cases cfg allocator ⟨call.inAddr, t⟩ (between ++ call :: earlier) with
    ⟨isNew, _⟩ | ⟨other, isOther, isVerdict⟩
  · rw [isNew] at updated
    cases updated
  · cases updated.symm.trans isOther
    rw [isVerdict, verdict_eq_zero_iff sinceEpoch]
    have isOne : wrap32 (0 + 1) = 1 := rfl
    have resets (width counter limit : Int) (two : 2 ≤ limit) :
        wrap32 ((if width ≤ t - call.time then 0 else counter) + 1) < limit ↔
          width ≤ t - call.time ∨ CounterHasRoom counter limit := by
      by_cases gap : width ≤ t - call.time
      · rw [if_pos gap, isOne]
        exact iff_of_true (by omega) (Or.inl gap)
      · rw [if_neg gap, or_iff_right gap]
        rfl
    exact and_congr (resets 60 _ _ limits.1) (resets 3600 _ _ limits.2)

/-! ### Promises -/

/-- **What a refused client is promised is kept**: the time lies ahead, and the next call of the
address passes if it comes then or later. -/
def PromiseKept (cfg : Cfg) (allocator : Allocator) (call : Connection)
    (earlier : List Connection) : Prop :=
  call.time < nextRequestAt cfg allocator call earlier ∧
    ∀ between t, (∀ other ∈ between, Connection.inAddr other ≠ call.inAddr) →
      Clocked (⟨call.inAddr, t⟩ :: (between ++ call :: earlier)) →
      nextRequestAt cfg allocator call earlier ≤ t →
      nextRequestAt cfg allocator ⟨call.inAddr, t⟩ (between ++ call :: earlier) = 0

/-- **The entry of an address and the time of its refused request allow the promise**: by the rule of
the minute, the request before came in the same second, and the counter of the hour has room; by the
rule of the hour, the request before came in the same second. A counter at the limit has room only
where it wraps. -/
def AllowsPromise (cfg : Cfg) (stats : UserStats) (t : Int) : Prop :=
  let after := stats.request t
  if cfg.rateLimitM ≤ after.nRequestsM then
    (t = stats.lastRequestAt ∨ CounterHasRoom after.nRequestsM cfg.rateLimitM) ∧
      CounterHasRoom after.nRequestsH cfg.rateLimitH
  else
    (t = stats.lastRequestAt ∨ CounterHasRoom after.nRequestsH cfg.rateLimitH) ∧
      (t - stats.lastRequestAt ≤ 3540 ∨ CounterHasRoom after.nRequestsM cfg.rateLimitM)

/-- A counter is at a limit of two or more only within its width. -/
theorem request_near (limits : 2 ≤ cfg.rateLimitM ∧ 2 ≤ cfg.rateLimitH) (t : Int) :
    (cfg.rateLimitM ≤ (stats.request t).nRequestsM → t - stats.lastRequestAt < 60) ∧
      (cfg.rateLimitH ≤ (stats.request t).nRequestsH → t - stats.lastRequestAt < 3600) := by
  have resets (width counter limit : Int) (two : 2 ≤ limit)
      (reached : limit ≤ wrap32 ((if width ≤ t - stats.lastRequestAt then 0 else counter) + 1)) :
      t - stats.lastRequestAt < width := by
    by_contra gap
    rw [if_pos (Int.not_lt.mp gap)] at reached
    have isOne : wrap32 (0 + 1) = 1 := rfl
    omega
  exact ⟨resets 60 _ _ limits.1, resets 3600 _ _ limits.2⟩

/-- The latest request of an address is not in the future. -/
theorem lastRequestAt_le (clocked : Clocked (call :: earlier))
    (isStats : statsOfTimes (timesOf call.inAddr earlier) = some stats) :
    stats.lastRequestAt ≤ call.time := by
  have latestFirst := clocked.latestFirst call.inAddr
  rw [timesOf_cons_self rfl] at latestFirst
  cases times : timesOf call.inAddr earlier with
  | nil =>
    rw [times] at isStats
    cases isStats
  | cons last rest =>
    rw [times] at isStats latestFirst
    cases isStats
    exact (List.pairwise_cons.mp latestFirst).1 last List.mem_cons_self

/-- **Every call from a time on passes when one at that time does**, and nobody calls before it. -/
theorem passes_from_iff (clocked : Clocked (call :: earlier))
    (limits : 2 ≤ cfg.rateLimitM ∧ 2 ≤ cfg.rateLimitH)
    (isStats : statsOfTimes (timesOf call.inAddr earlier) = some stats) {n : Int}
    (ahead : call.time < n) :
    (∀ between t, (∀ other ∈ between, Connection.inAddr other ≠ call.inAddr) →
        Clocked (⟨call.inAddr, t⟩ :: (between ++ call :: earlier)) → n ≤ t →
        nextRequestAt cfg allocator ⟨call.inAddr, t⟩ (between ++ call :: earlier) = 0) ↔
      (60 ≤ n - call.time ∨
          CounterHasRoom (stats.request call.time).nRequestsM cfg.rateLimitM) ∧
        (3600 ≤ n - call.time ∨
          CounterHasRoom (stats.request call.time).nRequestsH cfg.rateLimitH) := by
  have sinceEpoch : 0 ≤ call.time := clocked.sinceEpoch call List.mem_cons_self
  constructor
  · intro passes
    have notBefore : ∀ other ∈ call :: earlier, other.time ≤ n := by
      intro other member
      rcases List.mem_cons.mp member with rfl | member
      · exact ahead.le
      · exact ((List.pairwise_cons.mp clocked.nondecreasing).1 other member).trans ahead.le
    have atOnce : Clocked (⟨call.inAddr, n⟩ :: call :: earlier) :=
      { sinceEpoch := List.forall_mem_cons.mpr ⟨sinceEpoch.trans ahead.le, clocked.sinceEpoch⟩
        nondecreasing := List.pairwise_cons.mpr ⟨notBefore, clocked.nondecreasing⟩ }
    have nobody : ∀ other ∈ ([] : List Connection), other.inAddr ≠ call.inAddr := fun _ => nofun
    exact (nextRequestAt_again limits sinceEpoch isStats nobody n).mp
      (passes [] n nobody atOnce (le_refl n))
  · rintro ⟨minute, hour⟩ between t others _ later
    refine (nextRequestAt_again limits sinceEpoch isStats others t).mpr ⟨?_, ?_⟩
    · exact minute.imp_left fun reset => by omega
    · exact hour.imp_left fun reset => by omega

/-- **A promise is kept exactly when the entry of the address allows it.** -/
theorem promiseKept_iff (cfg : Cfg) (allocator : Allocator) (clocked : Clocked (call :: earlier))
    (limits : 2 ≤ cfg.rateLimitM ∧ 2 ≤ cfg.rateLimitH)
    (refused : 0 < nextRequestAt cfg allocator call earlier) :
    PromiseKept cfg allocator call earlier ↔
      ∃ stats, (turnstileAfter cfg allocator earlier).stats call.inAddr = some stats ∧
        AllowsPromise cfg stats call.time := by
  rw [(stats_turnstileAfter cfg allocator earlier).2]
  rcases nextRequestAt_cases cfg allocator call earlier with
    ⟨_, isZero⟩ | ⟨stats, isStats, isVerdict⟩
  · omega
  have only : (∃ other, statsOfTimes (timesOf call.inAddr earlier) = some other ∧
      AllowsPromise cfg other call.time) ↔ AllowsPromise cfg stats call.time := by
    rw [isStats]
    exact ⟨fun ⟨_, same, allows⟩ => Option.some.inj same ▸ allows, fun allows => ⟨_, rfl, allows⟩⟩
  have notFuture := lastRequestAt_le clocked isStats
  obtain ⟨nearMinute, nearHour⟩ := request_near limits call.time
  rw [only, PromiseKept, AllowsPromise, isVerdict]
  rw [isVerdict] at refused
  unfold UserStats.verdict at refused ⊢
  by_cases minute : cfg.rateLimitM ≤ (stats.request call.time).nRequestsM
  · have near := nearMinute minute
    simp only [if_pos minute]
    rw [and_iff_right (by omega), passes_from_iff clocked limits isStats (by omega)]
    refine and_congr (or_congr_left ?_) (or_iff_right ?_) <;> omega
  by_cases hour : cfg.rateLimitH ≤ (stats.request call.time).nRequestsH
  · have near := nearHour hour
    simp only [if_neg minute, if_pos hour]
    rw [and_iff_right (by omega), passes_from_iff clocked limits isStats (by omega), and_comm]
    refine and_congr (or_congr_left ?_) (or_congr_left ?_) <;> omega
  · simp only [if_neg minute, if_neg hour] at refused
    omega

end Promises

/-- Eleven calls of one address in one second. -/
def elevenCalls : List Connection := List.replicate 11 ⟨2130706433, 0⟩

/-- The twelfth is refused, and its promise is kept. -/
theorem twelfthCall_promise_kept :
    0 < nextRequestAt testCfg { moves := fun _ => false } ⟨2130706433, 0⟩ elevenCalls ∧
      PromiseKept testCfg { moves := fun _ => false } ⟨2130706433, 0⟩ elevenCalls :=
  have refused :
      0 < nextRequestAt testCfg { moves := fun _ => false } ⟨2130706433, 0⟩ elevenCalls := by decide
  ⟨refused, (promiseKept_iff testCfg _ ⟨by decide, by decide⟩ (by decide) refused).mpr
    ⟨⟨0, 11, 11⟩, by decide, Or.inl rfl, by decide⟩⟩

/-- Of twelve calls that are 59 seconds apart, the last is refused at 649 and told to come back at
650, and refused again. -/
theorem steadyCalls_promise_broken :
    Clocked steadyCalls ∧
      nextRequestAt testCfg { moves := fun _ => false } ⟨2130706433, 649⟩ steadyCalls.tail = 650 ∧
      ¬ PromiseKept testCfg { moves := fun _ => false } ⟨2130706433, 649⟩ steadyCalls.tail := by
  have again : Clocked (⟨2130706433, 650⟩ :: steadyCalls) := ⟨by decide, by decide⟩
  have promised : nextRequestAt testCfg { moves := fun _ => false } ⟨2130706433, 649⟩
      steadyCalls.tail = 650 := by decide
  refine ⟨again.suffix (List.suffix_cons _ _), promised, fun kept => ?_⟩
  have passes := kept.2 [] 650 (fun _ => nofun) again (promised ▸ le_refl _)
  exact absurd passes (by decide)

end Tchatator
