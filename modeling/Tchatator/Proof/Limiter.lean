/-
**What the limiter guarantees**, when each call is given the table the call before it left.

* `Clocked` — the times of a history are counted from the Epoch and do not go back;
* `nextRequestAt_eq_zero_iff` — a call passes when its address is new, or its bursts stay below both
  limits;
* **`passing_bounded`** — no window lets more calls of an address pass than a burst below the limit
  has: the calls of a window are a burst, and the last that passes bounds them all;
* `neverRefused_iff` — an address is never refused exactly when its bursts stay short, which is not a
  matter of the number of its requests in a window;
* **`keepers_never_refused_iff`** — so those who keep to the limits are refused in a burst that does
  not end.
-/

import Tchatator.Proof.Turnstile

namespace Tchatator

open Bursts

/-! ### Times -/

/-- **The times of a history**, as `time` returns them: seconds since the Epoch, the latest first. -/
structure Clocked (history : List Connection) : Prop where
  sinceEpoch : ∀ call ∈ history, 0 ≤ call.time
  nondecreasing : history.Pairwise fun later earlier => earlier.time ≤ later.time

section Times

variable {inAddr : Nat} {call : Connection} {earlier history : List Connection}

theorem Clocked.suffix (clocked : Clocked history) (suffix : earlier <:+ history) :
    Clocked earlier where
  sinceEpoch call member := clocked.sinceEpoch call (suffix.subset member)
  nondecreasing := clocked.nondecreasing.sublist suffix.sublist

theorem Clocked.latestFirst (clocked : Clocked history) (inAddr : Nat) :
    LatestFirst (timesOf inAddr history) :=
  List.pairwise_map.mpr (clocked.nondecreasing.sublist List.filter_sublist)

theorem Clocked.timesOf_nonneg (clocked : Clocked history) :
    ∀ time ∈ timesOf inAddr history, 0 ≤ time := by
  intro time member
  obtain ⟨call, isCall, rfl⟩ := List.mem_map.mp member
  exact clocked.sinceEpoch call (List.mem_of_mem_filter isCall)

/-- The calls of an address in a window are its times in it. -/
theorem countInWindow_eq (inAddr : Nat) (start width : Int) (history : List Connection) :
    countInWindow inAddr start width history =
      (window width start (timesOf inAddr history)).length := by
  rw [countInWindow, window, timesOf, List.filter_map, List.length_map, List.filter_filter]
  refine congrArg List.length (List.filter_congr fun call _ => ?_)
  simp [Bool.and_comm]

theorem countInWindow_sublist {inAddr : Nat} {start width : Int} {fewer more : List Connection}
    (sublist : fewer.Sublist more) :
    countInWindow inAddr start width fewer ≤ countInWindow inAddr start width more :=
  (sublist.filter _).length_le

/-- A call of another address, or of another time, is not counted. -/
theorem countInWindow_cons_of_not {start width : Int}
    (outside : ¬ (call.inAddr = inAddr ∧ start ≤ call.time ∧ call.time < start + width)) :
    countInWindow inAddr start width (call :: earlier) =
      countInWindow inAddr start width earlier := by
  rw [countInWindow, List.filter_cons_of_neg (by simpa using outside)]
  rfl

end Times

/-! ### Calls that pass -/

section Passing

variable {cfg : Cfg} {allocator : Allocator} {inAddr : Nat} {call : Connection}
  {earlier history : List Connection}

/-- The verdict on a request is `0` when both counters stay below the limits. -/
theorem verdict_eq_zero_iff {stats : UserStats} (sinceEpoch : 0 ≤ stats.lastRequestAt) (t : Int) :
    stats.verdict cfg t = 0 ↔
      (stats.request t).nRequestsM < cfg.rateLimitM ∧
        (stats.request t).nRequestsH < cfg.rateLimitH := by
  simp only [UserStats.verdict]
  split
  · omega
  · split <;> omega

/-- **A call passes** when its address is new, or its bursts, as counted, stay below the limits. -/
theorem nextRequestAt_eq_zero_iff (clocked : Clocked earlier) :
    nextRequestAt cfg allocator call earlier = 0 ↔
      timesOf call.inAddr earlier = [] ∨
        (wrap32 (burst 60 (call.time :: timesOf call.inAddr earlier)).length < cfg.rateLimitM ∧
          wrap32 (burst 3600 (call.time :: timesOf call.inAddr earlier)).length <
            cfg.rateLimitH) := by
  rcases nextRequestAt_cases cfg allocator call earlier with
    ⟨isNew, isZero⟩ | ⟨stats, isStats, isVerdict⟩
  · exact iff_of_true isZero (Or.inl isNew)
  · cases times : timesOf call.inAddr earlier with
    | nil =>
      rw [times] at isStats
      cases isStats
    | cons last rest =>
      have sinceEpoch : 0 ≤ last :=
        clocked.timesOf_nonneg last (times ▸ List.mem_cons_self)
      have updated := request_statsOfTimes isStats call.time
      rw [times] at isStats updated
      cases isStats
      have isRequest := (Option.some.inj updated).symm
      rw [isVerdict, verdict_eq_zero_iff sinceEpoch, isRequest, or_iff_right (List.cons_ne_nil _ _)]

theorem passingCalls_sublist (cfg : Cfg) (allocator : Allocator) (history : List Connection) :
    (passingCalls cfg allocator history).Sublist history := by
  induction history with
  | nil => exact List.Sublist.slnil
  | cons call earlier ih =>
    rw [passingCalls]
    split
    · exact ih.cons_cons call
    · exact ih.cons call

/-- **Few calls of a window pass**, if those that pass are new or end a burst below the limit. -/
theorem passing_in_window {width limit : Int} (clocked : Clocked history)
    (below : ∀ call earlier, (call :: earlier) <:+ history →
      nextRequestAt cfg allocator call earlier = 0 → timesOf call.inAddr earlier = [] ∨
        ((burst width (call.time :: timesOf call.inAddr earlier)).length : Int) < limit)
    (inAddr : Nat) (start : Int) :
    (countInWindow inAddr start width (passingCalls cfg allocator history) : Int) ≤
      max 1 (limit - 1) := by
  induction history with
  | nil =>
    show (0 : Int) ≤ _
    omega
  | cons call earlier ih =>
    have inEarlier := ih (clocked.suffix (List.suffix_cons call earlier))
      fun call' earlier' suffix => below call' earlier' (suffix.trans (List.suffix_cons _ _))
    rw [passingCalls]
    by_cases passes : nextRequestAt cfg allocator call earlier = 0
    · rw [if_pos passes]
      by_cases inside : call.inAddr = inAddr ∧ start ≤ call.time ∧ call.time < start + width
      · obtain ⟨rfl, _, within⟩ := inside
        have all : countInWindow call.inAddr start width
            (call :: passingCalls cfg allocator earlier) ≤
              countInWindow call.inAddr start width (call :: earlier) :=
          countInWindow_sublist ((passingCalls_sublist cfg allocator earlier).cons_cons call)
        have latestFirst := clocked.latestFirst call.inAddr
        have times : timesOf call.inAddr (call :: earlier) =
            call.time :: timesOf call.inAddr earlier := timesOf_cons_self rfl
        rw [countInWindow_eq _ _ _ (call :: earlier), times] at all
        rw [times] at latestFirst
        have inBurst := all.trans (window_le_burst latestFirst within)
        rcases below call earlier List.suffix_rfl passes with isNew | short
        · rw [isNew] at inBurst
          have isOne : (burst width [call.time]).length = 1 := rfl
          omega
        · omega
      · rw [countInWindow_cons_of_not inside]
        exact inEarlier
    · rw [if_neg passes]
      exact inEarlier

/-- A counter has not wrapped after a short history. -/
theorem wrap32_burst {width time : Int} (few : (call :: earlier).length < 2147483648) :
    wrap32 (burst width (time :: timesOf inAddr earlier)).length =
      ((burst width (time :: timesOf inAddr earlier)).length : Int) := by
  have bounded := burst_length_le width (time :: timesOf inAddr earlier)
  have length := timesOf_length_le inAddr earlier
  simp only [List.length_cons] at bounded few
  exact wrap32_eq_self_iff.mpr ⟨by unfold int32Min; omega, by unfold int32Max; omega⟩

/-- **A call that passes** in a short history is of a new address, or both its bursts are below the
limits. -/
theorem passes_below (clocked : Clocked history) (few : history.length < 2147483648)
    (suffix : (call :: earlier) <:+ history)
    (passes : nextRequestAt cfg allocator call earlier = 0) :
    timesOf call.inAddr earlier = [] ∨
      ((burst 60 (call.time :: timesOf call.inAddr earlier)).length : Int) < cfg.rateLimitM ∧
        ((burst 3600 (call.time :: timesOf call.inAddr earlier)).length : Int) <
          cfg.rateLimitH := by
  have clockedEarlier := clocked.suffix ((List.suffix_cons call earlier).trans suffix)
  have short := suffix.length_le.trans_lt few
  have below := (nextRequestAt_eq_zero_iff clockedEarlier).mp passes
  rwa [wrap32_burst short, wrap32_burst short] at below

/-- **The limiter is sound**: in every window of a minute and of an hour, fewer calls of an address
pass than the limit, or one. -/
theorem passing_bounded (cfg : Cfg) (allocator : Allocator) (clocked : Clocked history)
    (few : history.length < 2147483648) (inAddr : Nat) (start : Int) :
    (countInWindow inAddr start 60 (passingCalls cfg allocator history) : Int) ≤
        max 1 (cfg.rateLimitM - 1) ∧
      (countInWindow inAddr start 3600 (passingCalls cfg allocator history) : Int) ≤
        max 1 (cfg.rateLimitH - 1) := by
  constructor
  · refine passing_in_window clocked (fun call earlier suffix passes => ?_) inAddr start
    exact (passes_below clocked few suffix passes).imp_right And.left
  · refine passing_in_window clocked (fun call earlier suffix passes => ?_) inAddr start
    exact (passes_below clocked few suffix passes).imp_right And.right

end Passing

/-- Three calls of one address, the second of them two seconds after the first. -/
def threeCalls : List Connection := [⟨2130706433, 61⟩, ⟨2130706433, 2⟩, ⟨2130706433, 0⟩]

theorem threeCalls_clocked : Clocked threeCalls := ⟨by decide, by decide⟩

/-- Thirteen calls of one address, five seconds apart. -/
def hurriedCalls : List Connection :=
  (List.range 13).reverse.map fun (i : Nat) => ⟨2130706433, 5 * i⟩

/-- The last two are refused, and eleven of them pass within a minute. -/
theorem hurriedCalls_bounded :
    (passingCalls testCfg { moves := fun _ => false } hurriedCalls).length = 11 ∧
      (countInWindow 2130706433 0 60 (passingCalls testCfg { moves := fun _ => false }
        hurriedCalls) : Int) ≤ max 1 (testCfg.rateLimitM - 1) ∧
      (countInWindow 2130706433 0 3600 (passingCalls testCfg { moves := fun _ => false }
        hurriedCalls) : Int) ≤ max 1 (testCfg.rateLimitH - 1) := by
  have clocked : Clocked hurriedCalls := ⟨by decide, by decide⟩
  exact ⟨by decide, passing_bounded testCfg _ clocked (by decide) 2130706433 0⟩

/-! ### Those who keep to the limits -/

/-- An address makes no more requests in any window than the limits. -/
def KeepsLimits (cfg : Cfg) (inAddr : Nat) (history : List Connection) : Prop :=
  ∀ start, (countInWindow inAddr start 60 history : Int) ≤ cfg.rateLimitM ∧
    (countInWindow inAddr start 3600 history : Int) ≤ cfg.rateLimitH

/-- **An address is never refused.** -/
def NeverRefused (cfg : Cfg) (allocator : Allocator) (inAddr : Nat) (history : List Connection) :
    Prop :=
  ∀ call earlier, (call :: earlier) <:+ history → call.inAddr = inAddr →
    nextRequestAt cfg allocator call earlier = 0

/-- **The bursts of an address are short**: each of its requests but the first ends a run of requests
less than a minute apart that is below the limit per minute, and likewise for the hour. -/
def ShortBursts (cfg : Cfg) (inAddr : Nat) (history : List Connection) : Prop :=
  ∀ call earlier, (call :: earlier) <:+ history → call.inAddr = inAddr →
    timesOf inAddr earlier ≠ [] →
    ((burst 60 (timesOf inAddr (call :: earlier))).length : Int) < cfg.rateLimitM ∧
      ((burst 3600 (timesOf inAddr (call :: earlier))).length : Int) < cfg.rateLimitH

/-- The entry of an address counts, at each of its requests, no more requests than it has made in the
last minute and in the last hour. -/
def CountsRecent (cfg : Cfg) (allocator : Allocator) (inAddr : Nat) (history : List Connection) :
    Prop :=
  ∀ call earlier, (call :: earlier) <:+ history → call.inAddr = inAddr →
    ∃ stats, (turnstileAfter cfg allocator (call :: earlier)).stats inAddr = some stats ∧
      stats.nRequestsM ≤ (recent 60 call.time (timesOf inAddr (call :: earlier))).length ∧
      stats.nRequestsH ≤ (recent 3600 call.time (timesOf inAddr (call :: earlier))).length

/-- **The bursts of an address end in time**: at each of its requests, the run of requests less than a
minute apart began less than a minute ago, and likewise for the hour. -/
def RecentBursts (inAddr : Nat) (history : List Connection) : Prop :=
  ∀ call earlier, (call :: earlier) <:+ history → call.inAddr = inAddr →
    (∀ time ∈ burst 60 (timesOf inAddr (call :: earlier)), call.time - time < 60) ∧
      ∀ time ∈ burst 3600 (timesOf inAddr (call :: earlier)), call.time - time < 3600

section Keepers

variable {cfg : Cfg} {allocator : Allocator} {inAddr : Nat} {call : Connection}
  {earlier history : List Connection}

/-- The latest bursts are below the limits, or single requests. -/
theorem ShortBursts.latest (short : ShortBursts cfg inAddr history) :
    ((burst 60 (timesOf inAddr history)).length : Int) ≤ max 1 (cfg.rateLimitM - 1) ∧
      ((burst 3600 (timesOf inAddr history)).length : Int) ≤ max 1 (cfg.rateLimitH - 1) := by
  induction history with
  | nil =>
    show (0 : Int) ≤ _ ∧ (0 : Int) ≤ _
    omega
  | cons call earlier ih =>
    by_cases isAddr : call.inAddr = inAddr
    · cases isNew : timesOf inAddr earlier with
      | nil =>
        rw [timesOf_cons_self isAddr, isNew]
        show (1 : Int) ≤ _ ∧ (1 : Int) ≤ _
        omega
      | cons last rest =>
        have notNew : timesOf inAddr earlier ≠ [] := isNew ▸ List.cons_ne_nil last rest
        have below := short call earlier List.suffix_rfl isAddr notNew
        omega
    · rw [timesOf_cons_other isAddr]
      exact ih fun call' earlier' suffix => short call' earlier' (suffix.trans (List.suffix_cons _ _))

/-- **An address is never refused exactly when its bursts are short.** A burst grows by one request at
a time, so that its counter passes the limit before it wraps. -/
theorem neverRefused_iff (clocked : Clocked history)
    (isInt : cfg.rateLimitM ≤ int32Max ∧ cfg.rateLimitH ≤ int32Max) :
    NeverRefused cfg allocator inAddr history ↔ ShortBursts cfg inAddr history := by
  unfold int32Max at isInt
  constructor
  · intro never
    induction history with
    | nil =>
      intro call earlier suffix
      cases suffix.length_le
    | cons latest before ih =>
      have beforeShort := ih (clocked.suffix (List.suffix_cons _ _)) fun call' earlier' suffix =>
        never call' earlier' (suffix.trans (List.suffix_cons _ _))
      intro call earlier suffix isAddr notNew
      rcases List.suffix_cons_iff.mp suffix with same | suffix
      · obtain ⟨rfl, rfl⟩ := List.cons.inj same
        subst isAddr
        have passes := (nextRequestAt_eq_zero_iff (clocked.suffix (List.suffix_cons _ _))).mp
          (never call earlier List.suffix_rfl rfl)
        obtain ⟨latestM, latestH⟩ := beforeShort.latest
        have growsM := burst_cons_le 60 call.time (timesOf call.inAddr earlier)
        have growsH := burst_cons_le 3600 call.time (timesOf call.inAddr earlier)
        rw [timesOf_cons_self rfl]
        have below := passes.resolve_left notNew
        unfold wrap32 at below
        omega
      · exact beforeShort call earlier suffix isAddr notNew
  · intro short call earlier suffix isAddr
    subst isAddr
    refine (nextRequestAt_eq_zero_iff (clocked.suffix
      ((List.suffix_cons _ _).trans suffix))).mpr ?_
    refine or_iff_not_imp_left.mpr fun notNew => ?_
    have below := short call earlier suffix rfl notNew
    rw [timesOf_cons_self rfl] at below
    unfold wrap32
    omega

/-- **The counters count recent requests exactly when the bursts are recent.** -/
theorem countsRecent_iff (clocked : Clocked history) (few : history.length < 2147483648) :
    CountsRecent cfg allocator inAddr history ↔ RecentBursts inAddr history := by
  refine forall₄_congr fun call earlier suffix isAddr => ?_
  subst isAddr
  have here := clocked.suffix suffix
  have latestFirst := here.latestFirst call.inAddr
  have after : ∀ time ∈ timesOf call.inAddr (call :: earlier), time ≤ call.time := by
    intro time member
    rw [timesOf_cons_self rfl] at latestFirst member
    rcases List.mem_cons.mp member with rfl | member
    · exact le_refl _
    · exact (List.pairwise_cons.mp latestFirst).1 time member
  have isStats := (stats_turnstileAfter cfg allocator (call :: earlier)).2 call.inAddr
  have short := suffix.length_le.trans_lt few
  rw [← burst_le_recent_iff latestFirst after, ← burst_le_recent_iff latestFirst after, isStats,
    timesOf_cons_self rfl]
  simp only [statsOfTimes, wrap32_burst short]
  constructor
  · rintro ⟨_, ⟨⟩, minute, hour⟩
    exact ⟨Int.ofNat_le.mp minute, Int.ofNat_le.mp hour⟩
  · rintro ⟨minute, hour⟩
    exact ⟨_, rfl, Int.ofNat_le.mpr minute, Int.ofNat_le.mpr hour⟩

/-- **Those who keep to the limits are never refused exactly when their bursts are short**, and the
counters are the documented ones exactly when the bursts are recent. -/
theorem keepers_never_refused_iff (cfg : Cfg) (allocator : Allocator) (inAddr : Nat)
    (clocked : Clocked history)
    (isInt : cfg.rateLimitM ≤ int32Max ∧ cfg.rateLimitH ≤ int32Max) :
    ((KeepsLimits cfg inAddr history → NeverRefused cfg allocator inAddr history) ↔
      (KeepsLimits cfg inAddr history → ShortBursts cfg inAddr history)) ∧
    (history.length < 2147483648 →
      (CountsRecent cfg allocator inAddr history ↔ RecentBursts inAddr history)) :=
  ⟨imp_congr_right fun _ => neverRefused_iff clocked isInt, countsRecent_iff clocked⟩

end Keepers

/-- The three calls are within the limits, and none is refused. -/
theorem threeCalls_never_refused :
    ((KeepsLimits testCfg 2130706433 threeCalls →
        NeverRefused testCfg { moves := fun _ => false } 2130706433 threeCalls) ↔
      (KeepsLimits testCfg 2130706433 threeCalls →
        ShortBursts testCfg 2130706433 threeCalls)) ∧
    (threeCalls.length < 2147483648 →
      (CountsRecent testCfg { moves := fun _ => false } 2130706433 threeCalls ↔
        RecentBursts 2130706433 threeCalls)) :=
  keepers_never_refused_iff testCfg _ 2130706433 threeCalls_clocked (by decide)

/-- Twelve calls of one address, 59 seconds apart. -/
def steadyCalls : List Connection :=
  (List.range 12).reverse.map fun (i : Nat) => ⟨2130706433, 59 * i⟩

/-- Two of them at most are within a minute, of twelve that are allowed; the last is refused all the
same, and the counter stands at twelve. -/
theorem steadyCalls_refused :
    Clocked steadyCalls ∧ KeepsLimits testCfg 2130706433 steadyCalls ∧
      ¬ NeverRefused testCfg { moves := fun _ => false } 2130706433 steadyCalls ∧
      ¬ CountsRecent testCfg { moves := fun _ => false } 2130706433 steadyCalls := by
  have clocked : Clocked steadyCalls := ⟨by decide, by decide⟩
  have counted (start width : Int) :
      countInWindow 2130706433 start width steadyCalls ≤ 12 := List.length_filter_le _ _
  have latest : (⟨2130706433, 649⟩ :: steadyCalls.tail) <:+ steadyCalls := List.suffix_rfl
  refine ⟨clocked, fun start => ⟨?_, ?_⟩, fun never => ?_, fun counts => ?_⟩
  · exact Int.ofNat_le.mpr (counted start 60)
  · have allowed : (12 : Int) ≤ testCfg.rateLimitH := by decide
    exact (Int.ofNat_le.mpr (counted start 3600)).trans allowed
  · have short := (neverRefused_iff clocked (by decide)).mp never
    exact absurd (short _ _ latest rfl (by decide)).1 (by decide)
  · have inTime := (countsRecent_iff clocked (by decide)).mp counts
    exact absurd ((inTime _ _ latest rfl).1 0) (by decide)

end Tchatator
