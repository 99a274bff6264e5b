import BrokerClient.Backoff
import Mathlib.Data.Rat.Floor
import Mathlib.Tactic.Linarith
import Mathlib.Tactic.Ring
import Mathlib.Tactic.NormNum
import Mathlib.Algebra.Order.Floor.Semifield

/-!
# How waits grow

In exact arithmetic the wait after `n` failures in a row lies within the random share of a base
(`Waits`).  The base is the cool-down once the circuit is open.  Before, it is the first wait times
a power of the multiplier, cut to whole milliseconds, but no more than the cap.

The power is that of `n - 1`, but never more than `steepest`.  For a multiplier of two that is
beyond any cap, so that the waits grow until they reach it.  A multiplier near one may not have
reached the cap by then, and the waits stay below it for good.
-/

namespace BrokerClient

open DelayArithmetic

namespace Backoff

/-! ## The arithmetic of rationals -/

theorem least_eq (a b : ℚ) : least a b = min a b :=
  (min_def a b).symm

theorem greatest_eq (a b : ℚ) : greatest a b = max a b :=
  (max_def a b).symm

theorem ofNat_eq (n : ℕ) : (DelayArithmetic.ofNat n : ℚ) = n :=
  rfl

/-- A value that fits a word is cut to its whole part. -/
theorem toWord_eq {x : ℚ} (hlt : x < UInt64.size) : toWord x = ⌊x⌋₊ := by
  have hfloor : ⌊x⌋₊ < UInt64.size := Nat.floor_lt' (by decide) |>.mpr hlt
  have hword : toWord x = min ⌊x⌋₊ (UInt64.size - 1) := rfl
  rw [hword]
  omega

/-- Squaring goes on from the power so far. -/
theorem powerFrom_eq (product base : ℚ) (n : ℕ) :
    powerFrom product base n = product * base ^ n := by
  induction n using Nat.strong_induction_on generalizing product base with
  | _ n ih =>
      -- The rest of the power is a power of the square, with half the exponent.
      have hsquares : (base * base) ^ (n / 2) = base ^ (2 * (n / 2)) := by rw [pow_mul, sq]
      rw [powerFrom]
      split_ifs with hsmall hodd hodd
      · obtain rfl : n = 1 := by omega
        rw [pow_one]
      · obtain rfl : n = 0 := by omega
        rw [pow_zero, mul_one]
      · have hhalves : n = 2 * (n / 2) + 1 := by omega
        rw [ih (n / 2) (by omega), hsquares, mul_assoc, ← pow_succ', ← hhalves]
      · have hhalves : n = 2 * (n / 2) := by omega
        rw [ih (n / 2) (by omega), hsquares, ← hhalves]

theorem power_eq (base : ℚ) (n : ℕ) : power base n = base ^ n := by
  rw [power, powerFrom_eq, ofNat_eq, Nat.cast_one, one_mul]

/-! ## Rows of failures -/

/-- What is asked of a back-off. -/
inductive Call where
  /-- The wait after a failure, with the draw for its random share. -/
  | next (draw : ℚ)
  | reset

/-- The back-off after a call. -/
def afterCall (b : Backoff ℚ) : Call → Backoff ℚ
  | .next draw => (b.next draw).2
  | .reset => b.reset

/-- The back-off after one call after the other. -/
def after (b : Backoff ℚ) (calls : List Call) : Backoff ℚ :=
  calls.foldl afterCall b

/-- The row of failures with one more call. -/
def lengthen (row : ℕ) : Call → ℕ
  | .next _ => row + 1
  | .reset => 0

/-- The number of waits that were asked for since the beginning or the last reset. -/
def rowOf (calls : List Call) : ℕ :=
  calls.foldl lengthen 0

theorem policy_after (b : Backoff ℚ) (calls : List Call) : (b.after calls).policy = b.policy := by
  induction calls generalizing b with
  | nil => rfl
  | cons call calls ih => cases call <;> exact ih _

/-- A call keeps the count of failures at the length of the row, up to the limit. -/
theorem failures_afterCall {b : Backoff ℚ} {row : ℕ} (hrow : b.failures = min row countLimit)
    (call : Call) : (b.afterCall call).failures = min (lengthen row call) countLimit := by
  cases call with
  | next draw =>
      change min (b.failures + 1) countLimit = min (row + 1) countLimit
      omega
  | reset => rfl

/-- The count of failures is the length of the row, up to the limit. -/
theorem failures_after (policy : BackoffPolicy ℚ) (calls : List Call) :
    ((new policy).after calls).failures = min (rowOf calls) countLimit := by
  suffices ∀ (b : Backoff ℚ) (row : ℕ), b.failures = min row countLimit →
      (b.after calls).failures = min (calls.foldl lengthen row) countLimit from
    this (new policy) 0 rfl
  induction calls with
  | nil => exact fun b row hrow => hrow
  | cons call calls ih =>
      exact fun b row hrow => ih (b.afterCall call) _ (failures_afterCall hrow call)

/-! ## The base of a wait -/

/-- Policies whose waits grow from at least a millisecond, with a random share that is no more than
the wait, and whose durations are whole numbers of milliseconds that a double can hold. -/
structure Sane (policy : BackoffPolicy ℚ) : Prop where
  one_le_multiplier : 1 ≤ policy.multiplier
  jitter_nonneg : 0 ≤ policy.jitter
  jitter_le_one : policy.jitter ≤ 1
  one_le_initial : 1 ≤ policy.initial.millis
  initial_lt : policy.initial.millis < 2 ^ 53
  max_lt : policy.max.millis < 2 ^ 53
  cooldown_lt : policy.cooldown.millis < 2 ^ 53

/-- The first wait after it has grown so many times, no more than the cap, in whole milliseconds. -/
def grown (policy : BackoffPolicy ℚ) (times : ℕ) : ℕ :=
  ⌊min (policy.initial.millis * policy.multiplier ^ times) (policy.max.millis : ℚ)⌋₊

/-- Whether so many failures in a row open the circuit. -/
def Opens (policy : BackoffPolicy ℚ) (n : ℕ) : Prop :=
  0 < policy.threshold ∧ policy.threshold.toNat ≤ n

instance (policy : BackoffPolicy ℚ) (n : ℕ) : Decidable (Opens policy n) :=
  inferInstanceAs (Decidable (_ ∧ _))

/-- The wait before the random share after `n` failures in a row, if it has grown so many times. -/
def baseAfter (policy : BackoffPolicy ℚ) (n times : ℕ) : ℕ :=
  if Opens policy n then policy.cooldown.millis else grown policy times

/-- The wait grows no more often than this. -/
def steepest : ℕ := 63

variable {policy : BackoffPolicy ℚ} {n times : ℕ}

theorem grown_le_max (policy : BackoffPolicy ℚ) (times : ℕ) :
    grown policy times ≤ policy.max.millis := by
  have hcap : grown policy times ≤ ⌊(policy.max.millis : ℚ)⌋₊ := Nat.floor_mono (min_le_right _ _)
  rwa [Nat.floor_natCast] at hcap

theorem Sane.baseAfter_lt (hsane : Sane policy) (n times : ℕ) :
    baseAfter policy n times < 2 ^ 53 := by
  rw [baseAfter]
  split_ifs
  · exact hsane.cooldown_lt
  · exact lt_of_le_of_lt (grown_le_max policy times) hsane.max_lt

/-- Once the cap is reached the wait stays there. -/
theorem Sane.grown_eq_of_max_le (hsane : Sane policy)
    (hmax : (policy.max.millis : ℚ) ≤ policy.initial.millis * policy.multiplier ^ times)
    {later : ℕ} (hlater : times ≤ later) : grown policy later = grown policy times := by
  have hmore : (policy.initial.millis * policy.multiplier ^ times : ℚ)
      ≤ policy.initial.millis * policy.multiplier ^ later :=
    mul_le_mul_of_nonneg_left (pow_le_pow_right₀ hsane.one_le_multiplier hlater) (Nat.cast_nonneg _)
  rw [grown, grown, min_eq_right hmax, min_eq_right (hmax.trans hmore)]

/-- A wait that doubles has reached the cap when it stops to grow. -/
theorem Sane.max_le_of_two_le (hsane : Sane policy) (htwo : 2 ≤ policy.multiplier) :
    (policy.max.millis : ℚ) ≤ policy.initial.millis * policy.multiplier ^ steepest := by
  have hmax : (policy.max.millis : ℚ) ≤ 2 ^ 63 := by
    have hlt := hsane.max_lt
    exact_mod_cast (show policy.max.millis ≤ 2 ^ 63 by omega)
  calc (policy.max.millis : ℚ)
      ≤ 2 ^ steepest := hmax
    _ ≤ policy.multiplier ^ steepest := pow_le_pow_left₀ (by norm_num) htwo steepest
    _ ≤ policy.initial.millis * policy.multiplier ^ steepest :=
        le_mul_of_one_le_left (pow_nonneg (zero_le_two.trans htwo) _)
          (by exact_mod_cast hsane.one_le_initial)

theorem isCircuitOpen_iff (b : Backoff ℚ) : b.isCircuitOpen = true ↔ Opens b.policy b.failures := by
  simp [isCircuitOpen, Opens]

theorem Sane.baseMillis_eq {b : Backoff ℚ} (hsane : Sane b.policy) :
    b.baseMillis = baseAfter b.policy b.failures (min (b.failures - 1) steepest) := by
  have hword : min (b.policy.initial.millis * b.policy.multiplier ^ min (b.failures - 1) steepest)
      (b.policy.max.millis : ℚ) < UInt64.size := by
    refine lt_of_le_of_lt (min_le_right _ _) ?_
    have hlt := hsane.max_lt
    exact_mod_cast (show b.policy.max.millis < UInt64.size by rw [UInt64.size]; omega)
  rw [baseMillis, baseAfter]
  simp only [isCircuitOpen_iff, least_eq, ofNat_eq, power_eq]
  rw [grown, ← toWord_eq hword]
  rfl

/-! ## The random share -/

/-- The wait with the random share that a draw stands for. -/
def shared (jitter base draw : ℚ) : ℚ :=
  base + (draw * 2 - 1) * jitter * base

section Shared

variable {jitter base draw : ℚ}

theorem le_shared (hjitter : 0 ≤ jitter) (hbase : 0 ≤ base) (hdraw : 0 ≤ draw) :
    (1 - jitter) * base ≤ shared jitter base draw := by
  have hshare : 0 ≤ draw * 2 * (jitter * base) := by positivity
  rw [shared]
  linarith

theorem shared_le (hjitter : 0 ≤ jitter) (hbase : 0 ≤ base) (hdraw : draw < 1) :
    shared jitter base draw ≤ (1 + jitter) * base := by
  have hshare : 0 ≤ (1 - draw) * 2 * (jitter * base) := by
    have := sub_nonneg.mpr hdraw.le
    positivity
  rw [shared]
  linarith

end Shared

/-- What is told is the whole part of the base with its random share. -/
theorem Sane.delayMillis_eq {b : Backoff ℚ} (hsane : Sane b.policy) {draw : ℚ} (hnonneg : 0 ≤ draw)
    (hlt : draw < 1) (hbase : b.baseMillis < 2 ^ 53) :
    b.delayMillis draw = ⌊shared b.policy.jitter b.baseMillis draw⌋₊ := by
  have hcast : (b.baseMillis : ℚ) < 2 ^ 53 := by exact_mod_cast hbase
  have hzero : (0 : ℚ) ≤ b.baseMillis := Nat.cast_nonneg _
  have hshared : 0 ≤ shared b.policy.jitter b.baseMillis draw :=
    (mul_nonneg (sub_nonneg.mpr hsane.jitter_le_one) hzero).trans
      (le_shared hsane.jitter_nonneg hzero hnonneg)
  have hword : shared b.policy.jitter b.baseMillis draw < UInt64.size := by
    have htwice : (1 + b.policy.jitter) * b.baseMillis ≤ 2 * b.baseMillis :=
      mul_le_mul_of_nonneg_right (by linarith [hsane.jitter_le_one]) hzero
    have hsize : (2 * 2 ^ 53 : ℚ) < UInt64.size := by norm_num [UInt64.size]
    linarith [shared_le hsane.jitter_nonneg hzero hlt]
  have hmax : max (shared b.policy.jitter b.baseMillis draw) 0
      = shared b.policy.jitter b.baseMillis draw := max_eq_left hshared
  rw [← toWord_eq hword, ← hmax, ← greatest_eq]
  rfl

/-! ## The law of waits -/

/-- What a wait has to be like that ends a row of `n` failures, if it has grown so many times: the
row is counted, the circuit is open from the threshold on, and the wait lies within the random share
of its base. -/
structure Waits (policy : BackoffPolicy ℚ) (n times : ℕ) (told : ℕ × Backoff ℚ) : Prop where
  failures_eq : told.2.failures = n
  isCircuitOpen_iff : told.2.isCircuitOpen = true ↔ Opens policy n
  le_wait : ⌊(1 - policy.jitter) * baseAfter policy n times⌋₊ ≤ told.1
  wait_le : told.1 ≤ ⌊(1 + policy.jitter) * baseAfter policy n times⌋₊

/-- A failure that makes a row of `n` is waited for with the base of that row. -/
theorem Sane.next_waits {b : Backoff ℚ} (hsane : Sane b.policy) {draw : ℚ} (hnonneg : 0 ≤ draw)
    (hlt : draw < 1) (hrow : b.fail.failures = n) :
    Waits b.policy n (min (n - 1) steepest) (b.next draw) := by
  have hbase : b.fail.baseMillis = baseAfter b.policy n (min (n - 1) steepest) := by
    rw [← hrow]
    exact Sane.baseMillis_eq (b := b.fail) hsane
  have hwait : (b.next draw).1
      = ⌊shared b.policy.jitter (baseAfter b.policy n (min (n - 1) steepest) : ℚ) draw⌋₊ := by
    rw [← hbase]
    exact Sane.delayMillis_eq (b := b.fail) hsane hnonneg hlt (hbase ▸ hsane.baseAfter_lt _ _)
  refine ⟨hrow, ?_, ?_, ?_⟩
  · rw [← hrow]
    exact Backoff.isCircuitOpen_iff b.fail
  · rw [hwait]
    exact Nat.floor_mono (le_shared hsane.jitter_nonneg (Nat.cast_nonneg _) hnonneg)
  · rw [hwait]
    exact Nat.floor_mono (shared_le hsane.jitter_nonneg (Nat.cast_nonneg _) hlt)

/-- Whatever was asked before, the next wait is that of the row which it makes longer. -/
theorem Sane.next_after_waits (hsane : Sane policy) (calls : List Call) {draw : ℚ}
    (hnonneg : 0 ≤ draw) (hlt : draw < 1) (hrow : rowOf calls + 1 ≤ countLimit) :
    Waits policy (rowOf calls + 1) (min (rowOf calls) steepest)
      (((new policy).after calls).next draw) := by
  have hpolicy : ((new policy).after calls).policy = policy := policy_after (new policy) calls
  have hcount : ((new policy).after calls).fail.failures = rowOf calls + 1 := by
    change min (((new policy).after calls).failures + 1) countLimit = rowOf calls + 1
    rw [failures_after]
    omega
  have hwaits := Sane.next_waits (hpolicy.symm ▸ hsane) hnonneg hlt hcount
  rwa [hpolicy, Nat.add_sub_cancel] at hwaits

/-- Growing is only seen in the base. -/
theorem Waits.of_grown_eq {told : ℕ × Backoff ℚ} {later : ℕ} (hwaits : Waits policy n times told)
    (hgrown : grown policy later = grown policy times) : Waits policy n later told := by
  have hbase : baseAfter policy n later = baseAfter policy n times := by
    rw [baseAfter, baseAfter, hgrown]
  refine ⟨hwaits.failures_eq, hwaits.isCircuitOpen_iff, ?_, ?_⟩ <;> rw [hbase]
  · exact hwaits.le_wait
  · exact hwaits.wait_le

/-- The `n`-th wait of a row grows with every failure for 64 failures: the wait has the power of
`n - 1`, up to `steepest`.  It is the power of `n - 1` for every `n` if the cap is reached by then,
and a multiplier of at least two sees to that. -/
theorem next_waits_in_row (hsane : Sane policy) (calls : List Call) {draw : ℚ} (hnonneg : 0 ≤ draw)
    (hlt : draw < 1) (hn : rowOf calls + 1 = n) (hlimit : n ≤ countLimit) :
    Waits policy n (min (n - 1) steepest) (((new policy).after calls).next draw) ∧
      (n ≤ 64 ∨ 2 ≤ policy.multiplier ∨
          (policy.max.millis : ℚ) ≤ policy.initial.millis * policy.multiplier ^ steepest →
        Waits policy n (n - 1) (((new policy).after calls).next draw)) := by
  subst hn
  have hwaits := hsane.next_after_waits calls hnonneg hlt hlimit
  refine ⟨hwaits, fun hreached => hwaits.of_grown_eq ?_⟩
  rw [Nat.add_sub_cancel]
  rcases Nat.le_total (rowOf calls) steepest with hrow | hrow
  · rw [Nat.min_eq_left hrow]
  · -- The row is longer than the growth: either it is just as long, or both waits are at the cap.
    rw [Nat.min_eq_right hrow]
    rcases hreached with hshort | htwo | hmax
    · rw [Nat.le_antisymm (Nat.le_of_succ_le_succ hshort) hrow]
      rfl
    · exact hsane.grown_eq_of_max_le (hsane.max_le_of_two_le htwo) hrow
    · exact hsane.grown_eq_of_max_le hmax hrow

/-- A wait that doubles from a tenth of a second, up to a second, with a random share of 15 %. -/
def doubling : BackoffPolicy ℚ where
  initial := .ofMillis 100
  max := .ofSeconds 1
  multiplier := 2
  jitter := 3 / 20
  threshold := 3
  cooldown := .ofSeconds 60

theorem sane_doubling : Sane doubling where
  one_le_multiplier := by norm_num [doubling]
  jitter_nonneg := by norm_num [doubling]
  jitter_le_one := by norm_num [doubling]
  one_le_initial := by decide
  initial_lt := by decide
  max_lt := by decide
  cooldown_lt := by decide

theorem baseAfter_doubling_two : baseAfter doubling 2 1 = 200 := by
  have hgrown : baseAfter doubling 2 1 = ⌊min (100 * 2 ^ 1) (1000 : ℚ)⌋₊ := rfl
  rw [hgrown]
  norm_num

/-- Calls after which the next wait is the second one since a reset. -/
def secondAfterReset : List Call :=
  [.next 0, .next 0, .reset, .next (1 / 2)]

/-- The second wait after a reset is twice the first one, give or take its share. -/
theorem doubling_second_wait :
    Sane doubling ∧ (0 : ℚ) ≤ 3 / 4 ∧ (3 / 4 : ℚ) < 1 ∧ rowOf secondAfterReset + 1 = 2 ∧
      2 ≤ countLimit ∧
      (((new doubling).after secondAfterReset).next (3 / 4)).2.failures = 2 ∧
      170 ≤ (((new doubling).after secondAfterReset).next (3 / 4)).1 ∧
      (((new doubling).after secondAfterReset).next (3 / 4)).1 ≤ 230 := by
  have hnonneg : (0 : ℚ) ≤ 3 / 4 := by norm_num
  have hlt : (3 / 4 : ℚ) < 1 := by norm_num
  have hlimit : 2 ≤ countLimit := by decide
  obtain ⟨-, hlaw⟩ := next_waits_in_row sane_doubling secondAfterReset hnonneg hlt rfl hlimit
  have hwaits : Waits doubling 2 1 (((new doubling).after secondAfterReset).next (3 / 4)) :=
    hlaw (.inl (by decide))
  have hleast : ⌊(1 - doubling.jitter) * baseAfter doubling 2 1⌋₊ = 170 := by
    rw [baseAfter_doubling_two]
    norm_num [doubling]
  have hgreatest : ⌊(1 + doubling.jitter) * baseAfter doubling 2 1⌋₊ = 230 := by
    rw [baseAfter_doubling_two]
    norm_num [doubling]
  exact ⟨sane_doubling, hnonneg, hlt, rfl, hlimit, hwaits.failures_eq, hleast ▸ hwaits.le_wait,
    hgreatest ▸ hwaits.wait_le⟩

/-- A wait that grows by a sixteenth from a tenth of a second, up to half a minute. -/
def slow : BackoffPolicy ℚ where
  initial := .ofMillis 100
  max := .ofSeconds 30
  multiplier := 17 / 16
  jitter := 0
  threshold := 0
  cooldown := .ofSeconds 60

theorem sane_slow : Sane slow where
  one_le_multiplier := by norm_num [slow]
  jitter_nonneg := le_rfl
  jitter_le_one := zero_le_one
  one_le_initial := by decide
  initial_lt := by decide
  max_lt := by decide
  cooldown_lt := by decide

theorem baseAfter_slow (n times : ℕ) :
    baseAfter slow n times = ⌊min (100 * (17 / 16) ^ times) (30000 : ℚ)⌋₊ :=
  rfl

/-- Sixty-four failures in a row, each with the least draw. -/
def failing : List Call :=
  List.replicate 64 (.next 0)

/-- A slow wait stops to grow before it has reached the cap: the 65th in a row is as long as the
64th, 4557 ms, where one more step of growth would make it 4842 ms. -/
theorem not_forall_grows_to_max :
    ¬ ∀ (policy : BackoffPolicy ℚ) (calls : List Call) (draw : ℚ) (n : ℕ), Sane policy →
      (∀ drawn, .next drawn ∈ calls → 0 ≤ drawn ∧ drawn < 1) → 0 ≤ draw → draw < 1 →
      rowOf calls + 1 = n → n ≤ countLimit →
      Waits policy n (n - 1) (((new policy).after calls).next draw) := by
  intro hall
  have hdrawn : ∀ drawn, .next drawn ∈ failing → 0 ≤ drawn ∧ drawn < 1 := by
    intro drawn hmem
    cases List.eq_of_mem_replicate hmem
    exact ⟨le_rfl, zero_lt_one⟩
  have hgrows := hall slow failing 0 65 sane_slow hdrawn le_rfl zero_lt_one rfl (by decide)
  have htold : Waits slow 65 63 (((new slow).after failing).next 0) :=
    sane_slow.next_after_waits failing le_rfl zero_lt_one (by decide)
  have hleast : ⌊(1 - slow.jitter) * baseAfter slow 65 64⌋₊ = 4842 := by
    rw [baseAfter_slow]
    norm_num [slow]
  have hgreatest : ⌊(1 + slow.jitter) * baseAfter slow 65 63⌋₊ = 4557 := by
    rw [baseAfter_slow]
    norm_num [slow]
  have habsurd : 4842 ≤ 4557 :=
    hleast ▸ hgreatest ▸ hgrows.le_wait.trans htold.wait_le
  omega

end Backoff

end BrokerClient
