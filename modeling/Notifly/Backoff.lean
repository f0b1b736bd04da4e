import Notifly.Listing
import Mathlib.Algebra.Group.Int

/-!
# The retry backoff of the queue

`NewServer` (the queue file of the infrastructure package) gives asynq the
`RetryDelayFunc`

    time.Duration(30*(1<<uint(n-1))) * time.Second

and asynq passes as `n` the number of retries that the task has had, `0` before its first.
The untyped constant `1` of the shift takes the type of the conversion, `time.Duration`,
an `int64`, so every operation is on a 64-bit `int` (`GoInt`): the shift count is
`uint(n-1)`, a shift by 64 or more gives 0, and the products wrap.

`retryDelay_schedule` says which delays the code gives.  The delay is `30 · 2^(n-1)` seconds
exactly when `1 ≤ n ≤ 29`; from `n = 30` on the product overflows.  For `n ≤ 0` the shift
count `uint(n-1)` is at least `2^63` and the delay is 0.  So the first retry of a task runs
at once, and with the default `MaxRetry` of 5 the retries wait 0, 30, 60, 120 and 240
seconds, where the comment of the code lists 30 to 480.

How asynq schedules a task at its delay is not modelled.
-/

namespace Notifly

/-- Go's `uint(x)` for an `int` `x`: its two's complement bits read as an unsigned number. -/
def GoInt.toUint (x : GoInt) : Nat := (x.val % 18446744073709551616).toNat

/-- Go's `x << s` on an `int64`: the exact product wrapped, and 0 for a count of 64 or
more. -/
def GoInt.shiftLeft (x : GoInt) (s : Nat) : GoInt :=
  if s < 64 then .ofInt (x.val * 2 ^ s) else 0

/-- The `RetryDelayFunc` of `NewServer`, in nanoseconds, for the retry count `n`. -/
def retryDelay (n : GoInt) : GoInt :=
  30 * GoInt.shiftLeft 1 (n - 1).toUint * 1000000000

@[simp] theorem GoInt.zero_val : (0 : GoInt).val = 0 := by decide

@[simp] theorem GoInt.thirty_val : (30 : GoInt).val = 30 := by decide

@[simp] theorem GoInt.second_val : (1000000000 : GoInt).val = 1000000000 := by decide

@[simp] theorem GoInt.ofInt_val (x : Int) : (GoInt.ofInt x).val = wrapInt x := rfl

/-- A count of 64 or more shifts every bit out. -/
theorem GoInt.shiftLeft_of_le {x : GoInt} {s : Nat} (h : 64 ≤ s) : x.shiftLeft s = 0 := by
  simp [GoInt.shiftLeft, Nat.not_lt.mpr h]

/-- Powers of two grow with the exponent, over the integers. -/
theorem two_pow_le_two_pow {a b : Nat} (h : a ≤ b) : (2 : Int) ^ a ≤ 2 ^ b := by
  exact_mod_cast Nat.pow_le_pow_of_le_right (by decide) h

theorem two_pow_pos (s : Nat) : 0 < (2 : Int) ^ s := by
  exact_mod_cast Nat.pos_pow_of_pos s (by decide)

/-- A count below 63 shifts a 1 to `2^s`, without wrapping. -/
theorem GoInt.shiftLeft_one_val {s : Nat} (h : s < 63) :
    (GoInt.shiftLeft 1 s).val = 2 ^ s := by
  have h₀ := two_pow_pos s
  have h₁ := two_pow_le_two_pow (Nat.le_of_lt_succ h)
  simp only [GoInt.shiftLeft, if_pos (show s < 64 by omega), GoInt.ofInt_val,
    GoInt.one_val, Int.one_mul]
  exact wrapInt_of_range (by omega) (by omega)

/-- For a retry count of 0 or below, `uint(n-1)` is at least `2^63`, and the delay is 0. -/
theorem retryDelay_of_nonpos {n : GoInt} (h : n.val ≤ 0) : (retryDelay n).val = 0 := by
  have hmin := n.min_le
  have hs : 64 ≤ (n - 1).toUint := by
    simp only [GoInt.toUint, GoInt.sub_val, GoInt.one_val, wrapInt]
    omega
  simp [retryDelay, GoInt.shiftLeft_of_le hs, wrapInt]

/-- The delays of the code: `30 · 2^(n-1)` seconds exactly for the retry counts from 1 to
29, and 0 for every count of 0 or below. -/
theorem retryDelay_schedule (n : GoInt) :
    ((retryDelay n).val = 30 * 2 ^ (n.val - 1).toNat * 1000000000 ↔
        1 ≤ n.val ∧ n.val ≤ 29) ∧
      (n.val ≤ 0 → (retryDelay n).val = 0) := by
  have hpos := two_pow_pos (n.val - 1).toNat
  refine ⟨⟨fun heq => ?_, fun ⟨h₁, h₂⟩ => ?_⟩, retryDelay_of_nonpos⟩
  · -- the exact product fits in an `int64` only up to `2^28`
    have hlt := (retryDelay n).lt_max
    by_cases hn : n.val ≤ 0
    · rw [retryDelay_of_nonpos hn] at heq; omega
    · refine ⟨by omega, Int.not_lt.mp fun hbig => ?_⟩
      have h29 := two_pow_le_two_pow (show 29 ≤ (n.val - 1).toNat by omega)
      omega
  · have hk : (n - 1).toUint = (n.val - 1).toNat := by
      have := n.lt_max
      simp only [GoInt.toUint, GoInt.sub_val, GoInt.one_val, wrapInt]
      omega
    have h28 := two_pow_le_two_pow (show (n.val - 1).toNat ≤ 28 by omega)
    simp only [retryDelay, hk, GoInt.mul_val, GoInt.thirty_val, GoInt.second_val,
      GoInt.shiftLeft_one_val (show (n.val - 1).toNat < 63 by omega)]
    rw [@wrapInt_of_range (30 * 2 ^ (n.val - 1).toNat) (by omega) (by omega),
      wrapInt_of_range (by omega) (by omega)]

end Notifly
