import Mathlib.Data.Nat.Basic
set_option autoImplicit false

/-!
# Foundation: periodic timers

A timer that rings once in every period, into a channel with room for one tick: a tick
that is not taken swallows those behind it.  The time is in the timer, and so is what
keeps it running, that the next ring is ahead and at most a period away.
-/

namespace RustdeskCli.Foundation

/-- A periodic timer and its channel. -/
structure Ticker (period : Nat) where
  now : Nat
  next : Nat
  pending : Bool
  ahead : now < next
  near : next ≤ now + period

namespace Ticker

variable {period : Nat}

/-- A timer that starts now rings after a period. -/
def startAt (now : Nat) (h : 0 < period) : Ticker period where
  now := now
  next := now + period
  pending := false
  ahead := Nat.lt_add_of_pos_right h
  near := Nat.le_refl _

theorem period_pos (t : Ticker period) : 0 < period := by
  have := t.ahead
  have := t.near
  omega

/-- The rings up to a time. -/
def ringsUntil (t : Ticker period) (time : Nat) : Nat :=
  if time < t.next then 0 else (time - t.next) / period + 1

/-- Time passes. -/
def pass (t : Ticker period) (d : Nat) : Ticker period where
  now := t.now + d
  next := t.next + period * t.ringsUntil (t.now + d)
  pending := t.pending || decide (t.next ≤ t.now + d)
  ahead := by
    unfold ringsUntil
    split
    · omega
    · have hdiv := Nat.lt_mul_div_succ (t.now + d - t.next) t.period_pos
      omega
  near := by
    have hnear := t.near
    unfold ringsUntil
    split
    · omega
    · have hdiv := Nat.mul_div_le (t.now + d - t.next) period
      rw [Nat.mul_add, Nat.mul_one]
      omega

/-- The tick is taken out of the channel. -/
def take (t : Ticker period) : Ticker period := { t with pending := false }

/-- A timer that has not rung meanwhile was quiet before, and its next ring stays where it is. -/
theorem quiet_pass {t : Ticker period} {d : Nat} (h : (t.pass d).pending = false) :
    t.pending = false ∧ (t.pass d).next = t.next := by
  obtain ⟨hquiet, hring⟩ := Bool.or_eq_false_iff.mp h
  have hlt : t.now + d < t.next := Nat.lt_of_not_le (of_decide_eq_false hring)
  exact ⟨hquiet, by simp [pass, ringsUntil, hlt]⟩

/-- A timer rings when its time has come. -/
theorem pending_pass_of_le {t : Ticker period} {d : Nat} (h : t.next ≤ t.now + d) :
    (t.pass d).pending = true := by
  simp [pass, h]

end Ticker

end RustdeskCli.Foundation
