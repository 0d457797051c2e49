import Mathlib.Data.List.Chain
import Mathlib.Data.Nat.ModEq

/-!
A clock that is only read modulo its width. An observer that never lets the clock come
round between two readings follows it exactly; one that does falls behind by whole
rounds, and is never ahead.
-/

namespace NginLink.WrappedClock

variable (modulus : Nat)

/-- The first time from `time` on at which the clock shows `reading`. -/
def catchUp (time reading : Nat) : Nat := time + (reading + modulus - time % modulus) % modulus

def estimates : Nat → List Nat → List Nat
  | _, [] => []
  | time, reading :: rest =>
      let next := catchUp modulus time reading
      next :: estimates next rest

variable {modulus}

theorem catch_up_elapsed (time actual : Nat) (positive : 0 < modulus) (ordered : time ≤ actual) :
    catchUp modulus time (actual % modulus) = time + (actual - time) % modulus := by
  have small := Nat.mod_lt time positive
  have elapsed : actual % modulus + modulus - time % modulus ≡ actual - time [MOD modulus] := by
    apply Nat.ModEq.add_right_cancel (Nat.mod_modEq time modulus)
    calc actual % modulus + modulus - time % modulus + time % modulus
        = actual % modulus + modulus := by omega
      _ ≡ actual [MOD modulus] := by simp [Nat.ModEq]
      _ = actual - time + time := by omega
  rw [catchUp, elapsed]

theorem estimates_exact (start : Nat) (times : List Nat) (positive : 0 < modulus)
    (ordered : List.IsChain (· ≤ ·) (start :: times))
    (close : List.IsChain (fun earlier later => later < earlier + modulus) (start :: times)) :
    estimates modulus start (times.map (· % modulus)) = times := by
  induction times generalizing start with
  | nil => rfl
  | cons actual rest ih =>
      obtain ⟨passed, laterOrdered⟩ := List.isChain_cons_cons.mp ordered
      obtain ⟨soon, laterClose⟩ := List.isChain_cons_cons.mp close
      -- Less than a round has passed, so the remainder is all of the difference.
      have exact : catchUp modulus start (actual % modulus) = actual := by
        rw [catch_up_elapsed start actual positive passed, Nat.mod_eq_of_lt (by omega)]
        omega
      rw [List.map_cons, estimates, exact, ih actual laterOrdered laterClose]

/-- Whenever the clock is read, the observer is behind it by whole rounds, if at all. -/
theorem estimates_behind (time start : Nat) (times : List Nat) (positive : 0 < modulus)
    (behind : start ≤ time) (ordered : List.IsChain (· ≤ ·) (time :: times)) :
    List.Forall₂ (fun estimate actual => estimate ≤ actual ∧ estimate ≡ actual [MOD modulus])
      (estimates modulus start (times.map (· % modulus))) times := by
  induction times generalizing time start with
  | nil => exact .nil
  | cons actual rest ih =>
      obtain ⟨next, later⟩ := List.isChain_cons_cons.mp ordered
      have passed : start ≤ actual := behind.trans next
      -- The estimate can fall back at a reading, never run ahead; the next one starts from it.
      have least := Nat.mod_le (actual - start) modulus
      have caught := catch_up_elapsed start actual positive passed
      have below : catchUp modulus start (actual % modulus) ≤ actual := by omega
      refine .cons ⟨below, ?_⟩ (ih actual _ below later)
      calc catchUp modulus start (actual % modulus)
          = start + (actual - start) % modulus := caught
        _ ≡ start + (actual - start) [MOD modulus] := (Nat.mod_modEq _ _).add_left start
        _ = actual := by omega

/-- What an observer makes of the readings of a counter that only grows: it is behind the
totals by whole rounds, and not at all if it reads often enough. -/
structure Reconstructs (modulus : Nat) (readings totals : List Nat) : Prop where
  behind : List.Forall₂ (fun estimate total => estimate ≤ total ∧ estimate ≡ total [MOD modulus])
    (estimates modulus 0 readings) totals
  exact : List.IsChain (fun earlier later => later < earlier + modulus) (0 :: totals) →
    estimates modulus 0 readings = totals

theorem readings_reconstruct (readings totals : List Nat) (positive : 0 < modulus)
    (low : readings = totals.map (· % modulus)) (ordered : totals.Pairwise (· ≤ ·)) :
    Reconstructs modulus readings totals := by
  have chain : List.IsChain (· ≤ ·) (0 :: totals) :=
    (List.pairwise_cons.mpr ⟨fun total _ => Nat.zero_le total, ordered⟩).isChain
  rw [low]
  exact ⟨estimates_behind 0 0 totals positive (Nat.le_refl 0) chain,
    estimates_exact 0 totals positive chain⟩

end NginLink.WrappedClock
