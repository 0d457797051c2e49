import NginLink.Accounting

/-!
The counters of `can_driver_task` against what its log has seen. `bus_off_count` is never
reset; the local `can_error_count` starts again when the delay of a recovery has elapsed,
and `error_count` is what it was at the last error. All three have 32 bits.
-/

namespace NginLink.DriverCounters

open Accounting AppContext BspCan CanDriver DriverState Firmware

def isBusOff : Record → Bool
  | .errorRead _ true => true
  | _ => false

def busOffs (log : List Record) : Nat := log.countP isBusOff

structure ErrorTally where
  -- errors read since boot, or since the delay of a recovery last elapsed
  recent : Nat
  -- what that number was when the last error was read
  published : Nat
  deriving DecidableEq

def ErrorTally.after (tally : ErrorTally) : Record → ErrorTally
  | .errorRead _ _ => { recent := tally.recent + 1, published := tally.recent + 1 }
  | .delayed _ => { tally with recent := 0 }
  | _ => tally

def errorTally (log : List Record) : ErrorTally := log.foldl ErrorTally.after ⟨0, 0⟩

section Views
variable (driver : Driver)

@[simp] theorem bus_offs_loop_top : busOffs driver.loopTop.log = busOffs driver.log :=
  loop_top_tally driver isBusOff rfl

@[simp] theorem bus_offs_append (first second : List Record) :
    busOffs (first ++ second) = busOffs first + busOffs second := List.countP_append

@[simp] theorem bus_offs_nil : busOffs [] = 0 := rfl

@[simp] theorem bus_offs_cons (record : Record) (rest : List Record) :
    busOffs (record :: rest) = busOffs rest + if isBusOff record then 1 else 0 := List.countP_cons

@[simp] theorem error_tally_append (first second : List Record) :
    errorTally (first ++ second) = second.foldl ErrorTally.after (errorTally first) :=
  List.foldl_append

@[simp] theorem error_tally_loop_top : errorTally driver.loopTop.log = errorTally driver.log := by
  rw [loop_top_log, error_tally_append]
  cases driver.isStarted <;> rfl

end Views

/-- The counters of a running driver. A counter that may not wrap has not done so. -/
structure Counters (platform : Platform) (driver : Driver) (ctx : Context) : Prop where
  busOffs : ctx.service.busOffCount.toNat = busOffs driver.log % 2 ^ 32
  recent : driver.canErrorCount.toNat = (errorTally driver.log).recent % 2 ^ 32
  published : ctx.service.errorCount.toNat = (errorTally driver.log).published % 2 ^ 32
  unwrapped : platform.overflowChecks = true → (errorTally driver.log).recent < 2 ^ 32

theorem counted_once_more (count : UInt32) (total : Nat) (counter : count.toNat = total % 2 ^ 32) :
    (count + 1).toNat = (total + 1) % 2 ^ 32 := by
  rw [UInt32.toNat_add, counter]
  have one : (1 : UInt32).toNat = 1 := rfl
  omega

variable {platform : Platform}

theorem checked_once_more (count sum : UInt32) (total : Nat)
    (counter : count.toNat = total % 2 ^ 32) (added : platform.addU32 count 1 = some sum) :
    sum.toNat = (total + 1) % 2 ^ 32 ∧
      (platform.overflowChecks = true → total < 2 ^ 32 → total + 1 < 2 ^ 32) := by
  unfold Platform.addU32 at added
  split at added
  · cases added
  · rename_i fits
    cases added
    refine ⟨counted_once_more count total counter, ?_⟩
    intro checks small
    have one : (1 : UInt32).toNat = 1 := rfl
    have below : ¬ 2 ^ 32 ≤ count.toNat + 1 := fun wraps => fits ⟨checks, wraps⟩
    omega

theorem overflows_iff (driver : Driver) (ctx : Context) (counters : Counters platform driver ctx) :
    platform.addU32 driver.canErrorCount 1 = none ↔
      platform.overflowChecks = true ∧ (errorTally driver.log).recent = 2 ^ 32 - 1 := by
  have recent := counters.recent
  have one : (1 : UInt32).toNat = 1 := rfl
  unfold Platform.addU32
  constructor
  · intro panics
    split at panics
    · rename_i overflow
      have small := counters.unwrapped overflow.1
      have last := overflow.2
      exact ⟨overflow.1, by omega⟩
    · cases panics
  · rintro ⟨checks, last⟩
    rw [if_pos ⟨checks, by omega⟩]

theorem transition_counters (driver next : Driver) (ctx after : Context)
    (event : CanDriver.Event) (moved : Transition platform driver ctx event next after)
    (running : next.phase ≠ .panicked) (counters : Counters platform driver ctx) :
    Counters platform next after := by
  obtain ⟨offs, recent, published, unwrapped⟩ := counters
  -- Only an error and the end of a recovery touch a counter or its tally.
  have kept : after.service.busOffCount = ctx.service.busOffCount →
      next.canErrorCount = driver.canErrorCount →
      after.service.errorCount = ctx.service.errorCount →
      busOffs next.log = busOffs driver.log → errorTally next.log = errorTally driver.log →
      Counters platform next after := by
    intro sameOffs sameRecent samePublished read tallied
    exact ⟨by rw [sameOffs, read, offs], by rw [sameRecent, tallied, recent],
      by rw [samePublished, tallied, published], by rwa [tallied]⟩
  have erred : ∀ sum, platform.addU32 driver.canErrorCount 1 = some sum →
      next.canErrorCount = sum → after.service.errorCount = sum →
      errorTally next.log = (errorTally driver.log).after (.errorRead .stuff true) →
      after.service.busOffCount.toNat = busOffs next.log % 2 ^ 32 →
      Counters platform next after := by
    intro sum added sameRecent samePublished tallied counted
    obtain ⟨more, fits⟩ := checked_once_more _ sum _ recent added
    exact ⟨counted, by rw [sameRecent, tallied, more, ErrorTally.after],
      by rw [samePublished, tallied, more, ErrorTally.after],
      fun checks => by rw [tallied]; exact fits checks (unwrapped checks)⟩
  cases moved with
  | errorPanic error sleeping selecting overflow => exact absurd rfl running
  | commandPanic canCmd cmd waiting taken fatal => exact absurd rfl running
  | busOffRetry error count delayMs selecting counted few delay
  | busOffGivenUp error count selecting counted many =>
      exact erred count counted (by simp) rfl (by simp [ErrorTally.after])
        (by simpa [isBusOff] using counted_once_more _ _ offs)
  | errorQueued error count selecting counted room
  | errorRefused error count value canRx selecting counted full taken
  | errorRefusedAlone error count selecting counted full empty =>
      exact erred count counted (by simp) rfl (by simp [ErrorTally.after])
        (by simpa [isBusOff, CanService.countDropped] using offs)
  | delayed delayMs delaying =>
      refine ⟨by simpa [isBusOff] using offs, by simp [ErrorTally.after],
        by simpa [ErrorTally.after] using published, by simp [ErrorTally.after]⟩
  | _ => exact kept rfl (by simp) rfl (by simp [isBusOff]) (by simp [ErrorTally.after])

theorem move_counters (s next : System) (event : Firmware.Event)
    (moved : Move platform s event next)
    (counters : s.driver.phase ≠ .panicked → Counters platform s.driver s.ctx) :
    next.driver.phase ≠ .panicked → Counters platform next.driver next.ctx := by
  intro running
  cases moved with
  | driver event driver ctx moved =>
      exact transition_counters s.driver driver s.ctx ctx event moved running
        (counters (transition_running s.driver driver s.ctx ctx event moved))
  | _ =>
      obtain ⟨offs, recent, published, unwrapped⟩ := counters running
      exact ⟨offs, recent, published, unwrapped⟩

theorem boot_counters (config : CanConfig) :
    Counters platform (boot config).driver (boot config).ctx :=
  ⟨rfl, rfl, rfl, fun _ => Nat.two_pow_pos 32⟩

end NginLink.DriverCounters
