import NginLink.FirmwareSteps

/-!
`CAN_SERVICE.error_count` against the errors that `read` has returned. The metric is a
copy of the local `can_error_count`, which starts again at zero when the delay of a
bus-off recovery has elapsed; the copy is only made at the next error.
-/

namespace NginLink.ErrorMetric

open AppContext BoundedChannel BspCan CanDriver Firmware GsUsbTypes

def isError : Firmware.Event → Bool
  | .driver (.error _ _) => true
  | _ => false

def isRecovery : Firmware.Event → Bool
  | .driver .delayElapsed => true
  | _ => false

def errorsIn (events : List Firmware.Event) : Nat := events.countP isError

/-- No error is read once a bus-off recovery has come to its end. -/
def Undisturbed (events : List Firmware.Event) : Prop :=
  events.Pairwise fun earlier later => isRecovery earlier = true → isError later = false

section History
variable (past : List Firmware.Event) (event : Firmware.Event)

theorem errors_snoc :
    errorsIn (past ++ [event]) = errorsIn past + if isError event then 1 else 0 := by
  rw [errorsIn, List.countP_append, List.countP_singleton]
  rfl

theorem undisturbed_snoc : Undisturbed (past ++ [event]) ↔
    Undisturbed past ∧ (past.any isRecovery = true → isError event = false) := by
  rw [Undisturbed, List.pairwise_append]
  constructor
  · rintro ⟨before, _, across⟩
    refine ⟨before, ?_⟩
    intro recovery
    obtain ⟨earlier, member, ends⟩ := List.any_eq_true.mp recovery
    exact across earlier member event (List.mem_singleton_self event) ends
  · rintro ⟨before, quiet⟩
    refine ⟨before, List.pairwise_singleton _ _, ?_⟩
    intro earlier member later same ends
    rw [List.mem_singleton.mp same]
    exact quiet (List.any_eq_true.mpr ⟨earlier, member, ends⟩)

theorem errors_error (isErr : isError event = true) :
    errorsIn (past ++ [event]) = errorsIn past + 1 := by
  rw [errors_snoc, if_pos isErr]

theorem errors_quiet (quiet : isError event = false) :
    errorsIn (past ++ [event]) = errorsIn past := by
  rw [errors_snoc, quiet]
  rfl

theorem undisturbed_quiet (quiet : isError event = false) :
    Undisturbed (past ++ [event]) ↔ Undisturbed past := by
  rw [undisturbed_snoc]
  exact and_iff_left fun _ => quiet

theorem undisturbed_unrecovered (unrecovered : past.any isRecovery = false) :
    Undisturbed past := by
  rw [Undisturbed, List.pairwise_iff_forall_sublist]
  intro earlier later both ends
  have member := both.subset List.mem_cons_self
  have recovery : past.any isRecovery = true := List.any_eq_true.mpr ⟨earlier, member, ends⟩
  rw [unrecovered] at recovery
  cases recovery

end History

/-- Where the local and its published copy stand against the errors of the run so far. -/
inductive Standing (past : List Firmware.Event) (count published : Nat) : Prop where
  | unrecovered (never : past.any isRecovery = false) (counted : count = errorsIn past)
      (copied : published = errorsIn past)
  | recovered (recovery : past.any isRecovery = true) (undisturbed : Undisturbed past)
      (restarted : count = 0) (copied : published = errorsIn past) (read : 0 < errorsIn past)
  | disturbed (broken : ¬ Undisturbed past) (restarted : count < errorsIn past)
      (behind : published < errorsIn past)

namespace Standing
variable {past : List Firmware.Event} {event : Firmware.Event} {count published : Nat}

theorem bounded (standing : Standing past count published) : count ≤ errorsIn past := by
  cases standing with
  | unrecovered never counted copied => omega
  | recovered recovery undisturbed restarted copied read => omega
  | disturbed broken restarted behind => omega

theorem published_iff (standing : Standing past count published) :
    published = errorsIn past ↔ Undisturbed past := by
  cases standing with
  | unrecovered never counted copied =>
      exact ⟨fun _ => undisturbed_unrecovered past never, fun _ => copied⟩
  | recovered recovery undisturbed restarted copied read =>
      exact ⟨fun _ => undisturbed, fun _ => copied⟩
  | disturbed broken restarted behind =>
      constructor
      · intro same
        omega
      · intro undisturbed
        exact absurd undisturbed broken

-- An error: both become one more than the local was.
theorem error (standing : Standing past count published) (isErr : isError event = true)
    (other : isRecovery event = false) :
    Standing (past ++ [event]) (count + 1) (count + 1) := by
  have errors := errors_error past event isErr
  have apart : ¬ isError event = false := by
    rw [isErr]
    decide
  cases standing with
  | unrecovered never counted copied =>
      exact .unrecovered (by simp [never, other]) (by omega) (by omega)
  | recovered recovery undisturbed restarted copied read =>
      refine .disturbed ?_ (by omega) (by omega)
      intro kept
      exact apart ((undisturbed_snoc past event).mp kept |>.2 recovery)
  | disturbed broken restarted behind =>
      refine .disturbed ?_ (by omega) (by omega)
      intro kept
      exact broken ((undisturbed_snoc past event).mp kept).1

-- The end of a recovery: only the local starts again.
theorem recovery (standing : Standing past count published) (read : 0 < errorsIn past)
    (quiet : isError event = false) (ends : isRecovery event = true) :
    Standing (past ++ [event]) 0 published := by
  have errors := errors_quiet past event quiet
  have kept := undisturbed_quiet past event quiet
  have marked : (past ++ [event]).any isRecovery = true := by simp [ends]
  cases standing with
  | unrecovered never counted copied =>
      exact .recovered marked (kept.mpr (undisturbed_unrecovered past never)) rfl (by omega)
        (by omega)
  | recovered _ undisturbed restarted copied _ =>
      exact .recovered marked (kept.mpr undisturbed) rfl (by omega) (by omega)
  | disturbed broken restarted behind =>
      exact .disturbed (fun undisturbed => broken (kept.mp undisturbed)) (by omega) (by omega)

theorem other (standing : Standing past count published) (quiet : isError event = false)
    (other : isRecovery event = false) : Standing (past ++ [event]) count published := by
  have errors := errors_quiet past event quiet
  have kept := undisturbed_quiet past event quiet
  have same : (past ++ [event]).any isRecovery = past.any isRecovery := by simp [other]
  cases standing with
  | unrecovered never counted copied =>
      exact .unrecovered (same.trans never) (by omega) (by omega)
  | recovered recovery undisturbed restarted copied read =>
      exact .recovered (same.trans recovery) (kept.mpr undisturbed) restarted (by omega) (by omega)
  | disturbed broken restarted behind =>
      exact .disturbed (fun undisturbed => broken (kept.mp undisturbed)) (by omega) (by omega)

end Standing

variable {platform : Platform}

def Recovering (driver : Driver) : Prop :=
  ∃ delayMs, driver.phase = .recovering delayMs ∨ driver.phase = .delaying delayMs

theorem loop_top_not_recovering (driver : Driver) : ¬ Recovering driver.loopTop := by
  rintro ⟨delayMs, recovering | delaying⟩
  · rw [loop_top_phase] at recovering
    split at recovering <;> cases recovering
  · rw [loop_top_phase] at delaying
    split at delaying <;> cases delaying

inductive Counting (platform : Platform) (driver next : Driver) (ctx after : Context) :
    CanDriver.Event → Prop where
  | error (error sleeping count) (counted : platform.addU32 driver.canErrorCount 1 = some count)
      (kept : next.canErrorCount = count) (stored : after.service.errorCount = count) :
      Counting platform driver next ctx after (.error error sleeping)
  | overflowed (error sleeping) (overflow : platform.addU32 driver.canErrorCount 1 = none) :
      Counting platform driver next ctx after (.error error sleeping)
  | recovered (recovering : Recovering driver) (restarted : next.canErrorCount = 0)
      (stored : after.service.errorCount = ctx.service.errorCount)
      (ended : ¬ Recovering next) :
      Counting platform driver next ctx after .delayElapsed
  | other (event) (quiet : isError (.driver event) = false)
      (unended : isRecovery (.driver event) = false)
      (kept : next.canErrorCount = driver.canErrorCount)
      (stored : after.service.errorCount = ctx.service.errorCount)
      (recovering : Recovering next → Recovering driver) :
      Counting platform driver next ctx after event

theorem transition_counting (driver next : Driver) (ctx after : Context)
    (event : CanDriver.Event) (moved : Transition platform driver ctx event next after) :
    Counting platform driver next ctx after event := by
  have looped (top : Driver) : Recovering top.loopTop → Recovering driver :=
    fun recovering => absurd recovering (loop_top_not_recovering top)
  cases moved with
  | errorPanic error sleeping selecting overflow => exact .overflowed error sleeping overflow
  | busOffRetry error count delayMs selecting counted few delay =>
      exact .error error true count counted rfl rfl
  | busOffGivenUp error count selecting counted many =>
      exact .error error true count counted (by simp) rfl
  | errorQueued error count selecting counted room =>
      exact .error error false count counted (by simp) rfl
  | errorRefused error count evicted canRx selecting counted full taken
  | errorRefusedAlone error count selecting counted full empty =>
      exact .error error false count counted (by simp) rfl
  | delayed delayMs delaying =>
      exact .recovered ⟨delayMs, Or.inr delaying⟩ (by simp) rfl (loop_top_not_recovering _)
  | recovered delayMs recovering =>
      exact .other _ rfl rfl rfl rfl fun _ => ⟨delayMs, Or.inl recovering⟩
  | startedStop | startedStart | startedTiming | startedTransmit | stoppedStart | commandPanic =>
      refine .other _ rfl rfl rfl rfl ?_
      rintro ⟨delayMs, recovering | delaying⟩
      · cases recovering
      · cases delaying
  | _ => exact .other _ rfl rfl (by simp) rfl (looped _)

theorem incremented (value result : UInt32) (added : platform.addU32 value 1 = some result)
    (small : value.toNat + 1 < 2 ^ 32) : result.toNat = value.toNat + 1 := by
  unfold Platform.addU32 at added
  split at added
  · cases added
  · cases added
    rw [UInt32.toNat_add]
    exact Nat.mod_eq_of_lt small

theorem overflowed_at_end (value : UInt32) (overflow : platform.addU32 value 1 = none) :
    2 ^ 32 ≤ value.toNat + 1 := by
  unfold Platform.addU32 at overflow
  split at overflow
  · rename_i exceeded
    exact exceeded.2
  · cases overflow

structure Metered (past : List Firmware.Event) (s : System) : Prop where
  standing : Standing past s.driver.canErrorCount.toNat s.ctx.service.errorCount.toNat
  read : Recovering s.driver → 0 < errorsIn past

theorem boot_metered (config : CanConfig) : Metered [] (boot config) where
  standing := .unrecovered rfl rfl rfl
  read := by
    rintro ⟨delayMs, recovering | delaying⟩
    · cases recovering
    · cases delaying

theorem metered_other (past : List Firmware.Event) (s next : System) (event : Firmware.Event)
    (metered : Metered past s) (quiet : isError event = false) (unended : isRecovery event = false)
    (kept : next.driver.canErrorCount = s.driver.canErrorCount)
    (stored : next.ctx.service.errorCount = s.ctx.service.errorCount)
    (recovering : Recovering next.driver → Recovering s.driver) :
    Metered (past ++ [event]) next where
  standing := by
    rw [kept, stored]
    exact metered.standing.other quiet unended
  read := by
    intro still
    rw [errors_quiet past event quiet]
    exact metered.read (recovering still)

theorem move_metered (past : List Firmware.Event) (s next : System) (event : Firmware.Event)
    (metered : Metered past s) (few : errorsIn (past ++ [event]) < 2 ^ 32)
    (moved : Move platform s event next) : Metered (past ++ [event]) next := by
  cases moved with
  | driver event driver ctx moved =>
      cases transition_counting s.driver driver s.ctx ctx event moved with
      | error error sleeping count counted kept stored =>
          have bounded := metered.standing.bounded
          have errors := errors_error past (.driver (.error error sleeping)) rfl
          have added := incremented _ _ counted (by omega)
          constructor
          · rw [kept, stored, added]
            exact metered.standing.error rfl rfl
          · intro _
            omega
      | overflowed error sleeping overflow =>
          have bounded := metered.standing.bounded
          have errors := errors_error past (.driver (.error error sleeping)) rfl
          have last := overflowed_at_end _ overflow
          omega
      | recovered recovering restarted stored ended =>
          constructor
          · rw [restarted, stored]
            exact metered.standing.recovery (metered.read recovering) rfl rfl
          · intro still
            exact absurd still ended
      | other _ quiet unended kept stored recovering =>
          exact metered_other past s _ _ metered quiet unended kept stored recovering
  | requested | answered | queried | outEnabled | inEnabled | message | short | outError | tookRx
  | tookEcho | wrote | mailboxSent | ticked =>
      exact metered_other past s _ _ metered rfl rfl rfl rfl id

theorem run_metered (config : CanConfig) (events : List Firmware.Event) (final : System)
    (finished : Machine.run (step platform) (boot config) events = some final)
    (few : errorsIn events < 2 ^ 32) : Metered events final := by
  have bounded := run_move_history (fun past s => errorsIn past < 2 ^ 32 → Metered past s)
    (by
      intro past s event next metered moved small
      have errors := errors_snoc past event
      exact move_metered past s next event (metered (by omega)) small moved)
    config events final finished (fun _ => boot_metered config)
  exact bounded few

/-- In every run, `error_count` is the number of errors read since boot if and only if
none of them was read after a bus-off recovery; and then it has never decreased. -/
theorem error_count_iff_undisturbed (platform : Platform) (config : CanConfig)
    (events : List Firmware.Event) (final : System)
    (finished : Machine.run (step platform) (boot config) events = some final)
    (few : errorsIn events < 2 ^ 32) :
    (final.ctx.service.errorCount.toNat = errorsIn events ↔ Undisturbed events) ∧
    (Undisturbed events → ∀ earlier later s, events = earlier ++ later →
      Machine.run (step platform) (boot config) earlier = some s →
      s.ctx.service.errorCount ≤ final.ctx.service.errorCount) := by
  have last := (run_metered config events final finished few).standing.published_iff
  refine ⟨last, ?_⟩
  rintro undisturbed earlier later s rfl reached
  have before : errorsIn earlier ≤ errorsIn (earlier ++ later) :=
    (List.sublist_append_left earlier later).countP_le
  have first := (run_metered config earlier s reached (by omega)).standing.published_iff
  have undisturbedFirst : Undisturbed earlier := (List.pairwise_append.mp undisturbed).1
  rw [UInt32.le_iff_toNat_le, first.mpr undisturbedFirst, last.mpr undisturbed]
  exact before

-- Two errors, the second of them a bus-off that is recovered from.
def recovery : List Firmware.Event :=
  bringUp ++ [.driver (.error .crc false), .driver (.error .stuff true), .driver .enabled,
    .driver .delayElapsed]

theorem error_count_iff_undisturbed_recovery :
    ∃ final, Machine.run (step (Platform.embassy true)) (boot resetConfig) recovery = some final ∧
      errorsIn recovery < 2 ^ 32 ∧
      (final.ctx.service.errorCount.toNat = errorsIn recovery ↔ Undisturbed recovery) := by
  obtain ⟨final, finished, few⟩ : ∃ final,
      Machine.run (step (Platform.embassy true)) (boot resetConfig) recovery = some final ∧
      errorsIn recovery < 2 ^ 32 :=
    ⟨_, rfl, by decide⟩
  exact ⟨final, finished, few,
    (error_count_iff_undisturbed (Platform.embassy true) resetConfig recovery final finished
      few).1⟩

/-- The third error of a run takes the metric from 2 to 1. -/
theorem error_count_falls :
    ∃ earlier final,
      Machine.run (step (Platform.embassy true)) (boot resetConfig) recovery = some earlier ∧
      Machine.run (step (Platform.embassy true)) (boot resetConfig)
        (recovery ++ [.driver (.error .form false)]) = some final ∧
      errorsIn (recovery ++ [.driver (.error .form false)]) = 3 ∧
      earlier.driver.isWaiting = true ∧ earlier.ctx.service.errorCount = 2 ∧
      final.driver.isWaiting = true ∧ final.ctx.service.errorCount = 1 :=
  ⟨_, _, rfl, rfl, by decide, by decide, by decide, by decide, by decide⟩

end NginLink.ErrorMetric
