import NginLink.Progress
import NginLink.Recovery
import NginLink.Supervision
import NginLink.WrappedClock

/-!
What the log of `health_monitor` tells its reader. The task logs the metrics on every
thirtieth iteration, whatever the others are doing. Two of them are counters of 32 bits
that are never reset; a reader who adds up their differences follows the bus-offs, and
those losses that the driver counts. Evictions and refused notices it does not count, and
the number of errors starts again after each recovery.
-/

namespace NginLink.HealthReports

open Accounting AppContext BspCan CanDriver DriverCounters DriverState Firmware Recovery
open Supervision WrappedClock

/-- Frames offered for the host that `usb_tx_task` has not taken and that no channel holds. -/
def losses (s : System) : Nat :=
  tried s.driver.log - (s.usbTx.taken.length + waitingFrames s.ctx)

structure Sighting where
  iteration : Nat
  timeMs : Nat
  losses : Nat
  -- the losses that the driver counts
  refusals : Nat
  busOffs : Nat
  errors : ErrorTally
  running : Bool
  report : Report
  deriving DecidableEq

def sighting (s : Supervised) : Sighting :=
  { iteration := s.health.wdg.pets
    timeMs := s.firmware.ctx.clockMs
    losses := losses s.firmware
    refusals := counted s.firmware.driver.log
    busOffs := busOffs s.firmware.driver.log
    errors := errorTally s.firmware.driver.log
    running := s.firmware.driver.isStarted
    report := report s.firmware.ctx.service }

def sighted (s : Supervised) : Supervision.Event → Option Sighting
  | .health => if s.health.secs % 30 = 0 then some (sighting s) else none
  | _ => none

-- The iterations that report, with `secs` as the counter of 32 bits it is.
def reporting (iteration : Nat) : Bool := iteration % 2 ^ 32 % 30 = 0

variable {platform : Platform}

theorem transition_log_extended (driver next : Driver) (ctx after : Context)
    (event : CanDriver.Event) (moved : Transition platform driver ctx event next after) :
    driver.log <+: next.log := by
  cases moved with
  | startedStop | startedStart | startedTiming | startedTransmit | stoppedStart | commandPanic
  | errorPanic | busOffRetry | recovered => exact List.prefix_append _ _
  | _ =>
      rw [loop_top_log]
      exact (List.prefix_append _ _).trans (List.prefix_append _ _)

theorem move_log_extended (s next : System) (event : Firmware.Event)
    (moved : Move platform s event next) : s.driver.log <+: next.driver.log := by
  cases moved with
  | driver event driver ctx moved =>
      exact transition_log_extended s.driver driver s.ctx ctx event moved
  | _ => exact List.prefix_rfl

structure Metrics (platform : Platform) (s : System) : Prop where
  balanced : Balanced s
  counters : s.driver.phase ≠ .panicked → Counters platform s.driver s.ctx
  scheduled : s.driver.phase ≠ .panicked → Scheduled s.driver
  coherent : Coherent s.driver s.ctx
  traced : lost s.driver.log ≤ counted s.driver.log + s.driver.log.count (.offered .busOff false)

theorem boot_metrics (config : CanConfig) : Metrics platform (boot config) :=
  ⟨boot_balanced config, fun _ => boot_counters config, fun _ => rfl, boot_coherent config,
    Nat.le_refl 0⟩

theorem move_metrics (s next : System) (event : Firmware.Event) (metrics : Metrics platform s)
    (moved : Move platform s event next) : Metrics platform next := by
  refine ⟨move_balanced s next event moved metrics.balanced,
    move_counters s next event moved metrics.counters,
    move_scheduled s next event moved metrics.counters metrics.scheduled,
    move_coherent s next event moved metrics.coherent, ?_⟩
  cases moved with
  | driver event driver ctx moved =>
      exact transition_traced s.driver driver s.ctx ctx event moved metrics.traced
  | _ => exact metrics.traced

/-- Every loss is counted, or goes with one that is, or was the notice of a bus-off after the
first five. -/
theorem losses_bounded (s : System) (metrics : Metrics platform s)
    (running : s.driver.phase ≠ .panicked) :
    counted s.driver.log ≤ losses s ∧
      losses s ≤ 2 * counted s.driver.log + (busOffs s.driver.log - 5) := by
  have total := metrics.balanced.total
  have traced := metrics.traced
  have offered := give_ups_offered s.driver
  have notices := boot_schedule_notices_le (busOffs s.driver.log)
  rw [metrics.scheduled running] at offered
  have sum : losses s = counted s.driver.log + lost s.driver.log := by
    unfold losses
    omega
  omega

/-- A report tells the truth, its counters modulo 2^32, and is not made too early. -/
structure Truthful (sighting : Sighting) : Prop where
  timely : 1000 * sighting.iteration ≤ sighting.timeMs
  started : sighting.report.started = sighting.running
  dropped : sighting.report.dropped.toNat = sighting.refusals % 2 ^ 32
  busOff : sighting.report.busOff.toNat = sighting.busOffs % 2 ^ 32
  errors : sighting.report.errors.toNat = sighting.errors.published % 2 ^ 32
  counted : sighting.refusals ≤ sighting.losses
  bounded : sighting.losses ≤ 2 * sighting.refusals + (sighting.busOffs - 5)

structure Paced (s : Supervised) : Prop where
  secs : s.health.panicked = false → s.health.secs.toNat = s.health.wdg.pets % 2 ^ 32
  timer : s.health.panicked = false → 1000 * s.health.wdg.pets ≤ s.health.wakeAt
  unfed : s.health.wdg.unleashed = false

/-- The reports, against the log of the monitor and the counters that they sample. -/
structure Reported (sightings : List Sighting) (s : Supervised) : Prop where
  logged : s.health.reports = sightings.map (·.report)
  numbered : sightings.map (·.iteration) = (List.range s.health.wdg.pets).filter reporting
  truthful : ∀ sighting ∈ sightings, Truthful sighting
  past : ∀ sighting ∈ sightings, sighting.refusals ≤ counted s.firmware.driver.log ∧
    sighting.busOffs ≤ busOffs s.firmware.driver.log
  ordered : sightings.Pairwise fun earlier later =>
    earlier.refusals ≤ later.refusals ∧ earlier.busOffs ≤ later.busOffs

structure Audited (platform : Platform) (sightings : List Sighting) (s : Supervised) :
    Prop where
  sound : Sound s.firmware
  metrics : Metrics platform s.firmware
  paced : Paced s
  reported : Reported sightings s

theorem start_audited (config : CanConfig) : Audited platform [] (start config) where
  sound := boot_sound config
  metrics := boot_metrics config
  paced := ⟨fun _ => rfl, fun _ => Nat.le_refl 0, rfl⟩
  reported := ⟨rfl, rfl, by simp, by simp, List.Pairwise.nil⟩

theorem reported_later (sightings : List Sighting) (s next : Supervised)
    (reported : Reported sightings s) (same : next.health = s.health)
    (extended : s.firmware.driver.log <+: next.firmware.driver.log) : Reported sightings next where
  logged := by rw [same, reported.logged]
  numbered := by rw [same, reported.numbered]
  truthful := reported.truthful
  past sighting member := by
    obtain ⟨refusals, busOffs⟩ := reported.past sighting member
    exact ⟨refusals.trans extended.countP_le, busOffs.trans extended.countP_le⟩
  ordered := reported.ordered

theorem due_iff (s : Supervised) (secs : s.health.secs.toNat = s.health.wdg.pets % 2 ^ 32) :
    s.health.secs % 30 = 0 ↔ reporting s.health.wdg.pets = true := by
  rw [← UInt32.toNat_inj, UInt32.toNat_mod, secs]
  simp [reporting]

-- What one iteration does; its counter goes on unless the overflow is a panic.
structure Iterated (monitor after : HealthMonitor) (ctx : Context) : Prop where
  pets : after.wdg.pets = monitor.wdg.pets + 1
  unfed : after.wdg.unleashed = monitor.wdg.unleashed
  reports : after.reports = monitor.reports ++
    if monitor.secs % 30 = 0 then [report ctx.service] else []
  secs : after.panicked = false → after.secs = monitor.secs + 1
  timer : after.panicked = false → after.wakeAt = ctx.clockMs + 1000

theorem iterate_iterated (monitor : HealthMonitor) (ctx : Context) :
    Iterated monitor (monitor.iterate platform ctx) ctx := by
  have reports : (if monitor.secs % 30 = 0 then monitor.reports ++ [report ctx.service]
      else monitor.reports) = monitor.reports ++
        if monitor.secs % 30 = 0 then [report ctx.service] else [] := by
    split <;> simp
  cases added : platform.addU32 monitor.secs 1 with
  | none =>
      simp only [HealthMonitor.iterate, added, reports]
      exact ⟨rfl, rfl, rfl, by simp, by simp⟩
  | some secs =>
      have next : secs = monitor.secs + 1 := by
        unfold Platform.addU32 at added
        split at added
        · cases added
        · exact (Option.some.inj added).symm
      simp only [HealthMonitor.iterate, added, reports]
      exact ⟨rfl, rfl, rfl, fun _ => next, fun _ => rfl⟩

theorem iterate_paced (s : Supervised) (paced : Paced s) (running : s.health.panicked = false)
    (awake : s.health.wakeAt ≤ s.firmware.ctx.clockMs) :
    Paced { s with health := s.health.iterate platform s.firmware.ctx } := by
  have iterated : Iterated s.health (s.health.iterate platform s.firmware.ctx) s.firmware.ctx :=
    iterate_iterated s.health s.firmware.ctx
  have timer := paced.timer running
  constructor
  · intro alive
    change (s.health.iterate platform s.firmware.ctx).secs.toNat = _
    rw [iterated.secs alive, iterated.pets]
    exact counted_once_more _ _ (paced.secs running)
  · intro alive
    change 1000 * (s.health.iterate platform s.firmware.ctx).wdg.pets ≤
      (s.health.iterate platform s.firmware.ctx).wakeAt
    rw [iterated.timer alive, iterated.pets]
    omega
  · exact iterated.unfed.trans paced.unfed

theorem sighting_truthful (sightings : List Sighting) (s : Supervised)
    (audited : Audited platform sightings s) (running : s.panicked = false)
    (awake : s.health.wakeAt ≤ s.firmware.ctx.clockMs) : Truthful (sighting s) := by
  obtain ⟨driverRuns, monitorRuns⟩ := panicked_running s running
  have timer := audited.paced.timer monitorRuns
  have counters := audited.metrics.counters driverRuns
  obtain ⟨counted, bounded⟩ := losses_bounded s.firmware audited.metrics driverRuns
  exact ⟨timer.trans awake, audited.metrics.coherent.service, audited.metrics.balanced.counter,
    counters.busOffs, counters.published, counted, bounded⟩

theorem iterate_reported (sightings : List Sighting) (s : Supervised)
    (audited : Audited platform sightings s) (running : s.panicked = false)
    (awake : s.health.wakeAt ≤ s.firmware.ctx.clockMs) :
    Reported (sightings ++ (sighted s .health).toList)
      { s with health := s.health.iterate platform s.firmware.ctx } := by
  have reported := audited.reported
  have due := due_iff s (audited.paced.secs (panicked_running s running).2)
  have iterated : Iterated s.health (s.health.iterate platform s.firmware.ctx) s.firmware.ctx :=
    iterate_iterated s.health s.firmware.ctx
  have pets := iterated.pets
  have reports := iterated.reports
  -- The counter of seconds follows the number of iterations, so both ask for the same reports.
  cases now : reporting s.health.wdg.pets with
  | false =>
      have silent : ¬ s.health.secs % 30 = 0 := fun asked => by simp [now] at due; exact due asked
      rw [sighted, if_neg silent, Option.toList_none, List.append_nil]
      rw [if_neg silent, List.append_nil] at reports
      refine ⟨?_, ?_, reported.truthful, reported.past, reported.ordered⟩
      · rw [reports, reported.logged]
      · rw [pets, List.range_succ, List.filter_append, reported.numbered]
        simp [now]
  | true =>
      have asked : s.health.secs % 30 = 0 := due.mpr now
      rw [sighted, if_pos asked, Option.toList_some]
      rw [if_pos asked] at reports
      refine ⟨?_, ?_, ?_, ?_, ?_⟩
      · rw [reports, reported.logged, List.map_append]
        rfl
      · rw [pets, List.range_succ, List.filter_append, List.map_append, reported.numbered]
        simp [now, sighting]
      · exact Machine.seen_one_more sightings _ reported.truthful
          (sighting_truthful sightings s audited running awake)
      · exact Machine.seen_one_more sightings _ reported.past ⟨Nat.le_refl _, Nat.le_refl _⟩
      · rw [List.pairwise_append]
        refine ⟨reported.ordered, List.pairwise_singleton _ _, ?_⟩
        intro other member last same
        rw [List.mem_singleton.mp same]
        exact reported.past other member

theorem step_audited (sightings : List Sighting) (s next : Supervised)
    (event : Supervision.Event) (stepped : Supervision.step platform s event = some next)
    (audited : Audited platform sightings s) :
    Audited platform (sightings ++ (sighted s event).toList) next := by
  obtain ⟨running, advanced⟩ := step_advance s next event stepped
  obtain ⟨sound, metrics⟩ := advance_firmware_invariant (Metrics platform)
    (fun s event next _ metrics moved => move_metrics s next event metrics moved)
    s next event advanced audited.sound audited.metrics
  -- Steps of the other tasks leave the monitor alone and only add to the log it reads from.
  have elsewhere : sighted s event = none → next.health = s.health →
      s.firmware.driver.log <+: next.firmware.driver.log →
      Audited platform (sightings ++ (sighted s event).toList) next := by
    intro silent same extended
    rw [Machine.unobserved sighted sightings s event silent]
    refine ⟨sound, metrics, ?_, reported_later sightings s next audited.reported same extended⟩
    obtain ⟨secs, timer, unfed⟩ := audited.paced
    exact ⟨by rwa [same], by rwa [same], by rwa [same]⟩
  cases advanced with
  | firmware own after polled moved =>
      refine elsewhere rfl (announced_health s after own) ?_
      rw [announced_firmware]
      exact move_log_extended s.firmware after own
        (step_move s.firmware after own audited.sound moved)
  | usbRun first => exact elsewhere rfl rfl List.prefix_rfl
  | canTask first => exact elsewhere rfl rfl List.prefix_rfl
  | main => exact elsewhere rfl rfl List.prefix_rfl
  | health awake =>
      exact ⟨sound, metrics,
        iterate_paced s audited.paced (panicked_running s running).2 awake,
        iterate_reported sightings s audited running awake⟩

/-- Over every run of all tasks: the reports are those of the iterations 0, 30, 60, ..., none
of them before its second, and each tells whether the driver is started. A reader who adds up
the differences of the two counters is never ahead of the bus-offs and of the refusals that
the driver counts, and knows them exactly if no counter comes round between two reports. The
losses are at least the refusals, and at most twice as many and the bus-offs after the first
five; `errors` is the number of those up to the last error since the recovery before it. The
watchdog that the monitor feeds is never started. -/
theorem reports_account_for_losses (platform : Platform) (config : CanConfig)
    (events : List Supervision.Event) (final : Supervised)
    (finished : Machine.run (Supervision.step platform) (start config) events = some final) :
    let sightings := Machine.observed (Supervision.step platform) sighted (start config) events
    final.health.reports = sightings.map (·.report) ∧
    sightings.map (·.iteration) = (List.range final.health.wdg.pets).filter reporting ∧
    (∀ sighting ∈ sightings, Truthful sighting) ∧
    Reconstructs (2 ^ 32) (sightings.map (·.report.dropped.toNat))
      (sightings.map (·.refusals)) ∧
    Reconstructs (2 ^ 32) (sightings.map (·.report.busOff.toNat)) (sightings.map (·.busOffs)) ∧
    final.health.wdg.unleashed = false := by
  intro sightings
  have known := Machine.run_observed_invariant (Supervision.step platform) sighted
    (Audited platform) (fun sightings s event next audited stepped =>
      step_audited sightings s next event stepped audited)
    [] (start config) final events finished (start_audited config)
  rw [List.nil_append] at known
  have reported : Reported sightings final := known.reported
  refine ⟨reported.logged, reported.numbered, reported.truthful, ?_, ?_, known.paced.unfed⟩
  · apply readings_reconstruct _ _ (by decide)
    · rw [List.map_map]
      exact List.map_congr_left fun sighting member => (reported.truthful sighting member).dropped
    · exact List.pairwise_map.mpr (reported.ordered.imp fun both => both.1)
  · apply readings_reconstruct _ _ (by decide)
    · rw [List.map_map]
      exact List.map_congr_left fun sighting member => (reported.truthful sighting member).busOff
    · exact List.pairwise_map.mpr (reported.ordered.imp fun both => both.2)

def second : List Supervision.Event := [.health, .firmware (.tick 1000)]

-- A bus-off that the driver recovers from, and then thirty-three frames that no one takes.
def busyBus : List Firmware.Event :=
  bringUp ++ [.driver (.error .form true), .driver .enabled, .driver .delayElapsed] ++
    List.replicate 33 (.driver (.frame Translation.sampleFrame))

def halfMinute : List Supervision.Event :=
  [.usbRun, .canTask] ++ second ++ busyBus.map .firmware ++ (List.replicate 30 second).flatten

theorem reports_account_for_losses_half_minute :
    ∃ final, Machine.run (Supervision.step (Platform.embassy true)) (start resetConfig)
        halfMinute = some final ∧
      final.health.reports = [⟨false, 0, 0, 0⟩, ⟨true, 1, 1, 1⟩] ∧
      losses final.firmware = 2 ∧ final.health.wdg.unleashed = false := by
  obtain ⟨final, finished, shown, two⟩ : ∃ final,
      Machine.run (Supervision.step (Platform.embassy true)) (start resetConfig) halfMinute =
        some final ∧
      final.health.reports = [⟨false, 0, 0, 0⟩, ⟨true, 1, 1, 1⟩] ∧ losses final.firmware = 2 :=
    ⟨_, rfl, by decide, by decide⟩
  have account := reports_account_for_losses (Platform.embassy true) resetConfig halfMinute final
    finished
  exact ⟨final, finished, shown, two, account.2.2.2.2.2⟩

end NginLink.HealthReports
