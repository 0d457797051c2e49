import NginLink.BusErrors

/-!
The bus-offs of a whole run. The task takes its place in the schedule of delays from
`bus_off_count`, a counter of 32 bits that no command and no recovery resets; so the
answers to all bus-offs since boot are those of one schedule, of which the first five
entries wait and all others offer the host a notice, which a full channel refuses.
-/

namespace NginLink.Recovery

open AppContext BspCan BusErrors CanDriver DriverCounters DriverState Firmware

/-- A delay that has passed, or a notice offered to the host, taken by the channel or not. -/
def planOf : Record → Option Plan
  | .delayed delayMs => some (.retry delayMs)
  | .offered .busOff _ => some .giveUp
  | _ => none

def underWay : Phase → List Plan
  | .recovering delayMs | .delaying delayMs => [.retry delayMs]
  | _ => []

def answers (driver : Driver) : List Plan := driver.log.filterMap planOf ++ underWay driver.phase

/-- What one schedule from boot on answers to the first `count` bus-offs; its counter
starts again after 2^32 of them. -/
def bootSchedule (count : Nat) : List Plan :=
  (List.range count).map fun earlier => plan (earlier % 2 ^ 32)

def waitOf : Plan → Option Nat
  | .retry delayMs => some delayMs
  | .giveUp => none

def waits (plans : List Plan) : List Nat := plans.filterMap waitOf

theorem boot_schedule_succ (count : Nat) :
    bootSchedule (count + 1) = bootSchedule count ++ [plan (count % 2 ^ 32)] := by
  rw [bootSchedule, List.range_succ, List.map_append]
  rfl

theorem plan_waits (earlier : Nat) :
    waitOf (plan earlier) = (busOffDelaysMs.take 5)[earlier]? := by
  unfold plan
  by_cases few : earlier < 5
  · interval_cases earlier <;> rfl
  · have behind : (busOffDelaysMs.take 5).length ≤ earlier := Nat.le_of_not_lt few
    rw [if_neg few, List.getElem?_eq_none behind]
    rfl

theorem boot_schedule_waits (count : Nat) (once : count ≤ 2 ^ 32) :
    waits (bootSchedule count) = (busOffDelaysMs.take 5).take count := by
  induction count with
  | zero => rfl
  | succ count ih =>
      have place : count % 2 ^ 32 = count := Nat.mod_eq_of_lt (by omega)
      have earlier := ih (by omega)
      have added := plan_waits count
      unfold waits at earlier ⊢
      rw [boot_schedule_succ, place, List.filterMap_append, earlier,
        List.take_add_one (i := count), ← added]
      cases waited : waitOf (plan count) <;> simp [waited]

theorem boot_schedule_notices (count : Nat) (once : count ≤ 2 ^ 32) :
    (bootSchedule count).count .giveUp = count - 5 := by
  induction count with
  | zero => rfl
  | succ count ih =>
      have place : count % 2 ^ 32 = count := Nat.mod_eq_of_lt (by omega)
      rw [boot_schedule_succ, place, List.count_append, ih (by omega), List.count_singleton]
      unfold plan
      by_cases few : count < 5
      · rw [if_pos few]
        simp
        omega
      · rw [if_neg few]
        simp
        omega

-- A counter that has come round only gives up later.
theorem boot_schedule_notices_le (count : Nat) :
    (bootSchedule count).count .giveUp ≤ count - 5 := by
  induction count with
  | zero => exact Nat.le_refl 0
  | succ count ih =>
      rw [boot_schedule_succ, List.count_append, List.count_singleton]
      by_cases few : count < 5
      · have retried : plan (count % 2 ^ 32) = .retry (100 * 2 ^ count) := by
          rw [Nat.mod_eq_of_lt (by omega), plan, if_pos few]
        rw [retried]
        simp
        omega
      · split <;> omega

section Views
variable (driver : Driver)

@[simp] theorem plans_loop_top :
    driver.loopTop.log.filterMap planOf = driver.log.filterMap planOf :=
  loop_top_view driver planOf rfl

@[simp] theorem under_way_recovering (delayMs : Nat) :
    underWay (.recovering delayMs) = [.retry delayMs] := rfl

@[simp] theorem under_way_delaying (delayMs : Nat) :
    underWay (.delaying delayMs) = [.retry delayMs] := rfl

@[simp] theorem under_way_selecting : underWay .selecting = [] := rfl
@[simp] theorem under_way_receiving : underWay .receiving = [] := rfl
@[simp] theorem under_way_enabling (cmd : CanDriverCmd) (inLoop : Bool) :
    underWay (.enabling cmd inLoop) = [] := rfl
@[simp] theorem under_way_transmitting (serial : Nat) (request : CanTxRequest) (frame : Frame) :
    underWay (.transmitting serial request frame) = [] := rfl

@[simp] theorem under_way_loop_top : underWay driver.loopTop.phase = [] := by
  rw [loop_top_phase]
  split <;> rfl

end Views

def Scheduled (driver : Driver) : Prop := answers driver = bootSchedule (busOffs driver.log)

variable {platform : Platform}

theorem transition_scheduled (driver next : Driver) (ctx after : Context)
    (event : CanDriver.Event) (moved : Transition platform driver ctx event next after)
    (running : next.phase ≠ .panicked) (counters : Counters platform driver ctx)
    (scheduled : Scheduled driver) : Scheduled next := by
  -- A step either leaves the bus-offs and the answers as they are or adds one to both.
  have kept : busOffs next.log = busOffs driver.log → answers next = answers driver →
      Scheduled next := by
    intro read given
    rw [Scheduled, given, read, scheduled]
  have more : ∀ answer, plan (busOffs driver.log % 2 ^ 32) = answer →
      busOffs next.log = busOffs driver.log + 1 → answers next = answers driver ++ [answer] →
      Scheduled next := by
    intro answer planned read given
    rw [Scheduled, given, read, scheduled, boot_schedule_succ, planned]
  cases moved with
  | busOffRetry error count delayMs phase counted few delay =>
      have left := (retries_left _).mp few
      refine more (.retry delayMs) ?_ (by simp [isBusOff]) (by simp [answers, planOf, phase])
      rw [← counters.busOffs, plan, if_pos left, looked_up_delay _ delayMs left delay]
  | busOffGivenUp error count phase counted many =>
      refine more .giveUp ?_ (by simp [isBusOff]) (by simp [answers, planOf, phase])
      rw [← counters.busOffs, plan, if_neg fun left => many ((retries_left _).mpr left)]
  | errorPanic error sleeping selecting overflow => exact absurd rfl running
  | commandPanic canCmd cmd waiting taken fatal => exact absurd rfl running
  | recovered delayMs phase =>
      exact kept (by simp [isBusOff]) (by simp [answers, planOf, phase])
  | delayed delayMs phase =>
      exact kept (by simp [isBusOff]) (by simp [answers, planOf, phase])
  | startedStop canCmd phase taken
  | startedStart canCmd loopback listenOnly oneShot phase taken
  | startedTiming canCmd timing can phase taken valid
  | startedTransmit canCmd request data frame phase taken sliced built
  | startedFrameError canCmd request data error phase taken sliced failed
  | stoppedStart canCmd loopback listenOnly oneShot phase taken
  | stoppedStop canCmd phase taken
  | stoppedTiming canCmd timing can phase taken valid
  | stoppedTransmit canCmd request phase taken
  | frameQueued frame phase room
  | frameRefused frame value canRx phase full taken
  | errorQueued error count phase counted room
  | errorRefused error count value canRx phase counted full taken
  | errorRefusedAlone error count phase counted full empty
  | commandEnabled cmd inLoop phase
  | written dequeued serial request frame phase room
  | writtenRefused dequeued serial request frame phase full
  | timedOut serial request frame phase =>
      exact kept (by simp [isBusOff]) (by simp [answers, planOf, phase])

theorem move_scheduled (s next : System) (event : Firmware.Event)
    (moved : Move platform s event next)
    (counters : s.driver.phase ≠ .panicked → Counters platform s.driver s.ctx)
    (scheduled : s.driver.phase ≠ .panicked → Scheduled s.driver) :
    next.driver.phase ≠ .panicked → Scheduled next.driver := by
  intro running
  cases moved with
  | driver event driver ctx moved =>
      have awake := transition_running s.driver driver s.ctx ctx event moved
      exact transition_scheduled s.driver driver s.ctx ctx event moved running (counters awake)
        (scheduled awake)
  | _ => exact scheduled running

theorem run_scheduled (config : CanConfig) (events : List Firmware.Event) (final : System)
    (finished : Machine.run (step platform) (boot config) events = some final)
    (running : final.driver.phase ≠ .panicked) :
    Counters platform final.driver final.ctx ∧ Scheduled final.driver := by
  have both := run_move_invariant
    (fun s => (s.driver.phase ≠ .panicked → Counters platform s.driver s.ctx) ∧
      (s.driver.phase ≠ .panicked → Scheduled s.driver))
    (fun s event next _ known moved =>
      ⟨move_counters s next event moved known.1,
        move_scheduled s next event moved known.1 known.2⟩)
    config events final finished ⟨fun _ => boot_counters config, fun _ => rfl⟩
  exact ⟨both.1 running, both.2 running⟩

-- The bus-offs given up are those whose notice was offered, queued or refused.
theorem give_ups_offered (driver : Driver) :
    (answers driver).count .giveUp = driver.log.count (.offered .busOff true) +
      driver.log.count (.offered .busOff false) := by
  have idle : (underWay driver.phase).count .giveUp = 0 := by
    unfold underWay
    split <;> rfl
  rw [answers, List.count_append, idle, Nat.add_zero]
  induction driver.log with
  | nil => rfl
  | cons record rest ih =>
      rw [view_cons, List.count_append, ih]
      cases record with
      | offered offer sent =>
          cases offer <;> cases sent <;> simp [planOf]
          all_goals omega
      | _ => simp [planOf]

/-- Over every run without a panic of the task, whatever was received, commanded or
recovered in between: the answers to all bus-offs since boot follow one schedule. Until its
counter of 32 bits comes round the delays are the front of the first five, at most 3100 ms in
all, and for every bus-off but the first five a notice is offered to USB_ECHO_CHANNEL; the
sixth delay of the table is never waited for. -/
theorem bus_offs_share_one_schedule (platform : Platform) (config : CanConfig)
    (events : List Firmware.Event) (final : System)
    (finished : Machine.run (step platform) (boot config) events = some final)
    (running : final.driver.phase ≠ .panicked) :
    answers final.driver = bootSchedule (busOffs final.driver.log) ∧
    final.ctx.service.busOffCount.toNat = busOffs final.driver.log % 2 ^ 32 ∧
    (busOffs final.driver.log ≤ 2 ^ 32 →
      waits (answers final.driver) = (busOffDelaysMs.take 5).take (busOffs final.driver.log) ∧
      (waits (answers final.driver)).sum ≤ 3100 ∧
      final.driver.log.count (.offered .busOff true) +
        final.driver.log.count (.offered .busOff false) = busOffs final.driver.log - 5) ∧
    ∀ delayMs, .retry delayMs ∈ answers final.driver → delayMs ∈ busOffDelaysMs.take 5 := by
  obtain ⟨counters, scheduled⟩ := run_scheduled config events final finished running
  have offered := give_ups_offered final.driver
  rw [Scheduled] at scheduled
  rw [scheduled] at offered ⊢
  refine ⟨rfl, counters.busOffs, ?_, ?_⟩
  · intro once
    have front := boot_schedule_waits (busOffs final.driver.log) once
    have whole := congrArg List.sum
      (List.take_append_drop (busOffs final.driver.log) (busOffDelaysMs.take 5))
    have total : (busOffDelaysMs.take 5).sum = 3100 := rfl
    rw [List.sum_append_nat, total] at whole
    refine ⟨front, ?_, by rw [← offered, boot_schedule_notices _ once]⟩
    rw [front]
    omega
  · intro delayMs member
    obtain ⟨earlier, _, planned⟩ := List.mem_map.mp member
    have found := plan_waits (earlier % 2 ^ 32)
    rw [planned] at found
    exact List.mem_of_getElem? found.symm

-- Six bus-offs, with a Stop and a Start after the first recovery.
def sixBusOffs : List Firmware.Event :=
  let recovered : List Firmware.Event :=
    [.driver (.error .stuff true), .driver .enabled, .driver .delayElapsed]
  bringUp ++ recovered ++ [hostMode 0 0, .driver .command, .driver .enabled] ++ bringUp ++
    (List.replicate 4 recovered).flatten ++ [.driver (.error .stuff true)]

theorem bus_offs_share_one_schedule_six :
    ∃ final, Machine.run (step (Platform.embassy true)) (boot resetConfig) sixBusOffs =
        some final ∧
      final.driver.phase ≠ .panicked ∧ busOffs final.driver.log = 6 ∧
      waits (answers final.driver) = [100, 200, 400, 800, 1600] ∧
      final.driver.log.count (.offered .busOff true) +
        final.driver.log.count (.offered .busOff false) = 1 := by
  obtain ⟨final, finished, running, read⟩ : ∃ final, Machine.run (step (Platform.embassy true))
      (boot resetConfig) sixBusOffs = some final ∧ final.driver.phase ≠ .panicked ∧
      busOffs final.driver.log = 6 := ⟨_, rfl, by decide, by decide⟩
  have known := (bus_offs_share_one_schedule (Platform.embassy true) resetConfig sixBusOffs final
    finished running).2.2.1
  rw [read] at known
  obtain ⟨delays, _, notices⟩ := known (by decide)
  exact ⟨final, finished, running, read, delays, notices⟩

end NginLink.Recovery
