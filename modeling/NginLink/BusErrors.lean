import NginLink.DriverCounters

/-!
The error arm of `can_driver_task`: what a bus error is answered with, for the host
and for the peripheral. A bus-off is meant to be answered by a schedule of growing
delays that starts afresh once the driver has resumed; the task takes its place in
the schedule from `bus_off_count`, which is never reset.
-/

namespace NginLink.BusErrors

open Accounting AppContext BoundedChannel BspCan CanDriver DriverCounters DriverState Firmware
open GsUsbTypes

inductive Plan where
  | retry (delayMs : Nat)
  | giveUp
  deriving DecidableEq

-- The answer to a bus-off with `earlier` ones before it in the same schedule.
def plan (earlier : Nat) : Plan :=
  if earlier < 5 then .retry (100 * 2 ^ earlier) else .giveUp

theorem plan_eq_iff (left right : Nat) : plan left = plan right ↔ min left 5 = min right 5 := by
  unfold plan
  by_cases few : left < 5
  · by_cases others : right < 5
    · rw [if_pos few, if_pos others, Nat.min_eq_left (by omega), Nat.min_eq_left (by omega)]
      constructor
      · intro same
        have delays := Plan.retry.inj same
        exact Nat.pow_right_injective (Nat.le_refl 2) (by omega : 2 ^ left = 2 ^ right)
      · rintro rfl
        rfl
    · rw [if_pos few, if_neg others]
      constructor
      · intro same
        cases same
      · intro same
        omega
  · by_cases others : right < 5
    · rw [if_neg few, if_pos others]
      constructor
      · intro same
        cases same
      · intro same
        omega
    · rw [if_neg few, if_neg others]
      constructor
      · intro _
        omega
      · intro _
        rfl

/-- How often the bus went off since the driver last resumed, and whether a Stop has
been processed since. -/
structure Episode where
  busOffs : Nat
  halted : Bool
  deriving DecidableEq

/-- A frame read, or a Start after a Stop, ends the episode. -/
def Episode.after (episode : Episode) : Record → Episode
  | .errorRead _ true => { busOffs := episode.busOffs + 1, halted := false }
  | .frameRead _ => { episode with busOffs := 0 }
  | .command .stop _ => { episode with halted := true }
  | .command (.start _ _ _) _ => if episode.halted then ⟨0, false⟩ else episode
  | _ => episode

def episode (log : List Record) : Episode := log.foldl Episode.after ⟨0, false⟩

/-- The records after a bus-off are those of its plan. While the plan is under way the
task awaits its next part; a peripheral that was given up is left asleep. -/
def Follows (driver : Driver) (later : List Record) : Plan → Prop
  | .retry delayMs =>
      (later = [] ∧ driver.phase = .recovering delayMs) ∨
      (later = [.enabled] ∧ driver.phase = .delaying delayMs) ∨
      [.enabled, .delayed delayMs, .reading true] <+: later
  | .giveUp =>
      [.offered .busOff true, .reading true] <+: later ∧
        (later.length = 2 → driver.can.asleep = true)

/-- Every bus-off so far is answered by its place in its own episode. -/
def Recovers (driver : Driver) : Prop :=
  ∀ before error later, driver.log = before ++ .errorRead error true :: later →
    Follows driver later (plan (episode before).busOffs)

inductive Course (platform : Platform) (driver next : Driver) (ctx : Context)
    (event : CanDriver.Event) : Prop where
  | elsewhere (news) (logged : next.log = driver.log ++ news) (moving : news ≠ [])
      (calm : ∀ error, .errorRead error true ∉ news)
      (other : ∀ error, event ≠ .error error true)
      (phase : ∀ delayMs, driver.phase ≠ .recovering delayMs ∧ driver.phase ≠ .delaying delayMs)
  | woken (delayMs) (recovering : driver.phase = .recovering delayMs)
      (logged : next.log = driver.log ++ [.enabled]) (phase : next.phase = .delaying delayMs)
  | resumed (delayMs) (delaying : driver.phase = .delaying delayMs)
      (logged : next.log = driver.log ++ [.delayed delayMs, .reading true])
  | retried (error) (read : event = .error error true) (selecting : driver.phase = .selecting)
      (counting : platform.addU32 driver.canErrorCount 1 ≠ none)
      (logged : next.log = driver.log ++ [.errorRead error true])
      (few : ctx.service.busOffCount.toNat < 5)
      (phase : next.phase = .recovering (100 * 2 ^ ctx.service.busOffCount.toNat))
  | givenUp (error) (read : event = .error error true) (selecting : driver.phase = .selecting)
      (counting : platform.addU32 driver.canErrorCount 1 ≠ none)
      (logged : next.log = driver.log ++
        [.errorRead error true, .offered .busOff ctx.usbEcho.hasRoom, .reading true])
      (many : 5 ≤ ctx.service.busOffCount.toNat) (asleep : next.can.asleep = true)
  | failed (error sleeping) (read : event = .error error sleeping)
      (selecting : driver.phase = .selecting)
      (overflow : platform.addU32 driver.canErrorCount 1 = none)
      (logged : next.log = driver.log ++ [.errorRead error sleeping])
      (phase : next.phase = .panicked)

theorem retries_left (count : UInt32) :
    count < maxBusOffRetries.toUInt32 ↔ count.toNat < 5 := UInt32.lt_iff_toNat_lt

theorem looked_up_delay (count : Nat) (delayMs : Nat) (few : count < 5)
    (found : busOffDelaysMs[min count (busOffDelaysMs.length - 1)]? = some delayMs) :
    delayMs = 100 * 2 ^ count := by
  interval_cases count <;> exact (Option.some.inj found).symm

variable {platform : Platform}

theorem loop_top_elsewhere (driver noted : Driver) (ctx : Context) (event : CanDriver.Event)
    (records : List Record) (logged : noted.log = driver.log ++ records) (moving : records ≠ [])
    (calm : ∀ error, .errorRead error true ∉ records) (other : ∀ error, event ≠ .error error true)
    (phase : ∀ delayMs, driver.phase ≠ .recovering delayMs ∧ driver.phase ≠ .delaying delayMs) :
    Course platform driver noted.loopTop ctx event := by
  refine .elsewhere (records ++ if noted.isStarted then [.reading true] else []) ?_
    (by simp [moving]) ?_ other phase
  · rw [loop_top_log, logged, List.append_assoc]
  · intro error member
    rcases List.mem_append.mp member with noticed | reading
    · exact calm error noticed
    · split at reading <;> simp at reading

theorem transition_course (driver next : Driver) (ctx after : Context)
    (event : CanDriver.Event) (moved : Transition platform driver ctx event next after)
    (branch : InBranch driver.isStarted driver.phase) :
    Course platform driver next ctx event := by
  cases moved with
  | startedStop canCmd selecting taken
  | startedStart canCmd loopback listenOnly oneShot selecting taken
  | startedTiming canCmd timing can selecting taken valid
  | startedTransmit canCmd request data frame selecting taken sliced built =>
      exact .elsewhere _ rfl (by simp) (by simp) (by simp) (by simp [selecting])
  | stoppedStart canCmd loopback listenOnly oneShot receiving taken =>
      exact .elsewhere _ rfl (by simp) (by simp) (by simp) (by simp [receiving])
  | startedFrameError canCmd request data error selecting taken sliced failed =>
      exact loop_top_elsewhere driver _ ctx _ _ rfl (by simp) (by simp) (by simp)
        (by simp [selecting])
  | stoppedStop canCmd receiving taken
  | stoppedTiming canCmd timing can receiving taken valid
  | stoppedTransmit canCmd request receiving taken =>
      exact loop_top_elsewhere driver _ ctx _ _ rfl (by simp) (by simp) (by simp)
        (by simp [receiving])
  | commandPanic canCmd cmd waiting taken fatal =>
      refine .elsewhere _ rfl (by simp) (by simp) (by simp) ?_
      rcases waiting with phase | phase <;> simp [phase]
  | frameQueued frame selecting room
  | frameRefused frame value canRx selecting full taken
  | errorQueued error count selecting counted room
  | errorRefused error count value canRx selecting counted full taken
  | errorRefusedAlone error count selecting counted full empty =>
      exact loop_top_elsewhere driver _ ctx _ _ rfl (by simp) (by simp) (by simp)
        (by simp [selecting])
  | errorPanic error sleeping selecting overflow =>
      exact .failed error sleeping rfl selecting overflow rfl rfl
  | busOffRetry error count delayMs selecting counted few delay =>
      have left := (retries_left _).mp few
      refine .retried error rfl selecting (by simp [counted]) rfl left ?_
      rw [← looked_up_delay _ delayMs left delay]
  | busOffGivenUp error count selecting counted many =>
      have started := selecting_started driver branch selecting
      refine .givenUp error rfl selecting (by simp [counted]) ?_ ?_ (by simp)
      · rw [loop_top_log]
        simp [started]
      · exact Nat.le_of_not_lt fun few => many ((retries_left _).mpr few)
  | commandEnabled cmd inLoop enabling =>
      exact loop_top_elsewhere driver _ ctx _ _ rfl (by simp) (by simp) (by simp)
        (by simp [enabling])
  | recovered delayMs recovering => exact .woken delayMs recovering rfl rfl
  | delayed delayMs delaying =>
      have started : driver.isStarted = true := by rwa [delaying] at branch
      refine .resumed delayMs delaying ?_
      rw [loop_top_log]
      simp [started]
  | written dequeued serial request frame transmitting room
  | writtenRefused dequeued serial request frame transmitting full
  | timedOut serial request frame transmitting =>
      exact loop_top_elsewhere driver _ ctx _ _ rfl (by simp) (by simp) (by simp)
        (by simp [transmitting])

theorem split_append (earlier news before later : List Record) (record : Record)
    (same : earlier ++ news = before ++ record :: later) :
    (∃ middle, earlier = before ++ record :: middle ∧ later = middle ++ news) ∨
      ∃ front, before = earlier ++ front ∧ news = front ++ record :: later := by
  rcases List.append_eq_append_iff.mp same with ⟨front, first, second⟩ | ⟨tail, first, second⟩
  · exact Or.inr ⟨front, first, second⟩
  · cases tail with
    | nil =>
        rw [List.append_nil] at first
        exact Or.inr ⟨[], by rw [first, List.append_nil], second.symm⟩
    | cons head middle =>
        obtain ⟨rfl, rfl⟩ := List.cons.inj second
        exact Or.inl ⟨middle, first, rfl⟩

def Plan.records : Plan → List Record
  | .retry delayMs => [.enabled, .delayed delayMs, .reading true]
  | .giveUp => [.offered .busOff true, .reading true]

theorem follows_cases (driver : Driver) (later : List Record) (answer : Plan)
    (follows : Follows driver later answer) :
    (∃ delayMs, answer = .retry delayMs ∧ later = [] ∧ driver.phase = .recovering delayMs) ∨
    (∃ delayMs, answer = .retry delayMs ∧ later = [.enabled] ∧
      driver.phase = .delaying delayMs) ∨
    answer.records <+: later := by
  cases answer with
  | retry delayMs =>
      rcases follows with ⟨empty, recovering⟩ | ⟨one, delaying⟩ | complete
      · exact Or.inl ⟨delayMs, rfl, empty, recovering⟩
      · exact Or.inr (Or.inl ⟨delayMs, rfl, one, delaying⟩)
      · exact Or.inr (Or.inr complete)
  | giveUp => exact Or.inr (Or.inr follows.1)

theorem follows_nothing (driver : Driver) (answer : Plan) (follows : Follows driver [] answer) :
    ∃ delayMs, answer = .retry delayMs ∧ driver.phase = .recovering delayMs := by
  rcases follows_cases driver [] answer follows with
    ⟨delayMs, planned, _, recovering⟩ | ⟨_, _, one, _⟩ | complete
  · exact ⟨delayMs, planned, recovering⟩
  · cases one
  · cases answer with
    | retry delayMs => cases List.prefix_nil.mp complete
    | giveUp => cases List.prefix_nil.mp complete

theorem complete_grows (next : Driver) (later news : List Record) (answer : Plan)
    (complete : answer.records <+: later) (moving : news ≠ []) :
    Follows next (later ++ news) answer := by
  have grown := complete.trans (List.prefix_append later news)
  cases answer with
  | retry delayMs => exact Or.inr (Or.inr grown)
  | giveUp =>
      refine ⟨grown, ?_⟩
      intro short
      have long : 2 ≤ later.length := complete.length_le
      have longer := List.length_pos_iff.mpr moving
      rw [List.length_append] at short
      omega

/-- What a bus-off needs to be answered on schedule. Of the bus-offs before it there must be
as many since boot as in its episode, or five and more of both; a notice needs room; and
where an overflow is a panic, so many errors must not have come without a recovery. -/
def OnSchedule (platform : Platform) (driver : Driver) (ctx : Context) :
    CanDriver.Event → Prop
  | .error _ true => driver.phase = .selecting →
      min (busOffs driver.log % 2 ^ 32) 5 = min (episode driver.log).busOffs 5 ∧
      (5 ≤ (episode driver.log).busOffs → ctx.usbEcho.hasRoom = true) ∧
      (platform.overflowChecks = true → (errorTally driver.log).recent < 2 ^ 32 - 1)
  | _ => True

/-- The same as the task sees it, which knows its counters only. -/
structure Placed (platform : Platform) (driver : Driver) (ctx : Context) : Prop where
  counting : platform.addU32 driver.canErrorCount 1 ≠ none
  place : min ctx.service.busOffCount.toNat 5 = min (episode driver.log).busOffs 5
  room : 5 ≤ (episode driver.log).busOffs → ctx.usbEcho.hasRoom = true

theorem on_schedule_iff_placed (driver : Driver) (ctx : Context) (error : BusError)
    (selecting : driver.phase = .selecting) (counters : Counters platform driver ctx) :
    OnSchedule platform driver ctx (.error error true) ↔ Placed platform driver ctx := by
  have overflows := overflows_iff driver ctx counters
  have unwrapped := counters.unwrapped
  constructor
  · intro timely
    obtain ⟨place, room, few⟩ := timely selecting
    refine ⟨?_, by rw [counters.busOffs, place], room⟩
    intro overflow
    obtain ⟨checks, last⟩ := overflows.mp overflow
    have below := few checks
    omega
  · rintro ⟨counting, place, room⟩ _
    refine ⟨by rw [← counters.busOffs, place], room, ?_⟩
    intro checks
    have small := unwrapped checks
    have other : (errorTally driver.log).recent ≠ 2 ^ 32 - 1 := fun last =>
      counting (overflows.mpr ⟨checks, last⟩)
    omega

section Steps
variable (driver next : Driver) (ctx : Context) (event : CanDriver.Event)

theorem recovers_after (news : List Record) (logged : next.log = driver.log ++ news)
    (earlier : ∀ before error middle, driver.log = before ++ .errorRead error true :: middle →
      Follows next (middle ++ news) (plan (episode before).busOffs))
    (added : ∀ front error later, news = front ++ .errorRead error true :: later →
      Follows next later (plan (episode (driver.log ++ front)).busOffs)) : Recovers next := by
  intro before error later same
  rw [logged] at same
  rcases split_append _ _ _ _ _ same with ⟨middle, first, rfl⟩ | ⟨front, rfl, second⟩
  · exact earlier before error middle first
  · exact added front error later second

theorem only_bus_off (error other : BusError) (tail front later : List Record)
    (calm : ∀ error, .errorRead error true ∉ tail)
    (same : .errorRead error true :: tail = front ++ .errorRead other true :: later) :
    front = [] ∧ later = tail := by
  cases front with
  | nil => exact ⟨rfl, (List.cons.inj same).2.symm⟩
  | cons head rest =>
      have member : .errorRead other true ∈ tail := by
        rw [(List.cons.inj same).2]
        simp
      exact absurd member (calm other)

-- Between two bus-offs every earlier plan is complete.
theorem earlier_follow (recovers : Recovers driver) (news : List Record) (moving : news ≠ [])
    (phase : ∀ delayMs, driver.phase ≠ .recovering delayMs ∧ driver.phase ≠ .delaying delayMs)
    (before : List Record) (error : BusError) (middle : List Record)
    (same : driver.log = before ++ .errorRead error true :: middle) :
    Follows next (middle ++ news) (plan (episode before).busOffs) := by
  rcases follows_cases driver middle _ (recovers before error middle same) with
    ⟨delayMs, _, _, recovering⟩ | ⟨delayMs, _, _, delaying⟩ | complete
  · exact absurd recovering (phase delayMs).1
  · exact absurd delaying (phase delayMs).2
  · exact complete_grows next middle news _ complete moving

theorem course_recovers (course : Course platform driver next ctx event)
    (recovers : Recovers driver) (timely : ∀ error, event = .error error true →
      driver.phase = .selecting → Placed platform driver ctx) : Recovers next := by
  cases course with
  | elsewhere news logged moving calm other phase =>
      apply recovers_after driver next news logged
      · exact earlier_follow driver next recovers news moving phase
      · intro front error later same
        exact absurd (same ▸ by simp) (calm error)
  | woken delayMs recovering logged phase =>
      apply recovers_after driver next _ logged
      · intro before error middle same
        rcases follows_cases driver middle _ (recovers before error middle same) with
          ⟨planned, answer, rfl, awaited⟩ | ⟨planned, _, _, awaited⟩ | complete
        · rw [recovering] at awaited
          cases awaited
          rw [answer]
          exact Or.inr (Or.inl ⟨rfl, phase⟩)
        · rw [recovering] at awaited
          cases awaited
        · exact complete_grows next middle _ _ complete (by simp)
      · intro front error later same
        exact absurd (same ▸ by simp : .errorRead error true ∈ [Record.enabled]) (by simp)
  | resumed delayMs delaying logged =>
      apply recovers_after driver next _ logged
      · intro before error middle same
        rcases follows_cases driver middle _ (recovers before error middle same) with
          ⟨planned, _, _, awaited⟩ | ⟨planned, answer, rfl, awaited⟩ | complete
        · rw [delaying] at awaited
          cases awaited
        · rw [delaying] at awaited
          cases awaited
          rw [answer]
          exact Or.inr (Or.inr List.prefix_rfl)
        · exact complete_grows next middle _ _ complete (by simp)
      · intro front error later same
        exact absurd (same ▸ by simp :
          .errorRead error true ∈ [Record.delayed delayMs, .reading true]) (by simp)
  | retried error read selecting counting logged few phase =>
      subst read
      obtain ⟨_, place, _⟩ := timely error rfl selecting
      apply recovers_after driver next _ logged
      · exact earlier_follow driver next recovers _ (by simp) (by simp [selecting])
      · intro front other later same
        obtain ⟨rfl, rfl⟩ := only_bus_off error other [] front later (by simp) same
        rw [List.append_nil, ← (plan_eq_iff _ _).mpr place, plan, if_pos few]
        exact Or.inl ⟨rfl, phase⟩
  | givenUp error read selecting counting logged many asleep =>
      subst read
      obtain ⟨_, place, room⟩ := timely error rfl selecting
      apply recovers_after driver next _ logged
      · exact earlier_follow driver next recovers _ (by simp) (by simp [selecting])
      · intro front other later same
        obtain ⟨rfl, rfl⟩ := only_bus_off error other _ front later (by simp) same
        rw [List.append_nil, ← (plan_eq_iff _ _).mpr place, plan, if_neg (by omega),
          room (by omega)]
        exact ⟨List.prefix_rfl, fun _ => asleep⟩
  | failed error sleeping read selecting overflow logged phase =>
      subst read
      cases sleeping with
      | true => exact absurd overflow (timely error rfl selecting).counting
      | false =>
          apply recovers_after driver next _ logged
          · exact earlier_follow driver next recovers _ (by simp) (by simp [selecting])
          · intro front other later same
            exact absurd (same ▸ by simp :
              .errorRead other true ∈ [Record.errorRead error false]) (by simp)

theorem recovers_placed (error : BusError)
    (course : Course platform driver next ctx (.error error true))
    (selecting : driver.phase = .selecting) (recovers : Recovers next) :
    Placed platform driver ctx := by
  cases course with
  | elsewhere news logged moving calm other phase => exact absurd rfl (other error)
  | woken delayMs recovering logged phase =>
      rw [selecting] at recovering
      cases recovering
  | resumed delayMs delaying logged =>
      rw [selecting] at delaying
      cases delaying
  | retried other read _ counting logged few phase =>
      obtain ⟨delayMs, planned, awaited⟩ :=
        follows_nothing next _ (recovers driver.log other [] logged)
      rw [phase] at awaited
      have same : plan ctx.service.busOffCount.toNat = plan (episode driver.log).busOffs := by
        rw [planned, plan, if_pos few, Phase.recovering.inj awaited]
      have place := (plan_eq_iff _ _).mp same
      exact ⟨counting, place, by omega⟩
  | givenUp other read _ counting logged many asleep =>
      have follows := recovers driver.log other _ logged
      by_cases early : (episode driver.log).busOffs < 5
      · rw [plan, if_pos early] at follows
        rcases follows with ⟨empty, _⟩ | ⟨one, _⟩ | complete
        · cases empty
        · cases one
        · simp at complete
      · rw [plan, if_neg early] at follows
        have noticed := follows.1
        simp only [List.cons_prefix_cons, Record.offered.injEq, true_and] at noticed
        exact ⟨counting, by omega, fun _ => noticed.1.symm⟩
  | failed other sleeping read _ overflow logged phase =>
      cases read
      obtain ⟨delayMs, _, awaited⟩ :=
        follows_nothing next _ (recovers driver.log error [] logged)
      rw [phase] at awaited
      cases awaited

end Steps

def Timely (platform : Platform) (s : System) : Firmware.Event → Prop
  | .driver event => OnSchedule platform s.driver s.ctx event
  | _ => True

theorem move_recovers (s next : System) (event : Firmware.Event)
    (moved : Move platform s event next) (coherent : Coherent s.driver s.ctx)
    (counters : s.driver.phase ≠ .panicked → Counters platform s.driver s.ctx)
    (recovers : Recovers s.driver) (timely : Timely platform s event) :
    Recovers next.driver := by
  cases moved with
  | driver event driver ctx moved =>
      have course := transition_course s.driver driver s.ctx ctx event moved coherent.branch
      apply course_recovers s.driver driver s.ctx event course recovers
      rintro error rfl selecting
      exact (on_schedule_iff_placed s.driver s.ctx error selecting
        (counters (by rw [selecting]; simp))).mp timely
  | _ => exact recovers

/-- In every run, every bus-off is answered by its place in its episode if and only if each is
read on schedule, which is a matter of how many were read since boot. -/
theorem episodes_iff_on_schedule (platform : Platform) (config : CanConfig)
    (events : List Firmware.Event) :
    Machine.Always (step platform) (fun s => Recovers s.driver) (boot config) events ↔
      Machine.Along (step platform) (Timely platform) (boot config) events := by
  apply move_always_iff_along _ (fun s => (Coherent s.driver s.ctx ∧
    (s.driver.phase ≠ .panicked → Counters platform s.driver s.ctx)) ∧ Recovers s.driver)
  · rintro s ⟨_, recovers⟩
    exact recovers
  · rintro s event next ⟨⟨coherent, counters⟩, recovers⟩ timely moved
    exact ⟨⟨move_coherent s next event moved coherent, move_counters s next event moved counters⟩,
      move_recovers s next event moved coherent counters recovers timely⟩
  · rintro s event _ ⟨⟨coherent, counters⟩, _⟩ untimely
    unfold Timely at untimely
    split at untimely
    · rename_i event
      -- Only a bus-off that is read can be off schedule.
      obtain ⟨error, rfl, selecting⟩ : ∃ error, event = .error error true ∧
          s.driver.phase = .selecting := by
        unfold OnSchedule at untimely
        split at untimely
        · rename_i error
          exact ⟨error, rfl, (Classical.not_imp.mp untimely).1⟩
        · exact absurd trivial untimely
      obtain ⟨next, stepped⟩ := error_enabled platform s error true selecting
      refine ⟨next, stepped, ?_⟩
      intro moved recovers
      cases moved with
      | driver _ driver ctx moved =>
          have course := transition_course s.driver driver s.ctx ctx _ moved coherent.branch
          have placed := recovers_placed s.driver driver s.ctx error course selecting recovers
          exact untimely ((on_schedule_iff_placed s.driver s.ctx error selecting
            (counters (by rw [selecting]; simp))).mpr placed)
    · exact absurd trivial untimely
  · refine ⟨⟨boot_coherent config, fun _ => boot_counters config⟩, ?_⟩
    intro before error later same
    simp [boot, Driver.new] at same

-- A bus-off and its recovery, a frame from the recovered bus, and the next bus-off.
def secondEpisode : List Firmware.Event :=
  bringUp ++ [.driver (.error .stuff true), .driver .enabled, .driver .delayElapsed,
    .driver (.frame Translation.sampleFrame), .driver (.error .stuff true)]

/-- The first bus-off of the second episode waits for 200 ms, not for 100. -/
theorem second_episode_off_schedule :
    ∃ final, Machine.run (step (Platform.embassy true)) (boot resetConfig) secondEpisode =
        some final ∧
      final.driver.phase = .recovering 200 ∧
      (episode final.driver.log.dropLast).busOffs = 0 ∧ plan 0 = .retry 100 ∧
      ¬ Recovers final.driver := by
  obtain ⟨final, finished, awaited, fresh, last⟩ : ∃ final,
      Machine.run (step (Platform.embassy true)) (boot resetConfig) secondEpisode = some final ∧
      final.driver.phase = .recovering 200 ∧
      (episode final.driver.log.dropLast).busOffs = 0 ∧
      final.driver.log = final.driver.log.dropLast ++ [.errorRead .stuff true] :=
    ⟨_, rfl, by decide, by decide, by decide⟩
  refine ⟨final, finished, awaited, fresh, rfl, ?_⟩
  intro recovers
  have follows := recovers final.driver.log.dropLast .stuff [] last
  rw [fresh] at follows
  rcases follows with ⟨_, recovering⟩ | ⟨one, _⟩ | complete
  · rw [awaited] at recovering
    cases recovering
  · cases one
  · cases List.prefix_nil.mp complete

def errorOfferOf : Record → Option (Offer × Bool)
  | .offered .busError sent => some (.busError, sent)
  | .offered .busOff sent => some (.busOff, sent)
  | _ => none

abbrev errorOffers (log : List Record) : List (Offer × Bool) := log.filterMap errorOfferOf

@[simp] theorem error_offers_loop_top (driver : Driver) :
    errorOffers driver.loopTop.log = errorOffers driver.log :=
  loop_top_view driver errorOfferOf rfl

/-- The frame of one bus error, and what became of the offer. -/
inductive Report (driver next : Driver) (ctx after : Context) (error : BusError) : Bool → Prop where
  | reported (sent) (offers : errorOffers next.log = errorOffers driver.log ++ [(.busError, sent)])
      (queued : sent = true → after.usbEcho.queued = ctx.usbEcho.queued ++
        [GsHostFrame.fromBusError error.toCanBusError])
      (counted : sent = false → after.service.droppedRx = ctx.service.droppedRx + 1) :
      Report driver next ctx after error false
  | recovering (few : ctx.service.busOffCount.toNat < 5)
      (offers : errorOffers next.log = errorOffers driver.log)
      (awaited : ∃ delayMs, next.phase = .recovering delayMs) :
      Report driver next ctx after error true
  | noticed (sent) (many : 5 ≤ ctx.service.busOffCount.toNat)
      (offers : errorOffers next.log = errorOffers driver.log ++ [(.busOff, sent)])
      (queued : sent = true → after.usbEcho.queued = ctx.usbEcho.queued ++
        [GsHostFrame.fromControllerError .busOff]) :
      Report driver next ctx after error true

theorem transition_report (driver next : Driver) (ctx after : Context) (error : BusError)
    (sleeping : Bool) (moved : Transition platform driver ctx (.error error sleeping) next after)
    (counting : platform.addU32 driver.canErrorCount 1 ≠ none) :
    Report driver next ctx after error sleeping := by
  cases moved with
  | errorPanic _ _ selecting overflow => exact absurd overflow counting
  | busOffRetry _ count delayMs selecting counted few delay =>
      exact .recovering ((retries_left _).mp few) (by simp [errorOfferOf]) ⟨delayMs, rfl⟩
  | busOffGivenUp _ count selecting counted many =>
      refine .noticed ctx.usbEcho.hasRoom ?_ (by simp [errorOfferOf]) ?_
      · exact Nat.le_of_not_lt fun few => many ((retries_left _).mpr few)
      · intro room
        simp [Channel.try_send_queued, room]
  | errorQueued _ count selecting counted room =>
      refine .reported true (by simp [errorOfferOf]) ?_ (by simp)
      intro _
      simp [Channel.try_send_queued, room]
  | errorRefused _ count value canRx selecting counted full taken =>
      exact .reported false (by simp [errorOfferOf]) (by simp) (fun _ => rfl)
  | errorRefusedAlone _ count selecting counted full empty =>
      exact .reported false (by simp [errorOfferOf]) (by simp) (fun _ => rfl)

theorem transition_no_report (driver next : Driver) (ctx after : Context)
    (event : CanDriver.Event) (moved : Transition platform driver ctx event next after)
    (other : ∀ error sleeping, event ≠ .error error sleeping) :
    errorOffers next.log = errorOffers driver.log := by
  cases moved with
  | errorPanic error sleeping selecting overflow => exact absurd rfl (other error sleeping)
  | busOffRetry error count delayMs selecting counted few delay
  | busOffGivenUp error count selecting counted many => exact absurd rfl (other error true)
  | errorQueued error count selecting counted room
  | errorRefused error count value canRx selecting counted full taken
  | errorRefusedAlone error count selecting counted full empty =>
      exact absurd rfl (other error false)
  | _ => simp [errorOfferOf, Driver.panic]

/-- In every reachable state, an error read with the controller awake has its one frame
offered, queued or counted; in bus-off no frame is offered while retries are left,
and after that the BusOff frame is. Nothing else offers an error frame. -/
theorem bus_errors_reported (platform : Platform) (config : CanConfig)
    (events : List Firmware.Event) (s : System)
    (finished : Machine.run (step platform) (boot config) events = some s) :
    (∀ error sleeping next, step platform s (.driver (.error error sleeping)) = some next →
      platform.addU32 s.driver.canErrorCount 1 ≠ none →
      Report s.driver next.driver s.ctx next.ctx error sleeping) ∧
    ∀ event next, step platform s event = some next →
      (∀ error sleeping, event ≠ .driver (.error error sleeping)) →
      errorOffers next.driver.log = errorOffers s.driver.log := by
  have sound := run_sound config events s finished
  constructor
  · intro error sleeping next stepped counting
    cases step_move s next _ sound stepped with
    | driver _ driver ctx moved =>
        exact transition_report s.driver driver s.ctx ctx error sleeping moved counting
  · intro event next stepped other
    cases step_move s next _ sound stepped with
    | driver event driver ctx moved =>
        apply transition_no_report s.driver driver s.ctx ctx event moved
        rintro error sleeping rfl
        exact other error sleeping rfl
    | _ => rfl

theorem bus_errors_reported_bring_up :
    ∃ s next, Machine.run (step (Platform.embassy true)) (boot resetConfig) bringUp = some s ∧
      step (Platform.embassy true) s (.driver (.error .crc false)) = some next ∧
      (Platform.embassy true).addU32 s.driver.canErrorCount 1 ≠ none ∧
      Report s.driver next.driver s.ctx next.ctx .crc false := by
  obtain ⟨s, finished, selecting, counting⟩ : ∃ s, Machine.run (step (Platform.embassy true))
      (boot resetConfig) bringUp = some s ∧ s.driver.phase = .selecting ∧
      (Platform.embassy true).addU32 s.driver.canErrorCount 1 ≠ none :=
    ⟨_, rfl, by decide, by decide⟩
  obtain ⟨next, stepped⟩ := error_enabled (Platform.embassy true) s .crc false selecting
  exact ⟨s, next, finished, stepped, counting,
    (bus_errors_reported (Platform.embassy true) resetConfig bringUp s finished).1 .crc false next
      stepped counting⟩

/-- A bus-off that is recovered from: the host hears nothing of it. -/
theorem recovered_bus_off_unreported :
    ∃ final, Machine.run (step (Platform.embassy true)) (boot resetConfig)
        (bringUp ++ [.driver (.error .stuff true), .driver .enabled, .driver .delayElapsed]) =
        some final ∧
      final.driver.isWaiting = true ∧ .errorRead .stuff true ∈ final.driver.log ∧
      errorOffers final.driver.log = [] ∧ final.ctx.usbEcho.accepted = [] ∧
      final.ctx.service.droppedRx = 0 :=
  ⟨_, rfl, by decide, by decide, by decide, by decide, by decide⟩

end NginLink.BusErrors
