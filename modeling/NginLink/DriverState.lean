import NginLink.BusMode
import NginLink.FirmwareSteps

/-!
The invariant of the driver and its peripheral. The controller refines the
abstract mode of the commands processed so far, every command that put the
peripheral to sleep has woken it again before the next event is waited for, and
`transmit` and `read` are only called in the started branch.
-/

namespace NginLink.DriverState

open AppContext BoundedChannel BspCan BusMode CanDriver Firmware GsUsbTypes

def commandOf : Record → Option CanDriverCmd
  | .command cmd _ => some cmd
  | _ => none

/-- The commands that put the peripheral to sleep and owe it an `enable`. -/
def owedOf : Record → Option CanDriverCmd
  | .command (.start loopback listenOnly oneShot) _ => some (.start loopback listenOnly oneShot)
  | .command .stop true => some .stop
  | .command (.setBitTiming timing) true => some (.setBitTiming timing)
  | _ => none

def paidOf : Record → Option CanDriverCmd
  | .finished cmd _ => some cmd
  | _ => none

/-- `transmit` and `read` are called while started, and a finished command leaves
the peripheral awake. -/
def Admissible : Record → Prop
  | .transmit _ _ started => started = true
  | .reading started => started = true
  | .finished _ asleep => asleep = false
  | _ => True

abbrev commands (log : List Record) : List CanDriverCmd := log.filterMap commandOf
abbrev owed (log : List Record) : List CanDriverCmd := log.filterMap owedOf
abbrev paid (log : List Record) : List CanDriverCmd := log.filterMap paidOf

-- The command whose `enable` is being awaited.
def paying : Phase → List CanDriverCmd
  | .enabling cmd _ => [cmd]
  | _ => []

@[simp] theorem paying_enabling (cmd : CanDriverCmd) (inLoop : Bool) :
    paying (.enabling cmd inLoop) = [cmd] := rfl

@[simp] theorem paying_selecting : paying .selecting = [] := rfl
@[simp] theorem paying_receiving : paying .receiving = [] := rfl
@[simp] theorem paying_transmitting (serial : Nat) (request : CanTxRequest) (frame : Frame) :
    paying (.transmitting serial request frame) = [] := rfl
@[simp] theorem paying_recovering (delayMs : Nat) : paying (.recovering delayMs) = [] := rfl
@[simp] theorem paying_delaying (delayMs : Nat) : paying (.delaying delayMs) = [] := rfl

section Views
variable (driver : Driver)

@[simp] theorem view_cons {α : Type} (view : Record → Option α) (record : Record)
    (rest : List Record) :
    (record :: rest).filterMap view = (view record).toList ++ rest.filterMap view := by
  cases found : view record <;> simp [found]

theorem loop_top_view {α : Type} (view : Record → Option α) (blind : view (.reading true) = none) :
    driver.loopTop.log.filterMap view = driver.log.filterMap view := by
  rw [loop_top_log, List.filterMap_append]
  cases driver.isStarted <;> simp [blind]

@[simp] theorem commands_loop_top : commands driver.loopTop.log = commands driver.log :=
  loop_top_view driver commandOf rfl

@[simp] theorem owed_loop_top : owed driver.loopTop.log = owed driver.log :=
  loop_top_view driver owedOf rfl

@[simp] theorem paid_loop_top : paid driver.loopTop.log = paid driver.log :=
  loop_top_view driver paidOf rfl

@[simp] theorem paying_loop_top : paying driver.loopTop.phase = [] := by
  rw [loop_top_phase]
  split <;> rfl

theorem loop_top_admissible (every : ∀ record ∈ driver.log, Admissible record) :
    ∀ record ∈ driver.loopTop.log, Admissible record := by
  intro record member
  rw [loop_top_log, List.mem_append] at member
  rcases member with earlier | reading
  · exact every record earlier
  · cases started : driver.isStarted with
    | true =>
        simp only [started, ↓reduceIte, List.mem_singleton] at reading
        rw [reading]
        exact rfl
    | false => simp [started] at reading

end Views

def InBranch (started : Bool) : Phase → Prop
  | .selecting | .transmitting _ _ _ | .recovering _ | .delaying _ => started = true
  | .receiving => started = false
  | .enabling .stop _ => started = false
  | .enabling _ _ => started = true
  | .panicked => True

def controllerMode : Bool → CanConfig → Mode
  | true, config => .running ⟨config.loopback, config.silent, !config.automaticRetransmit⟩
  | false, _ => .stopped

/-- A controller that was never started, or one that cannot drive the bus. -/
def Quiet (driver : Driver) : Prop :=
  driver.can.config.silent = true ∨
    (paying driver.phase = [] ∧ lastStart (commands driver.log) = none ∧ .enabled ∉ driver.log)

structure Coherent (driver : Driver) (ctx : Context) : Prop where
  service : ctx.service.started = driver.isStarted
  branch : InBranch driver.isStarted driver.phase
  admissible : ∀ record ∈ driver.log, Admissible record
  mode : controllerMode driver.isStarted driver.can.config = modeAfter (commands driver.log)
  filter : driver.isStarted = true → driver.can.acceptAll = true
  payments : driver.phase ≠ .panicked →
    owed driver.log = paid driver.log ++ paying driver.phase
  quiet : driver.isStarted = false → Quiet driver

theorem boot_coherent (config : CanConfig) :
    Coherent (boot config).driver (boot config).ctx where
  service := rfl
  branch := rfl
  admissible := by
    intro record member
    simp [boot, Driver.new] at member
  mode := rfl
  filter := by
    intro started
    simp [boot, Driver.new] at started
  payments := fun _ => rfl
  quiet := fun _ => Or.inr ⟨rfl, rfl, by simp [boot, Driver.new]⟩

variable {platform : Platform}

theorem set_bit_timing_effect (can after : Can) (timing : GsDeviceBitTiming)
    (valid : can.setBitTiming platform timing = some after) :
    after = can.modifyConfig (fun config =>
      { config with bitTiming := Can.nominalBitTiming platform timing }) := by
  unfold Can.setBitTiming at valid
  obtain ⟨bt, computed, configured⟩ := Option.bind_eq_some_iff.mp valid
  cases configured
  rw [computed]

theorem selecting_started (driver : Driver) (branch : InBranch driver.isStarted driver.phase)
    (selecting : driver.phase = .selecting) : driver.isStarted = true := by
  rw [selecting] at branch
  exact branch

theorem receiving_stopped (driver : Driver) (branch : InBranch driver.isStarted driver.phase)
    (receiving : driver.phase = .receiving) : driver.isStarted = false := by
  rw [receiving] at branch
  exact branch

theorem loop_top_in_branch (driver : Driver) :
    InBranch driver.loopTop.isStarted driver.loopTop.phase := by
  rw [loop_top_phase, loop_top_started]
  cases started : driver.isStarted <;> simp [InBranch]

section StepLemmas
variable (driver next : Driver) (ctx after : Context) (event : CanDriver.Event)
variable (moved : Transition platform driver ctx event next after)
include moved

theorem transition_service (same : ctx.service.started = driver.isStarted) :
    after.service.started = next.isStarted := by
  cases moved with
  | startedStop canCmd selecting taken => rfl
  | stoppedStart canCmd loopback listenOnly oneShot receiving taken => rfl
  | _ => simpa [Driver.panic, CanService.countDropped] using same

theorem transition_branch (branch : InBranch driver.isStarted driver.phase) :
    InBranch next.isStarted next.phase := by
  cases moved with
  | startedStop canCmd selecting taken => rfl
  | stoppedStart canCmd loopback listenOnly oneShot receiving taken => rfl
  | startedStart canCmd loopback listenOnly oneShot selecting taken =>
      rw [selecting] at branch
      exact branch
  | startedTiming canCmd timing can selecting taken valid =>
      rw [selecting] at branch
      exact branch
  | startedTransmit canCmd request data frame selecting taken sliced built =>
      rw [selecting] at branch
      exact branch
  | busOffRetry error count delayMs selecting counted few delay =>
      rw [selecting] at branch
      exact branch
  | recovered delayMs recovering =>
      rw [recovering] at branch
      exact branch
  | commandPanic canCmd cmd waiting taken fatal => trivial
  | errorPanic error sleeping selecting overflow => trivial
  | _ => exact loop_top_in_branch _

theorem transition_admissible (branch : InBranch driver.isStarted driver.phase)
    (every : ∀ record ∈ driver.log, Admissible record) :
    ∀ record ∈ next.log, Admissible record := by
  have extend : ∀ records : List Record, (∀ record ∈ records, Admissible record) →
      ∀ record ∈ driver.log ++ records, Admissible record := by
    intro records admissible record member
    rcases List.mem_append.mp member with earlier | added
    · exact every record earlier
    · exact admissible record added
  cases moved with
  | startedStop canCmd selecting taken => exact extend _ (by simp [Admissible])
  | startedStart canCmd loopback listenOnly oneShot selecting taken =>
      exact extend _ (by simp [Admissible])
  | startedTiming canCmd timing can selecting taken valid => exact extend _ (by simp [Admissible])
  | startedTransmit canCmd request data frame selecting taken sliced built =>
      have started := selecting_started driver branch selecting
      exact extend _ (by simp [Admissible, started])
  | startedFrameError canCmd request data error selecting taken sliced failed =>
      have started := selecting_started driver branch selecting
      exact loop_top_admissible _ (extend _ (by simp [Admissible, started]))
  | stoppedStart canCmd loopback listenOnly oneShot receiving taken =>
      exact extend _ (by simp [Admissible])
  | commandPanic canCmd cmd waiting taken fatal => exact extend _ (by simp [Admissible])
  | errorPanic error sleeping selecting overflow => exact extend _ (by simp [Admissible])
  | busOffRetry error count delayMs selecting counted few delay =>
      exact extend _ (by simp [Admissible])
  | recovered delayMs recovering => exact extend _ (by simp [Admissible])
  | _ => exact loop_top_admissible _ (extend _ (by simp [Admissible]))

-- One step of the driver is one step of the abstract mode, or none.
theorem transition_mode (branch : InBranch driver.isStarted driver.phase)
    (agrees : controllerMode driver.isStarted driver.can.config = modeAfter (commands driver.log)) :
    controllerMode next.isStarted next.can.config = modeAfter (commands next.log) := by
  cases moved with
  | startedStop canCmd selecting taken => simp [controllerMode, commandOf, Mode.after]
  | startedStart canCmd loopback listenOnly oneShot selecting taken =>
      have started := selecting_started driver branch selecting
      simp [started, controllerMode, commandOf, Mode.after, Can.start, Can.modifyConfig]
  | stoppedStart canCmd loopback listenOnly oneShot receiving taken =>
      simp [controllerMode, commandOf, Mode.after, Can.start, Can.modifyConfig]
  | stoppedStop canCmd receiving taken =>
      have stopped := receiving_stopped driver branch receiving
      simp [stopped, controllerMode, commandOf, Mode.after]
  | startedTiming canCmd timing can selecting taken valid =>
      cases set_bit_timing_effect driver.can can timing valid
      simp [← agrees, commandOf, Mode.after, Can.modifyConfig]
      cases driver.isStarted <;> rfl
  | stoppedTiming canCmd timing can receiving taken valid =>
      cases set_bit_timing_effect driver.can can timing valid
      simp [← agrees, commandOf, Mode.after, Can.modifyConfig]
      cases driver.isStarted <;> rfl
  | commandPanic canCmd cmd waiting taken fatal =>
      rcases fatal with ⟨timing, rfl, _⟩ | ⟨request, rfl, _⟩
      · simpa [commandOf, Mode.after, Driver.panic] using agrees
      · simpa [commandOf, Mode.after, Driver.panic] using agrees
  | _ =>
      simpa [commandOf, Mode.after, Can.enable, Can.store, Can.abortMailboxes, Driver.panic]
        using agrees

theorem transition_filter (accepts : driver.isStarted = true → driver.can.acceptAll = true) :
    next.isStarted = true → next.can.acceptAll = true := by
  cases moved with
  | startedStop canCmd selecting taken =>
      intro started
      cases started
  | startedStart canCmd loopback listenOnly oneShot selecting taken => exact fun _ => rfl
  | stoppedStart canCmd loopback listenOnly oneShot receiving taken => exact fun _ => rfl
  | startedTiming canCmd timing can selecting taken valid =>
      cases set_bit_timing_effect driver.can can timing valid
      simpa [Can.modifyConfig] using accepts
  | stoppedTiming canCmd timing can receiving taken valid =>
      cases set_bit_timing_effect driver.can can timing valid
      simpa [Can.modifyConfig] using accepts
  | _ => simpa [Can.enable, Can.store, Can.abortMailboxes, Driver.panic] using accepts

/-- What a mailbox holds after a step was there before, or is the frame of a `write` that
the step completed and answered. -/
theorem transition_mailboxes (slot : Nat × Frame) (member : slot ∈ next.can.mailboxes) :
    slot ∈ driver.can.mailboxes ∨ ∃ request outcome,
      driver.phase = .transmitting slot.1 request slot.2 ∧
      .outcome slot.1 request outcome ∈ next.log ∧ outcome.isOk = true := by
  cases moved with
  | written dequeued serial request frame transmitting room =>
      rw [loop_top_can] at member
      rcases List.mem_append.mp member with earlier | added
      · exact Or.inl ((remaining_sublist _ dequeued).subset earlier)
      · rw [List.mem_singleton.mp added]
        exact Or.inr ⟨request, .echoed, transmitting, by simp [loop_top_log], rfl⟩
  | writtenRefused dequeued serial request frame transmitting full =>
      rw [loop_top_can] at member
      rcases List.mem_append.mp member with earlier | added
      · exact Or.inl ((remaining_sublist _ dequeued).subset earlier)
      · rw [List.mem_singleton.mp added]
        exact Or.inr ⟨request, .echoDropped, transmitting, by simp [loop_top_log], rfl⟩
  | timedOut serial request frame transmitting =>
      rw [loop_top_can] at member
      cases member
  | startedTiming canCmd timing can selecting taken valid =>
      cases set_bit_timing_effect driver.can can timing valid
      exact Or.inl member
  | stoppedTiming canCmd timing can receiving taken valid =>
      cases set_bit_timing_effect driver.can can timing valid
      rw [loop_top_can] at member
      exact Or.inl member
  | _ => exact Or.inl (by simpa [Driver.panic, Can.start, Can.stop, Can.enable,
      Can.modifyConfig] using member)

/-- Every reconfiguration while started, every Start and every effective Stop is
followed by its `enable` before the task waits for an event again. -/
theorem transition_payments (branch : InBranch driver.isStarted driver.phase)
    (balanced : driver.phase ≠ .panicked →
      owed driver.log = paid driver.log ++ paying driver.phase) :
    next.phase ≠ .panicked → owed next.log = paid next.log ++ paying next.phase := by
  intro running
  cases moved with
  | startedStop canCmd selecting taken =>
      have started := selecting_started driver branch selecting
      rw [selecting] at balanced
      simpa [started, owedOf, paidOf] using balanced
  | startedTiming canCmd timing can selecting taken valid =>
      have started := selecting_started driver branch selecting
      rw [selecting] at balanced
      simpa [started, owedOf, paidOf] using balanced
  | stoppedStop canCmd receiving taken =>
      have stopped := receiving_stopped driver branch receiving
      rw [receiving] at balanced
      simpa [stopped, owedOf, paidOf] using balanced
  | stoppedTiming canCmd timing can receiving taken valid =>
      have stopped := receiving_stopped driver branch receiving
      rw [receiving] at balanced
      simpa [stopped, owedOf, paidOf] using balanced
  | commandPanic canCmd cmd waiting taken fatal => exact absurd rfl running
  | errorPanic error sleeping selecting overflow => exact absurd rfl running
  | commandEnabled cmd inLoop enabling =>
      rw [enabling] at balanced
      simpa [owedOf, paidOf] using balanced
  | written dequeued serial request frame transmitting _
  | writtenRefused dequeued serial request frame transmitting _
  | timedOut serial request frame transmitting =>
      rw [transmitting] at balanced
      simpa [owedOf, paidOf] using balanced
  | recovered delayMs recovering =>
      rw [recovering] at balanced
      simpa [owedOf, paidOf] using balanced
  | delayed delayMs delaying =>
      rw [delaying] at balanced
      simpa [owedOf, paidOf] using balanced
  | stoppedStart canCmd loopback listenOnly oneShot receiving taken
  | stoppedTransmit canCmd request receiving taken =>
      rw [receiving] at balanced
      simpa [owedOf, paidOf] using balanced
  | _ =>
      have selecting : driver.phase = .selecting := by assumption
      rw [selecting] at balanced
      simpa [owedOf, paidOf] using balanced

omit moved in
-- Nothing but a Start or an `enable` can end quietness.
theorem quiet_kept (silent : next.can.config.silent = driver.can.config.silent)
    (idle : paying next.phase = [])
    (starts : lastStart (commands next.log) = lastStart (commands driver.log))
    (wakes : .enabled ∈ next.log → .enabled ∈ driver.log) (quiet : Quiet driver) :
    Quiet next := by
  rcases quiet with mute | ⟨_, never, asleep⟩
  · exact Or.inl (silent.trans mute)
  · exact Or.inr ⟨idle, starts.trans never, fun woken => asleep (wakes woken)⟩

theorem transition_quiet (branch : InBranch driver.isStarted driver.phase)
    (quiet : driver.isStarted = false → Quiet driver) :
    next.isStarted = false → Quiet next := by
  intro stopped
  cases moved with
  | startedStop canCmd selecting taken => exact Or.inl rfl
  | stoppedStart canCmd loopback listenOnly oneShot receiving taken => cases stopped
  | stoppedStop canCmd receiving taken =>
      rw [loop_top_started, note_started] at stopped
      exact quiet_kept driver _ (by simp) (by simp) (by simp [commandOf, startModes])
        (by simp [loop_top_log, stopped]) (quiet stopped)
  | stoppedTiming canCmd timing can receiving taken valid =>
      cases set_bit_timing_effect driver.can can timing valid
      rw [loop_top_started, note_started] at stopped
      exact quiet_kept driver _ (by simp [Can.modifyConfig]) (by simp)
        (by simp [commandOf, startModes]) (by simp [loop_top_log, stopped]) (quiet stopped)
  | stoppedTransmit canCmd request receiving taken =>
      rw [loop_top_started, note_started] at stopped
      exact quiet_kept driver _ (by simp) (by simp) (by simp [commandOf, startModes])
        (by simp [loop_top_log, stopped]) (quiet stopped)
  | commandPanic canCmd cmd waiting taken fatal =>
      rcases fatal with ⟨timing, rfl, _⟩ | ⟨request, rfl, _⟩
      · exact quiet_kept driver _ rfl rfl (by simp [Driver.panic, commandOf, startModes])
          (by simp [Driver.panic]) (quiet stopped)
      · exact quiet_kept driver _ rfl rfl (by simp [Driver.panic, commandOf, startModes])
          (by simp [Driver.panic]) (quiet stopped)
  | commandEnabled cmd inLoop enabling =>
      -- The awaited `enable` is that of a Stop, which has silenced the controller.
      rw [loop_top_started, note_started] at stopped
      rcases quiet stopped with silent | ⟨idle, _, _⟩
      · exact Or.inl (by simpa [Can.enable] using silent)
      · rw [enabling] at idle
        simp at idle
  -- The remaining steps leave from the started branch and stay in it.
  | written dequeued serial request frame transmitting _
  | writtenRefused dequeued serial request frame transmitting _
  | timedOut serial request frame transmitting =>
      rw [transmitting] at branch
      simp_all [InBranch]
  | recovered delayMs recovering =>
      rw [recovering] at branch
      simp_all [InBranch]
  | delayed delayMs delaying =>
      rw [delaying] at branch
      simp_all [InBranch]
  | _ =>
      have selecting : driver.phase = .selecting := by assumption
      rw [selecting] at branch
      simp_all [InBranch, Driver.panic]

theorem transition_coherent (coherent : Coherent driver ctx) : Coherent next after where
  service := transition_service driver next ctx after event moved coherent.service
  branch := transition_branch driver next ctx after event moved coherent.branch
  admissible :=
    transition_admissible driver next ctx after event moved coherent.branch coherent.admissible
  mode := transition_mode driver next ctx after event moved coherent.branch coherent.mode
  filter := transition_filter driver next ctx after event moved coherent.filter
  payments := transition_payments driver next ctx after event moved coherent.branch
    coherent.payments
  quiet := transition_quiet driver next ctx after event moved coherent.branch coherent.quiet

end StepLemmas

theorem move_coherent (s next : System) (event : Firmware.Event)
    (moved : Move platform s event next) (coherent : Coherent s.driver s.ctx) :
    Coherent next.driver next.ctx := by
  cases moved with
  | driver event driver ctx moved =>
      exact transition_coherent s.driver driver s.ctx ctx event moved coherent
  | mailboxSent index held transmits =>
      exact ⟨coherent.service, coherent.branch, coherent.admissible, coherent.mode,
        coherent.filter, coherent.payments, coherent.quiet⟩
  | _ => exact ⟨coherent.service, coherent.branch, coherent.admissible, coherent.mode,
      coherent.filter, coherent.payments, coherent.quiet⟩

theorem run_coherent (config : CanConfig) (events : List Firmware.Event) (final : System)
    (finished : Machine.run (step platform) (boot config) events = some final) :
    Coherent final.driver final.ctx :=
  run_move_invariant (fun s => Coherent s.driver s.ctx)
    (fun s event next _ coherent moved => move_coherent s next event moved coherent)
    config events final finished (boot_coherent config)

theorem waiting_phase (driver : Driver) (waiting : driver.isWaiting = true) :
    driver.phase = .selecting ∨ driver.phase = .receiving := by
  simpa [Driver.isWaiting] using waiting

theorem waiting_running (driver : Driver) (waiting : driver.isWaiting = true) :
    driver.phase ≠ .panicked := by
  rcases waiting_phase driver waiting with phase | phase <;> rw [phase] <;> simp

theorem waiting_paying (driver : Driver) (waiting : driver.isWaiting = true) :
    paying driver.phase = [] := by
  rcases waiting_phase driver waiting with phase | phase <;> rw [phase] <;> rfl

/-- Between two events, driver and peripheral agree: the controller runs exactly
in the modes of the last Start, or it cannot drive the bus. -/
theorem waiting_driver_coherent (platform : Platform) (config : CanConfig)
    (events : List Firmware.Event) (final : System)
    (finished : Machine.run (step platform) (boot config) events = some final)
    (waiting : final.driver.isWaiting = true) :
    final.ctx.service.started = final.driver.isStarted ∧
    (∀ serial request started,
      Record.transmit serial request started ∈ final.driver.log → started = true) ∧
    (∀ started, Record.reading started ∈ final.driver.log → started = true) ∧
    (final.driver.isStarted = true →
      final.driver.can.acceptAll = true ∧
      ∃ modes, lastStart (commands final.driver.log) = some modes ∧
        final.driver.can.config.silent = modes.listenOnly ∧
        final.driver.can.config.loopback = modes.loopback ∧
        final.driver.can.config.automaticRetransmit = !modes.oneShot) ∧
    -- Each Start, each effective Stop and each timing set while started was finished.
    owed final.driver.log = paid final.driver.log ∧
    (∀ cmd asleep, Record.finished cmd asleep ∈ final.driver.log → asleep = false) ∧
    (final.driver.isStarted = false →
      (lastStart (commands final.driver.log) = none ∧ Record.enabled ∉ final.driver.log) ∨
        final.driver.can.config.silent = true) := by
  have coherent := run_coherent config events final finished
  have idle := waiting_paying final.driver waiting
  have running := waiting_running final.driver waiting
  refine ⟨coherent.service, ?_, ?_, ?_, ?_, ?_, ?_⟩
  · intro serial request started member
    exact coherent.admissible _ member
  · intro started member
    exact coherent.admissible _ member
  · intro started
    have mode := coherent.mode
    rw [started] at mode
    refine ⟨coherent.filter started, _, running_last_start _ _ mode.symm, rfl, rfl, ?_⟩
    simp
  · rw [coherent.payments running, idle, List.append_nil]
  · intro cmd asleep member
    exact coherent.admissible _ member
  · intro stopped
    rcases coherent.quiet stopped with silent | ⟨_, never, asleep⟩
    · exact Or.inr silent
    · exact Or.inl ⟨never, asleep⟩

theorem waiting_driver_coherent_retuned :
    (∃ final, Machine.run (step (Platform.embassy true)) (boot resetConfig) retuned = some final ∧
      final.driver.isWaiting = true ∧ final.ctx.service.started = true ∧
      (∀ serial request started,
        Record.transmit serial request started ∈ final.driver.log → started = true) ∧
      (∀ started, Record.reading started ∈ final.driver.log → started = true) ∧
      final.driver.can.acceptAll = true ∧
      (∃ modes, lastStart (commands final.driver.log) = some modes ∧
        final.driver.can.config.silent = modes.listenOnly ∧
        final.driver.can.config.loopback = modes.loopback ∧
        final.driver.can.config.automaticRetransmit = !modes.oneShot) ∧
      owed final.driver.log = paid final.driver.log ∧
      (∀ cmd asleep, Record.finished cmd asleep ∈ final.driver.log → asleep = false)) ∧
    ∃ final, Machine.run (step (Platform.embassy true)) (boot resetConfig)
        (retuned ++ [hostMode 0 0, .driver .command, .driver .enabled]) = some final ∧
      final.driver.isWaiting = true ∧ final.ctx.service.started = false ∧
      ((lastStart (commands final.driver.log) = none ∧ Record.enabled ∉ final.driver.log) ∨
        final.driver.can.config.silent = true) := by
  constructor
  · obtain ⟨final, finished, waiting, started⟩ : ∃ final, Machine.run
        (step (Platform.embassy true)) (boot resetConfig) retuned = some final ∧
        final.driver.isWaiting = true ∧ final.driver.isStarted = true :=
      ⟨_, rfl, by decide, by decide⟩
    obtain ⟨service, written, read, modes, payments, awake, _⟩ :=
      waiting_driver_coherent (Platform.embassy true) resetConfig retuned final finished waiting
    obtain ⟨filter, applied⟩ := modes started
    exact ⟨final, finished, waiting, service.trans started, written, read, filter, applied,
      payments, awake⟩
  · obtain ⟨final, finished, waiting, stopped⟩ : ∃ final, Machine.run
        (step (Platform.embassy true)) (boot resetConfig)
        (retuned ++ [hostMode 0 0, .driver .command, .driver .enabled]) = some final ∧
        final.driver.isWaiting = true ∧ final.driver.isStarted = false :=
      ⟨_, rfl, by decide, by decide⟩
    obtain ⟨service, _, _, _, _, _, quiet⟩ := waiting_driver_coherent (Platform.embassy true)
      resetConfig _ final finished waiting
    exact ⟨final, finished, waiting, service.trans stopped, quiet stopped⟩

end NginLink.DriverState
