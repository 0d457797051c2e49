import NginLink.Accounting
import NginLink.Lifecycle

/-!
The firmware comes to rest by itself. When the outside only answers (a transfer
ends, a mailbox takes its frame or the timeout passes, a delay elapses) and brings
nothing new, every step works off part of a bounded load, and as long as the
tasks do not all wait one of them has a step left.
-/

namespace NginLink.Quiescence

open Accounting AppContext BoundedChannel BspCan CanDriver DriverState Firmware Lifecycle
open Mailboxes UsbTasks

def internal : Firmware.Event → Bool
  | .driver .command | .driver .enabled | .driver (.written _) | .driver .timedOut
  | .driver .delayElapsed => true
  | .takeRx | .takeEcho | .writeDone => true
  | _ => false

-- The steps that the task still owes before it waits for the next command or frame; a
-- frame being written may leave an echo behind.
def phaseLoad : Phase → Nat
  | .selecting | .receiving | .panicked => 0
  | .enabling _ _ | .delaying _ => 1
  | .recovering _ => 2
  | .transmitting _ _ _ => 3

def writeLoad : TxPhase → Nat
  | .writing _ => 1
  | .disabled | .selecting | .panicked => 0

/-- What a driver and its channels have yet to do: a command costs its own step and what it
leads to, a frame for the host the two steps of `usb_tx_task`. -/
def driverLoad (driver : Driver) (ctx : Context) : Nat :=
  4 * ctx.canCmd.queued.length + phaseLoad driver.phase + 2 * waitingFrames ctx

def load (s : System) : Nat := driverLoad s.driver s.ctx + writeLoad s.usbTx.phase

@[simp] theorem phase_load_loop_top (driver : Driver) : phaseLoad driver.loopTop.phase = 0 := by
  rw [loop_top_phase]
  split <;> rfl

theorem phase_load_le (phase : Phase) : phaseLoad phase ≤ 3 := by
  cases phase <;> simp [phaseLoad]

theorem write_load_le (phase : TxPhase) : writeLoad phase ≤ 1 := by
  cases phase <;> simp [writeLoad]

-- Sixteen commands, the longest phase, 32 + 16 frames for the host and a write.
theorem load_bounded (s : System) : load s ≤ 164 := by
  have commands := s.ctx.canCmd.bounded
  have frames := s.ctx.canRx.bounded
  have echoes := s.ctx.usbEcho.bounded
  have phase := phase_load_le s.driver.phase
  have write := write_load_le s.usbTx.phase
  unfold load driverLoad waitingFrames
  omega

variable {platform : Platform}

theorem transition_load (driver next : Driver) (ctx after : Context) (event : CanDriver.Event)
    (moved : Transition platform driver ctx event next after)
    (silent : internal (.driver event) = true) : driverLoad next after < driverLoad driver ctx := by
  unfold driverLoad
  have small := phase_load_le next.phase
  cases moved with
  | startedStop canCmd selecting taken
  | startedStart canCmd loopback listenOnly oneShot selecting taken
  | startedTiming canCmd timing can selecting taken valid
  | startedTransmit canCmd request data frame selecting taken sliced built
  | startedFrameError canCmd request data error selecting taken sliced failed
  | stoppedStart canCmd loopback listenOnly oneShot receiving taken
  | stoppedStop canCmd receiving taken
  | stoppedTiming canCmd timing can receiving taken valid
  | stoppedTransmit canCmd request receiving taken
  | commandPanic canCmd cmd waiting taken fatal =>
      -- The command pays for the phase it leads to.
      have one := queued_after_receive _ _ _ taken
      dsimp only [waitingFrames] at small ⊢
      omega
  | commandEnabled cmd inLoop enabling =>
      rw [enabling, phase_load_loop_top]
      simp [phaseLoad]
  | recovered delayMs recovering =>
      rw [recovering]
      simp [phaseLoad]
  | delayed delayMs delaying =>
      rw [delaying, phase_load_loop_top]
      simp [phaseLoad]
  | written dequeued serial request frame transmitting room =>
      -- The write pays for the echo.
      rw [transmitting, phase_load_loop_top]
      simp [phaseLoad, waitingFrames, queued_after_send, room]
      omega
  | writtenRefused dequeued serial request frame transmitting full =>
      rw [transmitting, phase_load_loop_top]
      simp [phaseLoad, waitingFrames, queued_after_send, full]
  | timedOut serial request frame transmitting =>
      rw [transmitting, phase_load_loop_top]
      simp [phaseLoad]
  | frameQueued | frameRefused | errorPanic | busOffRetry | busOffGivenUp | errorQueued
  | errorRefused | errorRefusedAlone => cases silent

theorem move_load (s next : System) (event : Firmware.Event) (moved : Move platform s event next)
    (silent : internal event = true) : load next < load s := by
  unfold load
  cases moved with
  | driver event driver ctx moved =>
      have lower := transition_load s.driver driver s.ctx ctx event moved silent
      exact Nat.add_lt_add_right lower _
  | tookRx frame canRx selecting taken =>
      have one := queued_after_receive _ _ _ taken
      simp [driverLoad, waitingFrames, writeLoad, selecting, UsbTx.startWrite]
      omega
  | tookEcho frame usbEcho selecting taken =>
      have one := queued_after_receive _ _ _ taken
      simp [driverLoad, waitingFrames, writeLoad, selecting, UsbTx.startWrite]
      omega
  | wrote bytes writing =>
      rw [writing]
      exact Nat.lt_succ_self _
  | _ => cases silent

/-- Every task waits for what only the outside can bring, or the driver has panicked. -/
structure AtRest (s : System) : Prop where
  driver : s.driver.phase = .panicked ∨ s.driver.isWaiting = true ∧ s.ctx.canCmd.queued = []
  frames : s.ctx.canRx.queued = []
  echoes : s.ctx.usbEcho.queued = []
  usbTx : s.usbTx.phase = .selecting

def Connected (s : System) : Prop :=
  s.usbTx.phase = .selecting ∨ ∃ bytes, s.usbTx.phase = .writing bytes

theorem move_connected (s next : System) (event : Firmware.Event)
    (moved : Move platform s event next) (connected : Connected s) : Connected next := by
  cases moved with
  | inEnabled disabled => exact Or.inl rfl
  | tookRx frame canRx selecting taken => exact Or.inr ⟨_, rfl⟩
  | tookEcho frame usbEcho selecting taken => exact Or.inr ⟨_, rfl⟩
  | wrote bytes writing => exact Or.inl rfl
  | _ => exact connected

/-- An internal step that the peripheral can take with its three mailboxes. -/
def Inner (s : System) (event : Firmware.Event) : Prop :=
  internal event = true ∧ MailboxContract s event

theorem inner_step (platform : Platform) (s : System) (event : Firmware.Event)
    (inner : Inner s event) (enabled : (step platform s event).isSome = true) :
    ∃ event next, Inner s event ∧ step platform s event = some next := by
  obtain ⟨next, stepped⟩ := Option.isSome_iff_exists.mp enabled
  exact ⟨event, next, inner, stepped⟩

theorem driver_proceeds (platform : Platform) (s : System)
    (capacity : s.driver.can.mailboxes.length ≤ 3) :
    (s.driver.phase = .panicked ∨ s.driver.isWaiting = true ∧ s.ctx.canCmd.queued = []) ∨
      ∃ event next, Inner s event ∧ step platform s event = some next := by
  cases phase : s.driver.phase with
  | panicked => exact Or.inl (Or.inl rfl)
  | enabling cmd inLoop =>
      exact Or.inr (inner_step platform s (.driver .enabled) ⟨rfl, trivial⟩
        (by simp [Firmware.step, CanDriver.step, phase]))
  | recovering delayMs =>
      exact Or.inr (inner_step platform s (.driver .enabled) ⟨rfl, trivial⟩
        (by simp [Firmware.step, CanDriver.step, phase]))
  | delaying delayMs =>
      exact Or.inr (inner_step platform s (.driver .delayElapsed) ⟨rfl, trivial⟩
        (by simp [Firmware.step, CanDriver.step, phase]))
  | transmitting serial request frame =>
      -- Either a mailbox is free, or all three are held and the timeout passes.
      rcases Nat.lt_or_eq_of_le capacity with free | full
      · exact Or.inr (inner_step platform s (.driver (.written none)) ⟨rfl, rfl, free⟩
          (by simp [Firmware.step, CanDriver.step, phase]))
      · exact Or.inr (inner_step platform s (.driver .timedOut) ⟨rfl, full⟩
          (by simp [Firmware.step, CanDriver.step, phase]))
  | selecting | receiving =>
      have waiting : s.driver.isWaiting = true := by simp [Driver.isWaiting, phase]
      cases taken : s.ctx.canCmd.tryReceive with
      | none => exact Or.inl (Or.inr ⟨waiting, (Channel.try_receive_none _).mp taken⟩)
      | some front =>
          obtain ⟨next, stepped⟩ := command_enabled platform s front.1 front.2 waiting taken
          exact Or.inr ⟨.driver .command, next, ⟨rfl, trivial⟩, stepped⟩

theorem firmware_proceeds (platform : Platform) (s : System) (connected : Connected s)
    (capacity : s.driver.can.mailboxes.length ≤ 3) :
    AtRest s ∨ ∃ event next, Inner s event ∧ step platform s event = some next := by
  rcases connected with selecting | ⟨bytes, writing⟩
  · cases rx : s.ctx.canRx.tryReceive with
    | some front =>
        exact Or.inr (inner_step platform s .takeRx ⟨rfl, trivial⟩
          (by simp [Firmware.step, receiveRx, selecting, rx]))
    | none =>
        cases echo : s.ctx.usbEcho.tryReceive with
        | some front =>
            exact Or.inr (inner_step platform s .takeEcho ⟨rfl, trivial⟩
              (by simp [Firmware.step, receiveEcho, selecting, echo]))
        | none =>
            rcases driver_proceeds platform s capacity with rests | proceeds
            · exact Or.inl ⟨rests, (Channel.try_receive_none _).mp rx,
                (Channel.try_receive_none _).mp echo, selecting⟩
            · exact Or.inr proceeds
  · exact Or.inr (inner_step platform s .writeDone ⟨rfl, trivial⟩
      (by simp [Firmware.step, endWrite, writing]))

structure Running (s : System) : Prop where
  reached : Reached s
  connected : Connected s
  capacity : s.driver.can.mailboxes.length ≤ 3

theorem transition_capacity (driver next : Driver) (ctx after : Context) (event : CanDriver.Event)
    (moved : Transition platform driver ctx event next after)
    (room : ∀ dequeued, event = .written dequeued →
      dequeued = none ∧ driver.can.mailboxes.length < 3)
    (capacity : driver.can.mailboxes.length ≤ 3) : next.can.mailboxes.length ≤ 3 := by
  cases moved with
  | written dequeued | writtenRefused dequeued =>
      obtain ⟨rfl, free⟩ := room dequeued rfl
      simpa [Can.store, remaining] using free
  | timedOut => simp [Can.abortMailboxes]
  | startedTiming canCmd timing can selecting taken valid
  | stoppedTiming canCmd timing can receiving taken valid =>
      cases set_bit_timing_effect driver.can can timing valid
      simpa [Can.modifyConfig] using capacity
  | _ => simpa [Can.start, Can.stop, Can.enable, Can.modifyConfig, Driver.panic] using capacity

theorem move_capacity (s next : System) (event : Firmware.Event)
    (moved : Move platform s event next) (keeps : MailboxContract s event)
    (capacity : s.driver.can.mailboxes.length ≤ 3) : next.driver.can.mailboxes.length ≤ 3 := by
  cases moved with
  | driver event driver ctx moved =>
      apply transition_capacity s.driver driver s.ctx ctx event moved _ capacity
      rintro dequeued rfl
      exact keeps
  | mailboxSent index held transmits =>
      exact ((List.eraseIdx_sublist _ _).length_le).trans capacity
  | _ => exact capacity

theorem step_running (s next : System) (event : Firmware.Event) (running : Running s)
    (keeps : MailboxContract s event) (stepped : step platform s event = some next) :
    Running next := by
  have moved := step_move s next event running.reached.sound stepped
  exact ⟨move_reached s next event running.reached moved,
    move_connected s next event moved running.connected,
    move_capacity s next event moved keeps running.capacity⟩

theorem contract_running (config : CanConfig) (events : List Firmware.Event) (final : System)
    (contract : Machine.Along (step platform) MailboxContract (boot config) events)
    (finished : Machine.run (step platform) (boot config) events = some final)
    (connected : .epInEnabled ∈ events) : Running final where
  reached := run_reached (boot config) final events finished (boot_reached config)
  connected :=
    run_move_establishes (fun _ _ => True) (fun _ => True) Connected .epInEnabled
      (fun _ _ _ _ _ => trivial)
      (fun s next _ _ moved => by
        cases moved
        exact Or.inl rfl)
      (fun s event next connected moved => move_connected s next event moved connected)
      config events final (Machine.along_true (step platform) (boot config) events) finished
      trivial connected
  capacity :=
    run_move_invariant_along MailboxContract (fun s => s.driver.can.mailboxes.length ≤ 3)
      (fun s event next _ capacity keeps moved => move_capacity s next event moved keeps capacity)
      config events final contract finished (Nat.zero_le 3)

theorem inner_running (s event next) (running : Running s) (inner : Inner s event)
    (stepped : step platform s event = some next) : Running next :=
  step_running s next event running inner.2 stepped

theorem inner_lowers (s event next) (running : Running s) (inner : Inner s event)
    (stepped : step platform s event = some next) : load next < load s :=
  move_load s next event (step_move s next event running.reached.sound stepped) inner.1

/-- From every reachable state with the IN endpoint enabled, an internal run has at most
164 steps and can be continued until every task waits; and there is such a run. -/
theorem firmware_comes_to_rest (platform : Platform) (config : CanConfig)
    (before : List Firmware.Event) (s : System)
    (contract : Machine.Along (step platform) MailboxContract (boot config) before)
    (reached : Machine.run (step platform) (boot config) before = some s)
    (connected : .epInEnabled ∈ before) :
    (∀ events final, Machine.Along (step platform) Inner s events →
      Machine.run (step platform) s events = some final →
      events.length ≤ 164 ∧
        (AtRest final ∨ ∃ event next, Inner final event ∧
          step platform final event = some next)) ∧
    ∃ events final, Machine.Along (step platform) Inner s events ∧
      Machine.run (step platform) s events = some final ∧ AtRest final := by
  have running := contract_running config before s contract reached connected
  constructor
  -- Each internal step lowers the load, which is at most 164 to begin with.
  · intro events final inner finished
    constructor
    · have paid := Machine.descent_bounds_run (step platform) Inner Running load inner_running
        inner_lowers s final events inner finished running
      have bounded := load_bounded s
      omega
    · have later := Machine.run_invariant_along (step platform) Inner Running inner_running
        s final events inner finished running
      exact firmware_proceeds platform final later.connected later.capacity
  · exact Machine.descent_reaches_rest (step platform) Inner Running load inner_running
      inner_lowers AtRest
      (fun s running => firmware_proceeds platform s running.connected running.capacity) s running

/-- The silent bus, left to itself: the frames of the first messages are cleared from the
mailboxes, and with nothing left to do the firmware waits. -/
theorem firmware_comes_to_rest_silent_bus :
    ∃ s, Machine.Along (step (Platform.embassy true)) MailboxContract (boot resetConfig) silentBus ∧
      Machine.run (step (Platform.embassy true)) (boot resetConfig) silentBus = some s ∧
      .epInEnabled ∈ silentBus ∧
      ∃ events final, Machine.Along (step (Platform.embassy true)) Inner s events ∧
        Machine.run (step (Platform.embassy true)) s events = some final ∧ AtRest final := by
  have contract : Machine.Along (step (Platform.embassy true)) MailboxContract (boot resetConfig)
      silentBus := by decide
  have connected : .epInEnabled ∈ silentBus := by simp [silentBus]
  obtain ⟨s, reached⟩ : ∃ s, Machine.run (step (Platform.embassy true)) (boot resetConfig)
      silentBus = some s := ⟨_, rfl⟩
  exact ⟨s, contract, reached, connected,
    (firmware_comes_to_rest (Platform.embassy true) resetConfig silentBus s contract reached
      connected).2⟩

end NginLink.Quiescence
