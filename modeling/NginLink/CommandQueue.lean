import NginLink.DriverState

/-!
What goes into CAN_CMD_CHANNEL and what the driver takes out of it. The channel
is fed by the control callbacks and by `usb_rx_task`; a command that found the
channel full is in neither list below, whatever the host was answered.
-/

namespace NginLink.CommandQueue

open AppContext BoundedChannel BspCan CanDriver DriverState Firmware GsUsbTypes UsbTasks

def isControl : CanDriverCmd → Bool
  | .transmit _ => false
  | .start _ _ _ | .stop | .setBitTiming _ => true

def requestOf : CanDriverCmd → Option CanTxRequest
  | .transmit request => some request
  | .start _ _ _ | .stop | .setBitTiming _ => none

/-- The command of a control request, when the channel had a slot for it. -/
def queuedCmd (record : ControlRecord) : Option CanDriverCmd :=
  if record.hadRoom then requestedCmd record.req record.payload else none

def queuedMessages (s : System) : List MessageRecord := s.usbRx.messages.filter (·.queued)

theorem requested_is_control (req : ControlHandler.Request) (payload : List UInt8)
    (cmd : CanDriverCmd) (asks : requestedCmd req payload = some cmd) : isControl cmd = true := by
  unfold requestedCmd at asks
  split at asks
  · cases asks
  · split at asks
    · split at asks
      · cases asks
        rfl
      · cases asks
    · split at asks
      · split at asks
        · simp only [Option.some.injEq] at asks
          subst cmd
          split <;> rfl
        · cases asks
      · cases asks

theorem control_no_request (cmd : CanDriverCmd) (control : isControl cmd = true) :
    requestOf cmd = none := by
  cases cmd with
  | transmit request => cases control
  | start loopback listenOnly oneShot => rfl
  | stop => rfl
  | setBitTiming timing => rfl

variable {platform : Platform}

/-- A step takes the front command off the channel, or leaves the channel alone. -/
theorem transition_command (driver next : Driver) (ctx after : Context) (event : CanDriver.Event)
    (moved : Transition platform driver ctx event next after) :
    (∃ cmd, ctx.canCmd.tryReceive = some (cmd, after.canCmd) ∧
      commands next.log = commands driver.log ++ [cmd]) ∨
    (after.canCmd = ctx.canCmd ∧ commands next.log = commands driver.log) := by
  cases moved with
  | startedStop canCmd selecting taken
  | startedStart canCmd loopback listenOnly oneShot selecting taken
  | startedTiming canCmd timing can selecting taken valid
  | startedTransmit canCmd request data frame selecting taken sliced built
  | startedFrameError canCmd request data error selecting taken sliced failed
  | stoppedStart canCmd loopback listenOnly oneShot receiving taken
  | stoppedStop canCmd receiving taken
  | stoppedTiming canCmd timing can receiving taken valid
  | stoppedTransmit canCmd request receiving taken
  | commandPanic canCmd cmd waiting taken fatal =>
      exact Or.inl ⟨_, taken, by simp [commandOf, Driver.panic]⟩
  | _ => exact Or.inr ⟨rfl, by simp [commandOf, Driver.panic]⟩

theorem transition_accepted (driver next : Driver) (ctx after : Context) (event : CanDriver.Event)
    (moved : Transition platform driver ctx event next after) :
    after.canCmd.accepted = ctx.canCmd.accepted := by
  rcases transition_command driver next ctx after event moved with ⟨cmd, taken, _⟩ | ⟨same, _⟩
  · exact (Channel.try_receive_some ctx.canCmd after.canCmd cmd taken).2.2.1
  · rw [same]

theorem transition_taken (driver next : Driver) (ctx after : Context) (event : CanDriver.Event)
    (moved : Transition platform driver ctx event next after)
    (agrees : commands driver.log = ctx.canCmd.received) :
    commands next.log = after.canCmd.received := by
  rcases transition_command driver next ctx after event moved with
    ⟨cmd, taken, logged⟩ | ⟨same, logged⟩
  · rw [logged, agrees, (Channel.try_receive_some ctx.canCmd after.canCmd cmd taken).2.1]
  · rw [logged, agrees, same]

/-- CAN_CMD_CHANNEL against the logs of its two producers and its consumer. -/
structure Queue (s : System) : Prop where
  taken : commands s.driver.log = s.ctx.canCmd.received
  control : s.ctx.canCmd.accepted.filter isControl = s.controls.filterMap queuedCmd
  requests : s.ctx.canCmd.accepted.filterMap requestOf =
    (queuedMessages s).map fun record => parseTxMsg record.msg
  answered : ∀ record ∈ s.controls, requestedCmd record.req record.payload ≠ none →
    record.answer = some .accepted

theorem boot_queue (config : CanConfig) : Queue (boot config) where
  taken := rfl
  control := rfl
  requests := rfl
  answered := by
    intro record member
    simp [boot] at member

theorem send_cmd_received (ctx : Context) (cmd : CanDriverCmd) :
    (ctx.sendCmd cmd).canCmd.received = ctx.canCmd.received :=
  Channel.try_send_received ctx.canCmd cmd

theorem send_cmd_accepted (ctx : Context) (cmd : CanDriverCmd) :
    (ctx.sendCmd cmd).canCmd.accepted =
      ctx.canCmd.accepted ++ if ctx.canCmd.hasRoom then [cmd] else [] := by
  rw [Context.sendCmd, Channel.try_send_accepted]
  split <;> simp

theorem move_queue (s next : System) (event : Firmware.Event)
    (moved : Move platform s event next) (queue : Queue s) : Queue next := by
  cases moved with
  | requested req payload cmd handler asks configured =>
      have control := requested_is_control req payload cmd asks
      have noRequest := control_no_request cmd control
      constructor
      · simpa [send_cmd_received] using queue.taken
      · simp only [send_cmd_accepted, List.filter_append, queue.control, List.filterMap_append]
        cases room : s.ctx.canCmd.hasRoom <;> simp [queuedCmd, asks, control]
      · simp only [send_cmd_accepted, List.filterMap_append, queue.requests, queuedMessages]
        cases room : s.ctx.canCmd.hasRoom <;> simp [noRequest]
      · exact Machine.seen_one_more s.controls _ queue.answered (fun _ => rfl)
  | answered req payload answer handler asks configured =>
      constructor
      · exact queue.taken
      · simp [queue.control, queuedCmd, asks]
      · exact queue.requests
      · exact Machine.seen_one_more s.controls _ queue.answered
          (fun asked => absurd asks asked)
  | message packet enabled whole =>
      constructor
      · simpa [send_cmd_received] using queue.taken
      · simp only [send_cmd_accepted, List.filter_append, queue.control]
        cases room : s.ctx.canCmd.hasRoom <;> simp [isControl]
      · simp only [send_cmd_accepted, List.filterMap_append, queue.requests, queuedMessages]
        cases room : s.ctx.canCmd.hasRoom <;> simp [requestOf]
      · exact queue.answered
  | driver event driver ctx moved =>
      have accepted := transition_accepted s.driver driver s.ctx ctx event moved
      exact ⟨transition_taken s.driver driver s.ctx ctx event moved queue.taken,
        accepted ▸ queue.control, accepted ▸ queue.requests, queue.answered⟩
  | _ => exact ⟨queue.taken, queue.control, queue.requests, queue.answered⟩

theorem run_queue (config : CanConfig) (events : List Firmware.Event) (final : System)
    (finished : Machine.run (step platform) (boot config) events = some final) : Queue final :=
  run_move_invariant Queue (fun s event next _ queue moved => move_queue s next event moved queue)
    config events final finished (boot_queue config)

theorem run_known_invariant (invariant : System → Prop)
    (preserved : ∀ s event next, Coherent s.driver s.ctx → Queue s → invariant s →
      Move platform s event next → invariant next)
    (config : CanConfig) (events : List Firmware.Event) (final : System)
    (finished : Machine.run (step platform) (boot config) events = some final)
    (initial : invariant (boot config)) : invariant final := by
  have all := run_move_invariant
    (fun s => Coherent s.driver s.ctx ∧ Queue s ∧ invariant s)
    (by
      rintro s event next _ ⟨coherent, queue, holds⟩ moved
      exact ⟨move_coherent s next event moved coherent, move_queue s next event moved queue,
        preserved s event next coherent queue holds moved⟩)
    config events final finished ⟨boot_coherent config, boot_queue config, initial⟩
  exact all.2.2

end NginLink.CommandQueue
