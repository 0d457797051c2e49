import NginLink.HostAgreement
import NginLink.Lifecycle

/-!
The order of what the host asks for. Control requests and messages come in over two
pipes and share CAN_CMD_CHANNEL. A message is worked off at one step of the driver; the
mode and the timing it finds there are those of the requests delivered before it was read,
that is answered and found a slot, whatever the host has asked for since.
-/

namespace NginLink.RequestOrder

open AppContext BoundedChannel BspCan BusMode CanDriver CommandQueue DriverState Firmware
open GsUsbTypes HostAgreement HostMessages Lifecycle Translation UsbTasks

/-- The controller and its peripheral are as the delivered requests ask for. -/
structure InForce (platform : Platform) (reset : CanConfig) (controls : List ControlRecord)
    (driver : Driver) : Prop where
  started : driver.isStarted = true ↔
    ∃ request, lastModeRequest (delivered controls) = some request ∧ request.mode = 1
  modes : ∀ request, lastModeRequest (delivered controls) = some request → request.mode = 1 →
    driver.can.config.loopback = (request.flags &&& gsCanFlagLoopBack != 0) ∧
    driver.can.config.silent = (request.flags &&& gsCanFlagListenOnly != 0) ∧
    driver.can.config.automaticRetransmit = !(request.flags &&& gsCanFlagOneShot != 0)
  timing : driver.can.config.bitTiming =
    expectedTiming platform reset.bitTiming (lastTimingRequest (delivered controls))

variable {platform : Platform}

theorem in_force_of_mode (reset : CanConfig) (controls : List ControlRecord) (driver : Driver)
    (mode : controllerMode driver.isStarted driver.can.config =
      (lastModeRequest (delivered controls)).elim .stopped askedMode)
    (timing : driver.can.config.bitTiming =
      expectedTiming platform reset.bitTiming (lastTimingRequest (delivered controls))) :
    InForce platform reset controls driver := by
  cases last : lastModeRequest (delivered controls) with
  | none =>
      rw [last] at mode
      have stopped : driver.isStarted = false := by
        cases started : driver.isStarted with
        | true => simp [started, controllerMode] at mode
        | false => rfl
      exact ⟨by simp [last, stopped], by simp [last], timing⟩
  | some request =>
      rw [last, Option.elim_some, askedMode] at mode
      by_cases start : request.mode = 1
      · rw [if_pos start] at mode
        cases started : driver.isStarted with
        | false => simp [started, controllerMode] at mode
        | true =>
            simp only [started, controllerMode, Mode.running.injEq, Modes.mk.injEq] at mode
            obtain ⟨loopback, silent, oneShot⟩ := mode
            refine ⟨by simp [last, started, start], ?_, timing⟩
            intro other same _
            cases last.symm.trans same
            exact ⟨loopback, silent, by rw [← oneShot, Bool.not_not]⟩
      · rw [if_neg start] at mode
        have stopped : driver.isStarted = false := by
          cases started : driver.isStarted with
          | true => simp [started, controllerMode] at mode
          | false => rfl
        refine ⟨by simp [last, stopped, start], ?_, timing⟩
        intro other same starts
        cases last.symm.trans same
        exact absurd starts start

theorem move_accepted_grows (s next : System) (event : Firmware.Event)
    (moved : Move platform s event next) : s.ctx.canCmd.accepted <+: next.ctx.canCmd.accepted := by
  cases moved with
  | requested req payload cmd handler asks configured => exact Channel.accepted_grows _ _
  | message packet enabled whole => exact Channel.accepted_grows _ _
  | driver event driver ctx moved =>
      rw [transition_accepted s.driver driver s.ctx ctx event moved]
  | _ => exact List.prefix_rfl

theorem run_accepted_grows (s final : System) (events : List Firmware.Event)
    (finished : Machine.run (step platform) s events = some final) (reached : Reached s) :
    s.ctx.canCmd.accepted <+: final.ctx.canCmd.accepted := by
  have both := Machine.run_invariant_along (step platform) (fun _ _ => True)
    (fun now => Reached now ∧ s.ctx.canCmd.accepted <+: now.ctx.canCmd.accepted)
    (by
      rintro now event next ⟨known, grown⟩ _ stepped
      have moved := step_move now next event known.sound stepped
      exact ⟨move_reached now next event known moved,
        grown.trans (move_accepted_grows now next event moved)⟩)
    s final events (Machine.along_true (step platform) s events) finished
    ⟨reached, List.prefix_rfl⟩
  exact both.2

theorem move_received (s next : System) (event : Firmware.Event)
    (moved : Move platform s event next) :
    next.ctx.canCmd.received = s.ctx.canCmd.received ∨
      event = .driver .command ∧
        next.ctx.canCmd.received.length = s.ctx.canCmd.received.length + 1 := by
  cases moved with
  | requested req payload cmd handler asks configured => exact Or.inl (send_cmd_received _ _)
  | message packet enabled whole => exact Or.inl (send_cmd_received _ _)
  | driver event driver ctx moved =>
      by_cases command : event = .command
      · rcases transition_command s.driver driver s.ctx ctx event moved with
          ⟨cmd, taken, _⟩ | ⟨same, _⟩
        · refine Or.inr ⟨by rw [command], ?_⟩
          rw [(Channel.try_receive_some s.ctx.canCmd ctx.canCmd cmd taken).2.1]
          simp
        · exact Or.inl (by rw [same])
      · refine Or.inl ?_
        cases moved <;> first | exact absurd rfl command | rfl
  | _ => exact Or.inl rfl

/-- When all that was accepted before a command has been taken, the command is next. -/
theorem next_in_turn (channel : Channel CanDriverCmd 16) (earlier : List CanDriverCmd)
    (cmd : CanDriverCmd) (behind : earlier ++ [cmd] <+: channel.accepted)
    (turn : channel.received.length = earlier.length) :
    channel.received = earlier ∧ ∃ rest, channel.queued = cmd :: rest := by
  obtain ⟨later, split⟩ := behind
  have law := channel.fifo
  rw [← split, List.append_assoc] at law
  obtain ⟨same, left⟩ := List.append_inj law turn
  exact ⟨same, later, left⟩

/-- A transmit request meets a started controller and is written, or is dropped. -/
structure WorkedOff (platform : Platform) (msg : GsTxMsg) (turn next : System) : Prop where
  waiting : turn.driver.isWaiting = true
  unchanged : next.driver.can = turn.driver.can
  started : turn.driver.isStarted = true → ∃ frame, FrameOf msg frame ∧
    next.driver.phase = .transmitting turn.driver.serials (parseTxMsg msg) frame
  stopped : turn.driver.isStarted = false → next.driver.phase = .receiving ∧
    next.driver.log = turn.driver.log ++ [.command (.transmit (parseTxMsg msg)) false,
      .outcome turn.driver.serials (parseTxMsg msg) .ignored]

theorem message_worked_off (documented : platform.Documented) (msg : GsTxMsg)
    (turn next : System) (reached : Reached turn)
    (front : turn.ctx.canCmd.queued.head? = some (.transmit (parseTxMsg msg)))
    (stepped : step platform turn (.driver .command) = some next) :
    WorkedOff platform msg turn next := by
  have valid := parse_well_formed msg
  have sliced := data_slice_some (parseTxMsg msg) valid
  have first : ∀ cmd rest, turn.ctx.canCmd.tryReceive = some (cmd, rest) →
      cmd = .transmit (parseTxMsg msg) := by
    intro cmd rest taken
    rw [(Channel.try_receive_some _ rest cmd taken).1] at front
    exact Option.some.inj front
  cases step_move turn next _ reached.sound stepped with
  | driver _ driver ctx moved =>
      cases moved with
      | startedTransmit canCmd request data frame selecting taken slice built =>
          cases first _ canCmd taken
          have started := selecting_started turn.driver reached.coherent.branch selecting
          refine ⟨by simp [Driver.isWaiting, selecting], rfl, ?_, ?_⟩
          · intro _
            exact ⟨frame, written_frame msg platform documented data frame slice built, rfl⟩
          · intro stopped
            rw [started] at stopped
            cases stopped
      | startedFrameError canCmd request data error selecting taken slice failed =>
          -- No identifier and no length of a parsed message is refused.
          cases first _ canCmd taken
          cases sliced.symm.trans slice
          obtain ⟨frame, built, _⟩ := message_frame_exact platform documented msg
          cases built.symm.trans failed
      | stoppedTransmit canCmd request receiving taken =>
          cases first _ canCmd taken
          have stopped := receiving_stopped turn.driver reached.coherent.branch receiving
          refine ⟨by simp [Driver.isWaiting, receiving], by simp, ?_, ?_⟩
          · intro started
            rw [stopped] at started
            cases started
          · intro _
            constructor
            · simp [loop_top_phase, stopped]
            · simp [loop_top_log, stopped]
      | commandPanic canCmd cmd waiting taken fatal =>
          cases first _ canCmd taken
          rcases fatal with ⟨timing, same, _⟩ | ⟨request, same, noSlice⟩
          · cases same
          · cases same
            rw [sliced] at noSlice
            cases noSlice
      | startedStop canCmd selecting taken => cases first _ canCmd taken
      | startedStart canCmd loopback listenOnly oneShot selecting taken =>
          cases first _ canCmd taken
      | startedTiming canCmd timing can selecting taken valid => cases first _ canCmd taken
      | stoppedStart canCmd loopback listenOnly oneShot receiving taken =>
          cases first _ canCmd taken
      | stoppedStop canCmd receiving taken => cases first _ canCmd taken
      | stoppedTiming canCmd timing can receiving taken valid => cases first _ canCmd taken

theorem taken_requests_in_force (config : CanConfig) (events : List Firmware.Event)
    (asked turn : System) (finished : Machine.run (step platform) (boot config) events = some turn)
    (queue : Queue asked) (taken : turn.ctx.canCmd.received = asked.ctx.canCmd.accepted)
    (running : turn.driver.phase ≠ .panicked) :
    InForce platform config asked.controls turn.driver := by
  have coherent := run_coherent config events turn finished
  have log : commands turn.driver.log = asked.ctx.canCmd.accepted :=
    (run_queue config events turn finished).taken.trans taken
  obtain ⟨modes, timings⟩ := mode_of_requests asked.controls queue.answered
  have timing := run_timing config events turn finished running
  rw [log, ← timing_of_control, queue.control, timings] at timing
  refine in_force_of_mode config asked.controls turn.driver ?_ timing
  rw [coherent.mode, log, ← mode_of_control, queue.control, modes]

/-- Over every run: a message that found a slot and whose command has since been taken was
worked off at one step, in the mode and with the timing of the requests that had been
delivered before it was read. -/
theorem message_meets_earlier_requests (platform : Platform) (documented : platform.Documented)
    (config : CanConfig) (before later : List Firmware.Event) (packet : Packet)
    (asked read final : System)
    (reached : Machine.run (step platform) (boot config) before = some asked)
    (arrived : step platform asked (.bulkOut packet) = some read)
    (whole : 20 ≤ packet.bytes.length) (slot : asked.ctx.canCmd.hasRoom = true)
    (finished : Machine.run (step platform) read later = some final)
    (taken : asked.ctx.canCmd.accepted.length < final.ctx.canCmd.received.length) :
    ∃ first turn next rest, later = first ++ .driver .command :: rest ∧
      Machine.run (step platform) read first = some turn ∧
      step platform turn (.driver .command) = some next ∧
      Machine.run (step platform) next rest = some final ∧
      InForce platform config asked.controls turn.driver ∧
      WorkedOff platform (messageOf packet) turn next := by
  have known := run_reached (boot config) asked before reached (boot_reached config)
  have knownRead := step_reached asked read _ known arrived
  have offered := (packet_offered asked read packet known.sound arrived).2
  rw [if_pos whole] at offered
  have accepted : read.ctx.canCmd.accepted =
      asked.ctx.canCmd.accepted ++ [.transmit (parseTxMsg (messageOf packet))] := by
    rw [offered, send_cmd_accepted, if_pos slot]
  -- The message is number `asked.ctx.canCmd.accepted.length` of the channel: not taken yet, so
  -- the count of what has been taken passes its number at one step.
  have untaken : read.ctx.canCmd.received.length ≤ asked.ctx.canCmd.accepted.length := by
    rw [offered, send_cmd_received]
    exact (Channel.received_prefix asked.ctx.canCmd).length_le
  obtain ⟨first, event, rest, turn, next, split, toTurn, stepped, fromNext, position, counted⟩ :=
    Machine.run_passes (step platform) (fun s => s.ctx.canCmd.received.length) Reached
      (fun s event next reached stepped => step_reached s next event reached stepped)
      (by
        intro s event next reached stepped
        rcases move_received s next event (step_move s next event reached.sound stepped) with
          same | ⟨_, more⟩
        · rw [same]
          omega
        · omega)
      read final later finished knownRead asked.ctx.canCmd.accepted.length untaken taken
  have knownTurn := run_reached read turn first toTurn knownRead
  -- Only a poll that takes a command raises the count.
  have command : event = .driver .command := by
    rcases move_received turn next event (step_move turn next event knownTurn.sound stepped) with
      same | ⟨command, _⟩
    · rw [same] at counted
      omega
    · exact command
  subst command
  have grown := run_accepted_grows read turn first toTurn knownRead
  rw [accepted] at grown
  obtain ⟨exactly, waiting, queued⟩ := next_in_turn turn.ctx.canCmd _ _ grown position
  have worked := message_worked_off documented (messageOf packet) turn next knownTurn
    (by rw [queued, List.head?_cons]) stepped
  have whole := Machine.run_append (step platform) (boot config) asked turn before
    (.bulkOut packet :: first) reached (by rw [Machine.run_cons, arrived]; exact toTurn)
  exact ⟨first, turn, next, rest, split, toTurn, stepped, fromNext,
    taken_requests_in_force config _ asked turn whole known.queue exactly
      (waiting_running turn.driver worked.waiting), worked⟩

-- A Start, and behind the message a Stop that is delivered before the driver has taken
-- any of the three.
def askedFirst : List Firmware.Event := [hostMode 1 gsCanFlagLoopBack, .epOutEnabled]

def stopBehind : List Firmware.Event :=
  [hostMode 0 0, .driver .command, .driver .enabled, .driver .command, .driver (.written none)]

theorem message_meets_earlier_requests_stop_behind :
    (Platform.embassy true).Documented ∧ 20 ≤ samplePacket.bytes.length ∧
      ∃ asked read final,
        Machine.run (step (Platform.embassy true)) (boot resetConfig) askedFirst = some asked ∧
        step (Platform.embassy true) asked (.bulkOut samplePacket) = some read ∧
        asked.ctx.canCmd.hasRoom = true ∧
        Machine.run (step (Platform.embassy true)) read stopBehind = some final ∧
        asked.ctx.canCmd.accepted.length < final.ctx.canCmd.received.length ∧
        ∃ first turn next rest, stopBehind = first ++ .driver .command :: rest ∧
          Machine.run (step (Platform.embassy true)) read first = some turn ∧
          turn.driver.isStarted = true ∧ turn.driver.can.config.loopback = true ∧
          WorkedOff (Platform.embassy true) (messageOf samplePacket) turn next := by
  obtain ⟨asked, read, final, reached, arrived, slot, finished, taken, mode⟩ :
      ∃ asked read final,
        Machine.run (step (Platform.embassy true)) (boot resetConfig) askedFirst = some asked ∧
        step (Platform.embassy true) asked (.bulkOut samplePacket) = some read ∧
        asked.ctx.canCmd.hasRoom = true ∧
        Machine.run (step (Platform.embassy true)) read stopBehind = some final ∧
        asked.ctx.canCmd.accepted.length < final.ctx.canCmd.received.length ∧
        lastModeRequest (delivered asked.controls) = some ⟨1, gsCanFlagLoopBack⟩ :=
    ⟨_, _, _, rfl, rfl, by decide, rfl, by decide, by decide⟩
  obtain ⟨first, turn, next, rest, split, toTurn, _, _, force, worked⟩ :=
    message_meets_earlier_requests (Platform.embassy true) (embassy_documented true) resetConfig
      askedFirst stopBehind samplePacket asked read final reached arrived (by decide) slot finished
      taken
  refine ⟨embassy_documented true, by decide, asked, read, final, reached, arrived, slot, finished,
    taken, first, turn, next, rest, split, toTurn, ?_, ?_, worked⟩
  · exact force.started.mpr ⟨_, mode, rfl⟩
  · rw [(force.modes _ mode rfl).1]
    decide

end NginLink.RequestOrder
