import NginLink.CommandQueue

/-!
Host and driver on the bus mode. The host knows which of its requests were
answered Accepted; the callback behind an accepted request discards the result
of `try_send`, so only the requests whose command found a free slot can count.
-/

namespace NginLink.HostAgreement

open AppContext BspCan BusMode CanDriver CommandQueue ControlHandler DriverState Firmware GsUsbTypes

def modeRequest (record : ControlRecord) : Option GsDeviceMode :=
  if record.answer = some .accepted ∧ record.req.requestType = .vendor ∧
      record.req.request = gsUsbBreqMode ∧ 8 ≤ record.payload.length then
    some (GsDeviceMode.layout.decode (record.payload.take 8))
  else none

def timingRequest (record : ControlRecord) : Option GsDeviceBitTiming :=
  if record.answer = some .accepted ∧ record.req.requestType = .vendor ∧
      record.req.request = gsUsbBreqBittiming ∧ 20 ≤ record.payload.length then
    some (GsDeviceBitTiming.layout.decode (record.payload.take 20))
  else none

/-- The requests whose command CAN_CMD_CHANNEL had a slot for. -/
def delivered (controls : List ControlRecord) : List ControlRecord := controls.filter (·.hadRoom)

def lastModeRequest (controls : List ControlRecord) : Option GsDeviceMode :=
  (controls.filterMap modeRequest).getLast?

def lastTimingRequest (controls : List ControlRecord) : Option GsDeviceBitTiming :=
  (controls.filterMap timingRequest).getLast?

def askedMode (request : GsDeviceMode) : Mode :=
  if request.mode = 1 then
    .running
      { loopback := request.flags &&& gsCanFlagLoopBack != 0
        listenOnly := request.flags &&& gsCanFlagListenOnly != 0
        oneShot := request.flags &&& gsCanFlagOneShot != 0 }
  else .stopped

def askedCmd (request : GsDeviceMode) : CanDriverCmd :=
  if request.mode = 1 then startCmd request.flags else .stop

theorem after_asked_cmd (mode : Mode) (request : GsDeviceMode) :
    mode.after (askedCmd request) = askedMode request := by
  unfold askedCmd askedMode
  split <;> rfl

theorem asked_cmd_no_timing (request : GsDeviceMode) : bitTiming (askedCmd request) = none := by
  unfold askedCmd
  split <;> rfl

-- What one answered request contributes: a mode, a timing or nothing.
theorem requested_cmd_cases (record : ControlRecord)
    (answered : requestedCmd record.req record.payload ≠ none → record.answer = some .accepted) :
    (∃ mode, modeRequest record = some mode ∧ timingRequest record = none ∧
      requestedCmd record.req record.payload = some (askedCmd mode)) ∨
    (∃ timing, modeRequest record = none ∧ timingRequest record = some timing ∧
      requestedCmd record.req record.payload = some (.setBitTiming timing)) ∨
    (modeRequest record = none ∧ timingRequest record = none ∧
      requestedCmd record.req record.payload = none) := by
  -- The two request codes differ, so a request is of at most one of the two kinds.
  have apart : gsUsbBreqMode ≠ gsUsbBreqBittiming := by decide
  by_cases vendor : record.req.requestType = .vendor
  · by_cases timing : record.req.request = gsUsbBreqBittiming
    · by_cases long : 20 ≤ record.payload.length
      · have asks : requestedCmd record.req record.payload =
            some (.setBitTiming (GsDeviceBitTiming.layout.decode (record.payload.take 20))) := by
          simp only [requestedCmd, vendor, timing, ne_eq, not_true_eq_false, ↓reduceIte]
          exact if_pos long
        have accepted := answered (by simp [asks])
        refine Or.inr (Or.inl ⟨_, ?_, ?_, asks⟩)
        · simp [modeRequest, timing, apart.symm]
        · simp [timingRequest, accepted, vendor, timing, long]
      · refine Or.inr (Or.inr ⟨?_, ?_, ?_⟩)
        · simp [modeRequest, timing, apart.symm]
        · simp [timingRequest, long]
        · simp only [requestedCmd, vendor, timing, ne_eq, not_true_eq_false, ↓reduceIte]
          exact if_neg long
    · by_cases mode : record.req.request = gsUsbBreqMode
      · by_cases long : 8 ≤ record.payload.length
        · have asks : requestedCmd record.req record.payload =
              some (askedCmd (GsDeviceMode.layout.decode (record.payload.take 8))) := by
            simp only [requestedCmd, vendor, mode, apart, ne_eq, not_true_eq_false, ↓reduceIte]
            exact if_pos long
          have accepted := answered (by simp [asks])
          refine Or.inl ⟨_, ?_, ?_, asks⟩
          · simp [modeRequest, accepted, vendor, mode, long]
          · simp [timingRequest, mode, apart]
        · refine Or.inr (Or.inr ⟨?_, ?_, ?_⟩)
          · simp [modeRequest, long]
          · simp [timingRequest, mode, apart]
          · simp only [requestedCmd, vendor, mode, apart, ne_eq, not_true_eq_false, ↓reduceIte]
            exact if_neg long
      · refine Or.inr (Or.inr ⟨?_, ?_, ?_⟩)
        · simp [modeRequest, mode]
        · simp [timingRequest, timing]
        · simp [requestedCmd, vendor, timing, mode]
  · refine Or.inr (Or.inr ⟨?_, ?_, ?_⟩)
    · simp [modeRequest, vendor]
    · simp [timingRequest, vendor]
    · simp [requestedCmd, vendor]

theorem other_keeps_mode (mode : Mode) (cmd : CanDriverCmd) (other : isControl cmd = false) :
    mode.after cmd = mode ∧ bitTiming cmd = none := by
  cases cmd with
  | transmit request => exact ⟨rfl, rfl⟩
  | start loopback listenOnly oneShot => cases other
  | stop => cases other
  | setBitTiming timing => cases other

theorem mode_of_control (cmds : List CanDriverCmd) :
    modeAfter (cmds.filter isControl) = modeAfter cmds := by
  induction cmds using List.reverseRecOn with
  | nil => rfl
  | append_singleton earlier cmd ih =>
      rw [List.filter_append, mode_after_concat, ← ih]
      cases control : isControl cmd with
      | true => simp [control]
      | false => simp [control, (other_keeps_mode _ cmd control).1]

theorem timing_of_control (cmds : List CanDriverCmd) :
    lastTiming (cmds.filter isControl) = lastTiming cmds := by
  induction cmds using List.reverseRecOn with
  | nil => rfl
  | append_singleton earlier cmd ih =>
      rw [List.filter_append, last_timing_concat, ← ih]
      cases control : isControl cmd with
      | true => simp [control]
      | false => simp [control, (other_keeps_mode .stopped cmd control).2]

/-- The delivered requests, folded into a mode and a timing by the last of each kind. -/
theorem mode_of_requests (controls : List ControlRecord)
    (answered : ∀ record ∈ controls, requestedCmd record.req record.payload ≠ none →
      record.answer = some .accepted) :
    modeAfter (controls.filterMap queuedCmd) =
        (lastModeRequest (delivered controls)).elim .stopped askedMode ∧
      lastTiming (controls.filterMap queuedCmd) = lastTimingRequest (delivered controls) := by
  induction controls using List.reverseRecOn with
  | nil => exact ⟨rfl, rfl⟩
  | append_singleton earlier record ih =>
      obtain ⟨mode, timing⟩ := ih fun earlierRecord member =>
        answered earlierRecord (List.mem_append_left _ member)
      have one : delivered (earlier ++ [record]) =
          delivered earlier ++ if record.hadRoom then [record] else [] := by
        unfold delivered
        cases room : record.hadRoom <;> simp [room]
      rw [List.filterMap_append, one]
      cases room : record.hadRoom with
      -- The command was refused: neither side of the equations sees the request.
      | false => simp [queuedCmd, room, mode, timing]
      | true =>
          rcases requested_cmd_cases record (answered record (by simp)) with
            ⟨request, isMode, noTiming, asks⟩ | ⟨request, noMode, isTiming, asks⟩ |
              ⟨noMode, noTiming, asks⟩
          · simp [queuedCmd, room, asks, lastModeRequest, lastTimingRequest, isMode, noTiming,
              after_asked_cmd, asked_cmd_no_timing, timing]
          · simp [queuedCmd, room, asks, lastModeRequest, lastTimingRequest, noMode, isTiming,
              Mode.after, bitTiming, mode]
          · simp [queuedCmd, room, asks, lastModeRequest, lastTimingRequest, noMode, noTiming,
              mode, timing]

def expectedTiming (platform : Platform) (reset : Option NominalBitTiming)
    (timing : Option GsDeviceBitTiming) : Option NominalBitTiming :=
  timing.elim reset (Can.nominalBitTiming platform)

variable {platform : Platform}

theorem transition_timing (reset : Option NominalBitTiming) (driver next : Driver)
    (ctx after : Context) (event : CanDriver.Event)
    (moved : Transition platform driver ctx event next after)
    (agrees : driver.phase ≠ .panicked → driver.can.config.bitTiming =
      expectedTiming platform reset (lastTiming (commands driver.log))) :
    next.phase ≠ .panicked → next.can.config.bitTiming =
      expectedTiming platform reset (lastTiming (commands next.log)) := by
  intro running
  have before := agrees (transition_running driver next ctx after event moved)
  cases moved with
  | startedTiming canCmd timing can selecting taken valid =>
      cases set_bit_timing_effect driver.can can timing valid
      simp [expectedTiming, commandOf, bitTiming, Can.modifyConfig]
  | stoppedTiming canCmd timing can receiving taken valid =>
      cases set_bit_timing_effect driver.can can timing valid
      simp [expectedTiming, commandOf, bitTiming, Can.modifyConfig]
  | commandPanic canCmd cmd waiting taken fatal => exact absurd rfl running
  | errorPanic error sleeping selecting overflow => exact absurd rfl running
  | _ =>
      simpa [commandOf, bitTiming, Can.start, Can.stop, Can.modifyConfig, Can.enable, Can.store,
        Can.abortMailboxes] using before

theorem run_timing (config : CanConfig) (events : List Firmware.Event) (final : System)
    (finished : Machine.run (step platform) (boot config) events = some final)
    (running : final.driver.phase ≠ .panicked) :
    final.driver.can.config.bitTiming =
      expectedTiming platform config.bitTiming (lastTiming (commands final.driver.log)) := by
  have invariant := run_move_invariant
    (fun s => s.driver.phase ≠ .panicked → s.driver.can.config.bitTiming =
      expectedTiming platform config.bitTiming (lastTiming (commands s.driver.log)))
    (by
      intro s event next _ agrees moved
      cases moved with
      | driver event driver ctx moved =>
          exact transition_timing config.bitTiming s.driver driver s.ctx ctx event moved agrees
      | _ => exact agrees)
    config events final finished (fun _ => rfl)
  exact invariant running

/-- With CAN_CMD_CHANNEL empty and the driver waiting, the bus is in the mode and
the timing of the last delivered requests. -/
theorem delivered_requests_applied (platform : Platform) (config : CanConfig)
    (events : List Firmware.Event) (final : System)
    (finished : Machine.run (step platform) (boot config) events = some final)
    (empty : final.ctx.canCmd.queued = []) (waiting : final.driver.isWaiting = true) :
    (final.driver.isStarted = true ↔
      ∃ request, lastModeRequest (delivered final.controls) = some request ∧ request.mode = 1) ∧
    (∀ request, lastModeRequest (delivered final.controls) = some request → request.mode = 1 →
      final.driver.can.config.loopback = (request.flags &&& gsCanFlagLoopBack != 0) ∧
      final.driver.can.config.silent = (request.flags &&& gsCanFlagListenOnly != 0) ∧
      final.driver.can.config.automaticRetransmit =
        !(request.flags &&& gsCanFlagOneShot != 0)) ∧
    final.driver.can.config.bitTiming =
      (lastTimingRequest (delivered final.controls)).elim config.bitTiming
        (Can.nominalBitTiming platform) := by
  have queue := run_queue config events final finished
  have coherent := run_coherent config events final finished
  have running := waiting_running final.driver waiting
  have taken : commands final.driver.log = final.ctx.canCmd.accepted := by
    rw [queue.taken, BoundedChannel.Channel.received_eq_accepted _ empty]
  obtain ⟨modes, timings⟩ := mode_of_requests final.controls queue.answered
  have mode : controllerMode final.driver.isStarted final.driver.can.config =
      (lastModeRequest (delivered final.controls)).elim .stopped askedMode := by
    rw [coherent.mode, taken, ← mode_of_control, queue.control, modes]
  have timing := run_timing config events final finished running
  rw [taken, ← timing_of_control, queue.control, timings] at timing
  refine ⟨?_, ?_, timing⟩
  · cases last : lastModeRequest (delivered final.controls) with
    | none =>
        rw [last] at mode
        cases started : final.driver.isStarted with
        | true => simp [started, controllerMode] at mode
        | false => simp
    | some request =>
        rw [last, Option.elim_some, askedMode] at mode
        by_cases start : request.mode = 1
        · rw [if_pos start] at mode
          cases started : final.driver.isStarted with
          | true => simp [start]
          | false => simp [started, controllerMode] at mode
        · rw [if_neg start] at mode
          cases started : final.driver.isStarted with
          | true => simp [started, controllerMode] at mode
          | false => simp [start]
  · intro request last start
    rw [last, Option.elim_some, askedMode, if_pos start] at mode
    cases started : final.driver.isStarted with
    | true =>
        simp only [started, controllerMode, Mode.running.injEq, Modes.mk.injEq] at mode
        obtain ⟨loopback, silent, oneShot⟩ := mode
        exact ⟨loopback, silent, by rw [← oneShot, Bool.not_not]⟩
    | false => simp [started, controllerMode] at mode

theorem delivered_requests_applied_retuned :
    ∃ final, Machine.run (step (Platform.embassy true)) (boot resetConfig) retuned = some final ∧
      final.ctx.canCmd.queued = [] ∧ final.driver.isWaiting = true ∧
      (final.driver.isStarted = true ↔
        ∃ request, lastModeRequest (delivered final.controls) = some request ∧
          request.mode = 1) ∧
      final.driver.can.config.loopback = false ∧ final.driver.can.config.silent = false ∧
      final.driver.can.config.automaticRetransmit = false ∧
      final.driver.can.config.bitTiming = Can.nominalBitTiming (Platform.embassy true)
        { propSeg := 1, phaseSeg1 := 10, phaseSeg2 := 2, sjw := 1, brp := 6 } := by
  obtain ⟨final, finished, empty, waiting, mode, timing⟩ : ∃ final, Machine.run
      (step (Platform.embassy true)) (boot resetConfig) retuned = some final ∧
      final.ctx.canCmd.queued = [] ∧ final.driver.isWaiting = true ∧
      lastModeRequest (delivered final.controls) = some ⟨1, gsCanFlagOneShot⟩ ∧
      lastTimingRequest (delivered final.controls) =
        some { propSeg := 1, phaseSeg1 := 10, phaseSeg2 := 2, sjw := 1, brp := 6 } :=
    ⟨_, rfl, by decide, by decide, by decide, by decide⟩
  obtain ⟨started, modes, bt⟩ := delivered_requests_applied (Platform.embassy true) resetConfig
    retuned final finished empty waiting
  obtain ⟨loopback, silent, retransmit⟩ := modes _ mode rfl
  rw [timing] at bt
  exact ⟨final, finished, empty, waiting, started, loopback.trans (by decide),
    silent.trans (by decide), retransmit.trans (by decide), bt⟩

/-- Sixteen messages fill the channel, the Stop that follows is answered Accepted
and lost, and the driver works off the messages. -/
def lostStop : List Firmware.Event :=
  bringUp ++ [.epOutEnabled] ++ List.replicate 16 (hostMessage 1 0x123) ++ [hostMode 0 0] ++
    (List.replicate 16 (storeMessage ++ [.mailboxSent 0])).flatten

theorem accepted_stop_lost :
    ∃ final, Machine.run (step (Platform.embassy true)) (boot resetConfig) lostStop = some final ∧
      final.ctx.canCmd.queued = [] ∧ final.driver.isWaiting = true ∧
      final.driver.isStarted = true ∧
      (lastModeRequest final.controls).map (·.mode) = some 0 := by
  refine ⟨_, rfl, ?_⟩
  decide

end NginLink.HostAgreement
