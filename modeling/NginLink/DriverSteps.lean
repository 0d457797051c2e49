import NginLink.CanDriver

/-!
What one step of `can_driver_task` can do, said once. `Transition` has a
constructor for each way through the loop body, with its guards; `step_transition`
reads it off the code. Every invariant of the driver is a case analysis of it.
Between two awaits `overflow_pending` is false again, so only the step that sets
the flag runs the eviction at the end of the iteration.
-/

namespace NginLink.CanDriver

open AppContext BoundedChannel BspCan CanProtocol GsUsbTypes

variable {platform : Platform}

section LoopTop
variable (driver : Driver)

@[simp] theorem loop_top_can : driver.loopTop.can = driver.can := by
  unfold Driver.loopTop
  split <;> rfl

@[simp] theorem loop_top_started : driver.loopTop.isStarted = driver.isStarted := by
  unfold Driver.loopTop
  split <;> rfl

@[simp] theorem loop_top_error_count : driver.loopTop.canErrorCount = driver.canErrorCount := by
  unfold Driver.loopTop
  split <;> rfl

@[simp] theorem loop_top_overflow : driver.loopTop.overflowPending = driver.overflowPending := by
  unfold Driver.loopTop
  split <;> rfl

@[simp] theorem loop_top_serials : driver.loopTop.serials = driver.serials := by
  unfold Driver.loopTop
  split <;> rfl

theorem loop_top_phase :
    driver.loopTop.phase = if driver.isStarted then .selecting else .receiving := by
  unfold Driver.loopTop
  split <;> rfl

-- The only note the loop itself makes: `read` is called in the started branch.
theorem loop_top_log :
    driver.loopTop.log = driver.log ++ if driver.isStarted then [.reading true] else [] := by
  unfold Driver.loopTop
  split
  · rename_i started
    simp [Driver.note, started]
  · simp

end LoopTop

section Note
variable (driver : Driver) (records : List Record)

@[simp] theorem note_can : (driver.note records).can = driver.can := rfl
@[simp] theorem note_started : (driver.note records).isStarted = driver.isStarted := rfl
@[simp] theorem note_error_count :
    (driver.note records).canErrorCount = driver.canErrorCount := rfl
@[simp] theorem note_overflow :
    (driver.note records).overflowPending = driver.overflowPending := rfl
@[simp] theorem note_serials : (driver.note records).serials = driver.serials := rfl
@[simp] theorem note_log : (driver.note records).log = driver.log ++ records := rfl

end Note

theorem end_iteration_settled (driver : Driver) (ctx : Context)
    (settled : driver.overflowPending = false) :
    endIteration driver ctx = (driver.loopTop, ctx) := by
  simp [endIteration, settled]

inductive Transition (platform : Platform) (driver : Driver) (ctx : Context) :
    Event → Driver → Context → Prop where
  | startedStop (canCmd) (selecting : driver.phase = .selecting)
      (taken : ctx.canCmd.tryReceive = some (.stop, canCmd)) :
      Transition platform driver ctx .command
        { driver.note [.command .stop driver.isStarted] with
          isStarted := false, can := driver.can.stop, phase := .enabling .stop true }
        { ctx with canCmd, service := ctx.service.markStopped }
  | startedStart (canCmd loopback listenOnly oneShot) (selecting : driver.phase = .selecting)
      (taken : ctx.canCmd.tryReceive = some (.start loopback listenOnly oneShot, canCmd)) :
      Transition platform driver ctx .command
        { driver.note [.command (.start loopback listenOnly oneShot) driver.isStarted] with
          can := driver.can.start loopback listenOnly oneShot
          phase := .enabling (.start loopback listenOnly oneShot) true }
        { ctx with canCmd }
  | startedTiming (canCmd timing can) (selecting : driver.phase = .selecting)
      (taken : ctx.canCmd.tryReceive = some (.setBitTiming timing, canCmd))
      (valid : driver.can.setBitTiming platform timing = some can) :
      Transition platform driver ctx .command
        { driver.note [.command (.setBitTiming timing) driver.isStarted] with
          can, phase := .enabling (.setBitTiming timing) true }
        { ctx with canCmd }
  | startedTransmit (canCmd request data frame) (selecting : driver.phase = .selecting)
      (taken : ctx.canCmd.tryReceive = some (.transmit request, canCmd))
      (sliced : dataSlice request = some data)
      (built : Can.transmitFrame platform request.id request.isExtended request.isRtr data =
        .ok frame) :
      Transition platform driver ctx .command
        { driver.note [.command (.transmit request) driver.isStarted,
            .transmit driver.serials request driver.isStarted] with
          serials := driver.serials + 1
          phase := .transmitting driver.serials request frame }
        { ctx with canCmd }
  | startedFrameError (canCmd request data error) (selecting : driver.phase = .selecting)
      (taken : ctx.canCmd.tryReceive = some (.transmit request, canCmd))
      (sliced : dataSlice request = some data)
      (failed : Can.transmitFrame platform request.id request.isExtended request.isRtr data =
        .error error) :
      Transition platform driver ctx .command
        ({ driver.note [.command (.transmit request) driver.isStarted,
            .transmit driver.serials request driver.isStarted,
            .outcome driver.serials request .frameError] with
          serials := driver.serials + 1 } : Driver).loopTop
        { ctx with canCmd }
  | stoppedStart (canCmd loopback listenOnly oneShot) (receiving : driver.phase = .receiving)
      (taken : ctx.canCmd.tryReceive = some (.start loopback listenOnly oneShot, canCmd)) :
      Transition platform driver ctx .command
        { driver.note [.command (.start loopback listenOnly oneShot) driver.isStarted] with
          isStarted := true
          can := driver.can.start loopback listenOnly oneShot
          phase := .enabling (.start loopback listenOnly oneShot) false }
        { ctx with canCmd, service := ctx.service.markStarted }
  | stoppedStop (canCmd) (receiving : driver.phase = .receiving)
      (taken : ctx.canCmd.tryReceive = some (.stop, canCmd)) :
      Transition platform driver ctx .command
        (driver.note [.command .stop driver.isStarted]).loopTop { ctx with canCmd }
  | stoppedTiming (canCmd timing can) (receiving : driver.phase = .receiving)
      (taken : ctx.canCmd.tryReceive = some (.setBitTiming timing, canCmd))
      (valid : driver.can.setBitTiming platform timing = some can) :
      Transition platform driver ctx .command
        ({ driver.note [.command (.setBitTiming timing) driver.isStarted] with can } :
          Driver).loopTop
        { ctx with canCmd }
  | stoppedTransmit (canCmd request) (receiving : driver.phase = .receiving)
      (taken : ctx.canCmd.tryReceive = some (.transmit request, canCmd)) :
      Transition platform driver ctx .command
        ({ driver.note [.command (.transmit request) driver.isStarted,
            .outcome driver.serials request .ignored] with
          serials := driver.serials + 1 } : Driver).loopTop
        { ctx with canCmd }
  -- A timing whose sum overflows under overflow checks, or a slice out of range.
  | commandPanic (canCmd cmd) (waiting : driver.phase = .selecting ∨ driver.phase = .receiving)
      (taken : ctx.canCmd.tryReceive = some (cmd, canCmd))
      (fatal : (∃ timing, cmd = .setBitTiming timing ∧
          driver.can.setBitTiming platform timing = none) ∨
        ∃ request, cmd = .transmit request ∧ dataSlice request = none) :
      Transition platform driver ctx .command
        (driver.note [.command cmd driver.isStarted]).panic { ctx with canCmd }
  | frameQueued (frame) (selecting : driver.phase = .selecting)
      (room : ctx.canRx.hasRoom = true) :
      Transition platform driver ctx (.frame frame)
        (driver.note [.frameRead frame, .offered .received true]).loopTop
        { ctx with canRx := (ctx.canRx.trySend (toCanFrame frame)).1 }
  | frameRefused (frame evicted canRx) (selecting : driver.phase = .selecting)
      (full : ctx.canRx.hasRoom = false)
      (taken : (ctx.canRx.trySend (toCanFrame frame)).1.tryReceive = some (evicted, canRx)) :
      Transition platform driver ctx (.frame frame)
        ({ driver.note [.frameRead frame, .offered .received false, .evicted evicted] with
          overflowPending := false } : Driver).loopTop
        { ctx with canRx, service := ctx.service.countDropped }
  | errorPanic (error sleeping) (selecting : driver.phase = .selecting)
      (overflow : platform.addU32 driver.canErrorCount 1 = none) :
      Transition platform driver ctx (.error error sleeping)
        (driver.note [.errorRead error sleeping]).panic ctx
  | busOffRetry (error count delayMs) (selecting : driver.phase = .selecting)
      (counted : platform.addU32 driver.canErrorCount 1 = some count)
      (few : ctx.service.busOffCount < maxBusOffRetries.toUInt32)
      (delay : busOffDelaysMs[min ctx.service.busOffCount.toNat (busOffDelaysMs.length - 1)]? =
        some delayMs) :
      Transition platform driver ctx (.error error true)
        { driver.note [.errorRead error true] with
          canErrorCount := count
          can := { driver.can with asleep := true }
          phase := .recovering delayMs }
        { ctx with service := { ctx.service with
          errorCount := count, busOffCount := ctx.service.busOffCount + 1 } }
  | busOffGivenUp (error count) (selecting : driver.phase = .selecting)
      (counted : platform.addU32 driver.canErrorCount 1 = some count)
      (many : ¬ ctx.service.busOffCount < maxBusOffRetries.toUInt32) :
      Transition platform driver ctx (.error error true)
        ({ driver.note [.errorRead error true, .offered .busOff ctx.usbEcho.hasRoom] with
          canErrorCount := count
          can := { driver.can with asleep := true } } : Driver).loopTop
        { ctx with
          usbEcho := (ctx.usbEcho.trySend (GsHostFrame.fromControllerError .busOff)).1
          service := { ctx.service with
            errorCount := count, busOffCount := ctx.service.busOffCount + 1 } }
  | errorQueued (error count) (selecting : driver.phase = .selecting)
      (counted : platform.addU32 driver.canErrorCount 1 = some count)
      (room : ctx.usbEcho.hasRoom = true) :
      Transition platform driver ctx (.error error false)
        ({ driver.note [.errorRead error false, .offered .busError true] with
          canErrorCount := count
          can := { driver.can with asleep := false } } : Driver).loopTop
        { ctx with
          usbEcho := (ctx.usbEcho.trySend (GsHostFrame.fromBusError error.toCanBusError)).1
          service := { ctx.service with errorCount := count } }
  | errorRefused (error count evicted canRx) (selecting : driver.phase = .selecting)
      (counted : platform.addU32 driver.canErrorCount 1 = some count)
      (full : ctx.usbEcho.hasRoom = false)
      (taken : ctx.canRx.tryReceive = some (evicted, canRx)) :
      Transition platform driver ctx (.error error false)
        ({ driver.note [.errorRead error false, .offered .busError false, .evicted evicted] with
          canErrorCount := count
          can := { driver.can with asleep := false }
          overflowPending := false } : Driver).loopTop
        { ctx with
          canRx
          usbEcho := (ctx.usbEcho.trySend (GsHostFrame.fromBusError error.toCanBusError)).1
          service := { ctx.service with errorCount := count }.countDropped }
  | errorRefusedAlone (error count) (selecting : driver.phase = .selecting)
      (counted : platform.addU32 driver.canErrorCount 1 = some count)
      (full : ctx.usbEcho.hasRoom = false) (empty : ctx.canRx.queued = []) :
      Transition platform driver ctx (.error error false)
        ({ driver.note [.errorRead error false, .offered .busError false] with
          canErrorCount := count
          can := { driver.can with asleep := false }
          overflowPending := false } : Driver).loopTop
        { ctx with
          usbEcho := (ctx.usbEcho.trySend (GsHostFrame.fromBusError error.toCanBusError)).1
          service := { ctx.service with errorCount := count }.countDropped }
  | commandEnabled (cmd inLoop) (enabling : driver.phase = .enabling cmd inLoop) :
      Transition platform driver ctx .enabled
        ({ driver.note [.enabled, .finished cmd false] with can := driver.can.enable } :
          Driver).loopTop ctx
  | recovered (delayMs) (recovering : driver.phase = .recovering delayMs) :
      Transition platform driver ctx .enabled
        { driver.note [.enabled] with can := driver.can.enable, phase := .delaying delayMs } ctx
  | delayed (delayMs) (delaying : driver.phase = .delaying delayMs) :
      Transition platform driver ctx .delayElapsed
        ({ driver.note [.delayed delayMs] with canErrorCount := 0, overflowPending := false } :
          Driver).loopTop ctx
  | written (dequeued serial request frame)
      (transmitting : driver.phase = .transmitting serial request frame)
      (room : ctx.usbEcho.hasRoom = true) :
      Transition platform driver ctx (.written dequeued)
        ({ driver.note [.dequeued (takenOut (driver.can.mailboxes.map Prod.fst) dequeued),
            .outcome serial request .echoed, .offered .echo true] with
          can := driver.can.store serial frame dequeued } : Driver).loopTop
        { ctx with usbEcho := (ctx.usbEcho.trySend (echoFrame request)).1 }
  | writtenRefused (dequeued serial request frame)
      (transmitting : driver.phase = .transmitting serial request frame)
      (full : ctx.usbEcho.hasRoom = false) :
      Transition platform driver ctx (.written dequeued)
        ({ driver.note [.dequeued (takenOut (driver.can.mailboxes.map Prod.fst) dequeued),
            .outcome serial request .echoDropped, .offered .echo false] with
          can := driver.can.store serial frame dequeued } : Driver).loopTop
        { ctx with
          usbEcho := (ctx.usbEcho.trySend (echoFrame request)).1
          service := ctx.service.countDropped }
  | timedOut (serial request frame)
      (transmitting : driver.phase = .transmitting serial request frame) :
      Transition platform driver ctx .timedOut
        ({ driver.note [.aborted (driver.can.mailboxes.map Prod.fst),
            .outcome serial request .timeout] with
          can := driver.can.abortMailboxes } : Driver).loopTop ctx

section Inversion
variable (driver : Driver) (ctx : Context)

theorem started_command_transition (cmd : CanDriverCmd) (canCmd : Channel CanDriverCmd 16)
    (settled : driver.overflowPending = false) (selecting : driver.phase = .selecting)
    (taken : ctx.canCmd.tryReceive = some (cmd, canCmd)) :
    let next := startedCmd platform (driver.note [.command cmd driver.isStarted])
      { ctx with canCmd } cmd
    Transition platform driver ctx .command next.1 next.2 := by
  cases cmd with
  | stop => exact .startedStop canCmd selecting taken
  | start loopback listenOnly oneShot =>
      exact .startedStart canCmd loopback listenOnly oneShot selecting taken
  | setBitTiming timing =>
      simp only [startedCmd, note_can]
      cases valid : driver.can.setBitTiming platform timing with
      | some can => exact .startedTiming canCmd timing can selecting taken valid
      | none => exact .commandPanic canCmd _ (Or.inl selecting) taken (Or.inl ⟨timing, rfl, valid⟩)
  | transmit request =>
      cases sliced : dataSlice request with
      | none =>
          simp only [startedCmd, transmitCmd, sliced]
          exact .commandPanic canCmd _ (Or.inl selecting) taken (Or.inr ⟨request, rfl, sliced⟩)
      | some data =>
          cases built : Can.transmitFrame platform request.id request.isExtended request.isRtr
              data with
          | error error =>
              simp only [startedCmd, transmitCmd, sliced, built]
              rw [end_iteration_settled _ _ (by simpa using settled)]
              have moved : Transition platform driver ctx .command _ _ :=
                .startedFrameError canCmd request data error selecting taken sliced built
              simpa [Driver.note] using moved
          | ok frame =>
              have moved : Transition platform driver ctx .command _ _ :=
                .startedTransmit canCmd request data frame selecting taken sliced built
              simpa [startedCmd, transmitCmd, sliced, built, Driver.note] using moved

theorem stopped_command_transition (cmd : CanDriverCmd) (canCmd : Channel CanDriverCmd 16)
    (receiving : driver.phase = .receiving)
    (taken : ctx.canCmd.tryReceive = some (cmd, canCmd)) :
    let next := stoppedCmd platform (driver.note [.command cmd driver.isStarted])
      { ctx with canCmd } cmd
    Transition platform driver ctx .command next.1 next.2 := by
  cases cmd with
  | stop => exact .stoppedStop canCmd receiving taken
  | start loopback listenOnly oneShot =>
      exact .stoppedStart canCmd loopback listenOnly oneShot receiving taken
  | setBitTiming timing =>
      simp only [stoppedCmd, note_can]
      cases valid : driver.can.setBitTiming platform timing with
      | some can => exact .stoppedTiming canCmd timing can receiving taken valid
      | none => exact .commandPanic canCmd _ (Or.inr receiving) taken (Or.inl ⟨timing, rfl, valid⟩)
  | transmit request =>
      have moved : Transition platform driver ctx .command _ _ :=
        .stoppedTransmit canCmd request receiving taken
      simpa [stoppedCmd, Driver.note] using moved

theorem read_ok_transition (frame : Frame) (settled : driver.overflowPending = false)
    (selecting : driver.phase = .selecting) :
    Transition platform driver ctx (.frame frame) (readOk driver ctx frame).1
      (readOk driver ctx frame).2 := by
  cases room : ctx.canRx.hasRoom with
  | true =>
      simp only [readOk, Channel.try_send_sent, room, ↓reduceIte]
      rw [end_iteration_settled _ _ (by simpa using settled)]
      exact .frameQueued frame selecting room
  | false =>
      -- A full channel is not empty, so the eviction finds a frame.
      have head : (ctx.canRx.trySend (toCanFrame frame)).1.tryReceive ≠ none := by
        rw [ne_eq, Channel.try_receive_none, Channel.try_send_queued, room]
        exact Channel.full_nonempty ctx.canRx (by decide) room
      cases taken : (ctx.canRx.trySend (toCanFrame frame)).1.tryReceive with
      | none => exact False.elim (head taken)
      | some found =>
          obtain ⟨evicted, canRx⟩ := found
          have moved : Transition platform driver ctx (.frame frame) _ _ :=
            .frameRefused frame evicted canRx selecting room taken
          simpa [readOk, room, endIteration, taken, Driver.note] using moved

theorem read_err_transition (error : BusError) (sleeping : Bool)
    (settled : driver.overflowPending = false) (selecting : driver.phase = .selecting) :
    Transition platform driver ctx (.error error sleeping)
      (readErr platform driver ctx error sleeping).1
      (readErr platform driver ctx error sleeping).2 := by
  cases counted : platform.addU32 driver.canErrorCount 1 with
  | none =>
      simp only [readErr, note_error_count, counted]
      exact .errorPanic error sleeping selecting counted
  | some count =>
      cases sleeping with
      | true =>
          by_cases few : ctx.service.busOffCount < maxBusOffRetries.toUInt32
          · have index : min ctx.service.busOffCount.toNat (busOffDelaysMs.length - 1) <
                busOffDelaysMs.length := by
              simp [busOffDelaysMs]
            have delay := List.getElem?_eq_getElem index
            have moved : Transition platform driver ctx (.error error true) _ _ :=
              .busOffRetry error count _ selecting counted few delay
            simpa [readErr, counted, busOff, few, delay, Driver.note] using moved
          · simp only [readErr, note_error_count, counted, busOff, few, ↓reduceIte]
            rw [end_iteration_settled _ _ (by simpa using settled)]
            have moved : Transition platform driver ctx (.error error true) _ _ :=
              .busOffGivenUp error count selecting counted few
            simpa [Driver.note] using moved
      | false =>
          cases room : ctx.usbEcho.hasRoom with
          | true =>
              simp only [readErr, note_error_count, counted, Channel.try_send_sent, room,
                ↓reduceIte, Bool.false_eq_true]
              rw [end_iteration_settled _ _ (by simpa using settled)]
              have moved : Transition platform driver ctx (.error error false) _ _ :=
                .errorQueued error count selecting counted room
              simpa [Driver.note] using moved
          | false =>
              cases taken : ctx.canRx.tryReceive with
              | none =>
                  have moved : Transition platform driver ctx (.error error false) _ _ :=
                    .errorRefusedAlone error count selecting counted room
                      ((Channel.try_receive_none ctx.canRx).mp taken)
                  simpa [readErr, counted, room, endIteration, taken, Driver.note] using moved
              | some found =>
                  obtain ⟨evicted, canRx⟩ := found
                  have moved : Transition platform driver ctx (.error error false) _ _ :=
                    .errorRefused error count evicted canRx selecting counted room taken
                  simpa [readErr, counted, room, endIteration, taken, Driver.note] using moved

theorem written_transition (serial : Nat) (request : CanTxRequest) (frame : Frame)
    (dequeued : Option Nat) (settled : driver.overflowPending = false)
    (transmitting : driver.phase = .transmitting serial request frame) :
    Transition platform driver ctx (.written dequeued)
      (written driver ctx serial request frame dequeued).1
      (written driver ctx serial request frame dequeued).2 := by
  cases room : ctx.usbEcho.hasRoom with
  | true =>
      simp only [written, Channel.try_send_sent, room, ↓reduceIte]
      rw [end_iteration_settled _ _ (by simpa using settled)]
      exact .written dequeued serial request frame transmitting room
  | false =>
      simp only [written, Channel.try_send_sent, room, ↓reduceIte, Bool.false_eq_true]
      rw [end_iteration_settled _ _ (by simpa using settled)]
      exact .writtenRefused dequeued serial request frame transmitting room

/-- Nothing else happens in one step of the task. -/
theorem step_transition (event : Event) (next : Driver × Context)
    (settled : driver.overflowPending = false)
    (stepped : step platform driver ctx event = some next) :
    Transition platform driver ctx event next.1 next.2 := by
  unfold step at stepped
  split at stepped
  · rename_i selecting
    obtain ⟨⟨cmd, canCmd⟩, taken, rfl⟩ := Option.map_eq_some_iff.mp stepped
    exact started_command_transition driver ctx cmd canCmd settled selecting taken
  · rename_i receiving
    obtain ⟨⟨cmd, canCmd⟩, taken, rfl⟩ := Option.map_eq_some_iff.mp stepped
    exact stopped_command_transition driver ctx cmd canCmd receiving taken
  · rename_i frame selecting
    cases stepped
    exact read_ok_transition driver ctx frame settled selecting
  · rename_i error sleeping selecting
    cases stepped
    exact read_err_transition driver ctx error sleeping settled selecting
  · rename_i cmd inLoop enabling
    cases stepped
    have tail : commandEnabled driver ctx cmd inLoop =
        (({ driver.note [.enabled, .finished cmd false] with can := driver.can.enable } :
          Driver).loopTop, ctx) := by
      cases inLoop with
      | true =>
          simp only [commandEnabled, ↓reduceIte]
          rw [end_iteration_settled _ _ (by simpa using settled)]
          rfl
      | false => rfl
    rw [tail]
    exact .commandEnabled cmd inLoop enabling
  · rename_i serial request frame dequeued transmitting
    cases stepped
    exact written_transition driver ctx serial request frame dequeued settled transmitting
  · rename_i serial request frame transmitting
    cases stepped
    simp only [timedOut]
    rw [end_iteration_settled _ _ (by simpa using settled)]
    exact .timedOut serial request frame transmitting
  · rename_i delayMs recovering
    cases stepped
    exact .recovered delayMs recovering
  · rename_i delayMs delaying
    cases stepped
    rw [end_iteration_settled _ _ rfl]
    exact .delayed delayMs delaying
  · simp at stepped

end Inversion

theorem transition_running (driver next : Driver) (ctx after : Context) (event : Event)
    (moved : Transition platform driver ctx event next after) : driver.phase ≠ .panicked := by
  intro panicked
  cases moved <;> simp_all

theorem transition_settled (driver next : Driver) (ctx after : Context) (event : Event)
    (moved : Transition platform driver ctx event next after)
    (settled : driver.overflowPending = false) : next.overflowPending = false := by
  cases moved <;> simp [settled, Driver.panic]

end NginLink.CanDriver
