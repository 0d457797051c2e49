import NginLink.Echoes

/-!
What a host can do so that nothing is lost on its way in. CAN_CMD_CHANNEL has sixteen
slots. A host that keeps a window of messages without an echo, and leaves the rest of the
slots to its control requests, never meets a full channel, under any schedule of the
tasks. What comes back is not for the host alone to protect: USB_ECHO_CHANNEL also takes
the reports of bus errors, which must leave the window its slots.
-/

namespace NginLink.FlowControl

open AppContext BoundedChannel BspCan CanDriver CommandQueue DriverState Echoes Firmware GsUsbTypes
open TransmitLedger UsbTasks

def isRequest (cmd : CanDriverCmd) : Bool := !isControl cmd
def isReport (frame : GsHostFrame) : Bool := !frame.isTxEcho

def waitingControl (ctx : Context) : Nat := ctx.canCmd.queued.countP isControl
def waitingRequests (ctx : Context) : Nat := ctx.canCmd.queued.countP isRequest
def waitingEchoes (ctx : Context) : Nat := ctx.usbEcho.queued.countP (·.isTxEcho)
def waitingReports (ctx : Context) : Nat := ctx.usbEcho.queued.countP isReport

-- Messages for which `usb_tx_task` has not taken an echo yet, or never will.
def outstanding (s : System) : Nat := s.usbRx.messages.length - (takenEchoes s.usbTx).length

/-- The host sends a message only within its window, and a request that makes a command
only while fewer of these wait than the window leaves slots. -/
def Paced (window : Nat) (s : System) : Firmware.Event → Prop
  | .bulkOut packet => GsTxMsg.layout.size ≤ packet.bytes.length → outstanding s < window
  | .controlOut req payload =>
      (requestedCmd req payload).isSome = true → waitingControl s.ctx < 16 - window
  | _ => True

instance (window : Nat) (s : System) : (event : Firmware.Event) → Decidable (Paced window s event)
  | .bulkOut packet => inferInstanceAs
      (Decidable (GsTxMsg.layout.size ≤ packet.bytes.length → outstanding s < window))
  | .controlOut req payload => inferInstanceAs (Decidable
      ((requestedCmd req payload).isSome = true → waitingControl s.ctx < 16 - window))
  | .driver _ | .controlIn _ _ | .epOutEnabled | .epInEnabled | .bulkOutError _ | .takeRx
  | .takeEcho | .writeDone | .mailboxSent _ | .tick _ => isTrue trivial

/-- No doing of the host: the bus shows an error only while the reports that still wait
leave the window its slots. -/
def Spared (window : Nat) (s : System) : Firmware.Event → Prop
  | .driver (.error _ _) => waitingReports s.ctx < 16 - window
  | _ => True

instance (window : Nat) (s : System) : (event : Firmware.Event) → Decidable (Spared window s event)
  | .driver (.error _ _) => inferInstanceAs (Decidable (waitingReports s.ctx < 16 - window))
  | .driver .command | .driver (.frame _) | .driver .enabled | .driver (.written _)
  | .driver .timedOut | .driver .delayElapsed | .controlOut _ _ | .controlIn _ _
  | .epOutEnabled | .epInEnabled | .bulkOut _ | .bulkOutError _ | .takeRx | .takeEcho
  | .writeDone | .mailboxSent _ | .tick _ => isTrue trivial

theorem count_after_send {α : Type} {capacity : Nat} (channel : Channel α capacity) (value : α)
    (kind : α → Bool) :
    (channel.trySend value).1.queued.countP kind =
      channel.queued.countP kind + if channel.hasRoom && kind value then 1 else 0 := by
  rw [Channel.try_send_queued]
  cases channel.hasRoom <;> cases found : kind value <;> simp [found]

theorem count_after_receive {α : Type} {capacity : Nat} (channel after : Channel α capacity)
    (value : α) (kind : α → Bool) (taken : channel.tryReceive = some (value, after)) :
    channel.queued.countP kind =
      after.queued.countP kind + if kind value then 1 else 0 := by
  rw [(Channel.try_receive_some channel after value taken).1, List.countP_cons]

-- A channel has room as long as its two kinds of values are fewer than its slots.
theorem room_of_counts {α : Type} {capacity : Nat} (channel : Channel α capacity)
    (kind : α → Bool)
    (few : channel.queued.countP kind + channel.queued.countP (fun v => !kind v) < capacity) :
    channel.hasRoom = true := by
  have total := List.length_eq_countP_add_countP kind (l := channel.queued)
  simp only [Bool.not_eq_true, Bool.decide_eq_false] at total
  rw [Channel.hasRoom, total]
  exact decide_eq_true few

def droppedOf : Record → Option Nat
  | .outcome serial _ .echoDropped => some serial
  | _ => none

abbrev droppedEchoes (log : List Record) : List Nat := log.filterMap droppedOf

@[simp] theorem dropped_loop_top (driver : Driver) :
    droppedEchoes driver.loopTop.log = droppedEchoes driver.log :=
  loop_top_view driver droppedOf rfl

/-- The four ways a step of the driver can use the two channels. -/
inductive Traffic (driver next : Driver) (ctx after : Context) (event : CanDriver.Event) :
    Prop where
  | took (cmd) (idle : pending driver.phase = [])
      (taken : ctx.canCmd.tryReceive = some (cmd, after.canCmd))
      (begun : (pending next.phase).length ≤ if isRequest cmd then 1 else 0)
      (echoes : after.usbEcho = ctx.usbEcho)
      (dropped : droppedEchoes next.log = droppedEchoes driver.log)
  | echoed (request) (written : ∃ dequeued, event = .written dequeued)
      (busy : (pending driver.phase).length = 1) (idle : pending next.phase = [])
      (commands : after.canCmd = ctx.canCmd)
      (sent : after.usbEcho = (ctx.usbEcho.trySend (echoFrame request)).1)
      (dropped : ctx.usbEcho.hasRoom = true →
        droppedEchoes next.log = droppedEchoes driver.log)
  | reported (report error sleeping) (read : event = .error error sleeping)
      (kind : isReport report = true) (idle : pending next.phase = [])
      (commands : after.canCmd = ctx.canCmd)
      (sent : after.usbEcho = (ctx.usbEcho.trySend report).1)
      (dropped : droppedEchoes next.log = droppedEchoes driver.log)
  | quiet (rests : (pending next.phase).length ≤ (pending driver.phase).length)
      (commands : after.canCmd = ctx.canCmd) (echoes : after.usbEcho = ctx.usbEcho)
      (dropped : droppedEchoes next.log = droppedEchoes driver.log)

variable {platform : Platform}

theorem transition_traffic (driver next : Driver) (ctx after : Context) (event : CanDriver.Event)
    (moved : Transition platform driver ctx event next after) :
    Traffic driver next ctx after event := by
  cases moved with
  | startedStop canCmd selecting taken
  | startedStart canCmd loopback listenOnly oneShot selecting taken
  | startedTiming canCmd timing can selecting taken valid
  | startedTransmit canCmd request data frame selecting taken sliced built =>
      exact .took _ (by rw [selecting]; rfl) taken (by simp [pending, isRequest, isControl]) rfl
        (by simp [droppedOf])
  | startedFrameError canCmd request data error selecting taken sliced failed =>
      exact .took _ (by rw [selecting]; rfl) taken (by simp) rfl (by simp [droppedOf])
  | stoppedStart canCmd loopback listenOnly oneShot receiving taken =>
      exact .took _ (by rw [receiving]; rfl) taken (by simp [pending]) rfl (by simp [droppedOf])
  | stoppedStop canCmd receiving taken
  | stoppedTiming canCmd timing can receiving taken valid
  | stoppedTransmit canCmd request receiving taken =>
      exact .took _ (by rw [receiving]; rfl) taken (by simp) rfl (by simp [droppedOf])
  | commandPanic canCmd cmd waiting taken fatal =>
      refine .took cmd ?_ taken (Nat.zero_le _) rfl (by simp [droppedOf, Driver.panic])
      rcases waiting with phase | phase <;> rw [phase] <;> rfl
  | written dequeued serial request frame transmitting room =>
      exact .echoed request ⟨dequeued, rfl⟩ (by rw [transmitting]; rfl) (by simp) rfl rfl
        (by simp [droppedOf])
  | writtenRefused dequeued serial request frame transmitting full =>
      refine .echoed request ⟨dequeued, rfl⟩ (by rw [transmitting]; rfl) (by simp) rfl rfl ?_
      rw [full]
      intro contradiction
      cases contradiction
  | busOffGivenUp error count selecting counted many =>
      exact .reported _ error true rfl (by rw [isReport, controller_error_no_echo]; rfl) (by simp)
        rfl rfl (by simp [droppedOf])
  | errorQueued error count selecting counted room
  | errorRefused error count evicted canRx selecting counted full taken
  | errorRefusedAlone error count selecting counted full empty =>
      exact .reported _ error false rfl (by rw [isReport, bus_error_no_echo]; rfl) (by simp) rfl rfl
        (by simp [droppedOf])
  | recovered | errorPanic | busOffRetry =>
      exact .quiet (by simp [pending, Driver.panic]) rfl rfl (by simp [droppedOf, Driver.panic])
  | timedOut | commandEnabled | delayed | frameQueued | frameRefused =>
      exact .quiet (by simp) rfl rfl (by simp [droppedOf])

/-- The slots of both channels, shared out between the window and the rest. -/
structure Windowed (window : Nat) (s : System) : Prop where
  flow : waitingRequests s.ctx + (pending s.driver.phase).length + waitingEchoes s.ctx +
    (takenEchoes s.usbTx).length ≤ s.usbRx.messages.length
  sent : s.usbRx.messages.length ≤ (takenEchoes s.usbTx).length + window
  control : waitingControl s.ctx ≤ 16 - window

structure Lossless (s : System) : Prop where
  messages : ∀ record ∈ s.usbRx.messages, record.queued = true
  controls : ∀ record ∈ s.controls, requestedCmd record.req record.payload ≠ none →
    record.hadRoom = true
  commands : s.ctx.canCmd.refused = []

structure Returned (window : Nat) (s : System) : Prop where
  reports : waitingReports s.ctx ≤ 16 - window
  frames : s.ctx.usbEcho.refused = []
  echoes : droppedEchoes s.driver.log = []

theorem boot_windowed (window : Nat) (config : CanConfig) : Windowed window (boot config) where
  flow := Nat.le_refl 0
  sent := Nat.zero_le _
  control := Nat.zero_le _

theorem boot_lossless (config : CanConfig) : Lossless (boot config) where
  messages := by
    intro record member
    cases member
  controls := by
    intro record member
    cases member
  commands := rfl

theorem boot_returned (window : Nat) (config : CanConfig) : Returned window (boot config) where
  reports := Nat.zero_le _
  frames := rfl
  echoes := rfl

section Steps
variable (window : Nat) (fits : window ≤ 16) (s : System) (windowed : Windowed window s)
include fits windowed

theorem message_room (within : outstanding s < window) : s.ctx.canCmd.hasRoom = true := by
  have flow := windowed.flow
  have control := windowed.control
  unfold outstanding at within
  apply room_of_counts _ isControl
  change waitingControl s.ctx + waitingRequests s.ctx < 16
  omega

theorem control_room (left : waitingControl s.ctx < 16 - window) :
    s.ctx.canCmd.hasRoom = true := by
  have flow := windowed.flow
  have sent := windowed.sent
  apply room_of_counts _ isControl
  change waitingControl s.ctx + waitingRequests s.ctx < 16
  omega

-- The echo of the frame being written has a slot of the window to itself.
theorem echo_room (left : waitingReports s.ctx ≤ 16 - window)
    (busy : (pending s.driver.phase).length = 1) : s.ctx.usbEcho.hasRoom = true := by
  have flow := windowed.flow
  have sent := windowed.sent
  apply room_of_counts _ (·.isTxEcho)
  change waitingEchoes s.ctx + waitingReports s.ctx < 16
  omega

theorem report_room (left : waitingReports s.ctx < 16 - window) :
    s.ctx.usbEcho.hasRoom = true := by
  have flow := windowed.flow
  have sent := windowed.sent
  apply room_of_counts _ (·.isTxEcho)
  change waitingEchoes s.ctx + waitingReports s.ctx < 16
  omega

end Steps

theorem traffic_windowed (window : Nat) (s : System) (next : Driver) (after : Context)
    (event : CanDriver.Event) (traffic : Traffic s.driver next s.ctx after event)
    (windowed : Windowed window s) : Windowed window { s with driver := next, ctx := after } := by
  obtain ⟨flow, sent, control⟩ := windowed
  unfold waitingRequests waitingEchoes at flow
  unfold waitingControl at control
  cases traffic with
  | took cmd idle taken begun echoes dropped =>
      -- A request moves from the channel into the driver: the sum that the window bounds stays.
      have requests := count_after_receive s.ctx.canCmd after.canCmd cmd isRequest taken
      have controls := count_after_receive s.ctx.canCmd after.canCmd cmd isControl taken
      rw [idle, List.length_nil] at flow
      refine ⟨?_, sent, ?_⟩
      · simp only [waitingRequests, waitingEchoes, echoes]
        omega
      · simp only [waitingControl]
        omega
  | echoed request written busy idle commands sentEcho dropped =>
      -- The echo takes over the place of its request in that sum, or is refused.
      have echoes := count_after_send s.ctx.usbEcho (echoFrame request) (·.isTxEcho)
      simp only [echo_is_tx_echo, Bool.and_true] at echoes
      refine ⟨?_, sent, ?_⟩
      · simp only [waitingRequests, waitingEchoes, commands, sentEcho, idle, List.length_nil,
          echoes]
        split <;> omega
      · simp only [waitingControl, commands]
        exact control
  | reported report error sleeping read kind idle commands sentReport dropped =>
      have silent : report.isTxEcho = false := by simpa [isReport] using kind
      have echoes := count_after_send s.ctx.usbEcho report (·.isTxEcho)
      simp only [silent, Bool.and_false, Bool.false_eq_true, ↓reduceIte, Nat.add_zero] at echoes
      refine ⟨?_, sent, ?_⟩
      · simp only [waitingRequests, waitingEchoes, commands, sentReport, idle, List.length_nil,
          echoes]
        omega
      · simp only [waitingControl, commands]
        exact control
  | quiet rests commands echoes dropped =>
      refine ⟨?_, sent, ?_⟩
      · simp only [waitingRequests, waitingEchoes, commands, echoes]
        omega
      · simp only [waitingControl, commands]
        exact control

-- The driver only takes commands, so it refuses none.
theorem traffic_refused (driver next : Driver) (ctx after : Context) (event : CanDriver.Event)
    (traffic : Traffic driver next ctx after event) :
    after.canCmd.refused = ctx.canCmd.refused := by
  cases traffic with
  | took cmd idle taken begun echoes dropped =>
      exact (Channel.try_receive_some ctx.canCmd after.canCmd cmd taken).2.2.2
  | echoed request written busy idle commands sent dropped => rw [commands]
  | reported report error sleeping read kind idle commands sent dropped => rw [commands]
  | quiet rests commands echoes dropped => rw [commands]

theorem traffic_returned (window : Nat) (fits : window ≤ 16) (s : System) (next : Driver)
    (after : Context) (event : CanDriver.Event)
    (traffic : Traffic s.driver next s.ctx after event) (windowed : Windowed window s)
    (spared : Spared window s (.driver event)) (returned : Returned window s) :
    Returned window { s with driver := next, ctx := after } := by
  have room := echo_room window fits s windowed returned.reports
  have reportRoom := report_room window fits s windowed
  obtain ⟨reports, frames, echoes⟩ := returned
  unfold waitingReports at reports
  cases traffic with
  | took cmd idle taken begun same dropped =>
      refine ⟨?_, same ▸ frames, dropped.trans echoes⟩
      simp only [waitingReports, same]
      exact reports
  | echoed request written busy idle commands sentEcho dropped =>
      have free := room busy
      have echo : isReport (echoFrame request) = false := by
        rw [isReport, echo_is_tx_echo]
        rfl
      have others := count_after_send s.ctx.usbEcho (echoFrame request) isReport
      simp only [free, echo, Bool.and_false, Bool.false_eq_true, ↓reduceIte, Nat.add_zero] at others
      refine ⟨?_, ?_, (dropped free).trans echoes⟩
      · simp only [waitingReports, sentEcho, others]
        exact reports
      · rw [sentEcho, Channel.try_send_refused, if_pos free]
        exact frames
  | reported report error sleeping read kind idle commands sentReport dropped =>
      subst read
      -- A report counts against the slots that the window leaves, not against the window.
      have free := reportRoom spared
      have others := count_after_send s.ctx.usbEcho report isReport
      simp only [free, kind, Bool.and_self, ↓reduceIte] at others
      refine ⟨?_, ?_, dropped.trans echoes⟩
      · simp only [waitingReports, sentReport, others]
        exact spared
      · rw [sentReport, Channel.try_send_refused, if_pos free]
        exact frames
  | quiet rests commands same dropped =>
      refine ⟨?_, same ▸ frames, dropped.trans echoes⟩
      simp only [waitingReports, same]
      exact reports

theorem waiting_requests_sent (ctx : Context) (cmd : CanDriverCmd) :
    waitingRequests (ctx.sendCmd cmd) =
      waitingRequests ctx + if ctx.canCmd.hasRoom && isRequest cmd then 1 else 0 :=
  count_after_send ctx.canCmd cmd isRequest

theorem waiting_control_sent (ctx : Context) (cmd : CanDriverCmd) :
    waitingControl (ctx.sendCmd cmd) =
      waitingControl ctx + if ctx.canCmd.hasRoom && isControl cmd then 1 else 0 :=
  count_after_send ctx.canCmd cmd isControl

theorem refused_after_room (ctx : Context) (cmd : CanDriverCmd)
    (free : ctx.canCmd.hasRoom = true) :
    (ctx.sendCmd cmd).canCmd.refused = ctx.canCmd.refused := by
  rw [Context.sendCmd, Channel.try_send_refused, if_pos free]

theorem taken_echoes_length (tx : UsbTx) (source : Source) (frame : GsHostFrame) :
    (takenEchoes (tx.startWrite source frame)).length =
      (takenEchoes tx).length + if frame.isTxEcho then 1 else 0 := by
  rw [taken_echoes_start, List.length_append]
  cases frame.isTxEcho <;> rfl

theorem move_windowed (window : Nat) (fits : window ≤ 16) (s next : System)
    (event : Firmware.Event) (moved : Move platform s event next) (paced : Paced window s event)
    (windowed : Windowed window s) : Windowed window next := by
  have within := message_room window fits s windowed
  have left := control_room window fits s windowed
  have kept := windowed
  obtain ⟨flow, sent, control⟩ := windowed
  cases moved with
  | requested req payload cmd handler asks configured =>
      -- The slot is one of those that the window leaves to control requests.
      have isCommand := requested_is_control req payload cmd asks
      have waits : waitingControl s.ctx < 16 - window := paced (by rw [asks]; simp)
      have free := left waits
      have requests := waiting_requests_sent s.ctx cmd
      have controls := waiting_control_sent s.ctx cmd
      simp only [isRequest, isCommand, Bool.not_true, Bool.and_false, Bool.false_eq_true,
        ↓reduceIte, Nat.add_zero] at requests
      simp only [free, isCommand, Bool.and_self, ↓reduceIte] at controls
      refine ⟨?_, sent, ?_⟩
      · rw [requests]
        exact flow
      · rw [controls]
        exact waits
  | message packet enabled whole =>
      -- One more message outstanding, and one more request on its way: both sides of `flow` grow.
      have inside : outstanding s < window := paced whole
      have free := within inside
      generalize sentCmd : CanDriverCmd.transmit
        (parseTxMsg (decodeMsg (overwrite s.usbRx.buf packet))) = cmd
      have isMessage : isControl cmd = false := by
        rw [← sentCmd]
        rfl
      have requests := waiting_requests_sent s.ctx cmd
      have controls := waiting_control_sent s.ctx cmd
      simp only [free, isRequest, isMessage, Bool.not_false, Bool.and_self, ↓reduceIte] at requests
      simp only [isMessage, Bool.and_false, Bool.false_eq_true, ↓reduceIte, Nat.add_zero]
        at controls
      refine ⟨?_, ?_, ?_⟩
      · simp only [requests, List.length_append, List.length_singleton]
        have same : waitingEchoes (s.ctx.sendCmd cmd) = waitingEchoes s.ctx := rfl
        omega
      · unfold outstanding at inside
        simp only [List.length_append, List.length_singleton]
        omega
      · rw [controls]
        exact control
  | driver event driver ctx moved =>
      exact traffic_windowed window s driver ctx event
        (transition_traffic s.driver driver s.ctx ctx event moved) kept
  | tookRx frame canRx selecting taken =>
      -- A received frame is no echo and brings the host no nearer to its next message.
      have same := taken_echoes_length s.usbTx .canRx (toHostFrame frame)
      simp only [received_no_echo, Bool.false_eq_true, ↓reduceIte, Nat.add_zero] at same
      refine ⟨?_, ?_, control⟩
      · rw [same]
        exact flow
      · rw [same]
        exact sent
  | tookEcho frame usbEcho selecting taken =>
      have echoes := count_after_receive s.ctx.usbEcho usbEcho frame (·.isTxEcho) taken
      have length := taken_echoes_length s.usbTx .usbEcho frame
      refine ⟨?_, ?_, control⟩
      · simp only [waitingRequests, waitingEchoes, length] at flow ⊢
        omega
      · simp only [length]
        omega
  | _ => exact ⟨flow, sent, control⟩

theorem move_lossless (window : Nat) (fits : window ≤ 16) (s next : System)
    (event : Firmware.Event) (moved : Move platform s event next) (paced : Paced window s event)
    (windowed : Windowed window s) (lossless : Lossless s) : Lossless next := by
  cases moved with
  | requested req payload cmd handler asks configured =>
      have free := control_room window fits s windowed (paced (by rw [asks]; simp))
      refine ⟨lossless.messages, ?_, ?_⟩
      · exact Machine.seen_one_more s.controls _ lossless.controls (fun _ => free)
      · rw [refused_after_room s.ctx cmd free]
        exact lossless.commands
  | answered req payload answer handler asks configured =>
      refine ⟨lossless.messages, ?_, lossless.commands⟩
      exact Machine.seen_one_more s.controls _ lossless.controls (fun asked => absurd asks asked)
  | message packet enabled whole =>
      have free := message_room window fits s windowed (paced whole)
      refine ⟨?_, lossless.controls, ?_⟩
      · exact Machine.seen_one_more s.usbRx.messages _ lossless.messages free
      · rw [refused_after_room s.ctx _ free]
        exact lossless.commands
  | driver event driver ctx moved =>
      have commands := traffic_refused s.driver driver s.ctx ctx event
        (transition_traffic s.driver driver s.ctx ctx event moved)
      exact ⟨lossless.messages, lossless.controls, commands.trans lossless.commands⟩
  | _ => exact ⟨lossless.messages, lossless.controls, lossless.commands⟩

theorem move_returned (window : Nat) (fits : window ≤ 16) (s next : System)
    (event : Firmware.Event) (moved : Move platform s event next)
    (spared : Spared window s event) (windowed : Windowed window s)
    (returned : Returned window s) : Returned window next := by
  cases moved with
  | driver event driver ctx moved =>
      exact traffic_returned window fits s driver ctx event
        (transition_traffic s.driver driver s.ctx ctx event moved) windowed spared returned
  | tookEcho frame usbEcho selecting taken =>
      have others := count_after_receive s.ctx.usbEcho usbEcho frame isReport taken
      have unrefused := (Channel.try_receive_some s.ctx.usbEcho usbEcho frame taken).2.2.2
      have reports := returned.reports
      refine ⟨?_, unrefused.trans returned.frames, returned.echoes⟩
      simp only [waitingReports] at reports ⊢
      omega
  | _ => exact ⟨returned.reports, returned.frames, returned.echoes⟩

theorem run_returned (config : CanConfig) (window : Nat) (fits : window ≤ 16)
    (events : List Firmware.Event) (final : System)
    (paced : Machine.Along (step platform) (Paced window) (boot config) events)
    (spared : Machine.Along (step platform) (Spared window) (boot config) events)
    (finished : Machine.run (step platform) (boot config) events = some final) :
    Returned window final :=
  (run_move_invariant_along (fun s event => Paced window s event ∧ Spared window s event)
    (fun s => (Windowed window s ∧ Lossless s) ∧ Returned window s)
    (by
      rintro s event next _ ⟨flow, returned⟩ ⟨paced, spared⟩ moved
      exact ⟨⟨move_windowed window fits s next event moved paced flow.1,
        move_lossless window fits s next event moved paced flow.1 flow.2⟩,
        move_returned window fits s next event moved spared flow.1 returned⟩)
    config events final (Machine.along_and (step platform) _ _ _ _ paced spared) finished
    ⟨⟨boot_windowed window config, boot_lossless config⟩, boot_returned window config⟩).2

/-- A host that keeps a window of at most sixteen messages without an echo, and leaves the
remaining slots to its control requests, has every message and every request queued, under
any schedule. If moreover the bus spares the window its slots, no echo and no report
finds USB_ECHO_CHANNEL full. -/
theorem paced_host_loses_nothing (platform : Platform) (config : CanConfig) (window : Nat)
    (fits : window ≤ 16) (events : List Firmware.Event) (final : System)
    (paced : Machine.Along (step platform) (Paced window) (boot config) events)
    (finished : Machine.run (step platform) (boot config) events = some final) :
    (∀ record ∈ final.usbRx.messages, record.queued = true) ∧
    (∀ record ∈ final.controls, requestedCmd record.req record.payload ≠ none →
      record.hadRoom = true) ∧
    final.ctx.canCmd.refused = [] ∧
    (Machine.Along (step platform) (Spared window) (boot config) events →
      (∀ serial request, .outcome serial request .echoDropped ∉ final.driver.log) ∧
      final.ctx.usbEcho.refused = []) := by
  have lossless := (run_move_invariant_along (Paced window)
    (fun s => Windowed window s ∧ Lossless s)
    (fun s event next _ holds paced moved =>
      ⟨move_windowed window fits s next event moved paced holds.1,
        move_lossless window fits s next event moved paced holds.1 holds.2⟩)
    config events final paced finished ⟨boot_windowed window config, boot_lossless config⟩).2
  refine ⟨lossless.messages, lossless.controls, lossless.commands, ?_⟩
  intro spared
  have returned := run_returned config window fits events final paced spared finished
  refine ⟨?_, returned.frames⟩
  intro serial request logged
  have dropped : serial ∈ droppedEchoes final.driver.log :=
    List.mem_filterMap.mpr ⟨_, logged, rfl⟩
  rw [returned.echoes] at dropped
  cases dropped

-- The silent bus keeps within a window of ten: its fourth message times out, but none of
-- its messages or echoes is lost.
theorem paced_host_loses_nothing_silent_bus :
    10 ≤ 16 ∧ Machine.Along (step (Platform.embassy true)) (Paced 10) (boot resetConfig)
      silentBus ∧
    ∃ final, Machine.run (step (Platform.embassy true)) (boot resetConfig) silentBus =
        some final ∧
      final.usbRx.messages.length = 4 ∧
      (∀ record ∈ final.usbRx.messages, record.queued = true) ∧
      ∀ serial request, .outcome serial request .echoDropped ∉ final.driver.log := by
  have paced : Machine.Along (step (Platform.embassy true)) (Paced 10) (boot resetConfig)
      silentBus := by decide
  have spared : Machine.Along (step (Platform.embassy true)) (Spared 10) (boot resetConfig)
      silentBus := by decide
  obtain ⟨final, finished, four⟩ : ∃ final, Machine.run (step (Platform.embassy true))
      (boot resetConfig) silentBus = some final ∧ final.usbRx.messages.length = 4 :=
    ⟨_, rfl, by decide⟩
  obtain ⟨messages, _, _, returned⟩ := paced_host_loses_nothing (Platform.embassy true)
    resetConfig 10 (by decide) silentBus final paced finished
  exact ⟨by decide, paced, final, finished, four, messages, (returned spared).1⟩

end NginLink.FlowControl
