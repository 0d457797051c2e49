import NginLink.Echoes

/-!
The bits the host reads off every frame it is sent, whatever the frame is. The
TX_ECHO flag shares its bit with the overflow flag, and no constructor of a host
frame ever sets the RTR bit.
-/

namespace NginLink.HostFlags

open AppContext BoundedChannel BspCan CanDriver CommandQueue DriverState Echoes Firmware
open GsUsbTypes TransmitLedger Translation UsbTasks WordBits

/-- The host cannot tell an overflow from an echo. -/
theorem overflow_is_echo (frame : GsHostFrame) : frame.hasOverflow = frame.isTxEcho := rfl

variable {platform : Platform}

theorem transition_quiet_echoes (driver next : Driver) (ctx after : Context)
    (event : CanDriver.Event) (moved : Transition platform driver ctx event next after)
    (quiet : ∀ dequeued, event ≠ .written dequeued) :
    echoes after = echoes ctx := by
  unfold echoes
  rcases transition_sends driver next ctx after event moved with
    same | ⟨request, dequeued, written, _⟩ | ⟨error, sent⟩ | sent
  · rw [same]
  · exact absurd written (quiet dequeued)
  · rw [sent, error_not_echo ctx.usbEcho _ (bus_error_no_echo error)]
  · rw [sent, error_not_echo ctx.usbEcho _ (controller_error_no_echo .busOff)]

theorem transition_echo_history (driver next : Driver) (ctx after : Context)
    (event : CanDriver.Event) (moved : Transition platform driver ctx event next after) :
    echoes ctx <+: echoes after ∧ ctx.usbEcho.refused <+: after.usbEcho.refused := by
  unfold echoes
  rcases transition_sends driver next ctx after event moved with
    same | ⟨request, _, _, sent⟩ | ⟨error, sent⟩ | sent
  · rw [same]
    exact ⟨List.prefix_rfl, List.prefix_rfl⟩
  all_goals
    rw [sent]
    exact ⟨(Channel.accepted_grows ctx.usbEcho _).filter _, Channel.refused_grows ctx.usbEcho _⟩

def EchoSent (s : System) : Prop := echoes s.ctx ≠ [] ∨ s.ctx.usbEcho.refused ≠ []

theorem move_echo_sent (s next : System) (event : Firmware.Event) (sent : EchoSent s)
    (moved : Move platform s event next) : EchoSent next := by
  cases moved with
  | driver event driver ctx moved =>
      obtain ⟨accepted, refused⟩ :=
        transition_echo_history s.driver driver s.ctx ctx event moved
      rcases sent with sent | sent
      · exact Or.inl fun empty => sent (List.prefix_nil.mp (empty ▸ accepted))
      · exact Or.inr fun empty => sent (List.prefix_nil.mp (empty ▸ refused))
  | tookEcho frame usbEcho selecting taken =>
      obtain ⟨_, _, accepted, refused⟩ := Channel.try_receive_some s.ctx.usbEcho usbEcho _ taken
      rcases sent with sent | sent
      · exact Or.inl (by simpa [echoes, accepted] using sent)
      · exact Or.inr (by simpa [refused] using sent)
  | _ => exact sent

theorem written_sends_echo (s next : System)
    (dequeued : Option Nat) (moved : Move platform s (.driver (.written dequeued)) next) :
    EchoSent next := by
  cases moved with
  | driver _ driver ctx moved =>
      cases moved with
      | written dequeued serial request frame transmitting room =>
          refine Or.inl ?_
          simp [echo_queued s.ctx request room]
      | writtenRefused dequeued serial request frame transmitting full =>
          refine Or.inr ?_
          simp [Channel.try_send_refused, full]

theorem move_no_echo (s next : System) (event : Firmware.Event)
    (moved : Move platform s event next) (quiet : ∀ dequeued, event ≠ .driver (.written dequeued))
    (silent : echoes s.ctx = []) : echoes next.ctx = [] := by
  cases moved with
  | driver event driver ctx moved =>
      have other : ∀ dequeued, event ≠ .written dequeued := by
        rintro dequeued rfl
        exact quiet dequeued rfl
      rw [transition_quiet_echoes s.driver driver s.ctx ctx event moved other, silent]
  | tookEcho frame usbEcho selecting taken =>
      have accepted := (Channel.try_receive_some s.ctx.usbEcho usbEcho _ taken).2.2.1
      simpa [echoes, accepted] using silent
  | _ => exact silent

theorem overflow_free_iff (tx : UsbTx) :
    (∀ entry ∈ tx.taken, entry.2.hasOverflow = false) ↔ takenEchoes tx = [] := by
  unfold takenEchoes
  rw [List.filter_eq_nil_iff, List.forall_mem_map]
  simp [overflow_is_echo]

/-- As long as no `try_send` to the host failed: a run in which no `transmit` returned
`Ok` shows the host no overflow bit, and once the echoes are drained a run in which
one did shows it. -/
theorem overflow_bit_iff_transmitted (platform : Platform) (config : CanConfig)
    (events : List Firmware.Event) (final : System)
    (finished : Machine.run (step platform) (boot config) events = some final)
    (noneRefused : final.ctx.canRx.refused = [] ∧ final.ctx.usbEcho.refused = []) :
    ((∀ dequeued, .driver (.written dequeued) ∉ events) →
      ∀ entry ∈ final.usbTx.taken, entry.2.hasOverflow = false) ∧
    (final.ctx.usbEcho.queued = [] →
      ((∀ entry ∈ final.usbTx.taken, entry.2.hasOverflow = false) ↔
        ∀ dequeued, .driver (.written dequeued) ∉ events)) := by
  have custody := run_custody config events final finished
  have clear : (∀ dequeued, .driver (.written dequeued) ∉ events) →
      ∀ entry ∈ final.usbTx.taken, entry.2.hasOverflow = false := by
    intro quiet
    have permitted := Machine.along_of_events (step platform)
      (fun event => ∀ dequeued, event ≠ .driver (.written dequeued)) (boot config) events (by
        rintro event member dequeued rfl
        exact quiet dequeued member)
    have silent := run_move_invariant_along
      (fun _ event => ∀ dequeued, event ≠ .driver (.written dequeued))
      (fun s => echoes s.ctx = [])
      (fun s event next _ silent other moved => move_no_echo s next event moved other silent)
      config events final permitted finished rfl
    rw [overflow_free_iff, custody.taken]
    have front := (Channel.received_prefix final.ctx.usbEcho).filter (·.isTxEcho)
    exact List.prefix_nil.mp (silent ▸ front)
  refine ⟨clear, ?_⟩
  intro drained
  constructor
  · intro safe dequeued transmitted
    have sent := run_move_establishes (fun _ _ => True) (fun _ => True) EchoSent
      (.driver (.written dequeued)) (fun _ _ _ _ _ => trivial)
      (fun s next _ _ moved => written_sends_echo s next dequeued moved)
      (fun s event next sent moved => move_echo_sent s next event sent moved)
      config events final (Machine.along_true (step platform) (boot config) events) finished
      trivial transmitted
    rw [overflow_free_iff, custody.taken, Channel.received_eq_accepted _ drained] at safe
    -- An echo that was sent has been taken by now, unless the channel refused it.
    rcases sent with sent | sent
    · exact sent safe
    · exact sent noneRefused.2
  · exact clear

def oneMessage (canId : UInt32) : List Firmware.Event :=
  bringUp ++ [.epOutEnabled, .epInEnabled, hostMessage 1 canId] ++ storeMessage ++ [.takeEcho]

def oneReceived : List Firmware.Event :=
  bringUp ++ [.epInEnabled, .driver (.frame sampleFrame), .takeRx]

theorem overflow_bit_iff_transmitted_one_received :
    ∃ final, Machine.run (step (Platform.embassy true)) (boot resetConfig) oneReceived =
        some final ∧
      (final.ctx.canRx.refused = [] ∧ final.ctx.usbEcho.refused = []) ∧
      final.usbTx.taken.length = 1 ∧
      ∀ entry ∈ final.usbTx.taken, entry.2.hasOverflow = false := by
  obtain ⟨final, finished, noneRefused, taken⟩ : ∃ final, Machine.run
      (step (Platform.embassy true)) (boot resetConfig) oneReceived = some final ∧
      (final.ctx.canRx.refused = [] ∧ final.ctx.usbEcho.refused = []) ∧
      final.usbTx.taken.length = 1 := ⟨_, rfl, by decide, by decide⟩
  exact ⟨final, finished, noneRefused, taken,
    (overflow_bit_iff_transmitted (Platform.embassy true) resetConfig oneReceived final finished
      noneRefused).1 (by simp [oneReceived, bringUp, hostMode])⟩

/-- The echo of the first message reads as an overflow. -/
theorem first_echo_overflows :
    ∃ final, Machine.run (step (Platform.embassy true)) (boot resetConfig) (oneMessage 0x123) =
        some final ∧
      final.ctx.canRx.refused = [] ∧ final.ctx.usbEcho.refused = [] ∧
      (final.usbTx.taken.map fun entry => entry.2.hasOverflow) = [true] :=
  ⟨_, rfl, by decide, by decide, by decide⟩

theorem has_rtr_bit (frame : GsHostFrame) : frame.hasRtr = frame.canId.toNat.testBit 30 :=
  and_flag frame.canId gsCanIdFlagRtr 30 (by decide)

theorem data_frame_no_rtr (echoId : UInt32) (flags : UInt8) (id : UInt32) (extended : Bool)
    (dlc : UInt8) (data : Vector UInt8 8) :
    (GsHostFrame.dataFrame echoId flags id extended dlc data).hasRtr = false := by
  rw [has_rtr_bit]
  exact data_can_id_rtr id extended

theorem bus_error_no_rtr (error : CanBusError) :
    (GsHostFrame.fromBusError error).hasRtr = false := by
  cases error <;> rfl

theorem controller_error_no_rtr (error : CanControllerError) :
    (GsHostFrame.fromControllerError error).hasRtr = false := by
  cases error <;> rfl

structure RtrFree (s : System) : Prop where
  queued : ∀ frame ∈ s.ctx.usbEcho.accepted, frame.hasRtr = false
  taken : ∀ entry ∈ s.usbTx.taken, entry.2.hasRtr = false

theorem boot_rtr_free (config : CanConfig) : RtrFree (boot config) where
  queued := by
    intro frame member
    cases member
  taken := by
    intro entry member
    cases member

theorem send_rtr_free (channel : Channel GsHostFrame 16) (sent : GsHostFrame)
    (clear : sent.hasRtr = false) (all : ∀ frame ∈ channel.accepted, frame.hasRtr = false) :
    ∀ frame ∈ (channel.trySend sent).1.accepted, frame.hasRtr = false := by
  rw [Channel.try_send_accepted]
  split
  · exact Machine.seen_one_more channel.accepted sent all clear
  · exact all

theorem start_rtr_free (tx : UsbTx) (source : Source) (frame : GsHostFrame)
    (clear : frame.hasRtr = false) (all : ∀ entry ∈ tx.taken, entry.2.hasRtr = false) :
    ∀ entry ∈ (tx.startWrite source frame).taken, entry.2.hasRtr = false :=
  Machine.seen_one_more tx.taken (source, frame) all clear

theorem move_rtr_free (s next : System) (event : Firmware.Event) (free : RtrFree s)
    (moved : Move platform s event next) : RtrFree next := by
  cases moved with
  | driver event driver ctx moved =>
      refine ⟨?_, free.taken⟩
      change ∀ frame ∈ ctx.usbEcho.accepted, frame.hasRtr = false
      rcases transition_sends s.driver driver s.ctx ctx event moved with
        same | ⟨request, _, _, sent⟩ | ⟨error, sent⟩ | sent
      · rw [same]
        exact free.queued
      · rw [sent]
        exact send_rtr_free _ _ (data_frame_no_rtr _ _ _ _ _ _) free.queued
      · rw [sent]
        exact send_rtr_free _ _ (bus_error_no_rtr error) free.queued
      · rw [sent]
        exact send_rtr_free _ _ (controller_error_no_rtr .busOff) free.queued
  | tookRx frame canRx selecting taken =>
      exact ⟨free.queued, start_rtr_free _ _ _ (data_frame_no_rtr _ _ _ _ _ _) free.taken⟩
  | tookEcho frame usbEcho selecting taken =>
      obtain ⟨front, _, accepted, _⟩ := Channel.try_receive_some s.ctx.usbEcho usbEcho _ taken
      have clear : frame.hasRtr = false := by
        apply free.queued
        rw [← s.ctx.usbEcho.fifo, front]
        simp
      exact ⟨accepted ▸ free.queued, start_rtr_free _ _ _ clear free.taken⟩
  | _ => exact ⟨free.queued, free.taken⟩

-- The data frame a remote frame is mistaken for.
def asData (frame : Frame) : Frame := { frame with isRemote := false }

/-- On no input does the RTR bit reach the host: a remote frame is written as the data
frame with the same identifier and length, an RTR message is echoed without its
flag, and no frame of any run has the bit. -/
theorem rtr_never_reported (platform : Platform) (config : CanConfig)
    (events : List Firmware.Event) (final : System)
    (finished : Machine.run (step platform) (boot config) events = some final) :
    (∀ frame : Frame, frame.isRemote = true →
      (toHostFrame (toCanFrame frame)).hasRtr = false ∧
      ∃ data : Frame, data.isRemote = false ∧
        toHostFrame (toCanFrame data) = toHostFrame (toCanFrame frame)) ∧
    (∀ msg : GsTxMsg, msg.isRtr = true → (echoFrame (parseTxMsg msg)).hasRtr = false) ∧
    ∀ entry ∈ final.usbTx.taken, entry.2.hasRtr = false := by
  refine ⟨?_, ?_, ?_⟩
  · intro frame _
    exact ⟨data_frame_no_rtr _ _ _ _ _ _, asData frame, rfl, rfl⟩
  · intro msg _
    exact data_frame_no_rtr _ _ _ _ _ _
  · have free := run_move_invariant RtrFree
      (fun s event next _ free moved => move_rtr_free s next event free moved)
      config events final finished (boot_rtr_free config)
    exact free.taken

def remoteTraffic : List Firmware.Event :=
  bringUp ++ [.epOutEnabled, .epInEnabled, .driver (.frame { sampleFrame with isRemote := true }),
    .takeRx, .writeDone, hostMessage 7 0x40000123] ++ storeMessage ++ [.takeEcho]

theorem rtr_never_reported_remote_traffic :
    ∃ final, Machine.run (step (Platform.embassy true)) (boot resetConfig) remoteTraffic =
        some final ∧
      ({ sampleFrame with isRemote := true } : Frame).isRemote = true ∧
      (toHostFrame (toCanFrame { sampleFrame with isRemote := true })).hasRtr = false ∧
      ∀ entry ∈ final.usbTx.taken, entry.2.hasRtr = false := by
  obtain ⟨final, finished⟩ : ∃ final, Machine.run (step (Platform.embassy true))
      (boot resetConfig) remoteTraffic = some final := ⟨_, rfl⟩
  obtain ⟨received, _, taken⟩ :=
    rtr_never_reported (Platform.embassy true) resetConfig remoteTraffic final finished
  exact ⟨final, finished, rfl, (received _ rfl).1, taken⟩

/-- Both frames of the run are remote, and neither reaches the host as such. -/
theorem remote_traffic_unmarked :
    ∃ final, Machine.run (step (Platform.embassy true)) (boot resetConfig) remoteTraffic =
        some final ∧
      Record.frameRead { sampleFrame with isRemote := true } ∈ final.driver.log ∧
      (final.usbRx.messages.map fun record => record.msg.isRtr) = [true] ∧
      (final.driver.can.mailboxes.map fun slot => slot.2.isRemote) = [true] ∧
      (final.usbTx.taken.map fun entry => (entry.1, entry.2.hasRtr)) =
        [(.canRx, false), (.usbEcho, false)] :=
  ⟨_, rfl, by decide, by decide, by decide, by decide⟩

end NginLink.HostFlags
