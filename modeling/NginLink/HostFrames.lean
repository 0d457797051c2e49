import NginLink.HostFlags
import NginLink.Reception

/-!
Every frame in front of the host is an echo, an error frame or a received frame, and
its header tells which. Four constructors write that header; what they are given is
unbounded, so it is their masks that keep the three kinds apart.
-/

namespace NginLink.HostFrames

open AppContext BoundedChannel BspCan CanDriver CommandQueue DriverState Echoes Firmware
open GsUsbTypes HostFlags Reception TransmitLedger Translation UsbTasks WordBits

-- What the host reads off the `can_id` word besides the RTR bit.
def hasErr (frame : GsHostFrame) : Bool := frame.canId &&& gsCanIdFlagErr != 0
def hasEff (frame : GsHostFrame) : Bool := frame.canId &&& gsCanIdFlagEff != 0

-- The frame an error is reported with, by whether the peripheral was asleep.
def reportOf (error : BusError) (sleeping : Bool) : GsHostFrame :=
  if sleeping then GsHostFrame.fromControllerError .busOff
  else GsHostFrame.fromBusError error.toCanBusError

def IsEcho (s : System) (entry : Source × GsHostFrame) : Prop :=
  entry.1 = .usbEcho ∧ ∃ record ∈ s.usbRx.messages,
    (∃ serial, .outcome serial (parseTxMsg record.msg) .echoed ∈ s.driver.log) ∧
      entry.2 = echoFrame (parseTxMsg record.msg)

def IsError (s : System) (entry : Source × GsHostFrame) : Prop :=
  entry.1 = .usbEcho ∧ ∃ error sleeping, .errorRead error sleeping ∈ s.driver.log ∧
    entry.2 = reportOf error sleeping

def IsReceived (s : System) (entry : Source × GsHostFrame) : Prop :=
  entry.1 = .canRx ∧ ∃ frame ∈ framesRead s.driver.log, entry.2 = hostImage frame

def Reported (log : List Record) (frame : GsHostFrame) : Prop :=
  ∃ error sleeping, .errorRead error sleeping ∈ log ∧ frame = reportOf error sleeping

variable {platform : Platform}

theorem transition_sends_made (driver next : Driver) (ctx after : Context)
    (event : CanDriver.Event) (moved : Transition platform driver ctx event next after) :
    after.usbEcho = ctx.usbEcho ∨ ∃ frame, after.usbEcho = (ctx.usbEcho.trySend frame).1 ∧
      (frame.isTxEcho = true ∨ Reported next.log frame) := by
  cases moved with
  | written dequeued serial request frame transmitting room
  | writtenRefused dequeued serial request frame transmitting full =>
      exact Or.inr ⟨_, rfl, Or.inl (echo_is_tx_echo request)⟩
  | errorQueued error count selecting counted room
  | errorRefused error count evicted canRx selecting counted full taken
  | errorRefusedAlone error count selecting counted full empty =>
      refine Or.inr ⟨_, rfl, Or.inr ⟨error, false, ?_, rfl⟩⟩
      exact loop_top_keeps_log _ _ (by simp)
  | busOffGivenUp error count selecting counted many =>
      refine Or.inr ⟨_, rfl, Or.inr ⟨error, true, ?_, rfl⟩⟩
      exact loop_top_keeps_log _ _ (by simp)
  | _ => exact Or.inl rfl

structure Sourced (s : System) : Prop where
  reported : ∀ frame ∈ s.ctx.usbEcho.accepted, frame.isTxEcho = false →
    Reported s.driver.log frame
  taken : ∀ frame, (.usbEcho, frame) ∈ s.usbTx.taken → frame ∈ s.ctx.usbEcho.received

theorem boot_sourced (config : CanConfig) : Sourced (boot config) where
  reported := by
    intro frame member
    cases member
  taken := by
    intro frame member
    cases member

theorem reported_grows (log later : List Record) (frame : GsHostFrame)
    (grows : ∀ record ∈ log, record ∈ later) (reported : Reported log frame) :
    Reported later frame := by
  obtain ⟨error, sleeping, noted, same⟩ := reported
  exact ⟨error, sleeping, grows _ noted, same⟩

theorem move_sourced (s next : System) (event : Firmware.Event)
    (moved : Move platform s event next) (sourced : Sourced s) : Sourced next := by
  cases moved with
  | driver event driver ctx moved =>
      have grows := transition_log_grows s.driver driver s.ctx ctx event moved
      constructor
      · intro frame member quiet
        rcases transition_sends_made s.driver driver s.ctx ctx event moved with
          same | ⟨sent, channel, made⟩
        · rw [same] at member
          exact reported_grows _ _ frame grows (sourced.reported frame member quiet)
        · rw [channel, Channel.try_send_accepted] at member
          split at member
          · rcases List.mem_append.mp member with earlier | added
            · exact reported_grows _ _ frame grows (sourced.reported frame earlier quiet)
            · rw [List.mem_singleton.mp added] at quiet ⊢
              rcases made with echo | reported
              · rw [quiet] at echo
                cases echo
              · exact reported
          · exact reported_grows _ _ frame grows (sourced.reported frame member quiet)
      · intro frame member
        rw [transition_echo_received s.driver driver s.ctx ctx event moved]
        exact sourced.taken frame member
  | tookRx frame canRx selecting taken =>
      refine ⟨sourced.reported, ?_⟩
      intro other member
      rcases List.mem_append.mp member with earlier | added
      · exact sourced.taken other earlier
      · cases List.mem_singleton.mp added
  | tookEcho frame usbEcho selecting taken =>
      obtain ⟨_, received, accepted, _⟩ := Channel.try_receive_some s.ctx.usbEcho usbEcho _ taken
      constructor
      · intro other member quiet
        rw [accepted] at member
        exact sourced.reported other member quiet
      · intro other member
        rw [received]
        rcases List.mem_append.mp member with earlier | added
        · exact List.mem_append_left _ (sourced.taken other earlier)
        · cases List.mem_singleton.mp added
          exact List.mem_append_right _ (List.mem_singleton_self _)
  | _ => exact ⟨sourced.reported, sourced.taken⟩

theorem run_sourced (config : CanConfig) (events : List Firmware.Event) (final : System)
    (finished : Machine.run (step platform) (boot config) events = some final) :
    Sourced final :=
  run_move_invariant Sourced
    (fun s event next _ sourced moved => move_sourced s next event moved sourced)
    config events final finished (boot_sourced config)

theorem echo_has_message (s : System) (queue : Queue s) (custody : Custody s)
    (frame : GsHostFrame) (member : frame ∈ echoes s.ctx) : IsEcho s (.usbEcho, frame) := by
  rw [custody.sent] at member
  obtain ⟨answer, chosen, rfl⟩ := List.mem_map.mp member
  obtain ⟨given, ok⟩ := List.mem_filter.mp chosen
  obtain ⟨pairs, lefts, rights, agree, _⟩ := answered_messages s queue custody
  rw [← lefts] at given
  obtain ⟨pair, paired, rfl⟩ := List.mem_map.mp given
  have message : pair.2 ∈ s.usbRx.messages := by
    have queued : pair.2 ∈ queuedMessages s := rights.subset (List.mem_map_of_mem paired)
    exact (List.mem_filter.mp queued).1
  have recorded := answer_recorded s.driver.log pair.1 (lefts ▸ List.mem_map_of_mem paired)
  have outcome : pair.1.outcome = .echoed := by simpa [echoed] using ok
  rw [agree pair paired, outcome] at recorded
  exact ⟨rfl, pair.2, message, ⟨pair.1.serial, recorded⟩, by rw [agree pair paired]⟩

theorem received_has_frame (s : System) (flow : Flow s) (frame : GsHostFrame)
    (member : (.canRx, frame) ∈ s.usbTx.taken) : IsReceived s (.canRx, frame) := by
  have taken : frame ∈ takenFrames s.usbTx :=
    List.mem_map.mpr ⟨(.canRx, frame), List.mem_filter.mpr ⟨member, by simp⟩, rfl⟩
  obtain ⟨queued, received, rfl⟩ := List.mem_map.mp (flow.taken.subset taken)
  have accepted := (Channel.received_prefix s.ctx.canRx).subset received
  obtain ⟨read, noted, rfl⟩ := List.mem_map.mp (flow.accepted.subset accepted)
  exact ⟨rfl, read, noted, rfl⟩

/-- Whatever `usb_tx_task` takes has one of the three origins. -/
theorem taken_has_origin (s : System) (queue : Queue s) (custody : Custody s) (flow : Flow s)
    (sourced : Sourced s) (entry : Source × GsHostFrame) (member : entry ∈ s.usbTx.taken) :
    IsEcho s entry ∨ IsError s entry ∨ IsReceived s entry := by
  obtain ⟨source, frame⟩ := entry
  cases source with
  | canRx => exact Or.inr (Or.inr (received_has_frame s flow frame member))
  | usbEcho =>
      have accepted := (Channel.received_prefix s.ctx.usbEcho).subset (sourced.taken frame member)
      cases echo : frame.isTxEcho with
      | true =>
          have sent : frame ∈ echoes s.ctx := List.mem_filter.mpr ⟨accepted, echo⟩
          exact Or.inl (echo_has_message s queue custody frame sent)
      | false => exact Or.inr (Or.inl ⟨rfl, sourced.reported frame accepted echo⟩)

/-- The word of a data frame: no error bit, and a short identifier unless marked. -/
def DataWord (frame : GsHostFrame) : Prop :=
  hasErr frame = false ∧ (hasEff frame = false → frame.canId ≤ 0x7FF)

theorem has_err_bit (frame : GsHostFrame) : hasErr frame = frame.canId.toNat.testBit 29 :=
  and_flag frame.canId gsCanIdFlagErr 29 (by decide)

theorem has_eff_bit (frame : GsHostFrame) : hasEff frame = frame.canId.toNat.testBit 31 :=
  and_flag frame.canId gsCanIdFlagEff 31 (by decide)

theorem data_can_id_err (id : UInt32) (extended : Bool) :
    (GsHostFrame.dataCanId id extended).toNat.testBit 29 = false :=
  data_can_id_clear id extended 29 (by decide) (by decide) (by decide)

theorem standard_can_id_le (id : UInt32) : GsHostFrame.dataCanId id false ≤ 0x7FF := by
  have value := low_mask id gsCanIdMaskSff 11 (by decide)
  have small := Nat.mod_lt id.toNat (Nat.two_pow_pos 11)
  rw [UInt32.le_iff_toNat_le]
  change (id &&& gsCanIdMaskSff).toNat ≤ 2047
  omega

theorem data_frame_word (echoId : UInt32) (flags : UInt8) (id : UInt32) (extended : Bool)
    (dlc : UInt8) (data : Vector UInt8 8) :
    DataWord (GsHostFrame.dataFrame echoId flags id extended dlc data) := by
  constructor
  · rw [has_err_bit]
    exact data_can_id_err id extended
  · rw [has_eff_bit]
    intro standard
    have clear : extended = false := (data_can_id_extended id extended).symm.trans standard
    rw [clear]
    exact standard_can_id_le id

theorem report_header (error : BusError) (sleeping : Bool) :
    (reportOf error sleeping).echoId = gsHostFrameEchoIdRx ∧
      hasErr (reportOf error sleeping) = true ∧ hasEff (reportOf error sleeping) = false ∧
      (reportOf error sleeping).hasRtr = false ∧ (reportOf error sleeping).canDlc = 8 := by
  cases sleeping with
  | true =>
      have notice : reportOf error true = GsHostFrame.fromControllerError .busOff := rfl
      rw [notice]
      exact ⟨rfl, by decide, by decide, controller_error_no_rtr .busOff, rfl⟩
  | false =>
      have remote := bus_error_no_rtr error.toCanBusError
      cases error <;> exact ⟨rfl, by decide, by decide, remote, rfl⟩

theorem report_fixed (error : BusError) (sleeping : Bool) :
    (reportOf error sleeping).channel = 0 ∧ (reportOf error sleeping).reserved = 0 := by
  cases sleeping with
  | true => exact ⟨rfl, rfl⟩
  | false => cases error <;> exact ⟨rfl, rfl⟩

theorem echo_dlc_le (msg : GsTxMsg) : (echoFrame (parseTxMsg msg)).canDlc ≤ 8 := by
  have clamped := (parse_well_formed msg).dlc_le
  exact UInt8.le_iff_toNat_le.mpr clamped

theorem image_dlc_le (frame : Frame) : (hostImage frame).canDlc ≤ 8 := by
  have short : frame.data.length ≤ 8 := by
    rw [data_length]
    exact frame.bounded
  rw [← to_can_frame_dlc frame] at short
  exact UInt8.le_iff_toNat_le.mpr short

theorem echo_header (s : System) (entry : Source × GsHostFrame)
    (unreserved : ∀ record ∈ s.usbRx.messages,
      record.msg.echoId ≠ gsHostFrameEchoIdRx) (echo : IsEcho s entry) :
    entry.2.echoId ≠ gsHostFrameEchoIdRx ∧ DataWord entry.2 := by
  obtain ⟨_, record, member, _, made⟩ := echo
  rw [made]
  exact ⟨unreserved record member, data_frame_word _ _ _ _ _ _⟩

theorem error_header (s : System) (entry : Source × GsHostFrame) (error : IsError s entry) :
    entry.2.echoId = gsHostFrameEchoIdRx ∧ hasErr entry.2 = true ∧ hasEff entry.2 = false ∧
      entry.2.hasRtr = false ∧ entry.2.canDlc = 8 := by
  obtain ⟨_, kind, sleeping, _, made⟩ := error
  rw [made]
  exact report_header kind sleeping

theorem received_header (s : System) (entry : Source × GsHostFrame)
    (received : IsReceived s entry) :
    entry.2.echoId = gsHostFrameEchoIdRx ∧ DataWord entry.2 := by
  obtain ⟨_, frame, _, made⟩ := received
  rw [made]
  exact ⟨rfl, data_frame_word _ _ _ _ _ _⟩

/-- A frame in front of the host. The right sides of the three kinds exclude each
other and leave nothing out, so exactly one of them holds. -/
structure Readable (s : System) (entry : Source × GsHostFrame) : Prop where
  channel : entry.2.channel = 0
  reserved : entry.2.reserved = 0
  dlc : entry.2.canDlc ≤ 8
  echo : IsEcho s entry ↔ entry.2.echoId ≠ gsHostFrameEchoIdRx
  error : IsError s entry ↔ entry.2.echoId = gsHostFrameEchoIdRx ∧ hasErr entry.2 = true
  received : IsReceived s entry ↔ entry.2.echoId = gsHostFrameEchoIdRx ∧ hasErr entry.2 = false
  errorWord : IsError s entry →
    hasEff entry.2 = false ∧ entry.2.hasRtr = false ∧ entry.2.canDlc = 8
  dataWord : IsEcho s entry ∨ IsReceived s entry → DataWord entry.2

theorem origin_fixed (s : System) (entry : Source × GsHostFrame)
    (origin : IsEcho s entry ∨ IsError s entry ∨ IsReceived s entry) :
    entry.2.channel = 0 ∧ entry.2.reserved = 0 ∧ entry.2.canDlc ≤ 8 := by
  rcases origin with ⟨_, record, _, _, made⟩ | error | ⟨_, frame, _, made⟩
  · rw [made]
    exact ⟨rfl, rfl, echo_dlc_le record.msg⟩
  · have full := (error_header s entry error).2.2.2.2
    obtain ⟨_, kind, sleeping, _, made⟩ := error
    obtain ⟨channel, reserved⟩ := report_fixed kind sleeping
    rw [made] at full ⊢
    exact ⟨channel, reserved, by rw [full]; decide⟩
  · rw [made]
    exact ⟨rfl, rfl, image_dlc_le frame⟩

theorem origin_readable (s : System) (entry : Source × GsHostFrame)
    (unreserved : ∀ record ∈ s.usbRx.messages, record.msg.echoId ≠ gsHostFrameEchoIdRx)
    (origin : IsEcho s entry ∨ IsError s entry ∨ IsReceived s entry) : Readable s entry := by
  obtain ⟨channel, reserved, dlc⟩ := origin_fixed s entry origin
  have echoes := echo_header s entry unreserved
  have errors := error_header s entry
  have images := received_header s entry
  constructor
  · exact channel
  · exact reserved
  · exact dlc
  · constructor
    · intro echo
      exact (echoes echo).1
    · intro foreign
      rcases origin with echo | error | received
      · exact echo
      · exact absurd (errors error).1 foreign
      · exact absurd (images received).1 foreign
  · constructor
    · intro error
      exact ⟨(errors error).1, (errors error).2.1⟩
    · rintro ⟨own, marked⟩
      rcases origin with echo | error | received
      · exact absurd own (echoes echo).1
      · exact error
      · rw [(images received).2.1] at marked
        cases marked
  · constructor
    · intro received
      exact ⟨(images received).1, (images received).2.1⟩
    · rintro ⟨own, clear⟩
      rcases origin with echo | error | received
      · exact absurd own (echoes echo).1
      · rw [(errors error).2.1] at clear
        cases clear
      · exact received
  · intro error
    exact (errors error).2.2
  · rintro (echo | received)
    · exact (echoes echo).2
    · exact (images received).2

-- A received frame, an error and the echo of a message that carries the error bit.
def allKinds : List Firmware.Event :=
  bringUp ++ [.epOutEnabled, .epInEnabled, .driver (.frame sampleFrame), .takeRx, .writeDone,
    .driver (.error .crc false), .takeEcho, .writeDone, hostMessage 7 0x20000123] ++
    storeMessage ++ [.takeEcho]

end NginLink.HostFrames
