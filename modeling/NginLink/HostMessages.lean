import NginLink.CommandQueue
import NginLink.Translation

/-!
From the Bulk OUT endpoint to the bus: which packets become a Transmit command, and what
is left of an identifier or a length that their frame format cannot carry by the time a
frame waits in a mailbox. Frames leave for the bus from the mailboxes only.
-/

namespace NginLink.HostMessages

open AppContext BoundedChannel BspCan CanDriver CommandQueue DriverState Firmware
open GsUsbTypes Translation UsbTasks

def messageOf (packet : Packet) : GsTxMsg :=
  GsTxMsg.layout.decode (packet.bytes.take GsTxMsg.layout.size)

/-- A message that asks for nothing the device does not have: the one channel, no flags,
no error frame, and an identifier and a length that its format can carry. -/
structure WellFormedMsg (msg : GsTxMsg) : Prop where
  channel : msg.channel = 0
  flags : msg.flags = 0
  noError : msg.canId.toNat.testBit 29 = false
  dlc : msg.canDlc.toNat ≤ 8
  id : msg.canId.toNat.testBit 31 = false → msg.canId.toNat % 2 ^ 29 ≤ 0x7FF

/-- The identifier and the length of a message, cut down to its frame format. -/
structure Reduced (msg : GsTxMsg) (isExtended isRemote : Bool) (id length : Nat) : Prop where
  extended : isExtended = msg.canId.toNat.testBit 31
  remote : isRemote = msg.canId.toNat.testBit 30
  cut : id = msg.canId.toNat % (if msg.canId.toNat.testBit 31 then 2 ^ 29 else 2 ^ 11)
  clamped : length = min msg.canDlc.toNat 8
  named : WellFormedMsg msg → id = msg.canId.toNat % 2 ^ 29 ∧ length = msg.canDlc.toNat

structure CommandOf (msg : GsTxMsg) (request : CanTxRequest) : Prop where
  reduced : Reduced msg request.isExtended request.isRtr request.id.toNat request.dlc.toNat
  data : request.data = msg.data

structure FrameOf (msg : GsTxMsg) (frame : Frame) : Prop where
  reduced : Reduced msg frame.id.isExtended frame.isRemote frame.id.raw.toNat frame.len
  data : frame.isRemote = false → frame.data = msg.data.toList.take frame.len

def Sent (past : List Firmware.Event) (msg : GsTxMsg) : Prop :=
  ∃ packet, .bulkOut packet ∈ past ∧ 20 ≤ packet.bytes.length ∧ messageOf packet = msg

theorem sent_grows (past : List Firmware.Event) (event : Firmware.Event) (msg : GsTxMsg)
    (sent : Sent past msg) : Sent (past ++ [event]) msg := by
  obtain ⟨packet, member, whole, same⟩ := sent
  exact ⟨packet, List.mem_append_left _ member, whole, same⟩

section Message
variable (msg : GsTxMsg)

theorem well_formed_named (wellFormed : WellFormedMsg msg) :
    msg.canId.toNat % (if msg.canId.toNat.testBit 31 then 2 ^ 29 else 2 ^ 11) =
      msg.canId.toNat % 2 ^ 29 ∧ min msg.canDlc.toNat 8 = msg.canDlc.toNat := by
  refine ⟨?_, Nat.min_eq_left wellFormed.dlc⟩
  cases extended : msg.canId.toNat.testBit 31 with
  | true => rfl
  | false =>
      have small := wellFormed.id extended
      have narrow : msg.canId.toNat % 2 ^ 29 % 2 ^ 11 = msg.canId.toNat % 2 ^ 11 :=
        Nat.mod_mod_of_dvd _ (Nat.pow_dvd_pow 2 (by decide))
      rw [if_neg Bool.false_ne_true, ← narrow, Nat.mod_eq_of_lt (by omega)]

theorem reduced_of (isExtended isRemote : Bool) (id length : Nat)
    (extended : isExtended = msg.canId.toNat.testBit 31)
    (remote : isRemote = msg.canId.toNat.testBit 30)
    (cut : id = msg.canId.toNat % (if msg.canId.toNat.testBit 31 then 2 ^ 29 else 2 ^ 11))
    (clamped : length = min msg.canDlc.toNat 8) :
    Reduced msg isExtended isRemote id length where
  extended := extended
  remote := remote
  cut := cut
  clamped := clamped
  named := by
    intro wellFormed
    obtain ⟨sameId, sameLength⟩ := well_formed_named msg wellFormed
    exact ⟨cut.trans sameId, clamped.trans sameLength⟩

theorem parsed_command : CommandOf msg (parseTxMsg msg) where
  reduced := by
    apply reduced_of
    · exact is_extended_bit msg
    · exact is_rtr_bit msg
    · rw [← is_extended_bit]
      exact id_value msg
    · exact dlc_value msg
  data := rfl

theorem written_frame (platform : Platform) (documented : platform.Documented) (data : List UInt8)
    (frame : Frame) (sliced : dataSlice (parseTxMsg msg) = some data)
    (built : Can.transmitFrame platform (parseTxMsg msg).id (parseTxMsg msg).isExtended
      (parseTxMsg msg).isRtr data = .ok frame) : FrameOf msg frame := by
  rw [data_slice_some _ (parse_well_formed msg)] at sliced
  cases sliced
  obtain ⟨other, same, extended, remote, raw, len, payload⟩ :=
    message_frame_exact platform documented msg
  rw [← Except.ok.inj (built.symm.trans same)] at extended remote raw len payload
  refine ⟨reduced_of msg _ _ _ _ extended remote raw len, ?_⟩
  intro isData
  rw [len]
  exact payload (remote.symm.trans isData)

end Message

variable {platform : Platform}

theorem transition_queued (driver next : Driver) (ctx after : Context) (event : CanDriver.Event)
    (moved : Transition platform driver ctx event next after)
    (cmd : CanDriverCmd) (member : cmd ∈ after.canCmd.queued) :
    cmd ∈ ctx.canCmd.queued := by
  rcases transition_command driver next ctx after event moved with ⟨taken, received, _⟩ | ⟨same, _⟩
  · rw [(Channel.try_receive_some ctx.canCmd after.canCmd taken received).1]
    exact List.mem_cons_of_mem taken member
  · rwa [same] at member

theorem transition_begins (driver next : Driver) (ctx after : Context) (event : CanDriver.Event)
    (moved : Transition platform driver ctx event next after)
    (serial : Nat) (request : CanTxRequest) (frame : Frame)
    (begun : next.phase = .transmitting serial request frame) :
    .transmit request ∈ ctx.canCmd.queued ∧ ∃ data, dataSlice request = some data ∧
      Can.transmitFrame platform request.id request.isExtended request.isRtr data = .ok frame := by
  cases moved with
  | startedTransmit canCmd taken data built selecting received sliced made =>
      cases begun
      have front := (Channel.try_receive_some ctx.canCmd canCmd _ received).1
      exact ⟨front ▸ List.mem_cons_self, data, sliced, made⟩
  | startedStop | startedStart | startedTiming | stoppedStart | commandPanic | errorPanic
  | busOffRetry | recovered => cases begun
  | _ =>
      rw [loop_top_phase] at begun
      split at begun <;> cases begun

/-- Requests and frames on their way to the bus, each with the message it was made of. -/
structure Traced (past : List Firmware.Event) (s : System) : Prop where
  queued : ∀ request, .transmit request ∈ s.ctx.canCmd.queued →
    ∃ msg, Sent past msg ∧ request = parseTxMsg msg
  writing : ∀ serial request frame, s.driver.phase = .transmitting serial request frame →
    ∃ msg, Sent past msg ∧ FrameOf msg frame
  held : ∀ slot ∈ s.driver.can.mailboxes, ∃ msg, Sent past msg ∧ FrameOf msg slot.2

theorem boot_traced (config : CanConfig) : Traced [] (boot config) where
  queued := by
    intro request member
    cases member
  writing := by
    intro serial request frame transmitting
    cases transmitting
  held := by
    intro slot member
    cases member

theorem traced_grows (past : List Firmware.Event) (event : Firmware.Event) (s : System)
    (traced : Traced past s) : Traced (past ++ [event]) s where
  queued := by
    intro request member
    obtain ⟨msg, sent, parsed⟩ := traced.queued request member
    exact ⟨msg, sent_grows past event msg sent, parsed⟩
  writing := by
    intro serial request frame transmitting
    obtain ⟨msg, sent, made⟩ := traced.writing serial request frame transmitting
    exact ⟨msg, sent_grows past event msg sent, made⟩
  held := by
    intro slot member
    obtain ⟨msg, sent, made⟩ := traced.held slot member
    exact ⟨msg, sent_grows past event msg sent, made⟩

theorem sent_cmd_queued (ctx : Context) (cmd other : CanDriverCmd)
    (member : other ∈ (ctx.sendCmd cmd).canCmd.queued) :
    other ∈ ctx.canCmd.queued ∨ other = cmd := by
  rw [Context.sendCmd, Channel.try_send_queued] at member
  split at member
  · rcases List.mem_append.mp member with earlier | added
    · exact Or.inl earlier
    · exact Or.inr (List.mem_singleton.mp added)
  · exact Or.inl member

theorem move_traced (documented : platform.Documented) (past : List Firmware.Event)
    (s next : System) (event : Firmware.Event) (earlier : Traced past s)
    (moved : Move platform s event next) : Traced (past ++ [event]) next := by
  have traced := traced_grows past event s earlier
  cases moved with
  | requested req payload cmd handler asks configured =>
      refine ⟨?_, traced.writing, traced.held⟩
      intro request member
      rcases sent_cmd_queued s.ctx cmd _ member with already | rfl
      · exact traced.queued request already
      · cases requested_is_control req payload _ asks
  | message packet enabled whole =>
      refine ⟨?_, traced.writing, traced.held⟩
      intro request member
      rcases sent_cmd_queued s.ctx _ _ member with already | added
      · exact traced.queued request already
      · have sent : Sent (past ++ [.bulkOut packet]) (messageOf packet) :=
          ⟨packet, by simp, whole, rfl⟩
        refine ⟨messageOf packet, sent, ?_⟩
        rw [CanDriverCmd.transmit.inj added, decode_packet s.usbRx.buf packet whole]
        rfl
  | driver event driver ctx moved =>
      constructor
      · intro request member
        exact traced.queued request
          (transition_queued s.driver driver s.ctx ctx event moved _ member)
      · intro serial request frame begun
        obtain ⟨member, data, sliced, built⟩ :=
          transition_begins s.driver driver s.ctx ctx event moved serial request frame begun
        obtain ⟨msg, sent, rfl⟩ := traced.queued request member
        exact ⟨msg, sent, written_frame msg platform documented data frame sliced built⟩
      · intro slot member
        rcases transition_mailboxes s.driver driver s.ctx ctx event moved slot member with
          already | ⟨request, _, transmitting, _⟩
        · exact traced.held slot already
        · exact traced.writing slot.1 request slot.2 transmitting
  | mailboxSent index present transmits =>
      refine ⟨traced.queued, traced.writing, ?_⟩
      intro slot member
      exact traced.held slot (List.mem_of_mem_eraseIdx member)
  | _ => exact ⟨traced.queued, traced.writing, traced.held⟩

theorem run_traced (documented : platform.Documented) (config : CanConfig)
    (events : List Firmware.Event) (final : System)
    (finished : Machine.run (step platform) (boot config) events = some final) :
    Traced events final :=
  run_move_history Traced
    (fun past s event next traced moved => move_traced documented past s next event traced moved)
    config events final finished (boot_traced config)

-- A packet is offered as a command, or leaves all it could reach as it was.
theorem packet_offered (s next : System) (packet : Packet) (sound : Sound s)
    (stepped : step platform s (.bulkOut packet) = some next) :
    next.driver = s.driver ∧
      if 20 ≤ packet.bytes.length then
        next.ctx = s.ctx.sendCmd (.transmit (parseTxMsg (messageOf packet)))
      else next.ctx = s.ctx := by
  cases step_move s next _ sound stepped with
  | message _ enabled whole =>
      have long : 20 ≤ packet.bytes.length := whole
      rw [if_pos long, decode_packet s.usbRx.buf packet whole]
      exact ⟨rfl, rfl⟩
  | short _ enabled partly =>
      have brief : ¬ 20 ≤ packet.bytes.length := Nat.not_le_of_lt partly
      rw [if_neg brief]
      exact ⟨rfl, rfl⟩

/-- In every run, a Transmit command is only made of a packet of at least 20 bytes, with
the identifier and the length of its message cut down to their format; a well-formed
message is offered as it is, and every frame in a mailbox is that of such a packet. -/
theorem host_messages_reduced (platform : Platform) (documented : platform.Documented)
    (config : CanConfig) (events : List Firmware.Event) (final : System)
    (finished : Machine.run (step platform) (boot config) events = some final) :
    (∀ packet next, step platform final (.bulkOut packet) = some next →
      next.driver = final.driver ∧
      (next.ctx = final.ctx ∨ 20 ≤ packet.bytes.length ∧ ∃ request,
        CommandOf (messageOf packet) request ∧
          next.ctx = final.ctx.sendCmd (.transmit request)) ∧
      (20 ≤ packet.bytes.length → WellFormedMsg (messageOf packet) → ∃ request,
        CommandOf (messageOf packet) request ∧
          next.ctx = final.ctx.sendCmd (.transmit request))) ∧
    ∀ slot ∈ final.driver.can.mailboxes, ∃ packet, .bulkOut packet ∈ events ∧
      20 ≤ packet.bytes.length ∧ FrameOf (messageOf packet) slot.2 := by
  constructor
  · intro packet next stepped
    have parsed := parsed_command (messageOf packet)
    obtain ⟨untouched, offered⟩ :=
      packet_offered final next packet (run_sound config events final finished) stepped
    refine ⟨untouched, ?_, ?_⟩
    · split at offered
      · rename_i whole
        exact Or.inr ⟨whole, _, parsed, offered⟩
      · exact Or.inl offered
    · intro whole _
      rw [if_pos whole] at offered
      exact ⟨_, parsed, offered⟩
  · intro slot member
    obtain ⟨_, ⟨packet, sent, whole, rfl⟩, made⟩ :=
      (run_traced documented config events final finished).held slot member
    exact ⟨packet, sent, whole, made⟩

-- Without the EFF bit, an identifier of twelve bits and a length of nine.
def outOfRange : Packet :=
  { bytes := [7, 0, 0, 0, 0x23, 0x09, 0, 0, 9, 0, 0, 0, 1, 2, 3, 4, 5, 6, 7, 8]
    bounded := by decide }

def storeOutOfRange : List Firmware.Event :=
  bringUp ++ [.epOutEnabled, .bulkOut outOfRange, .driver .command, .driver (.written none)]

theorem host_messages_reduced_out_of_range :
    (Platform.embassy true).Documented ∧ ∃ final,
      Machine.run (step (Platform.embassy true)) (boot resetConfig) storeOutOfRange = some final ∧
      final.driver.can.mailboxes.length = 1 ∧
      ∀ slot ∈ final.driver.can.mailboxes, ∃ packet, .bulkOut packet ∈ storeOutOfRange ∧
        20 ≤ packet.bytes.length ∧ FrameOf (messageOf packet) slot.2 := by
  obtain ⟨final, finished, stored⟩ : ∃ final, Machine.run (step (Platform.embassy true))
      (boot resetConfig) storeOutOfRange = some final ∧ final.driver.can.mailboxes.length = 1 :=
    ⟨_, rfl, by decide⟩
  exact ⟨embassy_documented true, final, finished, stored,
    (host_messages_reduced (Platform.embassy true) (embassy_documented true) resetConfig
      storeOutOfRange final finished).2⟩

/-- It is no well-formed message, and yet a frame is stored, with the identifier 0x123
and the length 8, neither of which the host has named. -/
theorem out_of_range_stored :
    ¬ WellFormedMsg (messageOf outOfRange) ∧ ∃ final,
      Machine.run (step (Platform.embassy true)) (boot resetConfig) storeOutOfRange = some final ∧
      final.driver.can.mailboxes.map (fun slot => (slot.2.id.raw, slot.2.len)) = [(0x123, 8)] := by
  constructor
  · intro wellFormed
    exact absurd wellFormed.dlc (by decide)
  · exact ⟨_, rfl, by decide⟩

end NginLink.HostMessages
