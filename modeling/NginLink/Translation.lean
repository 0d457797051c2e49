import NginLink.FirmwareSteps
import NginLink.WordBits

/-!
The translations between the four representations of a CAN frame: host message,
transmit request, peripheral frame and host frame. The masks that make the host
to bus direction total are applied in `GsTxMsg`; the identifier constructors
that rely on them are called in `BspCan::transmit`.
-/

namespace NginLink.Translation

open AppContext BspCan ByteLayout CanDriver CanProtocol GsUsbTypes UsbTasks WordBits

section HostMessage
variable (msg : GsTxMsg)

theorem is_extended_bit : msg.isExtended = msg.canId.toNat.testBit 31 :=
  and_flag msg.canId gsCanIdFlagEff 31 (by decide)

theorem is_rtr_bit : msg.isRtr = msg.canId.toNat.testBit 30 :=
  and_flag msg.canId gsCanIdFlagRtr 30 (by decide)

theorem id_value :
    msg.id.toNat = msg.canId.toNat % if msg.isExtended then 2 ^ 29 else 2 ^ 11 := by
  unfold GsTxMsg.id
  cases msg.isExtended with
  | true => exact low_mask msg.canId gsCanIdMaskEff 29 (by decide)
  | false => exact low_mask msg.canId gsCanIdMaskSff 11 (by decide)

theorem id_lt : msg.id.toNat < if msg.isExtended then 2 ^ 29 else 2 ^ 11 := by
  rw [id_value]
  cases msg.isExtended <;> exact Nat.mod_lt _ (Nat.two_pow_pos _)

theorem dlc_value : msg.dlc.toNat = min msg.canDlc.toNat 8 := by
  have clamp : msg.dlc = if msg.canDlc ≤ 8 then msg.canDlc else 8 := rfl
  rw [clamp]
  by_cases small : msg.canDlc ≤ 8
  · rw [if_pos small]
    exact (Nat.min_eq_left (UInt8.le_iff_toNat_le.mp small)).symm
  · rw [if_neg small]
    have large : 8 < msg.canDlc.toNat := by simpa [UInt8.le_iff_toNat_le] using small
    exact (Nat.min_eq_right (Nat.le_of_lt large)).symm

end HostMessage

/-- A request as `parse_tx_msg` builds it: every later step can rely on this. -/
structure WellFormed (request : CanTxRequest) : Prop where
  id_lt : request.id.toNat < if request.isExtended then 2 ^ 29 else 2 ^ 11
  dlc_le : request.dlc.toNat ≤ 8

theorem parse_well_formed (msg : GsTxMsg) : WellFormed (parseTxMsg msg) where
  id_lt := id_lt msg
  dlc_le := by
    have clamped := dlc_value msg
    simp only [parseTxMsg]
    omega

theorem data_slice_some (request : CanTxRequest) (valid : WellFormed request) :
    dataSlice request = some (request.data.toList.take request.dlc.toNat) := by
  rw [dataSlice, if_pos valid.dlc_le]

theorem data_length (frame : Frame) : frame.data.length = frame.len := by
  have bounded := frame.bounded
  simp [Frame.data]
  omega

theorem standard_id_some (platform : Platform) (documented : platform.Documented) (raw : UInt16)
    (inRange : raw ≤ 0x7FF) : ∃ id, platform.standardId raw = some id ∧ id.raw = raw := by
  have accepted := documented.standardId raw
  rw [if_pos inRange] at accepted
  exact Option.map_eq_some_iff.mp accepted

theorem extended_id_some (platform : Platform) (documented : platform.Documented) (raw : UInt32)
    (inRange : raw ≤ 0x1FFFFFFF) : ∃ id, platform.extendedId raw = some id ∧ id.raw = raw := by
  have accepted := documented.extendedId raw
  rw [if_pos inRange] at accepted
  exact Option.map_eq_some_iff.mp accepted

theorem transmit_id_some (platform : Platform) (documented : platform.Documented)
    (request : CanTxRequest) (valid : WellFormed request) :
    ∃ id : Id, id.isExtended = request.isExtended ∧ id.raw = request.id ∧
      ∀ data, Can.transmitFrame platform request.id request.isExtended request.isRtr data =
        if request.isRtr then platform.newRemote id data.length else platform.newData id data := by
  have bound := valid.id_lt
  cases extended : request.isExtended with
  | true =>
      rw [extended] at bound
      have inRange : request.id ≤ 0x1FFFFFFF := by
        rw [UInt32.le_iff_toNat_le]
        simpa using Nat.le_of_lt_succ bound
      obtain ⟨id, accepted, same⟩ := extended_id_some platform documented request.id inRange
      exact ⟨.extended id, rfl, same, fun data => by simp [Can.transmitFrame, accepted]; rfl⟩
  | false =>
      rw [extended] at bound
      have narrow : request.id.toUInt16.toNat = request.id.toNat := by
        simp at bound ⊢
        omega
      have inRange : request.id.toUInt16 ≤ 0x7FF := by
        rw [UInt16.le_iff_toNat_le, narrow]
        simpa using Nat.le_of_lt_succ bound
      obtain ⟨id, accepted, same⟩ :=
        standard_id_some platform documented request.id.toUInt16 inRange
      refine ⟨.standard id, rfl, ?_, fun data => by simp [Can.transmitFrame, accepted]; rfl⟩
      apply UInt32.toNat.inj
      rw [Id.raw, same, UInt16.toNat_toUInt32, narrow]

theorem transmit_frame_ok (platform : Platform) (documented : platform.Documented)
    (request : CanTxRequest) (valid : WellFormed request) (data : List UInt8)
    (short : data.length ≤ 8) :
    ∃ frame, Can.transmitFrame platform request.id request.isExtended request.isRtr data =
        .ok frame ∧
      frame.id.isExtended = request.isExtended ∧ frame.id.raw = request.id ∧
      frame.isRemote = request.isRtr ∧ frame.len = data.length ∧
      (request.isRtr = false → frame.data = data) := by
  obtain ⟨id, extended, raw, built⟩ := transmit_id_some platform documented request valid
  rw [built]
  cases remote : request.isRtr with
  | true =>
      obtain ⟨frame, made, sameId, isRemote, len⟩ := documented.newRemote id data.length short
      exact ⟨frame, made, sameId ▸ extended, sameId ▸ raw, isRemote, len,
        fun contradiction => by simp at contradiction⟩
  | false =>
      obtain ⟨frame, made, sameId, isRemote, payload⟩ := documented.newData id data short
      refine ⟨frame, made, sameId ▸ extended, sameId ▸ raw, isRemote, ?_, fun _ => payload⟩
      rw [← data_length, payload]

theorem decode_packet (buf : Buffer) (packet : Packet)
    (whole : GsTxMsg.layout.size ≤ packet.bytes.length) :
    decodeMsg (overwrite buf packet) =
      GsTxMsg.layout.decode (packet.bytes.take GsTxMsg.layout.size) := by
  unfold decodeMsg
  have front : (overwrite buf packet).toList =
      packet.bytes ++ buf.toList.drop packet.bytes.length := by
    simp [overwrite, Vector.toList]
  rw [front]
  exact Layout.decode_take_append GsTxMsg.layout packet.bytes _ whole

/-- What the driver hands to the peripheral for a packet: the slice that may
panic, then the frame that may be refused. -/
def handedFrame (platform : Platform) (buf : Buffer) (packet : Packet) :
    Option (Except FrameCreateError Frame) :=
  let request := parseTxMsg (decodeMsg (overwrite buf packet))
  (dataSlice request).map
    (Can.transmitFrame platform request.id request.isExtended request.isRtr)

theorem decoded_can_id (bytes : List UInt8) :
    (GsTxMsg.layout.decode bytes).canId.toNat = leValue ((bytes.drop 4).take 4) := by
  have bound := le_value_lt ((bytes.drop 4).take 4)
  have short : ((bytes.drop 4).take 4).length ≤ 4 := by simp
  have power : 256 ^ ((bytes.drop 4).take 4).length ≤ 256 ^ 4 :=
    Nat.pow_le_pow_right (by decide) short
  change (UInt32.ofNat (leValue ((bytes.drop 4).take 4))).toNat = _
  rw [UInt32.toNat_ofNat', Nat.mod_eq_of_lt (by omega)]

theorem decoded_dlc (bytes : List UInt8) (long : 8 < bytes.length) :
    (GsTxMsg.layout.decode bytes).canDlc = bytes[8] := by
  change (((bytes.drop 4).drop 4).take 1).headD 0 = bytes[8]
  rw [List.drop_drop, List.drop_eq_getElem_cons long]
  rfl

theorem decoded_data (bytes : List UInt8) (whole : bytes.length = 20) :
    (GsTxMsg.layout.decode bytes).data.toList = bytes.drop 12 := by
  have eight : (bytes.drop 12).length = 8 := by simp [whole]
  change ((Layout.array 8).decode
    ((((((bytes.drop 4).drop 4).drop 1).drop 1).drop 1).drop 1)).toList = _
  simp only [List.drop_drop]
  simp [Layout.array, eight, Vector.toList]

/-- A well-formed request always reaches the peripheral: the driver is left
waiting for `write`, neither panicked nor reporting a frame error. -/
theorem transmit_reaches_write (platform : Platform) (driver : Driver) (ctx : Context)
    (request : CanTxRequest) (frame : Frame) (valid : WellFormed request)
    (built : Can.transmitFrame platform request.id request.isExtended request.isRtr
      (request.data.toList.take request.dlc.toNat) = .ok frame) :
    (transmitCmd platform driver ctx request).1.phase =
      .transmitting driver.serials request frame := by
  simp only [transmitCmd, data_slice_some request valid, built]

theorem handed_frame_front (platform : Platform) (buf other : Buffer) (packet same : Packet)
    (whole : GsTxMsg.layout.size ≤ packet.bytes.length)
    (front : same.bytes.take GsTxMsg.layout.size = packet.bytes.take GsTxMsg.layout.size) :
    handedFrame platform other same = handedFrame platform buf packet := by
  have long : GsTxMsg.layout.size ≤ same.bytes.length := by
    have sizes := congrArg List.length front
    simp only [List.length_take] at sizes
    omega
  unfold handedFrame
  rw [decode_packet other same long, decode_packet buf packet whole, front]

theorem message_frame_exact (platform : Platform) (documented : platform.Documented)
    (msg : GsTxMsg) :
    ∃ frame,
      Can.transmitFrame platform msg.id msg.isExtended msg.isRtr
        (msg.data.toList.take msg.dlc.toNat) = .ok frame ∧
      frame.id.isExtended = msg.canId.toNat.testBit 31 ∧
      frame.isRemote = msg.canId.toNat.testBit 30 ∧
      frame.id.raw.toNat =
        msg.canId.toNat % (if msg.canId.toNat.testBit 31 then 2 ^ 29 else 2 ^ 11) ∧
      frame.len = min msg.canDlc.toNat 8 ∧
      (msg.canId.toNat.testBit 30 = false →
        frame.data = msg.data.toList.take (min msg.canDlc.toNat 8)) := by
  have sized : (msg.data.toList.take msg.dlc.toNat).length = min msg.canDlc.toNat 8 := by
    rw [List.length_take, Vector.length_toList, dlc_value]
    omega
  obtain ⟨frame, built, extended, raw, remote, len, payload⟩ :=
    transmit_frame_ok platform documented (parseTxMsg msg) (parse_well_formed msg)
      (msg.data.toList.take msg.dlc.toNat) (by omega)
  refine ⟨frame, built, ?_, ?_, ?_, ?_, ?_⟩
  · rw [extended, ← is_extended_bit]
    rfl
  · rw [remote, ← is_rtr_bit]
    rfl
  · rw [raw, ← is_extended_bit]
    exact id_value msg
  · rw [len, sized]
  · intro clear
    rw [payload (by rw [← clear, ← is_rtr_bit]; rfl), dlc_value]

/-- The chain from a Bulk OUT packet to the peripheral: it never panics and never
fails, and the frame it hands over is read off the first 20 bytes. -/
theorem packet_frame_exact (platform : Platform) (documented : platform.Documented)
    (buf : Buffer) (packet : Packet) (whole : 20 ≤ packet.bytes.length) :
    let canId := leValue ((packet.bytes.drop 4).take 4)
    let length := min packet.bytes[8].toNat 8
    ∃ frame,
      handedFrame platform buf packet = some (.ok frame) ∧
      (∀ driver ctx,
        (transmitCmd platform driver ctx (parseTxMsg (decodeMsg (overwrite buf packet)))).1.phase =
          .transmitting driver.serials (parseTxMsg (decodeMsg (overwrite buf packet))) frame) ∧
      frame.id.isExtended = canId.testBit 31 ∧
      frame.isRemote = canId.testBit 30 ∧
      frame.id.raw.toNat = canId % (if canId.testBit 31 then 2 ^ 29 else 2 ^ 11) ∧
      frame.len = length ∧
      (canId.testBit 30 = false → frame.data = (packet.bytes.drop 12).take length) ∧
      ∀ (other : Buffer) (same : Packet), same.bytes.take 20 = packet.bytes.take 20 →
        handedFrame platform other same = handedFrame platform buf packet := by
  intro canId length
  have decoded := decode_packet buf packet whole
  have msgId : (decodeMsg (overwrite buf packet)).canId.toNat = canId := by
    rw [decoded, decoded_can_id]
    simp [canId, tx_msg_size, List.drop_take, List.take_take]
  have msgDlc : (decodeMsg (overwrite buf packet)).canDlc = packet.bytes[8] := by
    rw [decoded, decoded_dlc _ (by simp [tx_msg_size]; omega)]
    simp
  have msgData : (decodeMsg (overwrite buf packet)).data.toList =
      (packet.bytes.drop 12).take 8 := by
    rw [decoded, decoded_data _ (by simp [tx_msg_size]; omega)]
    simp [tx_msg_size, List.drop_take]
  obtain ⟨frame, built, extended, remote, raw, len, payload⟩ :=
    message_frame_exact platform documented (decodeMsg (overwrite buf packet))
  have valid := parse_well_formed (decodeMsg (overwrite buf packet))
  rw [msgId] at extended remote raw payload
  rw [msgDlc] at len payload
  have handed : handedFrame platform buf packet = some (.ok frame) := by
    simp only [handedFrame, data_slice_some _ valid, Option.map_some]
    exact congrArg some built
  refine ⟨frame, handed, ?_, extended, remote, raw, len, ?_, ?_⟩
  · intro driver ctx
    exact transmit_reaches_write platform driver ctx _ frame valid built
  · intro clear
    have short : length ≤ 8 := Nat.min_le_right _ _
    rw [payload clear, msgData, List.take_take, Nat.min_eq_left short]
  · intro other same front
    exact handed_frame_front platform buf other packet same whole front

-- An extended data frame whose DLC of nine is clamped.
def samplePacket : Packet :=
  { bytes := [7, 0, 0, 0, 0x23, 0x01, 0, 0x80, 9, 0, 0, 0, 1, 2, 3, 4, 5, 6, 7, 8]
    bounded := by decide }

theorem packet_frame_exact_sample :
    (Platform.embassy true).Documented ∧ 20 ≤ samplePacket.bytes.length ∧
      ∃ frame,
        handedFrame (Platform.embassy true) (Vector.replicate 64 0xFF) samplePacket =
          some (.ok frame) ∧
        frame.id.isExtended = true ∧ frame.isRemote = false ∧ frame.id.raw.toNat = 0x123 ∧
        frame.len = 8 ∧ frame.data = [1, 2, 3, 4, 5, 6, 7, 8] := by
  obtain ⟨frame, handed, _, extended, remote, raw, len, payload, _⟩ :=
    packet_frame_exact (Platform.embassy true) (embassy_documented true)
      (Vector.replicate 64 0xFF) samplePacket (by decide)
  exact ⟨embassy_documented true, by decide, frame, handed, extended.trans (by decide),
    remote.trans (by decide), raw.trans (by decide), len.trans (by decide), payload (by decide)⟩

-- The two records share their byte layout, so a host frame reads as a message
-- with the same fields.
theorem host_bytes_as_message (host : GsHostFrame) :
    GsTxMsg.layout.decode (GsHostFrame.layout.encode host) =
      { echoId := host.echoId, canId := host.canId, canDlc := host.canDlc
        channel := host.channel, flags := host.flags, reserved := host.reserved
        data := host.data } := by
  have fields := frameFields.decode_encode (host.echoId, host.canId, host.canDlc, host.channel,
    host.flags, host.reserved, host.data)
  exact congrArg (fun values : FrameFields => (⟨values.1, values.2.1, values.2.2.1,
    values.2.2.2.1, values.2.2.2.2.1, values.2.2.2.2.2.1, values.2.2.2.2.2.2⟩ : GsTxMsg)) fields

section DataCanId
variable (id : UInt32) (extended : Bool)

theorem data_can_id_extended :
    (GsHostFrame.dataCanId id extended).toNat.testBit 31 = extended := by
  cases extended with
  | true =>
      have flag : gsCanIdFlagEff.toNat.testBit 31 = true := by decide
      simp [GsHostFrame.dataCanId, flag]
  | false =>
      have mask : gsCanIdMaskSff.toNat.testBit 31 = false := by decide
      simp [GsHostFrame.dataCanId, mask]

theorem data_can_id_clear (bit : Nat) (flag : gsCanIdFlagEff.toNat.testBit bit = false)
    (long : gsCanIdMaskEff.toNat.testBit bit = false)
    (short : gsCanIdMaskSff.toNat.testBit bit = false) :
    (GsHostFrame.dataCanId id extended).toNat.testBit bit = false := by
  cases extended with
  | true => simp [GsHostFrame.dataCanId, flag, long]
  | false => simp [GsHostFrame.dataCanId, short]

-- Neither data-frame constructor sets the RTR bit.
theorem data_can_id_rtr : (GsHostFrame.dataCanId id extended).toNat.testBit 30 = false :=
  data_can_id_clear id extended 30 (by decide) (by decide) (by decide)

theorem data_can_id_masked :
    (if extended then GsHostFrame.dataCanId id extended &&& gsCanIdMaskEff
      else GsHostFrame.dataCanId id extended &&& gsCanIdMaskSff) =
      if extended then id &&& gsCanIdMaskEff else id &&& gsCanIdMaskSff := by
  cases extended with
  | true => exact mask_or_flag id gsCanIdMaskEff gsCanIdFlagEff (by decide)
  | false => exact mask_mask id gsCanIdMaskSff

theorem masked_in_range (small : id.toNat < if extended then 2 ^ 29 else 2 ^ 11) :
    (if extended then id &&& gsCanIdMaskEff else id &&& gsCanIdMaskSff) = id := by
  cases extended with
  | true => exact low_mask_of_lt id gsCanIdMaskEff 29 (by decide) small
  | false => exact low_mask_of_lt id gsCanIdMaskSff 11 (by decide) small

end DataCanId

theorem data_message_fields (msg : GsTxMsg) (id : UInt32) (extended : Bool)
    (word : msg.canId = GsHostFrame.dataCanId id extended)
    (small : id.toNat < if extended then 2 ^ 29 else 2 ^ 11) :
    msg.id = id ∧ msg.isExtended = extended ∧ msg.isRtr = false := by
  have flag : msg.isExtended = extended := by
    rw [is_extended_bit, word, data_can_id_extended]
  refine ⟨?_, flag, ?_⟩
  · rw [GsTxMsg.id, flag, word, data_can_id_masked, masked_in_range id extended small]
  · rw [is_rtr_bit, word, data_can_id_rtr]

theorem frame_id_lt (frame : Frame) :
    frame.id.raw.toNat < if frame.id.isExtended then 2 ^ 29 else 2 ^ 11 := by
  cases frame.id with
  | standard id =>
      have inRange := UInt16.le_iff_toNat_le.mp id.inRange
      simp only [Id.raw, Id.isExtended, UInt16.toNat_toUInt32]
      exact Nat.lt_succ_of_le inRange
  | extended id =>
      have inRange := UInt32.le_iff_toNat_le.mp id.inRange
      simp only [Id.raw, Id.isExtended]
      exact Nat.lt_succ_of_le inRange

theorem to_can_frame_data (frame : Frame) :
    (toCanFrame frame).data.toList =
      frame.data ++ List.replicate (8 - frame.data.length) 0 := by
  have short : frame.data.length ≤ 8 := by
    rw [data_length]
    exact frame.bounded
  simp [toCanFrame, short, Vector.toList]

theorem to_can_frame_dlc (frame : Frame) :
    (toCanFrame frame).dlc.toNat = frame.data.length := by
  have short : frame.data.length ≤ 8 := by
    rw [data_length]
    exact frame.bounded
  simp only [toCanFrame, UInt8.toNat_ofNat']
  omega

/-- The bytes `usb_tx_task` writes for a frame from the bus, read as a message. -/
theorem received_frame_as_message (frame : Frame) :
    let msg := GsTxMsg.layout.decode (GsHostFrame.layout.encode (toHostFrame (toCanFrame frame)))
    msg.id = frame.id.raw ∧ msg.isExtended = frame.id.isExtended ∧ msg.isRtr = false ∧
      msg.dlc.toNat = frame.data.length ∧
      msg.data.toList = frame.data ++ List.replicate (8 - frame.data.length) 0 := by
  intro msg
  have fields : msg = _ := host_bytes_as_message (toHostFrame (toCanFrame frame))
  have word : msg.canId = GsHostFrame.dataCanId frame.id.raw frame.id.isExtended := by
    rw [fields]
    rfl
  have dlc : msg.canDlc = (toCanFrame frame).dlc := by rw [fields]; rfl
  have data : msg.data = (toCanFrame frame).data := by rw [fields]; rfl
  have short : frame.data.length ≤ 8 := by
    rw [data_length]
    exact frame.bounded
  obtain ⟨id, extended, remote⟩ := data_message_fields msg frame.id.raw frame.id.isExtended word
    (frame_id_lt frame)
  refine ⟨id, extended, remote, ?_, ?_⟩
  · rw [dlc_value, dlc, to_can_frame_dlc, Nat.min_eq_left short]
  · rw [data, to_can_frame_data]

theorem clamp_small (msg : GsTxMsg) (small : msg.canDlc.toNat ≤ 8) : msg.dlc = msg.canDlc := by
  apply UInt8.toNat.inj
  rw [dlc_value, Nat.min_eq_left small]

theorem parse_echo (msg : GsTxMsg) :
    parseTxMsg (GsTxMsg.layout.decode (GsHostFrame.layout.encode (echoFrame (parseTxMsg msg)))) =
      { parseTxMsg msg with isRtr := false } := by
  rw [host_bytes_as_message]
  generalize same : (⟨_, _, _, _, _, _, _⟩ : GsTxMsg) = back
  have word : back.canId = GsHostFrame.dataCanId msg.id msg.isExtended := by rw [← same]; rfl
  have dlc : back.canDlc = msg.dlc := by rw [← same]; rfl
  have data : back.data = msg.data := by rw [← same]; rfl
  have echoId : back.echoId = msg.echoId := by rw [← same]; rfl
  obtain ⟨id, extended, remote⟩ := data_message_fields back msg.id msg.isExtended word (id_lt msg)
  have small : back.canDlc.toNat ≤ 8 := by
    rw [dlc, dlc_value]
    exact Nat.min_le_right _ _
  simp only [parseTxMsg, id, extended, remote, clamp_small back small, dlc, data, echoId]

/-- Both encoders against the one decoder, on everything but remote frames. -/
theorem encoders_match_decoder :
    (∀ (tx : UsbTx) (frame : Frame), frame.isRemote = false →
      ∃ bytes, (takeFrame tx (toCanFrame frame)).phase = .writing bytes ∧ bytes.length = 20 ∧
        (GsTxMsg.layout.decode bytes).id = frame.id.raw ∧
        (GsTxMsg.layout.decode bytes).isExtended = frame.id.isExtended ∧
        (GsTxMsg.layout.decode bytes).isRtr = false ∧
        (GsTxMsg.layout.decode bytes).dlc.toNat = frame.data.length ∧
        (GsTxMsg.layout.decode bytes).data.toList =
          frame.data ++ List.replicate (8 - frame.data.length) 0) ∧
    ∀ (tx : UsbTx) (m : List UInt8), m.length = 20 → (GsTxMsg.layout.decode m).isRtr = false →
      ∃ bytes, (tx.startWrite .usbEcho (echoFrame (parseTxMsg (GsTxMsg.layout.decode m)))).phase =
          .writing bytes ∧ bytes.length = 20 ∧
        parseTxMsg (GsTxMsg.layout.decode bytes) = parseTxMsg (GsTxMsg.layout.decode m) := by
  constructor
  · intro tx frame _
    refine ⟨_, ?_, GsHostFrame.layout.encode_length _, received_frame_as_message frame⟩
    rw [take_frame_eq]
    rfl
  · intro tx m _ clear
    refine ⟨_, rfl, GsHostFrame.layout.encode_length _, ?_⟩
    rw [parse_echo, ← clear]
    rfl

def sampleFrame : Frame :=
  { id := .standard ⟨0x123, by decide⟩, isRemote := false, len := 2
    bytes := #v[0xAA, 0xBB, 0, 0, 0, 0, 0, 0], bounded := by decide }

theorem encoders_match_decoder_sample :
    sampleFrame.isRemote = false ∧
      (∃ bytes, (takeFrame UsbTx.new (toCanFrame sampleFrame)).phase = .writing bytes ∧
        (GsTxMsg.layout.decode bytes).data.toList = [0xAA, 0xBB, 0, 0, 0, 0, 0, 0]) ∧
      (GsTxMsg.layout.decode samplePacket.bytes).isRtr = false ∧
      ∃ bytes, (UsbTx.new.startWrite .usbEcho
          (echoFrame (parseTxMsg (GsTxMsg.layout.decode samplePacket.bytes)))).phase =
            .writing bytes ∧
        parseTxMsg (GsTxMsg.layout.decode bytes) =
          parseTxMsg (GsTxMsg.layout.decode samplePacket.bytes) := by
  obtain ⟨bytes, written, _, _, _, _, _, data⟩ :=
    encoders_match_decoder.1 UsbTx.new sampleFrame rfl
  obtain ⟨echo, queued, _, parsed⟩ :=
    encoders_match_decoder.2 UsbTx.new samplePacket.bytes rfl (by decide)
  exact ⟨rfl, ⟨bytes, written, data.trans (by decide)⟩, by decide, ⟨echo, queued, parsed⟩⟩

end NginLink.Translation
