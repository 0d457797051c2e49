import NginLink.Lifecycle
import NginLink.Reception

/-!
Several dongles on one bus. Each is the firmware with a run of its own. The bus is not part
of the firmware; all that is said of it is that it carries the frames that leave a
mailbox, those of one dongle in their order, and that a controller reads some of
what the bus carries, in order and none of it twice. Then the hosts behind the dongles
read each other's messages.
-/

namespace NginLink.SharedBus

open AppContext BspCan CanDriver CommandQueue Firmware GsUsbTypes HostMessages Lifecycle
open Reception Translation UsbTasks

variable {platform : Platform}

structure Session (platform : Platform) where
  config : CanConfig
  events : List Firmware.Event
  final : System
  finished : Machine.run (step platform) (boot config) events = some final

def Session.departed (session : Session platform) : List (Nat × Frame) :=
  Machine.observed (step platform) departure (boot session.config) session.events

/-- What the bus has carried: for each sender the frames that have left it, in any merge. -/
structure Traffic {Dongle : Type} [DecidableEq Dongle] (senders : Dongle → Session platform) where
  carried : List (Dongle × Nat × Frame)
  merged : ∀ sender, (carried.filter fun entry => entry.1 = sender).map Prod.snd =
    (senders sender).departed

def source {Dongle : Type} (entry : Dongle × Nat × Frame) : Dongle × Nat := (entry.1, entry.2.1)

/-- A host reads the bytes of a frame back as the message that another host has sent; of a
remote frame, its identifier and its length. -/
structure Conveyed (msg : GsTxMsg) (host : GsHostFrame) : Prop where
  received : host.echoId = gsHostFrameEchoIdRx
  id : (GsTxMsg.layout.decode (GsHostFrame.layout.encode host)).id = msg.id
  extended : (GsTxMsg.layout.decode (GsHostFrame.layout.encode host)).isExtended = msg.isExtended
  dlc : (GsTxMsg.layout.decode (GsHostFrame.layout.encode host)).dlc = msg.dlc
  data : msg.isRtr = false →
    (GsTxMsg.layout.decode (GsHostFrame.layout.encode host)).data.toList =
      msg.data.toList.take msg.dlc.toNat ++ List.replicate (8 - msg.dlc.toNat) 0

theorem frame_conveyed (msg : GsTxMsg) (frame : Frame) (made : FrameOf msg frame) :
    Conveyed msg (hostImage frame) := by
  obtain ⟨⟨extended, remote, cut, clamped, _⟩, payload⟩ := made
  obtain ⟨id, flag, _, length, data⟩ := received_frame_as_message frame
  rw [data_length] at length data
  have dlc : frame.len = msg.dlc.toNat := by rw [clamped, dlc_value]
  refine ⟨rfl, ?_, ?_, ?_, ?_⟩
  · apply UInt32.toNat.inj
    rw [hostImage, id, cut, id_value, is_extended_bit]
  · rw [hostImage, flag, extended, is_extended_bit]
  · apply UInt8.toNat.inj
    rw [hostImage, length, dlc]
  · intro dataFrame
    rw [hostImage, data, payload (remote.trans ((is_rtr_bit msg).symm.trans dataFrame)), dlc]

theorem nodup_of_tagged {α β : Type} [DecidableEq α] (entries : List (α × β))
    (each : ∀ tag, ((entries.filter fun entry => entry.1 = tag).map Prod.snd).Nodup) :
    entries.Nodup := by
  induction entries with
  | nil => exact List.nodup_nil
  | cons entry rest ih =>
      -- A second occurrence would carry the same tag, and so be doubled among those.
      have own := each entry.1
      rw [List.filter_cons_of_pos (by simp), List.map_cons, List.nodup_cons] at own
      refine List.nodup_cons.mpr ⟨?_, ih ?_⟩
      · intro again
        exact own.1 (List.mem_map.mpr ⟨entry, List.mem_filter.mpr ⟨again, by simp⟩, rfl⟩)
      · intro tag
        exact (each tag).sublist (((List.sublist_cons_self entry rest).filter _).map _)

theorem departed_known (documented : platform.Documented) (session : Session platform) :
    Departures session.departed session.final :=
  run_departures documented session.config session.events session.final session.finished

-- The bus carries no message twice, whoever sent it.
theorem sources_distinct {Dongle : Type} [DecidableEq Dongle] (documented : platform.Documented)
    (senders : Dongle → Session platform) (traffic : Traffic senders) :
    (traffic.carried.map source).Nodup := by
  -- Each sender hands over a message once, and messages of two senders differ in the sender.
  apply nodup_of_tagged
  intro sender
  have distinct := (departed_known documented (senders sender)).distinct
  rw [← traffic.merged sender] at distinct
  rw [List.filter_map, List.map_map]
  rw [List.map_map] at distinct
  exact distinct

theorem carried_conveyed {Dongle : Type} [DecidableEq Dongle] (documented : platform.Documented)
    (senders : Dongle → Session platform) (traffic : Traffic senders)
    (entry : Dongle × Nat × Frame) (member : entry ∈ traffic.carried) :
    ∃ record, (queuedMessages (senders entry.1).final)[entry.2.1]? = some record ∧
      Conveyed record.msg (hostImage entry.2.2) := by
  have own : entry.2 ∈ (senders entry.1).departed := by
    rw [← traffic.merged entry.1]
    exact List.mem_map.mpr ⟨entry, List.mem_filter.mpr ⟨member, by simp⟩, rfl⟩
  obtain ⟨record, found, made⟩ := (departed_known documented (senders entry.1)).carried _ own
  exact ⟨record, found, frame_conveyed record.msg entry.2.2 made⟩

theorem taken_from_bus (reader : Session platform) :
    (takenFrames reader.final.usbTx).Sublist
      ((framesRead reader.final.driver.log).map hostImage) := by
  have flow := run_flow reader.config reader.events reader.final reader.finished
  have received : reader.final.ctx.canRx.received.Sublist
      ((framesRead reader.final.driver.log).map toCanFrame) :=
    (BoundedChannel.Channel.received_prefix reader.final.ctx.canRx).sublist.trans flow.accepted
  have taken := flow.taken.trans (received.map toHostFrame)
  rwa [List.map_map] at taken

-- The second of two stored messages leaves before the first.
def overtaking : List Firmware.Event :=
  bringUp ++ [.epOutEnabled, hostMessage 1 0x123] ++ storeMessage ++ [hostMessage 2 0x100] ++
    storeMessage ++ [.mailboxSent 1, .mailboxSent 0]

def overtakenFrames : List (Nat × Frame) :=
  Machine.observed (step (Platform.embassy true)) departure (boot resetConfig) overtaking

def readsOvertaken : List Firmware.Event :=
  bringUp ++ .epInEnabled :: (overtakenFrames.map fun slot => .driver (.frame slot.2)) ++ [.takeRx]

end NginLink.SharedBus
