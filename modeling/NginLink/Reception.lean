import NginLink.DriverState
import NginLink.Translation

/-!
The way of a received frame: read from the bus, queued in CAN_RX_CHANNEL, taken by
`usb_tx_task` or thrown out again by the driver. The channel has two consumers, and
the one flag that makes the driver a consumer is also set by the other queue.
-/

namespace NginLink.Reception

open AppContext BoundedChannel BspCan CanDriver CanProtocol DriverState Firmware GsUsbTypes
open UsbTasks

def readOf : Record → Option Frame
  | .frameRead frame => some frame
  | _ => none

def evictedOf : Record → Option CanFrame
  | .evicted frame => some frame
  | _ => none

abbrev framesRead (log : List Record) : List Frame := log.filterMap readOf

abbrev evicted (log : List Record) : List CanFrame := log.filterMap evictedOf

-- The host frames `usb_tx_task` built from CAN_RX_CHANNEL.
def takenFrames (tx : UsbTx) : List GsHostFrame :=
  (tx.taken.filter fun entry => entry.1 = .canRx).map Prod.snd

def hostImage (frame : Frame) : GsHostFrame := toHostFrame (toCanFrame frame)

@[simp] theorem frames_read_loop_top (driver : Driver) :
    framesRead driver.loopTop.log = framesRead driver.log :=
  loop_top_view driver readOf rfl

@[simp] theorem evicted_loop_top (driver : Driver) :
    evicted driver.loopTop.log = evicted driver.log :=
  loop_top_view driver evictedOf rfl

theorem taken_frames_received (tx : UsbTx) (frame : GsHostFrame) :
    takenFrames (tx.startWrite .canRx frame) = takenFrames tx ++ [frame] := by
  simp [takenFrames, UsbTx.startWrite]

theorem taken_frames_echo (tx : UsbTx) (frame : GsHostFrame) :
    takenFrames (tx.startWrite .usbEcho frame) = takenFrames tx := by
  simp [takenFrames, UsbTx.startWrite]

/-- A bus error that finds USB_ECHO_CHANNEL full while CAN_RX_CHANNEL holds a frame. -/
def Crosses (platform : Platform) (s : System) : Firmware.Event → Prop
  | .driver (.error _ false) =>
      s.driver.phase = .selecting ∧ platform.addU32 s.driver.canErrorCount 1 ≠ none ∧
        s.ctx.usbEcho.hasRoom = false ∧ s.ctx.canRx.queued ≠ []
  | _ => False

/-- The four ways a step of the driver can treat CAN_RX_CHANNEL. -/
inductive Passage (driver next : Driver) (ctx after : Context) (event : CanDriver.Event) :
    Prop where
  | untouched (channel : after.canRx = ctx.canRx)
      (read : framesRead next.log = framesRead driver.log)
      (thrown : evicted next.log = evicted driver.log)
  | queued (frame) (room : ctx.canRx.hasRoom = true)
      (channel : after.canRx = (ctx.canRx.trySend (toCanFrame frame)).1)
      (read : framesRead next.log = framesRead driver.log ++ [frame])
      (thrown : evicted next.log = evicted driver.log)
  | replaced (frame value) (full : ctx.canRx.hasRoom = false)
      (channel : (ctx.canRx.trySend (toCanFrame frame)).1.tryReceive = some (value, after.canRx))
      (read : framesRead next.log = framesRead driver.log ++ [frame])
      (thrown : evicted next.log = evicted driver.log ++ [value])
  | crossed (error value) (failed : event = .error error false)
      (selecting : driver.phase = .selecting) (full : ctx.usbEcho.hasRoom = false)
      (channel : ctx.canRx.tryReceive = some (value, after.canRx))
      (read : framesRead next.log = framesRead driver.log)
      (thrown : evicted next.log = evicted driver.log ++ [value])

variable {platform : Platform}

theorem transition_passage (driver next : Driver) (ctx after : Context)
    (event : CanDriver.Event) (moved : Transition platform driver ctx event next after) :
    Passage driver next ctx after event := by
  cases moved with
  | frameQueued frame selecting room =>
      exact .queued frame room rfl (by simp [readOf]) (by simp [evictedOf])
  | frameRefused frame value canRx selecting full taken =>
      exact .replaced frame value full taken (by simp [readOf]) (by simp [evictedOf])
  | errorRefused error count value canRx selecting counted full taken =>
      exact .crossed error value rfl selecting full taken (by simp [readOf]) (by simp [evictedOf])
  | _ => exact .untouched rfl (by simp [readOf, Driver.panic]) (by simp [evictedOf, Driver.panic])

/-- What went in against what was read, and what came out against who took it. -/
structure Flow (s : System) : Prop where
  accepted : s.ctx.canRx.accepted.Sublist ((framesRead s.driver.log).map toCanFrame)
  complete : s.ctx.canRx.refused = [] →
    s.ctx.canRx.accepted = (framesRead s.driver.log).map toCanFrame
  taken : (takenFrames s.usbTx).Sublist (s.ctx.canRx.received.map toHostFrame)
  removed : s.ctx.canRx.received.length =
    (takenFrames s.usbTx).length + (evicted s.driver.log).length

theorem boot_flow (config : CanConfig) : Flow (boot config) :=
  ⟨List.Sublist.slnil, fun _ => rfl, List.Sublist.slnil, rfl⟩

theorem sublist_of_evicted (taken : List GsHostFrame) (received : List CanFrame)
    (value : CanFrame) (part : taken.Sublist (received.map toHostFrame)) :
    taken.Sublist ((received ++ [value]).map toHostFrame) := by
  rw [List.map_append]
  exact part.trans (List.sublist_append_left _ _)

theorem passage_flow (s : System) (next : Driver) (after : Context)
    (event : CanDriver.Event) (passage : Passage s.driver next s.ctx after event)
    (flow : Flow s) : Flow { s with driver := next, ctx := after } := by
  obtain ⟨accepted, complete, taken, removed⟩ := flow
  cases passage with
  | untouched channel read thrown =>
      constructor
      · rw [channel, read]
        exact accepted
      · rw [channel, read]
        exact complete
      · rw [channel]
        exact taken
      · rw [channel, thrown]
        exact removed
  | queued frame room channel read thrown =>
      constructor
      · rw [channel, read, Channel.try_send_accepted, if_pos room, List.map_append]
        exact accepted.append (List.Sublist.refl _)
      · intro unrefused
        rw [channel, Channel.try_send_refused, if_pos room] at unrefused
        rw [channel, read, Channel.try_send_accepted, if_pos room, List.map_append,
          complete unrefused]
        rfl
      · rw [channel, Channel.try_send_received]
        exact taken
      · rw [channel, thrown, Channel.try_send_received]
        exact removed
  | replaced frame value full channel read thrown =>
      obtain ⟨_, received, sent, refused⟩ := Channel.try_receive_some _ _ _ channel
      rw [Channel.try_send_received] at received
      rw [Channel.try_send_accepted, full] at sent
      rw [Channel.try_send_refused, full] at refused
      constructor
      · rw [sent, read, List.map_append]
        exact accepted.trans (List.sublist_append_left _ _)
      · intro unrefused
        rw [refused] at unrefused
        simp at unrefused
      · rw [received]
        exact sublist_of_evicted _ _ value taken
      · rw [received, thrown, List.length_append, List.length_append, removed]
        exact Nat.add_assoc _ _ _
  | crossed error value failed selecting full channel read thrown =>
      obtain ⟨_, received, sent, refused⟩ := Channel.try_receive_some _ _ _ channel
      constructor
      · rw [sent, read]
        exact accepted
      · rw [sent, read, refused]
        exact complete
      · rw [received]
        exact sublist_of_evicted _ _ value taken
      · rw [received, thrown, List.length_append, List.length_append, removed]
        exact Nat.add_assoc _ _ _

theorem move_flow (s next : System) (event : Firmware.Event)
    (moved : Move platform s event next) (flow : Flow s) : Flow next := by
  cases moved with
  | driver event driver ctx moved =>
      exact passage_flow s driver ctx event
        (transition_passage s.driver driver s.ctx ctx event moved) flow
  | tookRx frame canRx selecting taken =>
      obtain ⟨_, received, sent, refused⟩ := Channel.try_receive_some _ _ _ taken
      constructor
      · rw [sent]
        exact flow.accepted
      · rw [sent, refused]
        exact flow.complete
      · rw [received, taken_frames_received, List.map_append]
        exact flow.taken.append (List.Sublist.refl _)
      · rw [received, taken_frames_received, List.length_append, List.length_append,
          flow.removed]
        simp only [List.length_singleton]
        omega
  | tookEcho frame usbEcho selecting taken =>
      refine ⟨flow.accepted, flow.complete, ?_, ?_⟩
      · rw [taken_frames_echo]
        exact flow.taken
      · rw [taken_frames_echo]
        exact flow.removed
  | _ => exact ⟨flow.accepted, flow.complete, flow.taken, flow.removed⟩

theorem run_flow (config : CanConfig) (events : List Firmware.Event) (final : System)
    (finished : Machine.run (step platform) (boot config) events = some final) :
    Flow final :=
  run_move_invariant Flow
    (fun s event next _ flow moved => move_flow s next event moved flow)
    config events final finished (boot_flow config)

def numberedFrame (number : UInt8) : Frame :=
  { Translation.sampleFrame with
    len := 1, bytes := #v[number, 0, 0, 0, 0, 0, 0, 0], bounded := by decide }

-- Thirty-three frames overflow CAN_RX_CHANNEL, then two are taken.
def overflowing : List Firmware.Event :=
  bringUp ++ [.epInEnabled] ++
    (List.range 33).map (fun number => .driver (.frame (numberedFrame number.toUInt8))) ++
    [.takeRx, .writeDone, .takeRx]

def Kept (s : System) : Prop :=
  ((framesRead s.driver.log).map hostImage).Perm
    (takenFrames s.usbTx ++ s.ctx.canRx.queued.map toHostFrame)

theorem kept_iff_none_evicted (s : System) (flow : Flow s)
    (noneRefused : s.ctx.canRx.refused = []) : Kept s ↔ evicted s.driver.log = [] := by
  have read : (framesRead s.driver.log).map hostImage =
      s.ctx.canRx.received.map toHostFrame ++ s.ctx.canRx.queued.map toHostFrame := by
    have both := flow.complete noneRefused
    rw [← s.ctx.canRx.fifo] at both
    rw [← List.map_append, both, List.map_map]
    rfl
  constructor
  · intro kept
    have sizes := kept.length_eq
    have removed := flow.removed
    rw [read] at sizes
    simp only [List.length_append, List.length_map] at sizes
    exact List.length_eq_zero_iff.mp (by omega)
  · intro spared
    have all : takenFrames s.usbTx = s.ctx.canRx.received.map toHostFrame := by
      apply flow.taken.eq_of_length
      rw [List.length_map, flow.removed, spared]
      rfl
    unfold Kept
    rw [read, all]

theorem move_refused_grows (s next : System) (event : Firmware.Event)
    (moved : Move platform s event next) (unrefused : next.ctx.canRx.refused = []) :
    s.ctx.canRx.refused = [] := by
  cases moved with
  | driver event driver ctx moved =>
      cases transition_passage s.driver driver s.ctx ctx event moved with
      | untouched channel read thrown => rwa [channel] at unrefused
      | queued frame room channel read thrown =>
          rwa [channel, Channel.try_send_refused, if_pos room] at unrefused
      | replaced frame value full channel read thrown =>
          obtain ⟨_, _, _, refused⟩ := Channel.try_receive_some _ _ _ channel
          rw [refused, Channel.try_send_refused, full] at unrefused
          simp at unrefused
      | crossed error value failed selecting full channel read thrown =>
          obtain ⟨_, _, _, refused⟩ := Channel.try_receive_some _ _ _ channel
          rwa [refused] at unrefused
  | tookRx frame canRx selecting taken =>
      obtain ⟨_, _, _, refused⟩ := Channel.try_receive_some _ _ _ taken
      rwa [refused] at unrefused
  | _ => exact unrefused

theorem move_evicted (s next : System) (event : Firmware.Event)
    (moved : Move platform s event next) (noneRefused : next.ctx.canRx.refused = [])
    (spared : ¬ Crosses platform s event) :
    evicted next.driver.log = evicted s.driver.log := by
  cases moved with
  | driver event driver ctx moved =>
      cases moved with
      | frameRefused frame value canRx selecting full taken =>
          obtain ⟨_, _, _, refused⟩ := Channel.try_receive_some _ _ _ taken
          rw [refused, Channel.try_send_refused, full] at noneRefused
          simp at noneRefused
      | errorRefused error count value canRx selecting counted full taken =>
          have front := (Channel.try_receive_some _ _ _ taken).1
          exact absurd ⟨selecting, by simp [counted], full, by simp [front]⟩ spared
      | _ => simp [evictedOf, Driver.panic]
  | _ => rfl

theorem crossing_evicts (s : System) (event : Firmware.Event) (sound : Sound s)
    (crosses : Crosses platform s event) :
    ∃ next, step platform s event = some next ∧
      next.ctx.canRx.refused = s.ctx.canRx.refused ∧ evicted next.driver.log ≠ [] := by
  unfold Crosses at crosses
  split at crosses
  · rename_i error
    obtain ⟨selecting, counting, full, waiting⟩ := crosses
    obtain ⟨next, stepped⟩ := error_enabled platform s error false selecting
    refine ⟨next, stepped, ?_⟩
    cases step_move s next _ sound stepped with
    | driver _ driver ctx moved =>
        cases moved with
        | errorPanic _ _ _ overflow => exact absurd overflow counting
        | errorQueued _ _ _ _ room => simp [room] at full
        | errorRefused _ count value canRx _ _ _ taken =>
            obtain ⟨_, _, _, refused⟩ := Channel.try_receive_some _ _ _ taken
            exact ⟨refused, by simp [evictedOf]⟩
        | errorRefusedAlone _ _ _ _ _ empty => exact absurd empty waiting
  · exact crosses.elim

/-- As long as no frame was refused by CAN_RX_CHANNEL: all the frames read are kept in
every state of a run if and only if no step of the run is a crossing bus error. -/
theorem kept_iff_no_crossing (platform : Platform) (config : CanConfig)
    (events : List Firmware.Event) :
    Machine.Always (step platform) (fun s => s.ctx.canRx.refused = [] → Kept s) (boot config)
        events ↔
      Machine.Along (step platform)
        (fun s event => s.ctx.canRx.refused = [] → ¬ Crosses platform s event) (boot config)
        events := by
  apply move_always_iff_along _
    (fun s => Flow s ∧ (s.ctx.canRx.refused = [] → evicted s.driver.log = []))
  · rintro s ⟨flow, clean⟩ unrefused
    exact (kept_iff_none_evicted s flow unrefused).mpr (clean unrefused)
  · rintro s event next ⟨flow, clean⟩ spared moved
    refine ⟨move_flow s next event moved flow, ?_⟩
    intro unrefused
    have before := move_refused_grows s next event moved unrefused
    rw [move_evicted s next event moved unrefused (spared before), clean before]
  · rintro s event sound ⟨flow, clean⟩ refusal
    obtain ⟨unrefused, crosses⟩ : s.ctx.canRx.refused = [] ∧ Crosses platform s event := by
      by_contra never
      exact refusal fun unrefused crosses => never ⟨unrefused, crosses⟩
    obtain ⟨next, stepped, same, thrown⟩ := crossing_evicts s event sound crosses
    refine ⟨next, stepped, ?_⟩
    intro moved kept
    have after := same.trans unrefused
    exact thrown ((kept_iff_none_evicted next (move_flow s next event moved flow) after).mp
      (kept after))
  · exact ⟨boot_flow config, fun _ => rfl⟩

-- One frame waits in CAN_RX_CHANNEL while seventeen bus errors fill the other queue
-- and overflow it.
def crossedErrors : List Firmware.Event :=
  bringUp ++ [.driver (.frame Translation.sampleFrame)] ++
    List.replicate 17 (.driver (.error .stuff false))

/-- The frame is gone, although nothing was ever refused by its own queue. -/
theorem crossed_frame_lost :
    ∃ final, Machine.run (step (Platform.embassy true)) (boot resetConfig) crossedErrors =
        some final ∧
      final.ctx.canRx.refused = [] ∧ (framesRead final.driver.log).length = 1 ∧
      final.usbTx.taken = [] ∧ final.ctx.canRx.queued = [] ∧ ¬ Kept final := by
  obtain ⟨final, finished, unrefused, read, untaken, empty⟩ : ∃ final,
      Machine.run (step (Platform.embassy true)) (boot resetConfig) crossedErrors = some final ∧
      final.ctx.canRx.refused = [] ∧ (framesRead final.driver.log).length = 1 ∧
      final.usbTx.taken = [] ∧ final.ctx.canRx.queued = [] :=
    ⟨_, rfl, by decide, by decide, by decide, by decide⟩
  refine ⟨final, finished, unrefused, read, untaken, empty, ?_⟩
  intro kept
  have sizes := kept.length_eq
  simp [takenFrames, untaken, empty, read] at sizes

end NginLink.Reception
