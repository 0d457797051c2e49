import NginLink.DriverState
import NginLink.Translation

/-!
Every frame the driver tries to queue for the host, against where it can be: taken
by `usb_tx_task`, in one of the two channels, counted in `dropped_rx`, or gone
without a trace. The last term is what the firmware cannot see.
-/

namespace NginLink.Accounting

open AppContext BoundedChannel BspCan CanDriver Firmware GsUsbTypes UsbTasks

def isOffer : Record → Bool
  | .offered _ _ => true
  | _ => false

-- A refusal that the driver counts. The BusOff notice is sent with `let _ =`.
def isCounted : Record → Bool
  | .offered .busOff _ => false
  | .offered _ sent => !sent
  | _ => false

/-- A frame that leaves the accounts: evicted from CAN_RX_CHANNEL, or a BusOff notice
that found USB_ECHO_CHANNEL full. -/
def isLost : Record → Bool
  | .evicted _ => true
  | .offered .busOff sent => !sent
  | _ => false

def tried (log : List Record) : Nat := log.countP isOffer
def counted (log : List Record) : Nat := log.countP isCounted
def lost (log : List Record) : Nat := log.countP isLost

section Tallies
variable (driver : Driver)

theorem loop_top_tally (mark : Record → Bool) (blind : mark (.reading true) = false) :
    driver.loopTop.log.countP mark = driver.log.countP mark := by
  rw [loop_top_log, List.countP_append]
  cases driver.isStarted <;> simp [blind]

@[simp] theorem tried_loop_top : tried driver.loopTop.log = tried driver.log :=
  loop_top_tally driver isOffer rfl

@[simp] theorem counted_loop_top : counted driver.loopTop.log = counted driver.log :=
  loop_top_tally driver isCounted rfl

@[simp] theorem lost_loop_top : lost driver.loopTop.log = lost driver.log :=
  loop_top_tally driver isLost rfl

@[simp] theorem tried_append (first second : List Record) :
    tried (first ++ second) = tried first + tried second := List.countP_append

@[simp] theorem counted_append (first second : List Record) :
    counted (first ++ second) = counted first + counted second := List.countP_append

@[simp] theorem lost_append (first second : List Record) :
    lost (first ++ second) = lost first + lost second := List.countP_append

@[simp] theorem tally_nil : tried [] = 0 ∧ counted [] = 0 ∧ lost [] = 0 := ⟨rfl, rfl, rfl⟩

@[simp] theorem tried_cons (record : Record) (rest : List Record) :
    tried (record :: rest) = tried rest + if isOffer record then 1 else 0 := List.countP_cons

@[simp] theorem counted_cons (record : Record) (rest : List Record) :
    counted (record :: rest) = counted rest + if isCounted record then 1 else 0 :=
  List.countP_cons

@[simp] theorem lost_cons (record : Record) (rest : List Record) :
    lost (record :: rest) = lost rest + if isLost record then 1 else 0 := List.countP_cons

end Tallies

def waitingFrames (ctx : Context) : Nat := ctx.canRx.queued.length + ctx.usbEcho.queued.length

theorem queued_after_send {α : Type} {capacity : Nat} (channel : Channel α capacity) (value : α) :
    (channel.trySend value).1.queued.length =
      channel.queued.length + if channel.hasRoom then 1 else 0 := by
  rw [Channel.try_send_queued]
  split <;> simp

theorem queued_after_receive {α : Type} {capacity : Nat} (channel after : Channel α capacity)
    (value : α) (taken : channel.tryReceive = some (value, after)) :
    channel.queued.length = after.queued.length + 1 := by
  rw [(Channel.try_receive_some channel after value taken).1]
  rfl

variable {platform : Platform}

/-- Each frame offered in a step ends up queued, counted or lost, and so does each
frame the step takes out of a channel. -/
theorem transition_total (driver next : Driver) (ctx after : Context) (event : CanDriver.Event)
    (moved : Transition platform driver ctx event next after) :
    tried next.log + waitingFrames ctx + counted driver.log + lost driver.log =
      tried driver.log + waitingFrames after + counted next.log + lost next.log := by
  cases moved with
  | frameQueued frame selecting room =>
      simp [waitingFrames, queued_after_send, room, isOffer, isCounted, isLost]
      omega
  | frameRefused frame evicted canRx selecting full taken =>
      -- The refused frame is counted; the evicted one left the channel untold.
      have one := queued_after_receive _ _ _ taken
      rw [queued_after_send, full] at one
      simp [waitingFrames, isOffer, isCounted, isLost] at one ⊢
      omega
  | errorQueued error count selecting counted room =>
      simp [waitingFrames, queued_after_send, room, isOffer, isCounted, isLost]
      omega
  | errorRefused error count evicted canRx selecting counted full taken =>
      have one := queued_after_receive _ _ _ taken
      simp [waitingFrames, queued_after_send, full, isOffer, isCounted, isLost] at one ⊢
      omega
  | errorRefusedAlone error count selecting counted full empty =>
      simp [waitingFrames, queued_after_send, full, isOffer, isCounted, isLost]
      omega
  | busOffGivenUp error count selecting counted many =>
      -- The notice is queued or lost; its refusal is counted nowhere.
      cases room : ctx.usbEcho.hasRoom with
      | true =>
          simp [waitingFrames, queued_after_send, room, isOffer, isCounted, isLost]
          omega
      | false =>
          simp [waitingFrames, queued_after_send, room, isOffer, isCounted, isLost]
          omega
  | written dequeued serial request frame transmitting room =>
      simp [waitingFrames, queued_after_send, room, isOffer, isCounted, isLost]
      omega
  | writtenRefused dequeued serial request frame transmitting full =>
      simp [waitingFrames, queued_after_send, full, isOffer, isCounted, isLost]
      omega
  | _ => simp [waitingFrames, isOffer, isCounted, isLost, Driver.panic]

theorem transition_counter (driver next : Driver) (ctx after : Context) (event : CanDriver.Event)
    (moved : Transition platform driver ctx event next after)
    (agrees : ctx.service.droppedRx.toNat = counted driver.log % 2 ^ 32) :
    after.service.droppedRx.toNat = counted next.log % 2 ^ 32 := by
  have one : (ctx.service.droppedRx + 1).toNat = (counted driver.log + 1) % 2 ^ 32 := by
    rw [UInt32.toNat_add, agrees]
    simp
  cases moved with
  | frameRefused | errorRefused | errorRefusedAlone | writtenRefused =>
      simpa [isCounted, CanService.countDropped] using one
  | _ => simpa [isCounted, Driver.panic, CanService.markStarted, CanService.markStopped]
      using agrees

/-- Every eviction goes with a refusal that is counted, so what is lost without a trace is
bounded by what is counted and by the notices refused. -/
theorem transition_traced (driver next : Driver) (ctx after : Context) (event : CanDriver.Event)
    (moved : Transition platform driver ctx event next after)
    (traced : lost driver.log ≤ counted driver.log + driver.log.count (.offered .busOff false)) :
    lost next.log ≤ counted next.log + next.log.count (.offered .busOff false) := by
  have looped (top : Driver) : top.loopTop.log.count (.offered .busOff false) =
      top.log.count (.offered .busOff false) :=
    loop_top_tally top (· == .offered .busOff false) rfl
  cases moved with
  | frameRefused frame evicted canRx selecting full taken
  | errorRefused error count evicted canRx selecting counted full taken =>
      simp [isCounted, isLost, looped]
      omega
  | busOffGivenUp error count selecting counted many =>
      cases room : ctx.usbEcho.hasRoom with
      | true => simpa [isCounted, isLost, looped] using traced
      | false =>
          simp [isCounted, isLost, looped]
          omega
  | errorRefusedAlone error count selecting counted full empty
  | writtenRefused dequeued serial request frame transmitting full =>
      simp [isCounted, isLost, looped]
      omega
  | _ => simpa [isCounted, isLost, looped, Driver.panic] using traced

/-- The state and the event before a step that loses a frame without counting it. -/
def Loses (platform : Platform) (s : System) : Firmware.Event → Prop
  | .driver (.frame _) => s.driver.phase = .selecting ∧ s.ctx.canRx.hasRoom = false
  | .driver (.error _ sleeping) =>
      s.driver.phase = .selecting ∧ platform.addU32 s.driver.canErrorCount 1 ≠ none ∧
        s.ctx.usbEcho.hasRoom = false ∧
        if sleeping then maxBusOffRetries.toUInt32 ≤ s.ctx.service.busOffCount
        else s.ctx.canRx.queued ≠ []
  | _ => False

instance (s : System) (event : Firmware.Event) : Decidable (Loses platform s event) := by
  unfold Loses
  split <;> infer_instance

theorem move_lost (s next : System) (event : Firmware.Event)
    (moved : Move platform s event next) :
    lost next.driver.log = lost s.driver.log + if Loses platform s event then 1 else 0 := by
  cases moved with
  | driver event driver ctx moved =>
      cases moved with
      | frameQueued frame selecting room => simp [isLost, Loses, room]
      | frameRefused frame evicted canRx selecting full taken =>
          simp [isLost, Loses, selecting, full]
      | errorPanic error sleeping selecting overflow =>
          simp [isLost, Loses, overflow, Driver.panic]
      | busOffRetry error count delayMs selecting counted few delay =>
          simp [isLost, Loses, few]
      | busOffGivenUp error count selecting counted many =>
          have limit := UInt32.not_lt.mp many
          cases room : s.ctx.usbEcho.hasRoom with
          | true => simp [isLost, Loses, room]
          | false => simp [isLost, Loses, selecting, counted, room, limit]
      | errorQueued error count selecting counted room => simp [isLost, Loses, room]
      | errorRefused error count evicted canRx selecting counted full taken =>
          have front := Channel.try_receive_some _ _ _ taken
          simp [isLost, Loses, selecting, counted, full, front.1]
      | errorRefusedAlone error count selecting counted full empty =>
          simp [isLost, Loses, empty]
      | _ => simp [isLost, Loses, Driver.panic]
  | _ => simp [Loses]

structure Balanced (s : System) : Prop where
  total : tried s.driver.log = s.usbTx.taken.length + waitingFrames s.ctx +
    counted s.driver.log + lost s.driver.log
  counter : s.ctx.service.droppedRx.toNat = counted s.driver.log % 2 ^ 32

theorem boot_balanced (config : CanConfig) : Balanced (boot config) := ⟨rfl, rfl⟩

theorem move_balanced (s next : System) (event : Firmware.Event)
    (moved : Move platform s event next) (balanced : Balanced s) : Balanced next := by
  have before := balanced.total
  cases moved with
  | driver event driver ctx moved =>
      have total := transition_total s.driver driver s.ctx ctx event moved
      constructor
      · change tried driver.log = s.usbTx.taken.length + waitingFrames ctx +
          counted driver.log + lost driver.log
        omega
      · exact transition_counter s.driver driver s.ctx ctx event moved balanced.counter
  | tookRx frame canRx selecting taken =>
      have one := queued_after_receive _ _ _ taken
      refine ⟨?_, balanced.counter⟩
      simp only [waitingFrames, UsbTx.startWrite, List.length_append, List.length_singleton]
        at before ⊢
      omega
  | tookEcho frame usbEcho selecting taken =>
      have one := queued_after_receive _ _ _ taken
      refine ⟨?_, balanced.counter⟩
      simp only [waitingFrames, UsbTx.startWrite, List.length_append, List.length_singleton]
        at before ⊢
      omega
  | _ => exact ⟨before, balanced.counter⟩

def Conserved (s : System) : Prop :=
  tried s.driver.log ≡ s.usbTx.taken.length + s.ctx.canRx.queued.length +
    s.ctx.usbEcho.queued.length + s.ctx.service.droppedRx.toNat [MOD 2 ^ 32]

theorem conserved_iff_none_lost (s : System) (balanced : Balanced s)
    (few : lost s.driver.log < 2 ^ 32) : Conserved s ↔ lost s.driver.log = 0 := by
  have total := balanced.total
  have counter := balanced.counter
  unfold Conserved Nat.ModEq waitingFrames at *
  constructor
  · intro same
    omega
  · intro kept
    omega

theorem losing_step (s : System) (event : Firmware.Event) (loses : Loses platform s event) :
    ∃ next, step platform s event = some next := by
  unfold Loses at loses
  split at loses
  · rename_i frame
    have read : CanDriver.step platform s.driver s.ctx (.frame frame) =
        some (readOk s.driver s.ctx frame) := by
      simp only [CanDriver.step, loses.1]
    exact ⟨_, Option.map_eq_some_iff.mpr ⟨_, read, rfl⟩⟩
  · rename_i error sleeping
    exact error_enabled platform s error sleeping loses.1
  · exact False.elim loses

/-- In every run, the law holds in every state exactly if no step loses a frame. -/
theorem conserved_iff_no_loss (platform : Platform) (config : CanConfig)
    (events : List Firmware.Event) :
    Machine.Always (step platform) Conserved (boot config) events ↔
      Machine.Along (step platform) (fun s event => ¬ Loses platform s event) (boot config)
        events := by
  apply move_always_iff_along (fun s event => ¬ Loses platform s event)
    (fun s => Balanced s ∧ lost s.driver.log = 0) Conserved
  · rintro s ⟨balanced, kept⟩
    exact (conserved_iff_none_lost s balanced (by omega)).mpr kept
  · rintro s event next ⟨balanced, kept⟩ keeps moved
    refine ⟨move_balanced s next event moved balanced, ?_⟩
    rw [move_lost s next event moved, kept, if_neg keeps]
  · rintro s event _ ⟨balanced, kept⟩ loses
    -- The first loss leaves one frame unaccounted, too few to wrap the counter.
    have losing := not_not.mp loses
    obtain ⟨next, stepped⟩ := losing_step s event losing
    refine ⟨next, stepped, ?_⟩
    intro moved conserved
    have one : lost next.driver.log = 1 := by
      rw [move_lost s next event moved, kept, if_pos losing]
    have zero := (conserved_iff_none_lost next (move_balanced s next event moved balanced)
      (by omega)).mp conserved
    omega
  · exact ⟨boot_balanced config, rfl⟩

/-- Thirty-three frames read while `usb_tx_task` takes none: the last one is counted,
the one evicted for it is not. -/
theorem evicted_frame_uncounted :
    ∃ final, Machine.run (step (Platform.embassy true)) (boot resetConfig)
        (bringUp ++ List.replicate 33 (.driver (.frame Translation.sampleFrame))) = some final ∧
      tried final.driver.log = 33 ∧ final.usbTx.taken.length = 0 ∧
      final.ctx.canRx.queued.length = 31 ∧ final.ctx.usbEcho.queued.length = 0 ∧
      final.ctx.service.droppedRx = 1 ∧ ¬ Conserved final := by
  refine ⟨_, rfl, by decide, by decide, by decide, by decide, by decide, ?_⟩
  unfold Conserved
  decide

end NginLink.Accounting
