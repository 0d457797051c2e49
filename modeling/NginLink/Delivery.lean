import NginLink.HostFrames
import NginLink.Quiescence

/-!
What the firmware owes the host and what became of it. Each received frame, each
transmission that returned `Ok` and each reported error is due to the host as one
frame. In every state the frames due are, as a multiset, those handed to the Bulk IN
endpoint, those waiting in the two channels, those a full channel refused and those
the driver evicted.
-/

namespace NginLink.Delivery

open AppContext BoundedChannel BspCan CanDriver CanProtocol CommandQueue DriverState Firmware
open GsUsbTypes HostFrames Lifecycle MessageStages Quiescence Reception TransmitLedger UsbTasks

def dueOf : Record → Option GsHostFrame
  | .frameRead frame => some (hostImage frame)
  | .outcome _ request outcome => if outcome.isOk then some (echoFrame request) else none
  | .errorRead error false => some (GsHostFrame.fromBusError error.toCanBusError)
  | .offered .busOff _ => some (GsHostFrame.fromControllerError .busOff)
  | _ => none

abbrev due (log : List Record) : List GsHostFrame := log.filterMap dueOf

def kept {α : Type} {capacity : Nat} (channel : Channel α capacity) : List α :=
  channel.queued ++ channel.refused

/-- Frames that have not reached `usb_tx_task`, or never will. -/
def undelivered (canRx : Channel CanFrame 32) (usbEcho : Channel GsHostFrame 16)
    (thrown : List CanFrame) : List GsHostFrame :=
  (kept canRx ++ thrown).map toHostFrame ++ kept usbEcho

def whereabouts (s : System) : List GsHostFrame :=
  s.usbTx.taken.map Prod.snd ++ undelivered s.ctx.canRx s.ctx.usbEcho (evicted s.driver.log)

@[simp] theorem due_loop_top (driver : Driver) : due driver.loopTop.log = due driver.log :=
  loop_top_view driver dueOf rfl

theorem kept_after_send {α : Type} {capacity : Nat} (channel : Channel α capacity) (value : α) :
    (kept (channel.trySend value).1).Perm (kept channel ++ [value]) := by
  unfold kept
  rw [Channel.try_send_queued, Channel.try_send_refused]
  cases channel.hasRoom with
  | true =>
      simp only [↓reduceIte, List.append_assoc]
      exact List.perm_append_comm.append_left channel.queued
  | false =>
      simp only [Bool.false_eq_true, ↓reduceIte, List.append_assoc]
      exact List.Perm.refl _

theorem kept_after_receive {α : Type} {capacity : Nat} (channel after : Channel α capacity)
    (value : α) (taken : channel.tryReceive = some (value, after)) :
    kept channel = value :: kept after := by
  obtain ⟨front, _, _, refused⟩ := Channel.try_receive_some channel after value taken
  rw [kept, kept, front, refused, List.cons_append]

section Channels
variable (canRx after : Channel CanFrame 32) (usbEcho : Channel GsHostFrame 16)
variable (thrown : List CanFrame)

theorem frame_offered (frame : CanFrame) :
    (undelivered (canRx.trySend frame).1 usbEcho thrown).Perm
      (undelivered canRx usbEcho thrown ++ [toHostFrame frame]) := by
  apply List.perm_iff_count.mpr
  intro value
  have one := ((kept_after_send canRx frame).map toHostFrame).count_eq value
  simp only [undelivered, List.map_append, List.count_append, List.map_singleton] at one ⊢
  omega

theorem report_offered (report : GsHostFrame) :
    (undelivered canRx (usbEcho.trySend report).1 thrown).Perm
      (undelivered canRx usbEcho thrown ++ [report]) := by
  rw [undelivered, undelivered, List.append_assoc]
  exact (kept_after_send usbEcho report).append_left _

theorem frame_evicted (frame : CanFrame) (taken : canRx.tryReceive = some (frame, after)) :
    (undelivered after usbEcho (thrown ++ [frame])).Perm (undelivered canRx usbEcho thrown) := by
  apply List.perm_iff_count.mpr
  intro value
  rw [undelivered, undelivered, kept_after_receive canRx after frame taken]
  simp only [List.map_append, List.map_cons, List.map_nil, List.count_append, List.count_cons,
    List.count_nil]
  omega

end Channels

variable {platform : Platform}

/-- A step of the driver that does not panic adds to the undelivered what it makes due. -/
theorem transition_due (driver next : Driver) (ctx after : Context) (event : CanDriver.Event)
    (moved : Transition platform driver ctx event next after)
    (running : next.phase ≠ .panicked) :
    ∃ frames, due next.log = due driver.log ++ frames ∧
      (undelivered after.canRx after.usbEcho (evicted next.log)).Perm
        (undelivered ctx.canRx ctx.usbEcho (evicted driver.log) ++ frames) := by
  cases moved with
  | frameQueued frame selecting room =>
      refine ⟨[hostImage frame], by simp [dueOf], ?_⟩
      simpa [evictedOf, hostImage] using frame_offered ctx.canRx ctx.usbEcho _ (toCanFrame frame)
  | frameRefused frame value canRx selecting full taken =>
      refine ⟨[hostImage frame], by simp [dueOf], ?_⟩
      have gone := frame_evicted _ canRx ctx.usbEcho (evicted driver.log) value taken
      simpa [evictedOf, hostImage] using gone.trans
        (frame_offered ctx.canRx ctx.usbEcho _ (toCanFrame frame))
  | busOffGivenUp error count selecting counted many =>
      refine ⟨[GsHostFrame.fromControllerError .busOff], by simp [dueOf], ?_⟩
      simpa [evictedOf] using report_offered ctx.canRx ctx.usbEcho (evicted driver.log) _
  | errorQueued error count selecting counted room =>
      refine ⟨[GsHostFrame.fromBusError error.toCanBusError], by simp [dueOf], ?_⟩
      simpa [evictedOf] using report_offered ctx.canRx ctx.usbEcho (evicted driver.log) _
  | errorRefusedAlone error count selecting counted full empty =>
      refine ⟨[GsHostFrame.fromBusError error.toCanBusError], by simp [dueOf], ?_⟩
      simpa [evictedOf] using report_offered ctx.canRx ctx.usbEcho (evicted driver.log) _
  | errorRefused error count value canRx selecting counted full taken =>
      refine ⟨[GsHostFrame.fromBusError error.toCanBusError], by simp [dueOf], ?_⟩
      have gone := frame_evicted ctx.canRx canRx
        (ctx.usbEcho.trySend (GsHostFrame.fromBusError error.toCanBusError)).1
        (evicted driver.log) value taken
      simpa [evictedOf] using gone.trans (report_offered ctx.canRx ctx.usbEcho _ _)
  | written dequeued serial request frame transmitting room =>
      refine ⟨[echoFrame request], by simp [dueOf, Outcome.isOk], ?_⟩
      simpa [evictedOf] using report_offered ctx.canRx ctx.usbEcho (evicted driver.log) _
  | writtenRefused dequeued serial request frame transmitting full =>
      refine ⟨[echoFrame request], by simp [dueOf, Outcome.isOk], ?_⟩
      simpa [evictedOf] using report_offered ctx.canRx ctx.usbEcho (evicted driver.log) _
  | commandPanic | errorPanic => exact absurd rfl running
  | _ => exact ⟨[], by simp [dueOf, Outcome.isOk], by simp [evictedOf]⟩

/-- The frames due are those at their whereabouts, one for one. -/
def Delivered (s : System) : Prop :=
  s.driver.phase ≠ .panicked → (due s.driver.log).Perm (whereabouts s)

theorem move_delivered (s next : System) (event : Firmware.Event)
    (moved : Move platform s event next) (delivered : Delivered s) : Delivered next := by
  intro running
  cases moved with
  | driver event driver ctx moved =>
      -- What falls due is added to the log, and the same frames to those not yet delivered.
      have before := transition_running s.driver driver s.ctx ctx event moved
      obtain ⟨frames, added, grown⟩ :=
        transition_due s.driver driver s.ctx ctx event moved running
      have shifted := grown.append_left (s.usbTx.taken.map Prod.snd)
      rw [← List.append_assoc] at shifted
      exact added ▸ ((delivered before).append_right frames).trans shifted.symm
  | tookRx frame canRx selecting taken =>
      -- The frame goes from the channel to the endpoint, which changes the order only.
      refine (delivered running).trans (List.perm_iff_count.mpr ?_)
      intro value
      simp only [whereabouts, undelivered, UsbTx.startWrite,
        kept_after_receive s.ctx.canRx canRx frame taken, List.map_append, List.map_cons,
        List.map_nil, List.cons_append, List.count_append, List.count_cons, List.count_nil]
      omega
  | tookEcho frame usbEcho selecting taken =>
      refine (delivered running).trans (List.perm_iff_count.mpr ?_)
      intro value
      simp only [whereabouts, undelivered, UsbTx.startWrite,
        kept_after_receive s.ctx.usbEcho usbEcho frame taken, List.map_append, List.map_cons,
        List.map_nil, List.count_append, List.count_cons, List.count_nil]
      omega
  | _ => exact delivered running

theorem run_delivered (config : CanConfig) (events : List Firmware.Event) (final : System)
    (finished : Machine.run (step platform) (boot config) events = some final) : Delivered final :=
  run_move_invariant Delivered
    (fun s event next _ delivered moved => move_delivered s next event moved delivered)
    config events final finished (fun _ => List.Perm.refl [])

/-- In every run, as long as the driver has not panicked, nothing due to the host is lost
without trace, doubled or made up. -/
theorem due_frames_conserved (platform : Platform) (config : CanConfig)
    (events : List Firmware.Event) (final : System)
    (finished : Machine.run (step platform) (boot config) events = some final)
    (running : final.driver.phase ≠ .panicked) :
    (due final.driver.log).Perm
      (final.usbTx.taken.map Prod.snd ++
        ((final.ctx.canRx.queued ++ final.ctx.canRx.refused ++
          evicted final.driver.log).map toHostFrame ++
        (final.ctx.usbEcho.queued ++ final.ctx.usbEcho.refused))) := by
  exact run_delivered config events final finished running

theorem due_frames_conserved_all_kinds :
    ∃ final, Machine.run (step (Platform.embassy true)) (boot resetConfig) allKinds = some final ∧
      final.driver.phase ≠ .panicked ∧ (due final.driver.log).length = 3 ∧
      (final.usbTx.taken.map Prod.snd ++
        ((final.ctx.canRx.queued ++ final.ctx.canRx.refused ++
          evicted final.driver.log).map toHostFrame ++
        (final.ctx.usbEcho.queued ++ final.ctx.usbEcho.refused))).length = 3 := by
  obtain ⟨final, finished, running, three⟩ : ∃ final, Machine.run (step (Platform.embassy true))
      (boot resetConfig) allKinds = some final ∧ final.driver.phase ≠ .panicked ∧
      (due final.driver.log).length = 3 := ⟨_, rfl, by decide, by decide⟩
  have conserved := due_frames_conserved (Platform.embassy true) resetConfig allKinds final finished
    running
  exact ⟨final, finished, running, three, conserved.length_eq ▸ three⟩

theorem rest_settles (s : System) (reached : Reached s) (empty : s.ctx.canCmd.queued = [])
    (waiting : s.driver.isWaiting = true) :
    (tally s).outcomes.length = (queuedMessages s).length := by
  have idle : pending s.driver.phase = [] := by
    rcases waiting_phase s.driver waiting with phase | phase <;> rw [phase] <;> rfl
  have settled := ledger_idle s.driver reached.custody.ledger idle
  have received := Channel.received_eq_accepted s.ctx.canCmd empty
  have messages := congrArg List.length reached.queue.requests
  rw [List.length_map, ← received, ← reached.queue.taken] at messages
  rw [tally, tallyOf, settled, reached.custody.ledger.counted, ← messages]
  rfl

theorem settled_stage (tally : Tally) (number : Nat) (settled : number < tally.outcomes.length) :
    tally.stage number = .stored ∨ (tally.stage number).isFinal = true := by
  rw [stage_settled tally number _ (List.getElem?_eq_getElem settled)]
  cases tally.outcomes[number] with
  | echoed | echoDropped =>
      simp only [Tally.settledStage]
      split
      · exact Or.inl rfl
      · right
        split
        · rfl
        · split <;> rfl
  | _ => exact Or.inr rfl

/-- Whenever the firmware rests, each message of the host waits in a mailbox or has come to
its end, and each frame due to the host was handed to the endpoint, refused or evicted. -/
theorem rest_accounts_for_everything (platform : Platform) (config : CanConfig)
    (events : List Firmware.Event) (final : System)
    (finished : Machine.run (step platform) (boot config) events = some final)
    (rest : AtRest final) (running : final.driver.phase ≠ .panicked) :
    Quiescent final ∧
    (∀ number, number < (queuedMessages final).length →
      stage final number = .stored ∨ (stage final number).isFinal = true) ∧
    (due final.driver.log).Perm
      (final.usbTx.taken.map Prod.snd ++
        ((final.ctx.canRx.refused ++ evicted final.driver.log).map toHostFrame ++
          final.ctx.usbEcho.refused)) := by
  have reached := run_reached (boot config) final events finished (boot_reached config)
  obtain ⟨waiting, empty⟩ := rest.driver.resolve_left running
  refine ⟨⟨empty, rest.echoes, waiting, rest.usbTx⟩, ?_, ?_⟩
  · intro number present
    have settled := rest_settles final reached empty waiting
    exact settled_stage (tally final) number (settled ▸ present)
  · have conserved := run_delivered config events final finished running
    simpa [whereabouts, undelivered, kept, rest.frames, rest.echoes] using conserved

theorem rest_accounts_for_everything_silent_bus :
    ∃ final, Machine.run (step (Platform.embassy true)) (boot resetConfig) silentBus = some final ∧
      AtRest final ∧ final.driver.phase ≠ .panicked ∧ (queuedMessages final).length = 4 ∧
      (due final.driver.log).Perm
        (final.usbTx.taken.map Prod.snd ++
          ((final.ctx.canRx.refused ++ evicted final.driver.log).map toHostFrame ++
            final.ctx.usbEcho.refused)) := by
  obtain ⟨final, finished, rest, running, four⟩ : ∃ final, Machine.run
      (step (Platform.embassy true)) (boot resetConfig) silentBus = some final ∧ AtRest final ∧
      final.driver.phase ≠ .panicked ∧ (queuedMessages final).length = 4 :=
    ⟨_, rfl, ⟨Or.inr ⟨by decide, by decide⟩, by decide, by decide, by decide⟩, by decide,
      by decide⟩
  have everything := rest_accounts_for_everything (Platform.embassy true) resetConfig silentBus
    final finished rest running
  exact ⟨final, finished, rest, running, four, everything.2.2⟩

end NginLink.Delivery
