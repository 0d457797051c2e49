import NginLink.DriverSteps
import NginLink.Firmware

/-!
What one step of the whole firmware can do. `Sound` is what every reachable
state has and every inversion needs: the handler still has the configuration of
`build_usb_stack`, and the driver is between two iterations.
-/

namespace NginLink.Firmware

open AppContext BoundedChannel BspCan CanDriver CanProtocol ControlHandler GsUsbTypes UsbTasks

variable {platform : Platform}

structure Sound (s : System) : Prop where
  configured : Configured s.handler
  settled : s.driver.overflowPending = false

theorem boot_sound (config : CanConfig) : Sound (boot config) :=
  ⟨rfl, rfl⟩

inductive Move (platform : Platform) (s : System) : Event → System → Prop where
  | requested (req payload cmd) (handler : GsUsbControlHandler Context)
      (asks : requestedCmd req payload = some cmd) (configured : Configured handler) :
      Move platform s (.controlOut req payload)
        { s with
          handler, ctx := s.ctx.sendCmd cmd
          controls := s.controls ++ [⟨req, payload, some .accepted, s.ctx.canCmd.hasRoom⟩] }
  | answered (req payload answer) (handler : GsUsbControlHandler Context)
      (asks : requestedCmd req payload = none) (configured : Configured handler) :
      Move platform s (.controlOut req payload)
        { s with
          handler
          controls := s.controls ++ [⟨req, payload, answer, s.ctx.canCmd.hasRoom⟩] }
  | queried (req buf) : Move platform s (.controlIn req buf) s
  | outEnabled : Move platform s .epOutEnabled
      { s with usbRx := { s.usbRx with enabled := true } }
  | inEnabled (disabled : s.usbTx.phase = .disabled) : Move platform s .epInEnabled
      { s with usbTx := { s.usbTx with phase := .selecting } }
  | message (packet) (enabled : s.usbRx.enabled = true)
      (whole : GsTxMsg.layout.size ≤ packet.bytes.length) :
      Move platform s (.bulkOut packet)
        { s with
          usbRx := { s.usbRx with
            buf := overwrite s.usbRx.buf packet
            messages := s.usbRx.messages ++ [⟨decodeMsg (overwrite s.usbRx.buf packet),
              s.ctx.service.started, s.ctx.canCmd.hasRoom⟩] }
          ctx := s.ctx.sendCmd
            (.transmit (parseTxMsg (decodeMsg (overwrite s.usbRx.buf packet)))) }
  | short (packet) (enabled : s.usbRx.enabled = true)
      (partly : packet.bytes.length < GsTxMsg.layout.size) :
      Move platform s (.bulkOut packet)
        { s with usbRx := { s.usbRx with buf := overwrite s.usbRx.buf packet } }
  | outError (buf) (enabled : s.usbRx.enabled = true) : Move platform s (.bulkOutError buf)
      { s with usbRx := { s.usbRx with buf } }
  | driver (event driver ctx) (moved : Transition platform s.driver s.ctx event driver ctx) :
      Move platform s (.driver event) { s with driver, ctx }
  | tookRx (frame canRx) (selecting : s.usbTx.phase = .selecting)
      (taken : s.ctx.canRx.tryReceive = some (frame, canRx)) :
      Move platform s .takeRx
        { s with
          usbTx := s.usbTx.startWrite .canRx (toHostFrame frame)
          ctx := { s.ctx with canRx } }
  | tookEcho (frame usbEcho) (selecting : s.usbTx.phase = .selecting)
      (taken : s.ctx.usbEcho.tryReceive = some (frame, usbEcho)) :
      Move platform s .takeEcho
        { s with usbTx := s.usbTx.startWrite .usbEcho frame, ctx := { s.ctx with usbEcho } }
  | wrote (bytes) (writing : s.usbTx.phase = .writing bytes) :
      Move platform s .writeDone { s with usbTx := { s.usbTx with phase := .selecting } }
  | mailboxSent (index) (held : index < s.driver.can.mailboxes.length)
      (transmits : s.driver.can.transmits = true) :
      Move platform s (.mailboxSent index)
        { s with driver := { s.driver with can := s.driver.can.sent index } }
  | ticked (ms) :
      Move platform s (.tick ms) { s with ctx := { s.ctx with clockMs := s.ctx.clockMs + ms } }

-- A request that asks for a command is answered Accepted.
theorem requested_accepted (handler : GsUsbControlHandler Context) (ctx : Context) (req : Request)
    (payload : List UInt8) (cmd : CanDriverCmd) (asks : requestedCmd req payload = some cmd) :
    (handler.controlOut ctx req payload).2.2 = some .accepted := by
  unfold requestedCmd at asks
  unfold GsUsbControlHandler.controlOut
  split at asks
  · simp at asks
  · rename_i vendor
    simp only [vendor, ↓reduceIte]
    split at asks
    · rename_i timing
      simp [timing]
    · rename_i other
      split at asks
      · rename_i mode
        have notTiming : gsUsbBreqMode ≠ gsUsbBreqBittiming := by decide
        have notFormat : gsUsbBreqMode ≠ gsUsbBreqHostFormat := by decide
        have notTermination : gsUsbBreqMode ≠ gsUsbBreqSetTermination := by decide
        simp [mode, notTiming, notFormat, notTermination]
      · simp at asks

theorem step_move (s next : System) (event : Event) (sound : Sound s)
    (stepped : step platform s event = some next) : Move platform s event next := by
  cases event with
  | controlOut req payload =>
      cases stepped
      have effect := control_out_effect s.handler s.ctx req payload sound.configured
      unfold controlOut
      cases asks : requestedCmd req payload with
      | none =>
          rw [asks, Option.elim_none] at effect
          simp only [effect.1]
          exact .answered req payload _ _ asks effect.2
      | some cmd =>
          rw [asks, Option.elim_some] at effect
          simp only [effect.1, requested_accepted s.handler s.ctx req payload cmd asks]
          exact .requested req payload cmd _ asks effect.2
  | controlIn req buf =>
      cases stepped
      exact .queried req buf
  | epOutEnabled =>
      cases stepped
      exact .outEnabled
  | epInEnabled =>
      simp only [step] at stepped
      split at stepped
      · rename_i disabled
        cases stepped
        exact .inEnabled disabled
      · simp at stepped
  | bulkOut packet =>
      simp only [step] at stepped
      split at stepped
      · rename_i enabled
        cases stepped
        by_cases whole : GsTxMsg.layout.size ≤ packet.bytes.length
        · simp only [readPacket, whole, ↓reduceIte, Channel.try_send_sent]
          exact .message packet enabled whole
        · simp only [readPacket, whole, ↓reduceIte]
          exact .short packet enabled (Nat.lt_of_not_le whole)
      · simp at stepped
  | bulkOutError buf =>
      simp only [step] at stepped
      split at stepped
      · rename_i enabled
        cases stepped
        exact .outError buf enabled
      · simp at stepped
  | driver event =>
      obtain ⟨⟨driver, ctx⟩, moved, rfl⟩ := Option.map_eq_some_iff.mp stepped
      exact .driver event driver ctx
        (step_transition s.driver s.ctx event (driver, ctx) sound.settled moved)
  | takeRx =>
      obtain ⟨⟨usbTx, ctx⟩, took, rfl⟩ := Option.map_eq_some_iff.mp stepped
      unfold receiveRx at took
      split at took
      · rename_i selecting
        obtain ⟨⟨frame, canRx⟩, taken, same⟩ := Option.map_eq_some_iff.mp took
        cases same
        rw [take_frame_eq]
        exact .tookRx frame canRx selecting taken
      · simp at took
  | takeEcho =>
      obtain ⟨⟨usbTx, ctx⟩, took, rfl⟩ := Option.map_eq_some_iff.mp stepped
      unfold receiveEcho at took
      split at took
      · rename_i selecting
        obtain ⟨⟨frame, usbEcho⟩, taken, same⟩ := Option.map_eq_some_iff.mp took
        cases same
        exact .tookEcho frame usbEcho selecting taken
      · simp at took
  | writeDone =>
      obtain ⟨usbTx, ended, rfl⟩ := Option.map_eq_some_iff.mp stepped
      unfold endWrite at ended
      split at ended
      · rename_i bytes writing
        cases ended
        exact .wrote bytes writing
      · simp at ended
  | mailboxSent index =>
      simp only [step] at stepped
      split at stepped
      · rename_i ready
        cases stepped
        exact .mailboxSent index ready.1 ready.2
      · simp at stepped
  | tick ms =>
      cases stepped
      exact .ticked ms

theorem error_enabled (platform : Platform) (s : System) (error : BusError) (sleeping : Bool)
    (selecting : s.driver.phase = .selecting) :
    ∃ next, step platform s (.driver (.error error sleeping)) = some next := by
  have read : CanDriver.step platform s.driver s.ctx (.error error sleeping) =
      some (readErr platform s.driver s.ctx error sleeping) := by
    simp only [CanDriver.step, selecting]
  exact ⟨_, Option.map_eq_some_iff.mpr ⟨_, read, rfl⟩⟩

theorem command_enabled (platform : Platform) (s : System) (cmd : CanDriverCmd)
    (rest : Channel CanDriverCmd 16)
    (waiting : s.driver.isWaiting = true) (taken : s.ctx.canCmd.tryReceive = some (cmd, rest)) :
    ∃ next, step platform s (.driver .command) = some next := by
  apply Option.isSome_iff_exists.mp
  have phase : s.driver.phase = .selecting ∨ s.driver.phase = .receiving := by
    simpa [Driver.isWaiting] using waiting
  rcases phase with selecting | receiving
  · simp only [Firmware.step, CanDriver.step, selecting, taken, Option.map_some, Option.isSome_some]
  · simp only [Firmware.step, CanDriver.step, receiving, taken, Option.map_some, Option.isSome_some]

theorem move_sound (s next : System) (event : Event) (sound : Sound s)
    (moved : Move platform s event next) : Sound next := by
  cases moved with
  | requested req payload cmd handler asks configured => exact ⟨configured, sound.settled⟩
  | answered req payload answer handler asks configured => exact ⟨configured, sound.settled⟩
  | driver event driver ctx moved =>
      exact ⟨sound.configured,
        transition_settled s.driver driver s.ctx ctx event moved sound.settled⟩
  | _ => exact ⟨sound.configured, sound.settled⟩

/-- The rule for invariants of the firmware: one case for each move, under what is
assumed of the steps of the run. -/
theorem run_move_invariant_along (allowed : System → Event → Prop) (invariant : System → Prop)
    (preserved : ∀ s event next, Sound s → invariant s → allowed s event →
      Move platform s event next → invariant next)
    (config : CanConfig) (events : List Event) (final : System)
    (permitted : Machine.Along (step platform) allowed (boot config) events)
    (finished : Machine.run (step platform) (boot config) events = some final)
    (initial : invariant (boot config)) : invariant final := by
  have both := Machine.run_invariant_along (step platform) allowed
    (fun s => Sound s ∧ invariant s)
    (fun s event next holds may stepped =>
      have moved := step_move s next event holds.1 stepped
      ⟨move_sound s next event holds.1 moved, preserved s event next holds.1 holds.2 may moved⟩)
    (boot config) final events permitted finished ⟨boot_sound config, initial⟩
  exact both.2

theorem run_move_invariant (invariant : System → Prop)
    (preserved : ∀ s event next, Sound s → invariant s → Move platform s event next →
      invariant next)
    (config : CanConfig) (events : List Event) (final : System)
    (finished : Machine.run (step platform) (boot config) events = some final)
    (initial : invariant (boot config)) : invariant final :=
  run_move_invariant_along (fun _ _ => True) invariant
    (fun s event next sound holds _ => preserved s event next sound holds)
    config events final (Machine.along_true (step platform) (boot config) events) finished initial

theorem run_sound (config : CanConfig) (events : List Event) (final : System)
    (finished : Machine.run (step platform) (boot config) events = some final) : Sound final :=
  run_move_invariant Sound (fun s event next sound _ moved => move_sound s next event sound moved)
    config events final finished (boot_sound config)

theorem run_move_history (invariant : List Event → System → Prop)
    (preserved : ∀ past s event next, invariant past s → Move platform s event next →
      invariant (past ++ [event]) next)
    (config : CanConfig) (events : List Event) (final : System)
    (finished : Machine.run (step platform) (boot config) events = some final)
    (initial : invariant [] (boot config)) : invariant events final := by
  have both := Machine.run_history_invariant (step platform)
    (fun past s => Sound s ∧ invariant past s)
    (by
      rintro past s event next ⟨sound, holds⟩ stepped
      have moved := step_move s next event sound stepped
      exact ⟨move_sound s next event sound moved, preserved past s event next holds moved⟩)
    [] (boot config) final events finished ⟨boot_sound config, initial⟩
  exact both.2

theorem run_move_establishes (allowed : System → Event → Prop) (invariant goal : System → Prop)
    (mark : Event)
    (preserved : ∀ s event next, invariant s → Move platform s event next → invariant next)
    (establishes : ∀ s next, invariant s → allowed s mark → Move platform s mark next →
      goal next)
    (keeps : ∀ s event next, goal s → Move platform s event next → goal next)
    (config : CanConfig) (events : List Event) (final : System)
    (permitted : Machine.Along (step platform) allowed (boot config) events)
    (finished : Machine.run (step platform) (boot config) events = some final)
    (initial : invariant (boot config)) (marked : mark ∈ events) : goal final :=
  Machine.run_establishes (step platform) allowed (fun s => Sound s ∧ invariant s) goal mark
    (fun s event next holds _ stepped =>
      have moved := step_move s next event holds.1 stepped
      ⟨move_sound s next event holds.1 moved, preserved s event next holds.2 moved⟩)
    (fun s next holds may stepped =>
      establishes s next holds.2 may (step_move s next mark holds.1 stepped))
    (fun s event next holds reached stepped =>
      keeps s event next reached (step_move s next event holds.1 stepped))
    (boot config) final events permitted finished ⟨boot_sound config, initial⟩ marked

/-- The rule for a property that exactly the steps outside `allowed` break. -/
theorem move_always_iff_along (allowed : System → Event → Prop) (invariant holds : System → Prop)
    (current : ∀ s, invariant s → holds s)
    (preserved : ∀ s event next, invariant s → allowed s event → Move platform s event next →
      invariant next)
    (broken : ∀ s event, Sound s → invariant s → ¬ allowed s event →
      ∃ next, step platform s event = some next ∧ (Move platform s event next → ¬ holds next))
    (config : CanConfig) (events : List Event) (initial : invariant (boot config)) :
    Machine.Always (step platform) holds (boot config) events ↔
      Machine.Along (step platform) allowed (boot config) events := by
  apply Machine.always_iff_along (step platform) allowed (fun s => Sound s ∧ invariant s) holds
  · rintro s ⟨_, known⟩
    exact current s known
  · rintro s event next ⟨sound, known⟩ may stepped
    have moved := step_move s next event sound stepped
    exact ⟨move_sound s next event sound moved, preserved s event next known may moved⟩
  · rintro s event ⟨sound, known⟩ refused
    obtain ⟨next, stepped, breaks⟩ := broken s event sound known refused
    exact ⟨next, stepped, breaks (step_move s next event sound stepped)⟩
  · exact ⟨boot_sound config, initial⟩

end NginLink.Firmware
