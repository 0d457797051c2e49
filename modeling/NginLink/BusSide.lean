import NginLink.FirmwareSteps
import NginLink.Progress

/-!
The CAN bus never waits for the host to read. `usb_tx_task` and the Bulk IN endpoint
only touch the two channels they empty, and all that the driver decides on is kept
elsewhere: neither the state of the controller nor a command, a mailbox, a delay or a
control answer depends on what the IN side does, or on whether it does anything.
-/

namespace NginLink.BusSide

open AppContext BoundedChannel BspCan CanDriver CanProtocol ControlHandler Firmware GsUsbTypes
open UsbTasks

def onInSide : Firmware.Event → Bool
  | .epInEnabled | .takeRx | .takeEcho | .writeDone => true
  | _ => false

/-- All of the driver and the statics but the log, the frames for the host and the count of
those refused. -/
structure DriverSide where
  can : Can
  isStarted : Bool
  canErrorCount : UInt32
  phase : Phase
  serials : Nat
  canCmd : Channel CanDriverCmd 16
  started : Bool
  errorCount : UInt32
  busOffCount : UInt32
  clockMs : Nat

def driverSide (driver : Driver) (ctx : Context) : DriverSide :=
  { can := driver.can
    isStarted := driver.isStarted
    canErrorCount := driver.canErrorCount
    phase := driver.phase
    serials := driver.serials
    canCmd := ctx.canCmd
    started := ctx.service.started
    errorCount := ctx.service.errorCount
    busOffCount := ctx.service.busOffCount
    clockMs := ctx.clockMs }

/-- What a whole system shows of itself on the bus and at the control endpoint. -/
structure Shown where
  handler : GsUsbControlHandler Context
  controls : List ControlRecord
  usbRx : UsbRx
  driver : DriverSide

def shown (s : System) : Shown :=
  { handler := s.handler, controls := s.controls, usbRx := s.usbRx
    driver := driverSide s.driver s.ctx }

def DriverSide.idle (side : DriverSide) : DriverSide :=
  { side with phase := if side.isStarted then .selecting else .receiving }

theorem loop_top_side (driver : Driver) (ctx : Context) :
    driverSide driver.loopTop ctx = (driverSide driver ctx).idle := by
  unfold Driver.loopTop DriverSide.idle driverSide
  split
  · rename_i started
    simp [started]
  · rename_i stopped
    simp [stopped]

-- Whether a frame is evicted does not show.
theorem end_iteration_side (driver : Driver) (ctx : Context) :
    driverSide (endIteration driver ctx).1 (endIteration driver ctx).2 =
      (driverSide driver ctx).idle := by
  unfold endIteration
  split
  · split
    · exact loop_top_side _ _
    · exact loop_top_side _ _
  · exact loop_top_side _ _

section Twins
variable (platform : Platform) (driver twin : Driver) (ctx other : Context)
variable (same : driverSide twin other = driverSide driver ctx)
include same

theorem end_iteration_twin :
    driverSide (endIteration twin other).1 (endIteration twin other).2 =
      driverSide (endIteration driver ctx).1 (endIteration driver ctx).2 := by
  rw [end_iteration_side, end_iteration_side, same]

theorem loop_top_twin : driverSide twin.loopTop other = driverSide driver.loopTop ctx := by
  rw [loop_top_side, loop_top_side, same]

theorem transmit_twin (request : CanTxRequest) :
    driverSide (transmitCmd platform twin other request).1
        (transmitCmd platform twin other request).2 =
      driverSide (transmitCmd platform driver ctx request).1
        (transmitCmd platform driver ctx request).2 := by
  have fields := same
  simp only [driverSide, DriverSide.mk.injEq] at fields
  unfold transmitCmd
  split
  · simp [driverSide, Driver.panic, fields]
  · split
    · apply end_iteration_twin
      simp [driverSide, Driver.note, fields]
    · simp [driverSide, Driver.note, fields]

theorem started_cmd_twin (cmd : CanDriverCmd) :
    driverSide (startedCmd platform twin other cmd).1 (startedCmd platform twin other cmd).2 =
      driverSide (startedCmd platform driver ctx cmd).1
        (startedCmd platform driver ctx cmd).2 := by
  have fields := same
  simp only [driverSide, DriverSide.mk.injEq] at fields
  cases cmd with
  | stop => simp [startedCmd, driverSide, CanService.markStopped, fields]
  | start loopback listenOnly oneShot => simp [startedCmd, driverSide, fields]
  | setBitTiming timing =>
      simp only [startedCmd, fields]
      split <;> simp [driverSide, Driver.panic, fields]
  | transmit request => exact transmit_twin platform driver twin ctx other same request

theorem stopped_cmd_twin (cmd : CanDriverCmd) :
    driverSide (stoppedCmd platform twin other cmd).1 (stoppedCmd platform twin other cmd).2 =
      driverSide (stoppedCmd platform driver ctx cmd).1
        (stoppedCmd platform driver ctx cmd).2 := by
  have fields := same
  simp only [driverSide, DriverSide.mk.injEq] at fields
  cases cmd with
  | stop => exact loop_top_twin driver twin ctx other same
  | start loopback listenOnly oneShot =>
      simp [stoppedCmd, driverSide, CanService.markStarted, fields]
  | setBitTiming timing =>
      simp only [stoppedCmd, fields]
      split
      · apply loop_top_twin
        simp [driverSide, fields]
      · simp [driverSide, Driver.panic, fields]
  | transmit request =>
      simp only [stoppedCmd]
      apply loop_top_twin
      simp [driverSide, Driver.note, fields]

theorem read_ok_twin (frame : Frame) :
    driverSide (readOk twin other frame).1 (readOk twin other frame).2 =
      driverSide (readOk driver ctx frame).1 (readOk driver ctx frame).2 := by
  have idles : ∀ driver ctx, driverSide (readOk driver ctx frame).1 (readOk driver ctx frame).2 =
      (driverSide driver ctx).idle := by
    intro driver ctx
    unfold readOk
    simp only
    split <;> exact end_iteration_side _ _
  rw [idles, idles, same]

/-- A full USB_ECHO_CHANNEL costs a report, never a step. -/
theorem bus_off_twin :
    driverSide (busOff twin other).1 (busOff twin other).2 =
      driverSide (busOff driver ctx).1 (busOff driver ctx).2 := by
  have fields := same
  simp only [driverSide, DriverSide.mk.injEq] at fields
  unfold busOff
  simp only [fields]
  split
  -- A retry offers nothing to the host, so only the notice of the other branch needs the channel.
  · split <;> simp [driverSide, Driver.panic, fields]
  · apply end_iteration_twin
    simp [driverSide, Driver.note, fields]

theorem read_err_twin (error : BusError) (sleeping : Bool) :
    driverSide (readErr platform twin other error sleeping).1
        (readErr platform twin other error sleeping).2 =
      driverSide (readErr platform driver ctx error sleeping).1
        (readErr platform driver ctx error sleeping).2 := by
  have fields := same
  simp only [driverSide, DriverSide.mk.injEq] at fields
  unfold readErr
  simp only [Driver.note, fields]
  split
  · simp [driverSide, Driver.panic, fields]
  · split
    · apply bus_off_twin
      simp [driverSide]
    · split <;> split <;> apply end_iteration_twin <;> simp [driverSide, CanService.countDropped]

theorem written_twin (serial : Nat) (request : CanTxRequest) (frame : Frame)
    (dequeued : Option Nat) :
    driverSide (written twin other serial request frame dequeued).1
        (written twin other serial request frame dequeued).2 =
      driverSide (written driver ctx serial request frame dequeued).1
        (written driver ctx serial request frame dequeued).2 := by
  have fields := same
  simp only [driverSide, DriverSide.mk.injEq] at fields
  unfold written
  simp only
  split <;> split <;> apply end_iteration_twin <;>
    simp [driverSide, Driver.note, fields, CanService.countDropped]

theorem driver_step_twin (event : CanDriver.Event) (next : Driver × Context)
    (stepped : CanDriver.step platform driver ctx event = some next) :
    ∃ answer, CanDriver.step platform twin other event = some answer ∧
      driverSide answer.1 answer.2 = driverSide next.1 next.2 := by
  have fields := same
  simp only [driverSide, DriverSide.mk.injEq] at fields
  have phase : twin.phase = driver.phase := fields.2.2.2.1
  have channel : other.canCmd = ctx.canCmd := fields.2.2.2.2.2.1
  unfold CanDriver.step at stepped
  split at stepped
  · rename_i selecting
    obtain ⟨⟨cmd, canCmd⟩, taken, rfl⟩ := Option.map_eq_some_iff.mp stepped
    refine ⟨_, by
      simp only [CanDriver.step, phase, selecting, channel, taken, Option.map_some]
      rfl, ?_⟩
    apply started_cmd_twin
    simp [driverSide, Driver.note, fields]
  · rename_i receiving
    obtain ⟨⟨cmd, canCmd⟩, taken, rfl⟩ := Option.map_eq_some_iff.mp stepped
    refine ⟨_, by
      simp only [CanDriver.step, phase, receiving, channel, taken, Option.map_some]
      rfl, ?_⟩
    apply stopped_cmd_twin
    simp [driverSide, Driver.note, fields]
  · rename_i frame selecting
    cases stepped
    exact ⟨_, by simp only [CanDriver.step, phase, selecting],
      read_ok_twin driver twin ctx other same frame⟩
  · rename_i error sleeping selecting
    cases stepped
    exact ⟨_, by simp only [CanDriver.step, phase, selecting],
      read_err_twin platform driver twin ctx other same error sleeping⟩
  · rename_i cmd inLoop enabling
    cases stepped
    refine ⟨_, by simp only [CanDriver.step, phase, enabling]; rfl, ?_⟩
    unfold commandEnabled
    simp only
    split
    · apply end_iteration_twin
      simp [driverSide, Driver.note, fields]
    · apply loop_top_twin
      simp [driverSide, Driver.note, fields]
  · rename_i serial request frame dequeued transmitting
    cases stepped
    exact ⟨_, by simp only [CanDriver.step, phase, transmitting],
      written_twin driver twin ctx other same serial request frame dequeued⟩
  · rename_i serial request frame transmitting
    cases stepped
    refine ⟨_, by simp only [CanDriver.step, phase, transmitting]; rfl, ?_⟩
    apply end_iteration_twin
    simp [driverSide, Driver.note, fields]
  · rename_i delayMs recovering
    cases stepped
    refine ⟨_, by simp only [CanDriver.step, phase, recovering]; rfl, ?_⟩
    simp [driverSide, Driver.note, fields]
  · rename_i delayMs delaying
    cases stepped
    refine ⟨_, by simp only [CanDriver.step, phase, delaying]; rfl, ?_⟩
    apply end_iteration_twin
    simp [driverSide, Driver.note, fields]
  · cases stepped

end Twins

theorem control_out_twin (handler : GsUsbControlHandler Context) (ctx other : Context)
    (req : Request) (buf : List UInt8) :
    (handler.controlOut other req buf).1 = (handler.controlOut ctx req buf).1 ∧
      (handler.controlOut other req buf).2.2 = (handler.controlOut ctx req buf).2.2 := by
  unfold GsUsbControlHandler.controlOut
  repeat' split
  all_goals exact ⟨rfl, rfl⟩

variable {platform : Platform}

theorem step_unseen (s next : System) (event : Firmware.Event) (inSide : onInSide event = true)
    (moved : Move platform s event next) : shown next = shown s := by
  cases moved with
  | inEnabled | tookRx | tookEcho | wrote => rfl
  | _ => cases inSide

theorem step_twin (s twin next : System) (event : Firmware.Event) (sound : Sound s)
    (same : shown twin = shown s) (outside : onInSide event = false)
    (stepped : step platform s event = some next) :
    ∃ answer, step platform twin event = some answer ∧ shown answer = shown next := by
  have fields := same
  simp only [shown, Shown.mk.injEq] at fields
  obtain ⟨handler, controls, usbRx, driver⟩ := fields
  have inner := driver
  simp only [driverSide, DriverSide.mk.injEq] at inner
  have channel : twin.ctx.canCmd = s.ctx.canCmd := inner.2.2.2.2.2.1
  cases event with
  | controlOut req payload =>
      cases stepped
      have effect := control_out_effect s.handler s.ctx req payload sound.configured
      have twinEffect := control_out_effect s.handler twin.ctx req payload sound.configured
      obtain ⟨sameHandler, sameAnswer⟩ := control_out_twin s.handler s.ctx twin.ctx req payload
      refine ⟨_, rfl, ?_⟩
      have room : twin.ctx.canCmd.hasRoom = s.ctx.canCmd.hasRoom := by rw [channel]
      simp only [shown, controlOut, handler, controls, usbRx, sameHandler, sameAnswer, room,
        effect.1, twinEffect.1, Shown.mk.injEq, true_and]
      cases requestedCmd req payload with
      | none => exact driver
      | some cmd => simp [driverSide, Context.sendCmd, inner]
  | controlIn req buf =>
      cases stepped
      exact ⟨twin, rfl, same⟩
  | epOutEnabled =>
      cases stepped
      exact ⟨_, rfl, by simp [shown, handler, controls, usbRx, driver]⟩
  | bulkOut packet =>
      simp only [Firmware.step] at stepped
      split at stepped
      · rename_i enabled
        cases stepped
        refine ⟨_, by simp only [Firmware.step, usbRx, enabled, ↓reduceIte]; rfl, ?_⟩
        unfold readPacket
        split <;> simp [shown, driverSide, handler, controls, inner]
      · cases stepped
  | bulkOutError buf =>
      simp only [Firmware.step] at stepped
      split at stepped
      · rename_i enabled
        cases stepped
        refine ⟨_, by simp only [Firmware.step, usbRx, enabled, ↓reduceIte]; rfl, ?_⟩
        simp [shown, handler, controls, driver, enabled]
      · cases stepped
  | driver event =>
      obtain ⟨next, moved, rfl⟩ := Option.map_eq_some_iff.mp stepped
      obtain ⟨answer, answered, agrees⟩ :=
        driver_step_twin platform s.driver twin.driver s.ctx twin.ctx driver event next moved
      refine ⟨_, Option.map_eq_some_iff.mpr ⟨answer, answered, rfl⟩, ?_⟩
      simp [shown, handler, controls, usbRx, agrees]
  | mailboxSent index =>
      simp only [Firmware.step] at stepped
      split at stepped
      · rename_i held
        cases stepped
        refine ⟨_, by simp only [Firmware.step, inner, held]; rfl, ?_⟩
        simp [shown, driverSide, handler, controls, usbRx, inner]
      · cases stepped
  | tick ms =>
      cases stepped
      exact ⟨_, rfl, by simp [shown, driverSide, handler, controls, usbRx, inner]⟩
  | epInEnabled | takeRx | takeEcho | writeDone => cases outside

/-- In every run, the steps of the IN side can be left out, and whatever other such steps are
taken instead: the controller, its mailboxes, the commands, the recoveries and the answers
at the control endpoint stay the same. -/
theorem bus_ignores_in_side (platform : Platform) (config : CanConfig)
    (events : List Firmware.Event) (final : System)
    (finished : Machine.run (step platform) (boot config) events = some final) :
    (∃ alone, Machine.run (step platform) (boot config)
        (events.filter fun event => !onInSide event) = some alone ∧ shown alone = shown final) ∧
    ∀ others other, Machine.run (step platform) (boot config) others = some other →
      others.filter (fun event => !onInSide event) =
        events.filter (fun event => !onInSide event) →
      shown other = shown final := by
  have kept : ∀ s event next, Sound s → step platform s event = some next → Sound next :=
    fun s event next sound stepped =>
      move_sound s next event sound (step_move s next event sound stepped)
  have unseen : ∀ s event next, Sound s → onInSide event = true →
      step platform s event = some next → shown next = shown s :=
    fun s event next sound inSide stepped =>
      step_unseen s next event inSide (step_move s next event sound stepped)
  have alike : ∀ s twin event next, Sound s → Sound twin → shown twin = shown s →
      onInSide event = false → step platform s event = some next →
      ∃ answer, step platform twin event = some answer ∧ shown answer = shown next :=
    fun s twin event next sound _ same outside stepped =>
      step_twin s twin next event sound same outside stepped
  constructor
  · exact Machine.run_without_hidden (step platform) shown onInSide Sound kept unseen alike
      (boot config) (boot config) final events finished (boot_sound config) (boot_sound config) rfl
  · intro others other ran same
    exact Machine.runs_agree_without_hidden (step platform) shown onInSide Sound kept unseen alike
      (boot config) final other events others finished ran same (boot_sound config)

theorem bus_ignores_in_side_silent_bus :
    ∃ final, Machine.run (step (Platform.embassy true)) (boot resetConfig) silentBus =
        some final ∧ (silentBus.filter fun event => !onInSide event).length < silentBus.length ∧
      ∃ alone, Machine.run (step (Platform.embassy true)) (boot resetConfig)
        (silentBus.filter fun event => !onInSide event) = some alone ∧
        shown alone = shown final := by
  obtain ⟨final, finished⟩ : ∃ final, Machine.run (step (Platform.embassy true))
      (boot resetConfig) silentBus = some final := ⟨_, rfl⟩
  exact ⟨final, finished, by decide,
    (bus_ignores_in_side (Platform.embassy true) resetConfig silentBus final finished).1⟩

end NginLink.BusSide
