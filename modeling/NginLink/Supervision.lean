import Mathlib.Logic.Function.Basic
import NginLink.FirmwareSteps

/-!
`main` after it has spawned the tasks, with `usb_run` and `health_monitor`, over the tasks of
`Firmware`. These three only look at the others: `main` waits for a signal of each, and
the monitor logs the metrics. A panic of any task ends the run, since the panic handler
does not return.
-/

namespace NginLink.Supervision

open AppContext BspCan CanDriver Firmware UsbTasks

-- `IndependentWatchdog::new` takes microseconds and does not start the watchdog.
structure BspWatchdog where
  timeoutUs : UInt32
  unleashed : Bool
  pets : Nat

def BspWatchdog.new (timeoutMs : UInt32) : BspWatchdog :=
  { timeoutUs := timeoutMs * 1000, unleashed := false, pets := 0 }

def BspWatchdog.pet (wdg : BspWatchdog) : BspWatchdog := { wdg with pets := wdg.pets + 1 }

structure Report where
  started : Bool
  errors : UInt32
  dropped : UInt32
  busOff : UInt32
  deriving DecidableEq

def report (service : CanService) : Report :=
  { started := service.started
    errors := service.errorCount
    dropped := service.droppedRx
    busOff := service.busOffCount }

-- The task is suspended in `Timer::after_secs(1)`, or has not been polled yet.
structure HealthMonitor where
  wdg : BspWatchdog
  secs : UInt32
  wakeAt : Nat
  panicked : Bool
  reports : List Report

def HealthMonitor.new (wdg : BspWatchdog) : HealthMonitor :=
  { wdg, secs := 0, wakeAt := 0, panicked := false, reports := [] }

def HealthMonitor.iterate (platform : Platform) (monitor : HealthMonitor) (ctx : Context) :
    HealthMonitor :=
  let wdg := monitor.wdg.pet
  let reports :=
    if monitor.secs % 30 = 0 then monitor.reports ++ [report ctx.service] else monitor.reports
  match platform.addU32 monitor.secs 1 with
  | none => { monitor with wdg, reports, panicked := true }
  | some secs => { monitor with wdg, reports, secs, wakeAt := ctx.clockMs + 1000 }

inductive Task where
  | usbDevice
  | usbTx
  | usbRx
  | can
  deriving DecidableEq

def startupOrder : List Task := [.usbDevice, .usbTx, .usbRx, .can]

def startupTimeoutMs : Nat := 5000

structure Confirmation where
  task : Task
  began : Nat
  ended : Nat
  ok : Bool
  deriving DecidableEq

/-- `main` from the time it has entered phase 5: the waits still to come, the first of
which began at `began`. In the loop of phase 6 none is left. -/
structure Startup where
  entered : Nat
  remaining : List Task
  began : Nat
  log : List Confirmation
  deriving DecidableEq

def Startup.allOk (startup : Startup) : Bool := startup.log.all (·.ok)

/-- One poll of `main`. `with_timeout` asks the signal first and its timer then; a wait
that ends is followed by the next one at once. -/
def confirm (now entered : Nat) (signals : Task → Bool) (began : Nat) (log : List Confirmation) :
    List Task → Startup × (Task → Bool)
  | [] => (⟨entered, [], began, log⟩, signals)
  | task :: rest =>
      if signals task then
        confirm now entered (Function.update signals task false) now
          (log ++ [⟨task, began, now, true⟩]) rest
      else if began + startupTimeoutMs ≤ now then
        confirm now entered signals now (log ++ [⟨task, began, now, false⟩]) rest
      else (⟨entered, task :: rest, began, log⟩, signals)

/-- `signals` are those set and not yet waited for; `readyAt` says when a task set its own.
`startup` is `none` until `main` reaches phase 5. -/
structure Supervised where
  firmware : System
  signals : Task → Bool
  readyAt : Task → Option Nat
  startup : Option Startup
  health : HealthMonitor

def start (config : CanConfig) : Supervised :=
  { firmware := boot config
    signals := fun _ => false
    readyAt := fun _ => none
    startup := none
    health := .new (.new 5000) }

inductive Event where
  | firmware (event : Firmware.Event)
  -- `usb_run` is polled for the first time.
  | usbRun
  -- `can_driver_task` is polled for the first time.
  | canTask
  | main
  | health

def signal (s : Supervised) (task : Task) : Supervised :=
  { s with
    signals := Function.update s.signals task true
    readyAt := Function.update s.readyAt task (some s.firmware.ctx.clockMs) }

/-- The task that must have been polled before: control transfers are answered, and the
endpoints enabled, inside `usb.run()`. -/
def neededTask : Firmware.Event → Option Task
  | .driver _ => some .can
  | .controlOut _ _ | .controlIn _ _ | .epOutEnabled | .epInEnabled => some .usbDevice
  | .bulkOut _ | .bulkOutError _ | .takeRx | .takeEcho | .writeDone | .mailboxSent _ | .tick _ =>
      none

def signalOf (s : System) : Firmware.Event → Option Task
  | .epInEnabled => some .usbTx
  | .epOutEnabled => if s.usbRx.enabled then none else some .usbRx
  | _ => none

def Supervised.panicked (s : Supervised) : Bool :=
  s.firmware.driver.phase = .panicked ∨ s.firmware.usbTx.phase = .panicked ∨ s.health.panicked

def firstPoll (s : Supervised) (task : Task) : Option Supervised :=
  if s.readyAt task = none then some (signal s task) else none

def announced (s : Supervised) (firmware : System) (event : Firmware.Event) : Supervised :=
  (signalOf s.firmware event).elim { s with firmware } (signal { s with firmware })

def startupStep (s : Supervised) : Supervised :=
  let now := s.firmware.ctx.clockMs
  let startup := s.startup.getD ⟨now, startupOrder, now, []⟩
  let (startup, signals) :=
    confirm now startup.entered s.signals startup.began startup.log startup.remaining
  { s with startup := some startup, signals }

def step (platform : Platform) (s : Supervised) (event : Event) : Option Supervised :=
  if s.panicked then none
  else match event with
    | .firmware event =>
        if (neededTask event).all fun task => (s.readyAt task).isSome then
          (Firmware.step platform s.firmware event).map fun firmware => announced s firmware event
        else none
    | .usbRun => firstPoll s .usbDevice
    | .canTask => firstPoll s .can
    | .main => some (startupStep s)
    | .health =>
        if s.health.wakeAt ≤ s.firmware.ctx.clockMs then
          some { s with health := s.health.iterate platform s.firmware.ctx }
        else none

section Signal
variable (s : Supervised) (task other : Task)

@[simp] theorem signal_ready :
    (signal s task).readyAt task = some s.firmware.ctx.clockMs := Function.update_self _ _ _

theorem signal_ready_ne (ne : other ≠ task) :
    (signal s task).readyAt other = s.readyAt other := Function.update_of_ne ne _ _

@[simp] theorem signal_set : (signal s task).signals task = true := Function.update_self _ _ _

theorem signal_set_ne (ne : other ≠ task) :
    (signal s task).signals other = s.signals other := Function.update_of_ne ne _ _

end Signal

@[simp] theorem announced_firmware (s : Supervised) (firmware : System) (event : Firmware.Event) :
    (announced s firmware event).firmware = firmware := by
  unfold announced
  cases signalOf s.firmware event <;> rfl

@[simp] theorem announced_health (s : Supervised) (firmware : System) (event : Firmware.Event) :
    (announced s firmware event).health = s.health := by
  unfold announced
  cases signalOf s.firmware event <;> rfl

inductive Advance (platform : Platform) (s : Supervised) : Event → Supervised → Prop where
  | firmware (event next)
      (polled : (neededTask event).all (fun task => (s.readyAt task).isSome) = true)
      (stepped : Firmware.step platform s.firmware event = some next) :
      Advance platform s (.firmware event) (announced s next event)
  | usbRun (first : s.readyAt .usbDevice = none) :
      Advance platform s .usbRun (signal s .usbDevice)
  | canTask (first : s.readyAt .can = none) : Advance platform s .canTask (signal s .can)
  | main : Advance platform s .main (startupStep s)
  | health (awake : s.health.wakeAt ≤ s.firmware.ctx.clockMs) :
      Advance platform s .health { s with health := s.health.iterate platform s.firmware.ctx }

variable {platform : Platform}

theorem step_advance (s next : Supervised) (event : Event)
    (stepped : step platform s event = some next) :
    s.panicked = false ∧ Advance platform s event next := by
  cases halted : s.panicked with
  | true => simp [step, halted] at stepped
  | false =>
      refine ⟨rfl, ?_⟩
      cases event with
      | firmware event =>
          simp only [step, halted, Bool.false_eq_true, ↓reduceIte] at stepped
          split at stepped
          · rename_i polled
            obtain ⟨after, moved, rfl⟩ := Option.map_eq_some_iff.mp stepped
            exact .firmware event after polled moved
          · cases stepped
      | usbRun =>
          simp only [step, halted, firstPoll, Bool.false_eq_true, ↓reduceIte] at stepped
          split at stepped
          · rename_i first
            cases stepped
            exact .usbRun first
          · cases stepped
      | canTask =>
          simp only [step, halted, firstPoll, Bool.false_eq_true, ↓reduceIte] at stepped
          split at stepped
          · rename_i first
            cases stepped
            exact .canTask first
          · cases stepped
      | main =>
          simp only [step, halted, Bool.false_eq_true, ↓reduceIte] at stepped
          cases stepped
          exact .main
      | health =>
          simp only [step, halted, Bool.false_eq_true, ↓reduceIte] at stepped
          split at stepped
          · rename_i awake
            cases stepped
            exact .health awake
          · cases stepped

/-- Supervision leaves the firmware alone: of each step the firmware sees one of its own,
or nothing. -/
theorem advance_firmware (s next : Supervised) (event : Event)
    (advanced : Advance platform s event next) :
    next.firmware = s.firmware ∨ ∃ own, event = .firmware own ∧
      Firmware.step platform s.firmware own = some next.firmware := by
  cases advanced with
  | firmware own after polled stepped =>
      exact Or.inr ⟨own, rfl, by rw [announced_firmware, stepped]⟩
  | _ => exact Or.inl rfl

theorem panicked_running (s : Supervised) (running : s.panicked = false) :
    s.firmware.driver.phase ≠ .panicked ∧ s.health.panicked = false := by
  simp only [Supervised.panicked, decide_eq_false_iff_not, not_or] at running
  exact ⟨running.1, by simpa using running.2.2⟩

theorem advance_firmware_invariant (invariant : System → Prop)
    (preserved : ∀ s event next, Sound s → invariant s → Move platform s event next →
      invariant next)
    (s next : Supervised) (event : Event) (advanced : Advance platform s event next)
    (sound : Sound s.firmware) (holds : invariant s.firmware) :
    Sound next.firmware ∧ invariant next.firmware := by
  rcases advance_firmware s next event advanced with same | ⟨own, _, stepped⟩
  · rw [same]
    exact ⟨sound, holds⟩
  · have moved := step_move s.firmware next.firmware own sound stepped
    exact ⟨move_sound s.firmware next.firmware own sound moved,
      preserved s.firmware own next.firmware sound holds moved⟩

end NginLink.Supervision
