import NginLink.Panics
import NginLink.Progress
import NginLink.Supervision

/-!
`main`, `usb_run` and `health_monitor` against the tasks that do the work: with them the
firmware does what it does without them, step by step, as long as no task panics.
-/

namespace NginLink.Transparency

open AppContext BspCan CanDriver Firmware Panics Supervision

def ownEvent : Supervision.Event → Option Firmware.Event
  | .firmware event => some event
  | .usbRun | .canTask | .main | .health => none

theorem own_events (own : List Firmware.Event) :
    (own.map Supervision.Event.firmware).filterMap ownEvent = own := by
  rw [List.filterMap_map]
  exact List.filterMap_some

variable {platform : Platform}

theorem panicked_iff (s : Supervised) :
    s.panicked = false ↔ Alive s.firmware ∧ s.health.panicked = false := by
  simp only [Supervised.panicked, decide_eq_false_iff_not, not_or, Alive, ne_eq,
    Bool.not_eq_true, and_assoc]

theorem step_own (s next : Supervised) (event : Supervision.Event) (own : Firmware.Event)
    (stepped : Supervision.step platform s event = some next) (taken : ownEvent event = some own) :
    Alive s.firmware ∧ Firmware.step platform s.firmware own = some next.firmware := by
  obtain ⟨running, advanced⟩ := step_advance s next event stepped
  refine ⟨((panicked_iff s).mp running).1, ?_⟩
  cases advanced with
  | firmware event after polled moved =>
      cases taken
      rw [announced_firmware, moved]
  | usbRun | canTask | main | health => cases taken

theorem step_other (s next : Supervised) (event : Supervision.Event)
    (stepped : Supervision.step platform s event = some next) (other : ownEvent event = none) :
    next.firmware = s.firmware := by
  obtain ⟨_, advanced⟩ := step_advance s next event stepped
  rcases advance_firmware s next event advanced with same | ⟨own, rfl, _⟩
  · exact same
  · cases other

/-- Both tasks that others wait for have been polled, and the monitor has not panicked. -/
structure Underway (s : Supervised) : Prop where
  usbDevice : (s.readyAt .usbDevice).isSome = true
  can : (s.readyAt .can).isSome = true
  monitor : s.health.panicked = false

theorem signal_stays (s : Supervised) (task other : Task)
    (ready : (s.readyAt other).isSome = true) : ((signal s task).readyAt other).isSome = true := by
  by_cases same : other = task
  · subst same
    rw [signal_ready]
    rfl
  · rwa [signal_ready_ne s task other same]

theorem announced_underway (s : Supervised) (firmware : System) (event : Firmware.Event)
    (underway : Underway s) : Underway (announced s firmware event) := by
  obtain ⟨usbDevice, can, monitor⟩ := underway
  unfold announced
  cases signalOf s.firmware event with
  | none => exact ⟨usbDevice, can, monitor⟩
  | some task => exact ⟨signal_stays _ task _ usbDevice, signal_stays _ task _ can, monitor⟩

-- From then on each step of the working tasks can be taken.
theorem own_step_taken (s : Supervised) (event : Firmware.Event) (after : System)
    (underway : Underway s) (alive : Alive s.firmware)
    (stepped : Firmware.step platform s.firmware event = some after) :
    ∃ next, Supervision.step platform s (.firmware event) = some next ∧ next.firmware = after ∧
      Underway next := by
  -- Supervision asks for two things more: nothing has panicked, and the task has been polled.
  have running := (panicked_iff s).mpr ⟨alive, underway.monitor⟩
  have polled : (neededTask event).all (fun task => (s.readyAt task).isSome) = true := by
    cases event <;> simp [neededTask, underway.usbDevice, underway.can]
  refine ⟨announced s after event, ?_, announced_firmware s after event,
    announced_underway s after event underway⟩
  simp [Supervision.step, running, polled, stepped]

/-- Whatever the schedule: a sequence of steps of the working tasks, each from a state
without a panic, is one that the firmware takes on its own, to the same state, if and only
if all tasks together can take it, with any steps of the other three in between. -/
theorem supervision_is_transparent (platform : Platform) (config : CanConfig)
    (own : List Firmware.Event) (s : System) :
    (∃ events final, Machine.run (Supervision.step platform) (start config) events = some final ∧
      events.filterMap ownEvent = own ∧ final.firmware = s) ↔
    Machine.Along (Firmware.step platform) (fun s _ => Alive s) (boot config) own ∧
      Machine.run (Firmware.step platform) (boot config) own = some s := by
  constructor
  · rintro ⟨events, final, finished, rfl, rfl⟩
    exact Machine.run_projects (Supervision.step platform) (Firmware.step platform)
      Supervised.firmware (fun s _ => Alive s) ownEvent
      (fun s event next => step_other s next event)
      (fun s event next own => step_own s next event own) (start config) final events finished
  · rintro ⟨alive, finished⟩
    -- The run begins with the first polls of the USB and driver tasks; no other step is added.
    have polled : ∃ ready, Machine.run (Supervision.step platform) (start config)
        [.usbRun, .canTask] = some ready ∧ ready.firmware = boot config ∧ Underway ready :=
      ⟨_, rfl, rfl, rfl, rfl, rfl⟩
    obtain ⟨ready, began, same, underway⟩ := polled
    rw [← same] at alive finished
    obtain ⟨final, followed, reached⟩ := Machine.run_lifts (Supervision.step platform)
      (Firmware.step platform) Supervised.firmware (fun s _ => Alive s) .firmware Underway
      (fun state event after underway alive stepped =>
        own_step_taken state event after underway alive stepped)
      ready s own underway alive finished
    refine ⟨[.usbRun, .canTask] ++ own.map .firmware, final, ?_, ?_, reached⟩
    · exact Machine.run_append (Supervision.step platform) (start config) ready final _ _ began
        followed
    · change (own.map .firmware).filterMap ownEvent = own
      exact own_events own

end NginLink.Transparency
