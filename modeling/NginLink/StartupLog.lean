import NginLink.HostClock
import NginLink.Supervision

/-!
What `main` says about the start of the tasks. It waits for their signals one after the
other, five seconds for each, while the tasks start in any order. A signal that is set
early stays set until it is waited for, so no line of the log depends on the order.
-/

namespace NginLink.StartupLog

open BspCan Firmware HostClock Supervision UsbTasks

/-- A line of the log, against the time at which the task has set its signal. -/
structure Right (readyAt : Task → Option Nat) (line : Confirmation) : Prop where
  ready : line.ok = true → ∃ time, readyAt line.task = some time ∧ time ≤ line.ended
  late : line.ok = false → line.began + startupTimeoutMs ≤ line.ended ∧
    ∀ time, readyAt line.task = some time → line.ended ≤ time

structure Waiting (readyAt : Task → Option Nat) (now : Nat) (startup : Startup)
    (signals : Task → Bool) : Prop where
  order : startup.log.map (·.task) ++ startup.remaining = startupOrder
  unheard : ∀ task ∈ startup.remaining, signals task = (readyAt task).isSome
  right : ∀ line ∈ startup.log, Right readyAt line
  linked : List.IsChain (fun line next => line.ended = next.began) startup.log
  before : ∀ line ∈ startup.log, line.ended ≤ startup.began
  last : ∀ line ∈ startup.log.getLast?, line.ended = startup.began
  since : ∀ line ∈ startup.log, startup.entered ≤ line.began
  entered : startup.entered ≤ startup.began
  began : startup.began ≤ now

theorem waiting_ended (readyAt : Task → Option Nat) (now entered : Nat)
    (task : Task) (rest : List Task) (began : Nat) (log : List Confirmation)
    (signals after : Task → Bool) (ok : Bool)
    (waiting : Waiting readyAt now ⟨entered, task :: rest, began, log⟩ signals)
    (right : Right readyAt ⟨task, began, now, ok⟩)
    (others : ∀ other ∈ rest, after other = signals other) :
    Waiting readyAt now ⟨entered, rest, now, log ++ [⟨task, began, now, ok⟩]⟩ after where
  order := by
    rw [← waiting.order]
    simp
  unheard other member := by
    rw [others other member]
    exact waiting.unheard other (List.mem_cons_of_mem task member)
  right := Machine.seen_one_more log _ waiting.right right
  linked := by
    rw [List.isChain_append]
    refine ⟨waiting.linked, List.isChain_singleton _, ?_⟩
    intro line final next first
    cases first
    exact waiting.last line final
  before := Machine.seen_one_more log _
    (fun line earlier => (waiting.before line earlier).trans waiting.began) (Nat.le_refl now)
  last line member := by
    rw [List.getLast?_concat] at member
    cases member
    rfl
  since := Machine.seen_one_more log _ waiting.since waiting.entered
  entered := waiting.entered.trans waiting.began
  began := Nat.le_refl now

/-- One poll of `main`; the induction is on the waits still to come. -/
theorem confirm_waiting (readyAt : Task → Option Nat) (now entered : Nat)
    (past : ∀ task time, readyAt task = some time → time ≤ now)
    (remaining : List Task) (began : Nat) (log : List Confirmation) (signals : Task → Bool)
    (distinct : remaining.Nodup)
    (waiting : Waiting readyAt now ⟨entered, remaining, began, log⟩ signals) :
    Waiting readyAt now (confirm now entered signals began log remaining).1
      (confirm now entered signals began log remaining).2 := by
  induction remaining generalizing began log signals with
  | nil => exact waiting
  | cons task rest ih =>
      obtain ⟨fresh, others⟩ := List.nodup_cons.mp distinct
      have heard := waiting.unheard task (by simp)
      unfold confirm
      split
      -- The task has signalled: its wait ends with the good line and the signal is consumed.
      · rename_i signalled
        rw [signalled] at heard
        obtain ⟨time, ready⟩ := Option.isSome_iff_exists.mp heard.symm
        refine ih now _ _ others (waiting_ended readyAt now entered task rest began log signals _
          true waiting ⟨fun _ => ⟨time, ready, past task time ready⟩, by simp⟩ ?_)
        intro other member
        refine Function.update_of_ne ?_ _ _
        rintro rfl
        exact fresh member
      · rename_i silent
        split
        -- Five seconds have passed without the signal.
        · rename_i expired
          refine ih now _ _ others (waiting_ended readyAt now entered task rest began log signals
            signals false waiting ⟨by simp, fun _ => ⟨expired, ?_⟩⟩ fun _ _ => rfl)
          intro time ready
          rw [Bool.not_eq_true] at silent
          simp [silent, ready] at heard
        · exact waiting

variable {platform : Platform}

theorem waiting_later (readyAt : Task → Option Nat) (now later : Nat) (startup : Startup)
    (signals : Task → Bool) (waiting : Waiting readyAt now startup signals)
    (passed : now ≤ later) : Waiting readyAt later startup signals :=
  { waiting with began := waiting.began.trans passed }

-- What `main` has heard so far.
structure Heard (s : Supervised) : Prop where
  past : ∀ task time, s.readyAt task = some time → time ≤ s.firmware.ctx.clockMs
  idle : s.startup = none → ∀ task, s.signals task = (s.readyAt task).isSome
  waiting : ∀ startup, s.startup = some startup →
    Waiting s.readyAt s.firmware.ctx.clockMs startup s.signals

/-- The two tasks of the endpoints have set their signals exactly if they are past
`wait_enabled`. -/
structure Endpoints (s : Supervised) : Prop where
  usbTx : s.readyAt .usbTx = none ↔ s.firmware.usbTx.phase = .disabled
  usbRx : s.readyAt .usbRx = none ↔ s.firmware.usbRx.enabled = false

theorem start_heard (config : CanConfig) : Heard (start config) where
  past := by simp [start]
  idle _ _ := rfl
  waiting startup entered := by cases entered

theorem start_endpoints (config : CanConfig) : Endpoints (start config) :=
  ⟨by simp [start, boot, UsbTx.new], by simp [start, boot, UsbRx.new]⟩

theorem heard_later (s : Supervised) (firmware : System) (heard : Heard s)
    (passed : s.firmware.ctx.clockMs ≤ firmware.ctx.clockMs) : Heard { s with firmware } where
  past task time ready := (heard.past task time ready).trans passed
  idle := heard.idle
  waiting startup entered := waiting_later _ _ _ startup _ (heard.waiting startup entered) passed

section Signal
variable (s : Supervised) (task : Task) (first : s.readyAt task = none)
include first

theorem signal_right (line : Confirmation) (right : Right s.readyAt line)
    (ended : line.ended ≤ s.firmware.ctx.clockMs) : Right (signal s task).readyAt line := by
  by_cases same : line.task = task
  · subst same
    constructor
    · intro ok
      obtain ⟨time, ready, _⟩ := right.ready ok
      rw [first] at ready
      cases ready
    · intro missing
      refine ⟨(right.late missing).1, ?_⟩
      intro time ready
      simp only [signal_ready, Option.some.injEq] at ready
      omega
  · have kept := signal_ready_ne s task line.task same
    exact ⟨by rw [kept]; exact right.ready, by rw [kept]; exact right.late⟩

omit first in
theorem signal_unheard (other : Task) (unheard : s.signals other = (s.readyAt other).isSome) :
    (signal s task).signals other = ((signal s task).readyAt other).isSome := by
  by_cases same : other = task
  · subst same
    simp
  · rw [signal_set_ne s task other same, signal_ready_ne s task other same, unheard]

theorem heard_signal (heard : Heard s) : Heard (signal s task) where
  past other time ready := by
    by_cases same : other = task
    · subst same
      simp only [signal_ready, Option.some.injEq] at ready
      exact Nat.le_of_eq ready.symm
    · rw [signal_ready_ne s task other same] at ready
      exact heard.past other time ready
  idle idle other := signal_unheard s task other (heard.idle idle other)
  waiting startup entered := by
    have waiting := heard.waiting startup entered
    exact { waiting with
      unheard := fun other member => signal_unheard s task other (waiting.unheard other member)
      right := fun line member => signal_right s task first line (waiting.right line member)
        ((waiting.before line member).trans waiting.began) }

end Signal

theorem remaining_distinct (readyAt : Task → Option Nat) (now : Nat) (startup : Startup)
    (signals : Task → Bool) (waiting : Waiting readyAt now startup signals) :
    startup.remaining.Nodup := by
  have all : startupOrder.Nodup := by decide
  rw [← waiting.order] at all
  exact (List.nodup_append.mp all).2.1

theorem heard_poll (s : Supervised) (heard : Heard s) : Heard (startupStep s) where
  past := heard.past
  idle entered := by cases entered
  waiting startup entered := by
    have now : Waiting s.readyAt s.firmware.ctx.clockMs
        (s.startup.getD ⟨s.firmware.ctx.clockMs, startupOrder, s.firmware.ctx.clockMs, []⟩)
        s.signals := by
      cases reached : s.startup with
      | none =>
          exact ⟨rfl, fun task _ => heard.idle reached task, by simp, List.isChain_nil, by simp,
            by simp, by simp, Nat.le_refl _, Nat.le_refl _⟩
      | some startup => exact heard.waiting startup reached
    cases entered
    exact confirm_waiting s.readyAt s.firmware.ctx.clockMs _ heard.past _ _ _ s.signals
      (remaining_distinct _ _ _ _ now) now

theorem move_endpoints (s : Supervised) (next : System) (event : Firmware.Event)
    (moved : Move platform s.firmware event next) (endpoints : Endpoints s) :
    (∀ task ∈ signalOf s.firmware event, s.readyAt task = none) ∧
      Endpoints (announced s next event) := by
  obtain ⟨usbTx, usbRx⟩ := endpoints
  cases moved with
  | outEnabled =>
      cases enabled : s.firmware.usbRx.enabled with
      | true => exact ⟨by simp [signalOf, enabled], by
          simpa [announced, signalOf, enabled] using usbTx, by
          simp [announced, signalOf, enabled, usbRx]⟩
      | false =>
          have first := usbRx.mpr enabled
          exact ⟨by simp [signalOf, enabled, first], by
            simpa [announced, signalOf, enabled, signal] using usbTx, by
            simp [announced, signalOf, enabled, signal]⟩
  | inEnabled disabled =>
      have first := usbTx.mpr disabled
      exact ⟨by simp [signalOf, first], by simp [announced, signalOf, signal], by
        simpa [announced, signalOf, signal] using usbRx⟩
  | tookRx frame canRx selecting taken =>
      rw [selecting] at usbTx
      exact ⟨by simp [signalOf],
        by simpa [announced, signalOf, UsbTx.startWrite] using usbTx, usbRx⟩
  | tookEcho frame usbEcho selecting taken =>
      rw [selecting] at usbTx
      exact ⟨by simp [signalOf],
        by simpa [announced, signalOf, UsbTx.startWrite] using usbTx, usbRx⟩
  | wrote bytes writing =>
      rw [writing] at usbTx
      exact ⟨by simp [signalOf], by simpa [announced, signalOf] using usbTx, usbRx⟩
  | _ => exact ⟨by simp [signalOf], usbTx, usbRx⟩

theorem endpoints_signal (s : Supervised) (task : Task) (endpoints : Endpoints s)
    (other : task ≠ .usbTx ∧ task ≠ .usbRx) : Endpoints (signal s task) := by
  obtain ⟨usbTx, usbRx⟩ := endpoints
  constructor
  · rwa [signal_ready_ne s task .usbTx other.1.symm]
  · rwa [signal_ready_ne s task .usbRx other.2.symm]

structure Started (s : Supervised) : Prop where
  sound : Sound s.firmware
  endpoints : Endpoints s
  heard : Heard s

theorem heard_announced (s : Supervised) (next : System) (event : Firmware.Event)
    (first : ∀ task ∈ signalOf s.firmware event, s.readyAt task = none) (heard : Heard s)
    (passed : s.firmware.ctx.clockMs ≤ next.ctx.clockMs) : Heard (announced s next event) := by
  have later := heard_later s next heard passed
  unfold announced
  cases own : signalOf s.firmware event with
  | none => exact later
  | some task => exact heard_signal _ task (first task own) later

theorem step_started (s next : Supervised) (event : Supervision.Event) (started : Started s)
    (stepped : Supervision.step platform s event = some next) : Started next := by
  obtain ⟨_, advanced⟩ := step_advance s next event stepped
  obtain ⟨sound, endpoints, heard⟩ := started
  cases advanced with
  | firmware own after polled moved =>
      have move := step_move s.firmware after own sound moved
      obtain ⟨first, reached⟩ := move_endpoints s after own move endpoints
      refine ⟨?_, reached, ?_⟩
      · rw [announced_firmware]
        exact move_sound s.firmware after own sound move
      · exact heard_announced s after own first heard (move_clock s.firmware after own move)
  | usbRun first =>
      exact ⟨sound, endpoints_signal s .usbDevice endpoints (by simp),
        heard_signal s .usbDevice first heard⟩
  | canTask first =>
      exact ⟨sound, endpoints_signal s .can endpoints (by simp), heard_signal s .can first heard⟩
  | main => exact ⟨sound, ⟨endpoints.usbTx, endpoints.usbRx⟩, heard_poll s heard⟩
  | health awake => exact ⟨sound, ⟨endpoints.usbTx, endpoints.usbRx⟩, ⟨heard.past, heard.idle,
      heard.waiting⟩⟩

theorem all_ok_iff (startup : Startup) :
    startup.allOk = true ↔ ∀ line ∈ startup.log, line.ok = true := List.all_eq_true

/-- In every state of every run: the log of `main` goes through the tasks in its order, each
wait beginning when the one before it ends; a line says ready exactly if the task has set
its signal by the end of its wait, and otherwise not before five seconds are over. Once
`main` says that all are ready, both endpoints have been enabled and every task has been
polled; and it says so if no task takes five seconds from the time `main` asks. -/
theorem startup_log_right (platform : Platform) (config : CanConfig)
    (events : List Supervision.Event) (final : Supervised)
    (finished : Machine.run (Supervision.step platform) (start config) events = some final)
    (startup : Startup) (entered : final.startup = some startup) :
    startup.log.map (·.task) ++ startup.remaining = startupOrder ∧
    List.IsChain (fun line next => line.ended = next.began) startup.log ∧
    (∀ line ∈ startup.log, Right final.readyAt line) ∧
    (startup.remaining = [] → startup.allOk = true →
      (∀ task, (final.readyAt task).isSome = true) ∧
      final.firmware.usbTx.phase ≠ .disabled ∧ final.firmware.usbRx.enabled = true) ∧
    ((∀ task, ∃ time, final.readyAt task = some time ∧
      time < startup.entered + startupTimeoutMs) → startup.allOk = true) := by
  have started := Machine.run_invariant_along (Supervision.step platform) (fun _ _ => True) Started
    (fun s event next started _ stepped => step_started s next event started stepped)
    (start config) final events (Machine.along_true _ _ events) finished
    ⟨boot_sound config, start_endpoints config, start_heard config⟩
  have waiting := started.heard.waiting startup entered
  refine ⟨waiting.order, waiting.linked, waiting.right, ?_, ?_⟩
  · intro complete ready
    have every : ∀ task, (final.readyAt task).isSome = true := by
      intro task
      have listed : task ∈ startup.log.map (·.task) := by
        have order := waiting.order
        rw [complete, List.append_nil] at order
        rw [order]
        cases task <;> decide
      obtain ⟨line, member, rfl⟩ := List.mem_map.mp listed
      obtain ⟨time, set, _⟩ := (waiting.right line member).ready
        ((all_ok_iff startup).mp ready line member)
      rw [set]
      rfl
    refine ⟨every, ?_, ?_⟩
    · intro disabled
      have missing := every .usbTx
      rw [started.endpoints.usbTx.mpr disabled] at missing
      cases missing
    · by_contra disabled
      have missing := every .usbRx
      rw [started.endpoints.usbRx.mpr (by simpa using disabled)] at missing
      cases missing
  · intro prompt
    rw [all_ok_iff]
    intro line member
    by_contra missing
    obtain ⟨time, set, soon⟩ := prompt line.task
    obtain ⟨expired, after⟩ := (waiting.right line member).late (by simpa using missing)
    have later := after time set
    have since := waiting.since line member
    omega

-- The host configures the device too late for the first of the endpoints.
def lateHost : List Supervision.Event :=
  [.usbRun, .main, .firmware (.tick 5000), .main, .firmware (.tick 1000), .canTask,
    .firmware .epInEnabled, .firmware .epOutEnabled, .main]

theorem startup_log_right_late_host :
    ∃ final startup, Machine.run (Supervision.step (Platform.embassy true)) (start resetConfig)
        lateHost = some final ∧
      final.startup = some startup ∧
      startup.log.map (·.ok) = [true, false, true, true] ∧ startup.remaining = [] ∧
      ∀ line ∈ startup.log, Right final.readyAt line := by
  obtain ⟨final, startup, finished, entered, shown, complete⟩ : ∃ final startup,
      Machine.run (Supervision.step (Platform.embassy true)) (start resetConfig) lateHost =
        some final ∧
      final.startup = some startup ∧
      startup.log.map (·.ok) = [true, false, true, true] ∧ startup.remaining = [] :=
    ⟨_, _, rfl, rfl, by decide, by decide⟩
  exact ⟨final, startup, finished, entered, shown, complete,
    (startup_log_right (Platform.embassy true) resetConfig lateHost final finished startup
      entered).2.2.1⟩

end NginLink.StartupLog
