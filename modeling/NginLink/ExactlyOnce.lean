import NginLink.Delivery
import NginLink.FlowControl

/-!
When the adapter keeps every promise. A host within its window, on a bus that spares it,
loses nothing at a channel; if moreover the bus takes the frames in time, no frame makes
way for a later one and no message meets a stopped controller, then at rest every message
has been on the bus exactly once, and the host has got exactly one echo of each, in the
order of the messages.
-/

namespace NginLink.ExactlyOnce

open AppContext BoundedChannel BspCan CanDriver CommandQueue Delivery DriverState Echoes Firmware
open FlowControl HostMessages Lifecycle Mailboxes MessageStages Quiescence TransmitLedger
open Translation UsbTasks

/-- No transmission runs into its timeout, no write takes a held frame out of its mailbox,
and no message meets a stopped controller. -/
def Served (s : System) : Firmware.Event → Prop
  | .driver .timedOut => False
  | .driver (.written dequeued) => dequeued = none
  | .driver .command => s.driver.isStarted = true ∨
      s.ctx.canCmd.queued.head?.bind requestOf = none
  | _ => True

instance (s : System) : (event : Firmware.Event) → Decidable (Served s event)
  | .driver .timedOut => isFalse id
  | .driver (.written dequeued) => inferInstanceAs (Decidable (dequeued = none))
  | .driver .command => inferInstanceAs (Decidable (s.driver.isStarted = true ∨
      s.ctx.canCmd.queued.head?.bind requestOf = none))
  | .driver (.frame _) | .driver (.error _ _) | .driver .enabled | .driver .delayElapsed
  | .controlOut _ _ | .controlIn _ _ | .epOutEnabled | .epInEnabled | .bulkOut _
  | .bulkOutError _ | .takeRx | .takeEcho | .writeDone | .mailboxSent _ | .tick _ => isTrue trivial

def PacedAndServed (window : Nat) (s : System) (event : Firmware.Event) : Prop :=
  Paced window s event ∧ Spared window s event ∧ Served s event

instance (window : Nat) (s : System) (event : Firmware.Event) :
    Decidable (PacedAndServed window s event) :=
  inferInstanceAs (Decidable (Paced window s event ∧ Spared window s event ∧ Served s event))

/-- Every request settled so far was stored, and none has been cancelled or replaced. -/
structure Stored (log : List Record) : Prop where
  ok : ∀ answer ∈ answers log, answer.outcome.isOk = true
  uncancelled : aborts log = []
  unreplaced : (dequeues log).flatten = []

theorem stored_answer (log later : List Record) (answer : Answer) (stored : Stored log)
    (added : answers later = answers log ++ [answer]) (ok : answer.outcome.isOk = true)
    (same : aborts later = aborts log)
    (unmoved : (dequeues later).flatten = (dequeues log).flatten) : Stored later := by
  refine ⟨?_, same.trans stored.uncancelled, unmoved.trans stored.unreplaced⟩
  rw [added]
  exact Machine.seen_one_more (answers log) answer stored.ok ok

variable {platform : Platform}

theorem front_parsed (s : System) (queue : Queue s) (request : CanTxRequest)
    (rest : Channel CanDriverCmd 16)
    (taken : s.ctx.canCmd.tryReceive = some (.transmit request, rest)) :
    ∃ msg, request = parseTxMsg msg := by
  have front := (Channel.try_receive_some s.ctx.canCmd rest _ taken).1
  have accepted : .transmit request ∈ s.ctx.canCmd.accepted := by
    rw [← s.ctx.canCmd.fifo, front]
    simp
  have parsed : request ∈ (queuedMessages s).map fun record => parseTxMsg record.msg := by
    rw [← queue.requests]
    exact List.mem_filterMap.mpr ⟨_, accepted, rfl⟩
  obtain ⟨record, _, rfl⟩ := List.mem_map.mp parsed
  exact ⟨record.msg, rfl⟩

theorem move_stored (documented : platform.Documented) (s next : System)
    (event : Firmware.Event) (moved : Move platform s event next) (reached : Reached s)
    (served : Served s event) (stored : Stored s.driver.log) : Stored next.driver.log := by
  cases moved with
  | driver event driver ctx moved =>
      cases moved with
      | startedFrameError canCmd request data error selecting taken sliced failed =>
          -- A parsed message always makes a frame.
          obtain ⟨msg, rfl⟩ := front_parsed s reached.queue request canCmd taken
          have whole := data_slice_some (parseTxMsg msg) (parse_well_formed msg)
          cases whole.symm.trans sliced
          obtain ⟨frame, built, _⟩ := message_frame_exact platform documented msg
          cases built.symm.trans failed
      | stoppedTransmit canCmd request receiving taken =>
          have front := (Channel.try_receive_some s.ctx.canCmd canCmd _ taken).1
          -- A served message meets a started controller, and this branch is that of a stopped one.
          have stopped := receiving_stopped s.driver reached.coherent.branch receiving
          rcases served with started | other
          · rw [stopped] at started
            cases started
          · rw [front] at other
            cases other
      | written dequeued serial request frame transmitting room =>
          cases served
          exact stored_answer s.driver.log _ ⟨serial, request, .echoed⟩ stored
            (by simp [answerOf]) rfl (by simp [abortOf]) (by simp [dequeueOf, takenOut])
      | writtenRefused dequeued serial request frame transmitting full =>
          cases served
          exact stored_answer s.driver.log _ ⟨serial, request, .echoDropped⟩ stored
            (by simp [answerOf]) rfl (by simp [abortOf]) (by simp [dequeueOf, takenOut])
      | timedOut serial request frame transmitting => exact absurd served id
      | _ =>
          have same : ∀ log, answers log = answers s.driver.log →
              aborts log = aborts s.driver.log → dequeues log = dequeues s.driver.log →
              Stored log := by
            intro log sameAnswers sameAborts sameDequeues
            refine ⟨?_, sameAborts.trans stored.uncancelled, ?_⟩
            · rw [sameAnswers]
              exact stored.ok
            · rw [sameDequeues]
              exact stored.unreplaced
          exact same _ (by simp [answerOf, Driver.panic]) (by simp [abortOf, Driver.panic])
            (by simp [dequeueOf, Driver.panic])
  | _ => exact stored

structure Kept (s : System) : Prop where
  reached : Reached s
  lossless : Lossless s
  undropped : droppedEchoes s.driver.log = []
  stored : Stored s.driver.log

theorem run_kept (documented : platform.Documented) (config : CanConfig) (window : Nat)
    (fits : window ≤ 16) (events : List Firmware.Event) (final : System)
    (served : Machine.Along (step platform) (PacedAndServed window) (boot config) events)
    (finished : Machine.run (step platform) (boot config) events = some final) : Kept final := by
  have all := run_move_invariant_along (PacedAndServed window)
    (fun s => Reached s ∧ (Windowed window s ∧ Lossless s) ∧ Returned window s ∧
      Stored s.driver.log)
    (by
      rintro s event next _ ⟨reached, flow, returned, stored⟩ ⟨paced, spared, served⟩ moved
      exact ⟨move_reached s next event reached moved,
        ⟨move_windowed window fits s next event moved paced flow.1,
          move_lossless window fits s next event moved paced flow.1 flow.2⟩,
        move_returned window fits s next event moved spared flow.1 returned,
        move_stored documented s next event moved reached served stored⟩)
    config events final served finished
    ⟨boot_reached config, ⟨boot_windowed window config, boot_lossless config⟩,
      boot_returned window config, ⟨by simp [boot, Driver.new], rfl, rfl⟩⟩
  exact ⟨all.1, all.2.1.2, all.2.2.1.echoes, all.2.2.2⟩

section Rest
variable (s : System) (kept : Kept s) (empty : s.ctx.canCmd.queued = [])
variable (waiting : s.driver.isWaiting = true)
include kept

theorem all_queued : queuedMessages s = s.usbRx.messages :=
  List.filter_eq_self.mpr kept.lossless.messages

include empty waiting

/-- With the mailboxes drained, the messages sent are those read. -/
theorem sent_iff_read (drained : s.driver.can.mailboxes = []) (number : Nat) :
    stage s number = .sent ↔ number < s.usbRx.messages.length := by
  have settled := rest_settles s kept.reached empty waiting
  rw [all_queued s kept] at settled
  rw [← settled]
  constructor
  · intro sent
    by_contra beyond
    rw [stage, stage_open (tally s) number (Nat.le_of_not_lt beyond), Tally.openStage] at sent
    split at sent
    · cases sent
    · split at sent <;> cases sent
  · intro present
    have unheld : (tally s).held = [] := by simp [tally, tallyOf, drained]
    have uncancelled : (tally s).cancelled = [] := by
      simp [tally, tallyOf, kept.stored.uncancelled]
    have unreplaced : (tally s).replaced = [] := kept.stored.unreplaced
    have found := List.getElem?_eq_getElem present
    have ok : (tally s).outcomes[number].isOk = true := by
      obtain ⟨answer, member, same⟩ := List.mem_map.mp (List.getElem_mem present)
      rw [← same]
      exact kept.stored.ok answer member
    rw [stage, stage_settled (tally s) number _ found]
    cases outcome : (tally s).outcomes[number] with
    | echoed | echoDropped => simp [Tally.settledStage, unheld, uncancelled, unreplaced]
    | ignored | frameError | timeout =>
        rw [outcome] at ok
        cases ok

theorem echoes_of_messages (quiet : s.ctx.usbEcho.queued = []) :
    takenEchoes s.usbTx = s.usbRx.messages.map fun record => echoFrame (parseTxMsg record.msg) := by
  have custody := kept.reached.custody
  have idle : pending s.driver.phase = [] := by
    rcases waiting_phase s.driver waiting with phase | phase <;> rw [phase] <;> rfl
  have every : (answers s.driver.log).filter echoed = answers s.driver.log := by
    apply List.filter_eq_self.mpr
    intro answer member
    have ok := kept.stored.ok answer member
    have undropped : answer.outcome ≠ .echoDropped := by
      intro dropped
      have logged := answer_recorded s.driver.log answer member
      rw [dropped] at logged
      have noted : answer.serial ∈ droppedEchoes s.driver.log :=
        List.mem_filterMap.mpr ⟨_, logged, rfl⟩
      rw [kept.undropped] at noted
      cases noted
    cases outcome : answer.outcome with
    | echoed => simp [echoed, outcome]
    | echoDropped => exact absurd outcome undropped
    | ignored | frameError | timeout =>
        rw [outcome] at ok
        cases ok
  have settled := custody.ledger.settled
  rw [idle, List.append_nil, requests, kept.reached.queue.taken,
    Channel.received_eq_accepted s.ctx.canCmd empty, kept.reached.queue.requests,
    all_queued s kept] at settled
  calc takenEchoes s.usbTx = echoes s.ctx := by
        rw [custody.taken, Channel.received_eq_accepted s.ctx.usbEcho quiet, echoes]
    _ = ((answers s.driver.log).map (·.request)).map echoFrame := by
        rw [custody.sent, every, List.map_map]
        rfl
    _ = s.usbRx.messages.map fun record => echoFrame (parseTxMsg record.msg) := by
        rw [← settled, List.map_map]
        rfl

end Rest

-- Two messages; the second overtakes the first on its way out of the mailboxes.
def bothServed : List Firmware.Event :=
  bringUp ++ [.epOutEnabled, .epInEnabled, hostMessage 1 0x123] ++ storeMessage ++
    [hostMessage 2 0x100] ++ storeMessage ++
    [.mailboxSent 1, .mailboxSent 0, .takeEcho, .writeDone, .takeEcho, .writeDone]

end NginLink.ExactlyOnce
