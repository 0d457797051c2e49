import NginLink.Echoes
import NginLink.HostMessages
import NginLink.Mailboxes
import NginLink.MessageStages
import NginLink.Progress

/-!
The life of every host message, over every run. The tally of a state is read off the
driver's log, its mailboxes and the messages that CAN_CMD_CHANNEL took, and each
step of the firmware is one turn of it. So a message only ever moves along the
edges of the automaton, and what leaves the mailboxes for the bus can be counted.
-/

namespace NginLink.Lifecycle

open AppContext BoundedChannel BspCan CanDriver CommandQueue DriverState Echoes Firmware
open HostMessages Mailboxes MessageStages TransmitLedger Translation UsbTasks

def dequeueOf : Record → Option (List Nat)
  | .dequeued serials => some serials
  | _ => none

abbrev dequeues (log : List Record) : List (List Nat) := log.filterMap dequeueOf

@[simp] theorem dequeues_loop_top (driver : Driver) :
    dequeues driver.loopTop.log = dequeues driver.log :=
  loop_top_view driver dequeueOf rfl

def tallyOf (driver : Driver) (offered : Nat) : Tally :=
  { outcomes := (answers driver.log).map (·.outcome)
    taken := driver.serials
    offered
    held := driver.can.mailboxes.map Prod.fst
    cancelled := (aborts driver.log).flatten
    replaced := (dequeues driver.log).flatten }

def tally (s : System) : Tally := tallyOf s.driver (queuedMessages s).length

/-- The stage of the message with a number, in the order CAN_CMD_CHANNEL took them. -/
def stage (s : System) (number : Nat) : Stage := (tally s).stage number

def causeOf : Firmware.Event → Option Cause
  | .bulkOut _ => some .offer
  | .driver .command => some .take
  | .driver (.written _) => some .store
  | .driver .timedOut => some .expire
  | .mailboxSent _ => some .send
  | _ => none

theorem ledger_idle (driver : Driver) (ledger : Ledger driver)
    (idle : pending driver.phase = []) :
    ((answers driver.log).map (·.outcome)).length = driver.serials := by
  rw [ledger.counted, ledger.settled, idle, List.length_map, List.append_nil, List.length_map]

theorem ledger_busy (driver : Driver) (ledger : Ledger driver) (serial : Nat)
    (request : CanTxRequest) (frame : Frame)
    (transmitting : driver.phase = .transmitting serial request frame) :
    driver.serials = ((answers driver.log).map (·.outcome)).length + 1 := by
  rw [ledger.counted, ledger.settled, transmitting, List.length_append, List.length_map,
    List.length_map]
  rfl

variable {platform : Platform}

theorem request_waiting (s : System) (queue : Queue s) (custody : Custody s)
    (request : CanTxRequest) (rest : Channel CanDriverCmd 16)
    (taken : s.ctx.canCmd.tryReceive = some (.transmit request, rest)) :
    s.driver.serials < (queuedMessages s).length := by
  have front := (Channel.try_receive_some s.ctx.canCmd rest _ taken).1
  have total := congrArg List.length queue.requests
  rw [← s.ctx.canCmd.fifo, front, List.length_map, List.filterMap_append, List.length_append]
    at total
  rw [custody.ledger.counted, requests, queue.taken, ← total]
  simp [requestOf]

-- One step of the driver is one turn of the tally.
theorem transition_turn (driver next : Driver) (ctx after : Context)
    (event : CanDriver.Event) (moved : Transition platform driver ctx event next after)
    (offered : Nat) (ledger : Ledger driver)
    (waiting : ∀ request rest, ctx.canCmd.tryReceive = some (.transmit request, rest) →
      driver.serials < offered) :
    Turn (tallyOf driver offered) (causeOf (.driver event)) (tallyOf next offered) := by
  have unchanged : tallyOf next offered = tallyOf driver offered →
      Turn (tallyOf driver offered) (causeOf (.driver event)) (tallyOf next offered) := by
    intro same
    rw [same]
    exact .rest _
  cases moved with
  | startedTransmit canCmd request data frame selecting taken sliced built =>
      have idle := ledger_idle driver ledger (by rw [selecting]; rfl)
      have turn : Turn (tallyOf driver offered) _ _ := .begin idle (waiting request canCmd taken)
      simpa [tallyOf, answerOf, abortOf, dequeueOf, causeOf] using turn
  | startedFrameError canCmd request data error selecting taken sliced failed =>
      have idle := ledger_idle driver ledger (by rw [selecting]; rfl)
      have turn : Turn (tallyOf driver offered) _ _ := .refuse .frameError idle
        (waiting request canCmd taken) (Or.inr rfl)
      simpa [tallyOf, answerOf, abortOf, dequeueOf, causeOf] using turn
  | stoppedTransmit canCmd request receiving taken =>
      have idle := ledger_idle driver ledger (by rw [receiving]; rfl)
      have turn : Turn (tallyOf driver offered) _ _ := .refuse .ignored idle
        (waiting request canCmd taken) (Or.inl rfl)
      simpa [tallyOf, answerOf, abortOf, dequeueOf, causeOf] using turn
  | written dequeued serial request frame transmitting room =>
      have busy := ledger_busy driver ledger serial request frame transmitting
      have turn : Turn (tallyOf driver offered) _ _ := .store .echoed dequeued busy rfl
      have position := (ledger.writing serial request frame transmitting).1
      simpa [tallyOf, answerOf, abortOf, dequeueOf, causeOf, Can.store, map_remaining, position]
        using turn
  | writtenRefused dequeued serial request frame transmitting full =>
      have busy := ledger_busy driver ledger serial request frame transmitting
      have turn : Turn (tallyOf driver offered) _ _ := .store .echoDropped dequeued busy rfl
      have position := (ledger.writing serial request frame transmitting).1
      simpa [tallyOf, answerOf, abortOf, dequeueOf, causeOf, Can.store, map_remaining, position]
        using turn
  | timedOut serial request frame transmitting =>
      have busy := ledger_busy driver ledger serial request frame transmitting
      have turn : Turn (tallyOf driver offered) _ _ := .expire busy
      simpa [tallyOf, answerOf, abortOf, dequeueOf, causeOf, Can.abortMailboxes] using turn
  | startedTiming canCmd timing can selecting taken valid
  | stoppedTiming canCmd timing can receiving taken valid =>
      cases set_bit_timing_effect driver.can can timing valid
      exact unchanged (by simp [tallyOf, answerOf, abortOf, dequeueOf, Can.modifyConfig])
  | _ =>
      exact unchanged (by simp [tallyOf, answerOf, abortOf, dequeueOf, Can.start, Can.stop,
        Can.enable, Can.modifyConfig, Driver.panic])

theorem move_turn (s next : System) (event : Firmware.Event) (queue : Queue s)
    (custody : Custody s) (moved : Move platform s event next) :
    Turn (tally s) (causeOf event) (tally next) := by
  cases moved with
  | message packet enabled whole =>
      cases room : s.ctx.canCmd.hasRoom with
      | true =>
          have turn : Turn (tally s) _ _ := .offer
          simpa [tally, tallyOf, queuedMessages, causeOf, room] using turn
      | false =>
          have turn : Turn (tally s) _ _ := .rest (some .offer)
          simpa [tally, tallyOf, queuedMessages, causeOf, room] using turn
  | driver event driver ctx moved =>
      exact transition_turn s.driver driver s.ctx ctx event moved (queuedMessages s).length
        custody.ledger (request_waiting s queue custody)
  | mailboxSent index held transmits =>
      have present : index < (tally s).held.length := by simpa [tally, tallyOf] using held
      have turn := Turn.send index present
      simpa [tally, tallyOf, queuedMessages, causeOf, Can.sent, List.eraseIdx_map] using turn
  | _ => exact .rest _

theorem boot_tally (config : CanConfig) : (tally (boot config)).Valid := Tally.empty_valid

structure Reached (s : System) : Prop where
  sound : Sound s
  coherent : Coherent s.driver s.ctx
  queue : Queue s
  custody : Custody s
  valid : (tally s).Valid

theorem boot_reached (config : CanConfig) : Reached (boot config) where
  sound := boot_sound config
  coherent := boot_coherent config
  queue := boot_queue config
  custody := boot_custody config
  valid := boot_tally config

theorem move_reached (s next : System) (event : Firmware.Event) (reached : Reached s)
    (moved : Move platform s event next) : Reached next where
  sound := move_sound s next event reached.sound moved
  coherent := move_coherent s next event moved reached.coherent
  queue := move_queue s next event moved reached.queue
  custody := move_custody s next event reached.coherent reached.queue reached.custody moved
  valid := turn_valid (tally s) reached.valid (causeOf event) (tally next)
    (move_turn s next event reached.queue reached.custody moved)

theorem step_reached (s next : System) (event : Firmware.Event) (reached : Reached s)
    (stepped : step platform s event = some next) : Reached next :=
  move_reached s next event reached (step_move s next event reached.sound stepped)

theorem run_reached (s final : System) (events : List Firmware.Event)
    (finished : Machine.run (step platform) s events = some final) (reached : Reached s) :
    Reached final :=
  Machine.run_invariant_along (step platform) (fun _ _ => True) Reached
    (fun s event next reached _ stepped => step_reached s next event reached stepped)
    s final events (Machine.along_true (step platform) s events) finished reached

theorem step_stage (s next : System) (event : Firmware.Event) (reached : Reached s)
    (stepped : step platform s event = some next) (number : Nat) :
    stage next number = stage s number ∨
      ∃ cause, causeOf event = some cause ∧ Edge cause (stage s number) (stage next number) := by
  have moved := step_move s next event reached.sound stepped
  have turn := move_turn s next event reached.queue reached.custody moved
  exact turn_edge (tally s) (tally next) (causeOf event) reached.valid turn number

theorem run_stage (s final : System) (events : List Firmware.Event) (reached : Reached s)
    (finished : Machine.run (step platform) s events = some final) (number : Nat) :
    Relation.ReflTransGen Advance (stage s number) (stage final number) := by
  apply Machine.run_simulates (step platform) (stage · number) Advance Reached
    (fun s event next reached stepped => step_reached s next event reached stepped) _
    s final events finished reached
  intro s event next reached stepped
  rcases step_stage s next event reached stepped number with same | ⟨cause, _, edge⟩
  · exact Or.inl same
  · exact Or.inr ⟨cause, edge⟩

def departure (s : System) : Firmware.Event → Option (Nat × Frame)
  | .mailboxSent index => s.driver.can.mailboxes[index]?
  | _ => none

def Carries (s : System) (slot : Nat × Frame) : Prop :=
  ∃ record, (queuedMessages s)[slot.1]? = some record ∧ FrameOf record.msg slot.2

theorem queued_messages_grow (s next : System) (event : Firmware.Event)
    (moved : Move platform s event next) : queuedMessages s <+: queuedMessages next := by
  cases moved with
  | message packet enabled whole =>
      simp only [queuedMessages, List.filter_append]
      exact List.prefix_append _ _
  | _ => exact List.prefix_rfl

theorem carries_grow (s next : System) (event : Firmware.Event)
    (moved : Move platform s event next) (slot : Nat × Frame) (carries : Carries s slot) :
    Carries next slot := by
  obtain ⟨record, found, made⟩ := carries
  obtain ⟨bound, _⟩ := List.getElem?_eq_some_iff.mp found
  obtain ⟨more, grown⟩ := queued_messages_grow s next event moved
  refine ⟨record, ?_, made⟩
  rw [← grown, List.getElem?_append_left bound]
  exact found

-- The request at the front of the channel is that of the next message to be numbered.
theorem front_message (s : System) (queue : Queue s) (custody : Custody s)
    (request : CanTxRequest) (rest : Channel CanDriverCmd 16)
    (taken : s.ctx.canCmd.tryReceive = some (.transmit request, rest)) :
    ∃ record, (queuedMessages s)[s.driver.serials]? = some record ∧
      request = parseTxMsg record.msg := by
  have front := (Channel.try_receive_some s.ctx.canCmd rest _ taken).1
  have parsed := queue.requests
  rw [← s.ctx.canCmd.fifo, front, List.filterMap_append, ← queue.taken] at parsed
  -- As many requests have been taken as numbers given out, so the front has the next number.
  have position : s.driver.serials = ((commands s.driver.log).filterMap requestOf).length :=
    custody.ledger.counted
  have found := congrArg (fun list => list[s.driver.serials]?) parsed
  rw [List.getElem?_append_right (Nat.le_of_eq position.symm), position, Nat.sub_self] at found
  simp only [List.getElem?_map] at found
  obtain ⟨record, present, same⟩ := Option.map_eq_some_iff.mp found.symm
  exact ⟨record, position ▸ present, same.symm⟩

structure Labelled (s : System) : Prop where
  writing : ∀ serial request frame, s.driver.phase = .transmitting serial request frame →
    Carries s (serial, frame)
  held : ∀ slot ∈ s.driver.can.mailboxes, Carries s slot

theorem boot_labelled (config : CanConfig) : Labelled (boot config) where
  writing := by
    intro serial request frame transmitting
    cases transmitting
  held := by
    intro slot member
    cases member

theorem transition_numbers (driver next : Driver) (ctx after : Context)
    (event : CanDriver.Event) (moved : Transition platform driver ctx event next after)
    (serial : Nat) (request : CanTxRequest) (frame : Frame)
    (begun : next.phase = .transmitting serial request frame) :
    serial = driver.serials ∧ ∃ rest data,
      ctx.canCmd.tryReceive = some (.transmit request, rest) ∧ dataSlice request = some data ∧
      Can.transmitFrame platform request.id request.isExtended request.isRtr data =
        .ok frame := by
  cases moved with
  | startedTransmit canCmd request data frame selecting received sliced made =>
      cases begun
      exact ⟨rfl, canCmd, data, received, sliced, made⟩
  | startedStop | startedStart | startedTiming | stoppedStart | commandPanic | errorPanic
  | busOffRetry | recovered => cases begun
  | _ =>
      rw [loop_top_phase] at begun
      split at begun <;> cases begun

theorem move_labelled (documented : platform.Documented) (s next : System)
    (event : Firmware.Event) (reached : Reached s) (labelled : Labelled s)
    (moved : Move platform s event next) : Labelled next := by
  have grows := carries_grow s next event moved
  cases moved with
  | driver event driver ctx moved =>
      constructor
      · intro serial request frame begun
        -- A write begins with the request at the front, which is that of the next message.
        obtain ⟨rfl, rest, data, taken, sliced, built⟩ :=
          transition_numbers s.driver driver s.ctx ctx event moved serial request frame begun
        obtain ⟨record, present, rfl⟩ :=
          front_message s reached.queue reached.custody request rest taken
        exact ⟨record, present,
          written_frame record.msg platform documented data frame sliced built⟩
      · intro slot member
        rcases transition_mailboxes s.driver driver s.ctx ctx event moved slot member with
          already | ⟨request, _, transmitting, _⟩
        · exact grows slot (labelled.held slot already)
        · exact grows slot (labelled.writing slot.1 request slot.2 transmitting)
  | mailboxSent index present transmits =>
      refine ⟨fun serial request frame writing =>
        grows _ (labelled.writing serial request frame writing), ?_⟩
      intro slot member
      exact grows slot (labelled.held slot (List.mem_of_mem_eraseIdx member))
  | _ =>
      exact ⟨fun serial request frame writing =>
          grows _ (labelled.writing serial request frame writing),
        fun slot member => grows slot (labelled.held slot member)⟩

/-- The frames handed to the bus so far, against the messages and their stages. -/
structure Departures (departed : List (Nat × Frame)) (s : System) : Prop where
  reached : Reached s
  labelled : Labelled s
  distinct : (departed.map Prod.fst).Nodup
  sent : ∀ number, number ∈ departed.map Prod.fst ↔ stage s number = .sent
  carried : ∀ slot ∈ departed, Carries s slot

theorem boot_departures (config : CanConfig) : Departures [] (boot config) where
  reached := boot_reached config
  labelled := boot_labelled config
  distinct := List.nodup_nil
  sent := by
    intro number
    simp [stage, tally, tallyOf, boot, Driver.new, Can.new, queuedMessages, UsbRx.new, Tally.stage,
      Tally.openStage]
  carried := by
    intro slot member
    cases member

-- A frame leaving its mailbox is the first of its message to leave.
theorem sent_departures (documented : platform.Documented) (departed : List (Nat × Frame))
    (s next : System) (index : Nat) (known : Departures departed s)
    (moved : Move platform s (.mailboxSent index) next) :
    Departures (departed ++ (departure s (.mailboxSent index)).toList) next := by
  have reached := move_reached s next _ known.reached moved
  have labelled := move_labelled documented s next _ known.reached known.labelled moved
  have grows := carries_grow s next _ moved
  cases moved with
  | mailboxSent _ present transmits =>
      have slot : departure s (.mailboxSent index) = some s.driver.can.mailboxes[index] :=
        List.getElem?_eq_getElem present
      have held : index < (tally s).held.length := by simpa [tally, tallyOf] using present
      have named : (tally s).held[index] = s.driver.can.mailboxes[index].1 := by
        simp [tally, tallyOf]
      have stages : ∀ number,
          stage { s with driver := { s.driver with can := s.driver.can.sent index } } number =
            if number = s.driver.can.mailboxes[index].1 then .sent else stage s number := by
        intro number
        rw [← named]
        apply send_stage (tally s) _ number known.reached.valid index held
        simp [tally, tallyOf, queuedMessages, Can.sent, List.eraseIdx_map]
      have unsent : s.driver.can.mailboxes[index].1 ∉ departed.map Prod.fst := by
        rw [known.sent, ← named]
        -- A held message is in stage stored, and those that have left are in stage sent.
        have stored := held_stored (tally s) known.reached.valid _ (List.getElem_mem held)
        rw [stage, stored]
        exact Stage.noConfusion
      refine ⟨reached, labelled, ?_, ?_, ?_⟩
      · rw [slot, Option.toList_some, List.map_append, List.map_singleton]
        refine List.nodup_append.mpr ⟨known.distinct, List.nodup_singleton _, ?_⟩
        rintro number earlier other added rfl
        rw [List.mem_singleton.mp added] at earlier
        exact unsent earlier
      · intro number
        rw [slot, Option.toList_some, List.map_append, List.mem_append, known.sent, stages]
        split
        · rename_i same
          simp [same]
        · rename_i other
          simp [other]
      · rw [slot, Option.toList_some]
        exact Machine.seen_one_more departed _
          (fun other earlier => grows other (known.carried other earlier))
          (grows _ (known.labelled.held _ (List.getElem_mem present)))

theorem step_departures (documented : platform.Documented) (departed : List (Nat × Frame))
    (s next : System) (event : Firmware.Event) (known : Departures departed s)
    (stepped : step platform s event = some next) :
    Departures (departed ++ (departure s event).toList) next := by
  have moved := step_move s next event known.reached.sound stepped
  by_cases leaves : ∃ index, event = .mailboxSent index
  · obtain ⟨index, rfl⟩ := leaves
    exact sent_departures documented departed s next index known moved
  · have stays : departure s event = none := by
      cases event with
      | mailboxSent index => exact absurd ⟨index, rfl⟩ leaves
      | _ => rfl
    have other : causeOf event ≠ some .send := by
      cases event with
      | mailboxSent index => exact absurd ⟨index, rfl⟩ leaves
      | driver event => cases event <;> simp [causeOf]
      | _ => simp [causeOf]
    have turn := move_turn s next event known.reached.queue known.reached.custody moved
    rw [stays, Option.toList_none, List.append_nil]
    refine ⟨move_reached s next event known.reached moved,
      move_labelled documented s next event known.reached known.labelled moved, known.distinct,
      ?_, ?_⟩
    · intro number
      rw [known.sent]
      exact (turn_sent (tally s) (tally next) _ known.reached.valid turn other number).symm
    · intro slot member
      exact carries_grow s next event moved slot (known.carried slot member)

theorem run_departures (documented : platform.Documented) (config : CanConfig)
    (events : List Firmware.Event) (final : System)
    (finished : Machine.run (step platform) (boot config) events = some final) :
    Departures (Machine.observed (step platform) departure (boot config) events) final := by
  have known : Departures ([] ++ _) final :=
    Machine.run_observed_invariant (step platform) departure Departures
      (fun departed s event next known stepped =>
        step_departures documented departed s next event known stepped)
      [] (boot config) final events finished (boot_departures config)
  rwa [List.nil_append] at known

/-- A fourth message finds the mailboxes full and takes the place of the third, which has had
its echo and never reaches the bus. -/
def replacing : List Firmware.Event :=
  bringUp ++ .epOutEnabled ::
    ([1, 2, 3].flatMap fun echoId => hostMessage echoId (0x122 + echoId) :: storeMessage) ++
    [hostMessage 4 0x126, .driver .command, .driver (.written (some 2)), .mailboxSent 1,
      .mailboxSent 0, .mailboxSent 0]

end NginLink.Lifecycle
