import NginLink.TransmitLedger

/-!
From the messages the host sends to the echoes it gets back, over every run of
the whole firmware. The driver settles the queued messages one by one in order,
USB_ECHO_CHANNEL holds the echoes of those transmitted `Ok`, and `usb_tx_task`
takes them in that order.
-/

namespace NginLink.Echoes

open AppContext BoundedChannel BspCan CanDriver CommandQueue DriverState Firmware GsUsbTypes
open TransmitLedger Translation UsbTasks

def takenEchoes (tx : UsbTx) : List GsHostFrame := (tx.taken.map Prod.snd).filter (·.isTxEcho)

def echoed (answer : Answer) : Bool := answer.outcome = .echoed

/-- Requests, answers and echoes in one reachable state. -/
structure Custody (s : System) : Prop where
  ledger : Ledger s.driver
  sent : echoes s.ctx = ((answers s.driver.log).filter echoed).map fun answer =>
    echoFrame answer.request
  taken : takenEchoes s.usbTx = s.ctx.usbEcho.received.filter (·.isTxEcho)

theorem boot_custody (config : CanConfig) : Custody (boot config) where
  ledger := boot_ledger config
  sent := rfl
  taken := rfl

theorem received_no_echo (frame : CanProtocol.CanFrame) :
    (toHostFrame frame).isTxEcho = false := by
  change (0 &&& gsUsbFlagTxEcho != 0) = false
  decide

theorem taken_echoes_start (tx : UsbTx) (source : Source) (frame : GsHostFrame) :
    takenEchoes (tx.startWrite source frame) =
      takenEchoes tx ++ if frame.isTxEcho then [frame] else [] := by
  unfold takenEchoes UsbTx.startWrite
  cases echo : frame.isTxEcho <;> simp [echo]

theorem queued_sliceable (s : System) (queue : Queue s) (request : CanTxRequest)
    (rest : Channel CanDriverCmd 16)
    (taken : s.ctx.canCmd.tryReceive = some (.transmit request, rest)) :
    dataSlice request ≠ none := by
  have front := (Channel.try_receive_some s.ctx.canCmd rest _ taken).1
  have accepted : .transmit request ∈ s.ctx.canCmd.accepted := by
    rw [← s.ctx.canCmd.fifo, front]
    simp
  have parsed : request ∈ (queuedMessages s).map fun record => parseTxMsg record.msg := by
    rw [← queue.requests]
    exact List.mem_filterMap.mpr ⟨_, accepted, rfl⟩
  obtain ⟨record, _, rfl⟩ := List.mem_map.mp parsed
  rw [data_slice_some _ (parse_well_formed record.msg)]
  exact Option.some_ne_none _

variable {platform : Platform}

/-- Besides echoes the driver only sends error frames, and only to USB_ECHO_CHANNEL. -/
theorem transition_sends (driver next : Driver) (ctx after : Context) (event : CanDriver.Event)
    (moved : Transition platform driver ctx event next after) :
    after.usbEcho = ctx.usbEcho ∨
    (∃ request dequeued, event = .written dequeued ∧
      after.usbEcho = (ctx.usbEcho.trySend (echoFrame request)).1) ∨
    (∃ error, after.usbEcho = (ctx.usbEcho.trySend (GsHostFrame.fromBusError error)).1) ∨
    after.usbEcho = (ctx.usbEcho.trySend (GsHostFrame.fromControllerError .busOff)).1 := by
  cases moved with
  | written dequeued serial request frame transmitting room
  | writtenRefused dequeued serial request frame transmitting full =>
      exact Or.inr (Or.inl ⟨request, dequeued, rfl, rfl⟩)
  | errorQueued error count selecting counted room
  | errorRefused error count evicted canRx selecting counted full taken
  | errorRefusedAlone error count selecting counted full empty =>
      exact Or.inr (Or.inr (Or.inl ⟨error.toCanBusError, rfl⟩))
  | busOffGivenUp error count selecting counted many => exact Or.inr (Or.inr (Or.inr rfl))
  | _ => exact Or.inl rfl

theorem transition_echo_received (driver next : Driver) (ctx after : Context)
    (event : CanDriver.Event) (moved : Transition platform driver ctx event next after) :
    after.usbEcho.received = ctx.usbEcho.received := by
  rcases transition_sends driver next ctx after event moved with
    same | ⟨request, _, _, sent⟩ | ⟨error, sent⟩ | sent
  · rw [same]
  all_goals
    rw [sent]
    exact Channel.try_send_received ctx.usbEcho _

theorem handling_sent (driver next : Driver) (ctx after : Context)
    (handling : Handling driver next ctx after)
    (sent : echoes ctx = ((answers driver.log).filter echoed).map fun answer =>
      echoFrame answer.request) :
    echoes after = ((answers next.log).filter echoed).map fun answer =>
      echoFrame answer.request := by
  cases handling with
  | untouched _ sameAnswers _ _ _ sameEchoes => rw [sameEchoes, sameAnswers, sent]
  | begun _ _ _ _ sameAnswers _ _ _ sameEchoes => rw [sameEchoes, sameAnswers, sent]
  | refused request outcome _ _ newAnswers _ _ failed _ sameEchoes =>
      have silent : echoed ⟨driver.serials, request, outcome⟩ = false := by
        cases outcome <;> simp_all [echoed, Outcome.isOk]
      rw [sameEchoes, newAnswers, sent]
      simp [silent]
  | finished serial request _ outcome _ _ newAnswers _ _ _ newEchoes =>
      rw [newEchoes, newAnswers, sent]
      by_cases ok : outcome = .echoed
      · simp [echoed, ok]
      · simp [echoed, ok]

theorem move_custody (s next : System) (event : Firmware.Event)
    (coherent : Coherent s.driver s.ctx) (queue : Queue s) (custody : Custody s)
    (moved : Move platform s event next) : Custody next := by
  cases moved with
  | driver event driver ctx moved =>
      have handling := transition_handling s.driver driver s.ctx ctx event moved coherent.branch
        (queued_sliceable s queue)
      constructor
      · exact transition_ledger s.driver driver s.ctx ctx event moved handling custody.ledger
      · exact handling_sent s.driver driver s.ctx ctx handling custody.sent
      · rw [transition_echo_received s.driver driver s.ctx ctx event moved]
        exact custody.taken
  | tookRx frame canRx selecting taken =>
      refine ⟨custody.ledger, custody.sent, ?_⟩
      rw [taken_echoes_start, received_no_echo, custody.taken]
      simp
  | tookEcho frame usbEcho selecting taken =>
      obtain ⟨_, received, accepted, _⟩ := Channel.try_receive_some s.ctx.usbEcho usbEcho _ taken
      refine ⟨custody.ledger, ?_, ?_⟩
      · simpa [echoes, accepted] using custody.sent
      · rw [taken_echoes_start, custody.taken]
        cases echo : frame.isTxEcho <;> simp [received, echo]
  | mailboxSent index held transmits =>
      exact ⟨⟨custody.ledger.settled, custody.ledger.numbered, custody.ledger.counted,
        custody.ledger.handed, custody.ledger.writing⟩, custody.sent, custody.taken⟩
  | _ => exact ⟨custody.ledger, custody.sent, custody.taken⟩

theorem run_custody (config : CanConfig) (events : List Firmware.Event) (final : System)
    (finished : Machine.run (step platform) (boot config) events = some final) : Custody final :=
  run_known_invariant Custody
    (fun s event next coherent queue custody moved =>
      move_custody s next event coherent queue custody moved)
    config events final finished (boot_custody config)

-- Two lists whose images agree as far as the first goes pair up from the front.
theorem aligned_pairs {α β γ : Type} (left : List α) (right : List β) (f : α → γ) (g : β → γ)
    (aligned : left.map f <+: right.map g) :
    ∃ pairs : List (α × β), pairs.map Prod.fst = left ∧ pairs.map Prod.snd <+: right ∧
      ∀ pair ∈ pairs, f pair.1 = g pair.2 := by
  induction left generalizing right with
  | nil => exact ⟨[], rfl, List.nil_prefix, by simp⟩
  | cons head rest ih =>
      cases right with
      | nil => simp at aligned
      | cons first others =>
          rw [List.map_cons, List.map_cons, List.cons_prefix_cons] at aligned
          obtain ⟨same, remaining⟩ := aligned
          obtain ⟨pairs, lefts, rights, agree⟩ := ih others remaining
          refine ⟨(head, first) :: pairs, by simp [lefts], ?_, ?_⟩
          · simpa using rights
          · intro pair member
            rcases List.mem_cons.mp member with rfl | later
            · exact same
            · exact agree pair later

/-- The echo of a message, field by field: only the flags of `can_id` other than the
extended bit and a DLC above eight are lost. -/
theorem echo_of_message (msg : GsTxMsg) :
    echoFrame (parseTxMsg msg) =
      { echoId := msg.echoId
        canId := if msg.isExtended then (msg.canId &&& gsCanIdMaskEff) ||| gsCanIdFlagEff
          else msg.canId &&& gsCanIdMaskSff
        canDlc := min msg.canDlc 8, channel := 0, flags := gsUsbFlagTxEcho, reserved := 0
        data := msg.data } := by
  have word : GsHostFrame.dataCanId msg.id msg.isExtended =
      if msg.isExtended then (msg.canId &&& gsCanIdMaskEff) ||| gsCanIdFlagEff
      else msg.canId &&& gsCanIdMaskSff := by
    unfold GsHostFrame.dataCanId GsTxMsg.id
    cases msg.isExtended with
    | true => simp [WordBits.mask_mask]
    | false => simp [WordBits.mask_mask]
  simp only [echoFrame, GsHostFrame.fromTxMsgEcho, GsHostFrame.dataFrame, parseTxMsg, word]
  rfl

theorem answer_position (s : System) (custody : Custody s) (index : Nat) (answer : Answer)
    (found : (answers s.driver.log)[index]? = some answer) : answer.serial = index := by
  obtain ⟨bound, rfl⟩ := List.getElem?_eq_some_iff.mp found
  have numbers := congrArg (fun numbers => numbers[index]?) custody.ledger.numbered
  simpa [bound] using numbers

theorem answered_messages (s : System) (queue : Queue s) (custody : Custody s) :
    ∃ pairs : List (Answer × MessageRecord),
      pairs.map Prod.fst = answers s.driver.log ∧
      pairs.map Prod.snd <+: queuedMessages s ∧
      (∀ pair ∈ pairs, pair.1.request = parseTxMsg pair.2.msg) ∧
      ∀ pair ∈ pairs, (queuedMessages s)[pair.1.serial]? = some pair.2 := by
  have received : requests s.driver.log <+: s.ctx.canCmd.accepted.filterMap requestOf := by
    rw [requests, queue.taken]
    exact (Channel.received_prefix s.ctx.canCmd).filterMap requestOf
  have aligned : (answers s.driver.log).map (·.request) <+:
      (queuedMessages s).map fun record => parseTxMsg record.msg := by
    rw [← queue.requests]
    refine List.IsPrefix.trans ?_ received
    rw [custody.ledger.settled]
    exact List.prefix_append _ _
  obtain ⟨pairs, lefts, rights, agree⟩ := aligned_pairs _ _ _ _ aligned
  refine ⟨pairs, lefts, rights, agree, ?_⟩
  intro pair member
  obtain ⟨index, bound, rfl⟩ := List.getElem_of_mem member
  have serial : pairs[index].1.serial = index :=
    answer_position s custody index _ (by rw [← lefts]; simp [bound])
  obtain ⟨rest, front⟩ := rights
  rw [serial, ← front, List.getElem?_append_left (by simpa using bound)]
  simp [bound]

theorem answer_recorded (log : List Record) (answer : Answer) (member : answer ∈ answers log) :
    .outcome answer.serial answer.request answer.outcome ∈ log := by
  obtain ⟨record, logged, found⟩ := List.mem_filterMap.mp member
  cases record with
  | outcome serial request outcome =>
      cases found
      exact logged
  | _ => cases found

theorem answers_increase (s : System) (custody : Custody s) :
    (answers s.driver.log).Pairwise fun earlier later => earlier.serial < later.serial := by
  have numbers := List.pairwise_lt_range (n := (answers s.driver.log).length)
  rw [← custody.ledger.numbered] at numbers
  exact List.pairwise_map.mp numbers

/-- The echoes taken so far answer a subsequence of the messages, one each and in
order; every answered message was handed to `transmit` while started and stored. -/
theorem echoes_answer_messages (platform : Platform) (config : CanConfig)
    (events : List Firmware.Event) (final : System)
    (finished : Machine.run (step platform) (boot config) events = some final) :
    ∃ answered : List (Nat × MessageRecord),
      answered.Pairwise (fun earlier later => earlier.1 < later.1) ∧
      (answered.map Prod.snd).Sublist final.usbRx.messages ∧
      (∀ entry ∈ answered,
        (queuedMessages final)[entry.1]? = some entry.2 ∧
        Record.transmit entry.1 (parseTxMsg entry.2.msg) true ∈ final.driver.log ∧
        Record.outcome entry.1 (parseTxMsg entry.2.msg) .echoed ∈ final.driver.log) ∧
      takenEchoes final.usbTx = answered.map fun entry =>
        { echoId := entry.2.msg.echoId
          canId := if entry.2.msg.isExtended then
              (entry.2.msg.canId &&& gsCanIdMaskEff) ||| gsCanIdFlagEff
            else entry.2.msg.canId &&& gsCanIdMaskSff
          canDlc := min entry.2.msg.canDlc 8, channel := 0, flags := gsUsbFlagTxEcho
          reserved := 0, data := entry.2.msg.data } := by
  have queue := run_queue config events final finished
  have custody := run_custody config events final finished
  obtain ⟨pairs, lefts, rights, agree, positions⟩ := answered_messages final queue custody
  -- The taken echoes are the first of those the channel took.
  have front : takenEchoes final.usbTx <+: (pairs.filter (echoed ·.1)).map fun pair =>
      echoFrame pair.1.request := by
    have order : takenEchoes final.usbTx <+: echoes final.ctx := by
      rw [custody.taken]
      exact (Channel.received_prefix final.ctx.usbEcho).filter _
    rw [custody.sent, ← lefts, List.filter_map, List.map_map] at order
    exact order
  have taken := List.prefix_iff_eq_take.mp front
  rw [← List.map_take] at taken
  generalize takenEchoes final.usbTx = sent at taken ⊢
  generalize count : sent.length = length at taken
  have part : ((pairs.filter (echoed ·.1)).take length).Sublist pairs :=
    (List.take_sublist _ _).trans List.filter_sublist
  refine ⟨((pairs.filter (echoed ·.1)).take length).map fun pair => (pair.1.serial, pair.2),
    ?_, ?_, ?_, ?_⟩
  · have increase := answers_increase final custody
    rw [← lefts] at increase
    exact List.pairwise_map.mpr ((List.pairwise_map.mp increase).sublist part)
  · rw [List.map_map]
    have messages : (pairs.map Prod.snd).Sublist final.usbRx.messages :=
      rights.sublist.trans List.filter_sublist
    exact (part.map Prod.snd).trans messages
  · intro entry member
    obtain ⟨pair, chosen, rfl⟩ := List.mem_map.mp member
    have answered : pair ∈ pairs := part.subset chosen
    have ok : pair.1.outcome = .echoed := by
      have kept := (List.mem_filter.mp (List.mem_of_mem_take chosen)).2
      simpa [echoed] using kept
    have logged : pair.1 ∈ answers final.driver.log := by
      rw [← lefts]
      exact List.mem_map_of_mem answered
    have request := agree pair answered
    refine ⟨positions pair answered, ?_, ?_⟩
    · rw [← request]
      exact custody.ledger.handed pair.1 logged (by simp [ok])
    · rw [← request, ← ok]
      exact answer_recorded final.driver.log pair.1 logged
  · rw [taken, List.map_map]
    apply List.map_congr_left
    intro pair chosen
    rw [agree pair (part.subset chosen), echo_of_message]
    rfl

theorem echoes_answer_messages_silent_bus :
    ∃ final, Machine.run (step (Platform.embassy true)) (boot resetConfig) silentBus = some final ∧
      (takenEchoes final.usbTx).map (·.echoId) = [1, 2, 3] ∧
      ∃ answered : List (Nat × MessageRecord),
        (answered.map Prod.snd).Sublist final.usbRx.messages ∧
        answered.map (fun entry => entry.2.msg.echoId) = [1, 2, 3] := by
  obtain ⟨final, finished, ids⟩ : ∃ final, Machine.run (step (Platform.embassy true))
      (boot resetConfig) silentBus = some final ∧
      (takenEchoes final.usbTx).map (·.echoId) = [1, 2, 3] := ⟨_, rfl, by decide⟩
  obtain ⟨answered, _, messages, _, taken⟩ :=
    echoes_answer_messages (Platform.embassy true) resetConfig silentBus final finished
  refine ⟨final, finished, ids, answered, messages, ?_⟩
  rw [taken, List.map_map] at ids
  exact ids

/-- What the host can count on once both queues are empty and every task waits: the
queued messages have all been settled, in order, and those whose transmission
returned `Ok` and whose echo found a free slot have exactly one echo each. -/
theorem quiescent_answers (platform : Platform) (config : CanConfig)
    (events : List Firmware.Event) (final : System)
    (finished : Machine.run (step platform) (boot config) events = some final)
    (quiescent : Quiescent final) :
    ∃ settled : List (MessageRecord × Outcome),
      settled.map Prod.fst = queuedMessages final ∧
      (∀ position message outcome, settled[position]? = some (message, outcome) →
        Record.outcome position (parseTxMsg message.msg) outcome ∈ final.driver.log ∧
        (outcome ≠ .ignored →
          Record.transmit position (parseTxMsg message.msg) true ∈ final.driver.log)) ∧
      takenEchoes final.usbTx =
        (settled.filter fun entry => entry.2 = .echoed).map fun entry =>
          echoFrame (parseTxMsg entry.1.msg) := by
  have queue := run_queue config events final finished
  have custody := run_custody config events final finished
  obtain ⟨noCommands, noEchoes, waiting, _⟩ := quiescent
  obtain ⟨pairs, lefts, rights, agree, positions⟩ := answered_messages final queue custody
  have idle : pending final.driver.phase = [] := by
    rcases waiting_phase final.driver waiting with phase | phase <;> rw [phase] <;> rfl
  have taken : requests final.driver.log =
      (queuedMessages final).map fun record => parseTxMsg record.msg := by
    rw [← queue.requests, requests, queue.taken, Channel.received_eq_accepted _ noCommands]
  -- Nothing is queued and nothing is pending, so no message is left without an answer.
  have all : pairs.map Prod.snd = queuedMessages final := by
    apply rights.eq_of_length
    have sizes := congrArg List.length taken
    rw [custody.ledger.settled, idle, List.append_nil, ← lefts] at sizes
    simpa using sizes
  refine ⟨pairs.map fun pair => (pair.2, pair.1.outcome), ?_, ?_, ?_⟩
  · rw [List.map_map, ← all]
    rfl
  · intro position message outcome found
    rw [List.getElem?_map] at found
    obtain ⟨pair, present, same⟩ := Option.map_eq_some_iff.mp found
    cases same
    have logged : (answers final.driver.log)[position]? = some pair.1 := by
      rw [← lefts, List.getElem?_map, present]
      rfl
    have serial := answer_position final custody position pair.1 logged
    have request := agree pair (List.mem_of_getElem? present)
    have member := List.mem_of_getElem? logged
    rw [← serial, ← request]
    exact ⟨answer_recorded _ pair.1 member, custody.ledger.handed pair.1 member⟩
  · rw [custody.taken, Channel.received_eq_accepted _ noEchoes]
    change echoes final.ctx = _
    rw [custody.sent, ← lefts, List.filter_map, List.map_map, List.filter_map, List.map_map]
    apply List.map_congr_left
    intro pair chosen
    have answered := (List.mem_filter.mp chosen).1
    simp [agree pair answered]

theorem quiescent_answers_silent_bus :
    ∃ final, Machine.run (step (Platform.embassy true)) (boot resetConfig) silentBus = some final ∧
      Quiescent final ∧
      ∃ settled : List (MessageRecord × Outcome),
        settled.map Prod.fst = queuedMessages final ∧
        takenEchoes final.usbTx =
          (settled.filter fun entry => entry.2 = .echoed).map fun entry =>
            echoFrame (parseTxMsg entry.1.msg) := by
  obtain ⟨final, finished, quiescent⟩ : ∃ final, Machine.run (step (Platform.embassy true))
      (boot resetConfig) silentBus = some final ∧ Quiescent final :=
    ⟨_, rfl, ⟨by decide, by decide, by decide, by decide⟩⟩
  obtain ⟨settled, messages, _, taken⟩ :=
    quiescent_answers (Platform.embassy true) resetConfig silentBus final finished quiescent
  exact ⟨final, finished, quiescent, settled, messages, taken⟩

/-- The fourth message of the run was read while started and is never answered. -/
theorem timed_out_message_unanswered :
    ∃ final, Machine.run (step (Platform.embassy true)) (boot resetConfig) silentBus = some final ∧
      Quiescent final ∧
      (∃ record ∈ final.usbRx.messages, record.started = true ∧ record.msg.echoId = 4) ∧
      ∀ entry ∈ final.usbTx.taken, entry.2.echoId ≠ 4 :=
  ⟨_, rfl, ⟨by decide, by decide, by decide, by decide⟩, by decide, by decide⟩

end NginLink.Echoes
