import NginLink.CommandQueue
import NginLink.Translation

/-!
What becomes of the transmit requests the driver takes: each is settled exactly
once, in the order taken, by a stopped driver ignoring it, by a frame error, by
the timeout or by `Ok`. At most one is being transmitted at any time.
-/

namespace NginLink.TransmitLedger

open AppContext BoundedChannel BspCan CanDriver CommandQueue DriverState GsUsbTypes

structure Answer where
  serial : Nat
  request : CanTxRequest
  outcome : Outcome
  deriving DecidableEq

def answerOf : Record → Option Answer
  | .outcome serial request outcome => some { serial, request, outcome }
  | _ => none

abbrev answers (log : List Record) : List Answer := log.filterMap answerOf

def requests (log : List Record) : List CanTxRequest := (commands log).filterMap requestOf

-- The request `transmit` is working on.
def pending : Phase → List CanTxRequest
  | .transmitting _ request _ => [request]
  | _ => []

-- The echoes that USB_ECHO_CHANNEL took; error frames share the channel.
def echoes (ctx : Context) : List GsHostFrame := ctx.usbEcho.accepted.filter (·.isTxEcho)

section Views
variable (driver : Driver)

@[simp] theorem answers_loop_top : answers driver.loopTop.log = answers driver.log :=
  loop_top_view driver answerOf rfl

@[simp] theorem requests_loop_top : requests driver.loopTop.log = requests driver.log :=
  congrArg (List.filterMap requestOf) (commands_loop_top driver)

@[simp] theorem requests_append (first second : List Record) :
    requests (first ++ second) = requests first ++ requests second := by
  simp [requests]

@[simp] theorem requests_nil : requests [] = [] := rfl

@[simp] theorem requests_cons (record : Record) (rest : List Record) :
    requests (record :: rest) = ((commandOf record).bind requestOf).toList ++ requests rest := by
  unfold requests
  cases found : commandOf record with
  | none => simp [found]
  | some cmd => cases carried : requestOf cmd <;> simp [found, carried]

@[simp] theorem pending_loop_top : pending driver.loopTop.phase = [] := by
  rw [loop_top_phase]
  split <;> rfl

theorem loop_top_keeps_log (record : Record) (member : record ∈ driver.log) :
    record ∈ driver.loopTop.log := by
  rw [loop_top_log]
  exact List.mem_append_left _ member

end Views

theorem echo_is_tx_echo (request : CanTxRequest) : (echoFrame request).isTxEcho = true := by
  change (gsUsbFlagTxEcho &&& gsUsbFlagTxEcho != 0) = true
  decide

theorem bus_error_no_echo (error : CanBusError) :
    (GsHostFrame.fromBusError error).isTxEcho = false := by
  cases error <;> rfl

theorem controller_error_no_echo (error : CanControllerError) :
    (GsHostFrame.fromControllerError error).isTxEcho = false := by
  cases error <;> rfl

/-- The four ways a step of the driver can treat transmit requests. -/
inductive Handling (driver next : Driver) (ctx after : Context) : Prop where
  | untouched (requests : requests next.log = requests driver.log)
      (answers : answers next.log = answers driver.log)
      (serials : next.serials = driver.serials)
      (pending : pending next.phase = pending driver.phase)
      (phase : ∀ serial request frame, next.phase = .transmitting serial request frame →
        driver.phase = .transmitting serial request frame)
      (echoes : echoes after = echoes ctx)
  | begun (request frame) (idle : pending driver.phase = [])
      (requests : requests next.log = requests driver.log ++ [request])
      (answers : answers next.log = answers driver.log)
      (serials : next.serials = driver.serials + 1)
      (phase : next.phase = .transmitting driver.serials request frame)
      (handed : .transmit driver.serials request true ∈ next.log)
      (echoes : echoes after = echoes ctx)
  | refused (request outcome) (idle : pending driver.phase = [])
      (requests : requests next.log = requests driver.log ++ [request])
      (answers : answers next.log = answers driver.log ++ [⟨driver.serials, request, outcome⟩])
      (serials : next.serials = driver.serials + 1)
      (phase : pending next.phase = [])
      (failed : outcome.isOk = false)
      (handed : outcome ≠ .ignored → .transmit driver.serials request true ∈ next.log)
      (echoes : echoes after = echoes ctx)
  | finished (serial request frame outcome)
      (transmitting : driver.phase = .transmitting serial request frame)
      (requests : requests next.log = requests driver.log)
      (answers : answers next.log = answers driver.log ++ [⟨serial, request, outcome⟩])
      (serials : next.serials = driver.serials)
      (phase : pending next.phase = [])
      (tried : outcome ≠ .ignored)
      (echoes : echoes after = echoes ctx ++
        if outcome = .echoed then [echoFrame request] else [])

variable {platform : Platform}

theorem echo_queued (ctx : Context) (request : CanTxRequest)
    (room : ctx.usbEcho.hasRoom = true) :
    echoes { ctx with usbEcho := (ctx.usbEcho.trySend (echoFrame request)).1 } =
      echoes ctx ++ [echoFrame request] := by
  simp [echoes, Channel.try_send_accepted, room, echo_is_tx_echo]

theorem error_not_echo (channel : Channel GsHostFrame 16) (frame : GsHostFrame)
    (error : frame.isTxEcho = false) :
    (channel.trySend frame).1.accepted.filter (·.isTxEcho) =
      channel.accepted.filter (·.isTxEcho) := by
  rw [Channel.try_send_accepted]
  split <;> simp [error]

theorem full_channel_keeps (channel : Channel GsHostFrame 16) (frame : GsHostFrame)
    (full : channel.hasRoom = false) : (channel.trySend frame).1.accepted = channel.accepted := by
  rw [Channel.try_send_accepted, full]
  rfl

theorem untouched_idle (driver next : Driver) (ctx after : Context)
    (idle : pending driver.phase = []) (still : pending next.phase = [])
    (sameRequests : requests next.log = requests driver.log)
    (sameAnswers : answers next.log = answers driver.log)
    (sameSerials : next.serials = driver.serials) (sameEchoes : echoes after = echoes ctx) :
    Handling driver next ctx after := by
  refine .untouched sameRequests sameAnswers sameSerials (still.trans idle.symm) ?_ sameEchoes
  intro serial request frame transmitting
  rw [transmitting] at still
  cases still

theorem transition_handling (driver next : Driver) (ctx after : Context)
    (event : CanDriver.Event) (moved : Transition platform driver ctx event next after)
    (branch : InBranch driver.isStarted driver.phase)
    (sliceable : ∀ request rest, ctx.canCmd.tryReceive = some (.transmit request, rest) →
      dataSlice request ≠ none) : Handling driver next ctx after := by
  cases moved with
  | startedTransmit canCmd request data frame selecting taken sliced built =>
      have started := selecting_started driver branch selecting
      refine .begun request frame (by rw [selecting]; rfl) ?_ ?_ rfl rfl ?_ rfl
      · simp [commandOf, requestOf]
      · simp [answerOf]
      · simp [started]
  | startedFrameError canCmd request data error selecting taken sliced failed =>
      have started := selecting_started driver branch selecting
      refine .refused request .frameError (by rw [selecting]; rfl) ?_ ?_ (by simp) (by simp) rfl
        ?_ rfl
      · simp [commandOf, requestOf]
      · simp [answerOf]
      · intro _
        exact loop_top_keeps_log _ _ (by simp [started])
  | stoppedTransmit canCmd request receiving taken =>
      refine .refused request .ignored (by rw [receiving]; rfl) ?_ ?_ (by simp) (by simp) rfl ?_ rfl
      · simp [commandOf, requestOf]
      · simp [answerOf]
      · intro contradiction
        exact absurd rfl contradiction
  | commandPanic canCmd cmd waiting taken fatal =>
      rcases fatal with ⟨timing, rfl, _⟩ | ⟨request, rfl, unsliced⟩
      · have idle : pending driver.phase = [] := by
          rcases waiting with phase | phase <;> rw [phase] <;> rfl
        refine .untouched ?_ ?_ rfl idle.symm ?_ rfl
        · simp [Driver.panic, commandOf, requestOf]
        · simp [Driver.panic, answerOf]
        · intro serial request frame phase
          cases phase
      · exact absurd unsliced (sliceable request canCmd taken)
  | written dequeued serial request frame transmitting room =>
      refine .finished serial request frame .echoed transmitting ?_ ?_ (by simp) (by simp)
        (by simp) ?_
      · simp [commandOf]
      · simp [answerOf]
      · simpa using echo_queued ctx request room
  | writtenRefused dequeued serial request frame transmitting full =>
      refine .finished serial request frame .echoDropped transmitting ?_ ?_ (by simp) (by simp)
        (by simp) ?_
      · simp [commandOf]
      · simp [answerOf]
      · simp [echoes, full_channel_keeps ctx.usbEcho _ full]
  | timedOut serial request frame transmitting =>
      refine .finished serial request frame .timeout transmitting ?_ ?_ (by simp) (by simp)
        (by simp) ?_
      · simp [commandOf]
      · simp [answerOf]
      · simp
  | busOffGivenUp error count selecting counted many =>
      exact untouched_idle driver _ ctx _ (by rw [selecting]; rfl) (by simp)
        (by simp [commandOf]) (by simp [answerOf]) (by simp)
        (error_not_echo ctx.usbEcho _ (controller_error_no_echo .busOff))
  | errorQueued error count selecting counted room
  | errorRefused error count evicted canRx selecting counted full taken
  | errorRefusedAlone error count selecting counted full empty =>
      exact untouched_idle driver _ ctx _ (by rw [selecting]; rfl) (by simp)
        (by simp [commandOf]) (by simp [answerOf]) (by simp)
        (error_not_echo ctx.usbEcho _ (bus_error_no_echo error.toCanBusError))
  | commandEnabled cmd inLoop enabling =>
      exact untouched_idle driver _ ctx _ (by rw [enabling]; rfl) (by simp)
        (by simp [commandOf]) (by simp [answerOf]) (by simp) rfl
  | recovered delayMs recovering =>
      exact untouched_idle driver _ ctx _ (by rw [recovering]; rfl) rfl
        (by simp [commandOf]) (by simp [answerOf]) (by simp) rfl
  | delayed delayMs delaying =>
      exact untouched_idle driver _ ctx _ (by rw [delaying]; rfl) (by simp)
        (by simp [commandOf]) (by simp [answerOf]) (by simp) rfl
  | stoppedStart canCmd loopback listenOnly oneShot receiving taken =>
      exact untouched_idle driver _ ctx _ (by rw [receiving]; rfl) rfl
        (by simp [commandOf, requestOf]) (by simp [answerOf]) (by simp) rfl
  | stoppedStop canCmd receiving taken
  | stoppedTiming canCmd timing can receiving taken valid =>
      exact untouched_idle driver _ ctx _ (by rw [receiving]; rfl) (by simp)
        (by simp [commandOf, requestOf]) (by simp [answerOf]) (by simp) rfl
  | startedStop canCmd selecting taken
  | startedStart canCmd loopback listenOnly oneShot selecting taken
  | startedTiming canCmd timing can selecting taken valid
  | errorPanic error sleeping selecting overflow
  | busOffRetry error count delayMs selecting counted few delay =>
      exact untouched_idle driver _ ctx _ (by rw [selecting]; rfl) rfl
        (by simp [Driver.panic, commandOf, requestOf]) (by simp [Driver.panic, answerOf])
        (by simp [Driver.panic]) rfl
  | frameQueued frame selecting room
  | frameRefused frame evicted canRx selecting full taken =>
      exact untouched_idle driver _ ctx _ (by rw [selecting]; rfl) (by simp)
        (by simp [commandOf]) (by simp [answerOf]) (by simp) rfl

/-- The requests taken so far against what became of them. -/
structure Ledger (driver : Driver) : Prop where
  settled : requests driver.log = (answers driver.log).map (·.request) ++ pending driver.phase
  numbered : (answers driver.log).map (·.serial) = List.range (answers driver.log).length
  counted : driver.serials = (requests driver.log).length
  handed : ∀ answer ∈ answers driver.log, answer.outcome ≠ .ignored →
    .transmit answer.serial answer.request true ∈ driver.log
  writing : ∀ serial request frame, driver.phase = .transmitting serial request frame →
    serial = (answers driver.log).length ∧ .transmit serial request true ∈ driver.log

theorem boot_ledger (config : CanConfig) : Ledger (Driver.new (.new config)) where
  settled := rfl
  numbered := rfl
  counted := rfl
  handed := by
    intro answer member
    cases member
  writing := by
    intro serial request frame phase
    cases phase

theorem transition_log_grows (driver next : Driver) (ctx after : Context)
    (event : CanDriver.Event) (moved : Transition platform driver ctx event next after)
    (record : Record) (member : record ∈ driver.log) : record ∈ next.log := by
  cases moved with
  | startedStop | startedStart | startedTiming | startedTransmit | stoppedStart | commandPanic
  | errorPanic | busOffRetry | recovered => exact List.mem_append_left _ member
  | _ => exact loop_top_keeps_log _ _ (List.mem_append_left _ member)

theorem range_snoc (serials : List Nat) (count : Nat) (numbered : serials = List.range count) :
    serials ++ [count] = List.range (count + 1) := by
  rw [numbered, List.range_succ]

theorem ledger_answered (driver next : Driver) (answer : Answer) (ledger : Ledger driver)
    (grows : ∀ record ∈ driver.log, record ∈ next.log)
    (added : answers next.log = answers driver.log ++ [answer])
    (position : answer.serial = (answers driver.log).length)
    (recorded : answer.outcome ≠ .ignored →
      .transmit answer.serial answer.request true ∈ next.log) :
    (answers next.log).map (·.serial) = List.range (answers next.log).length ∧
    ∀ other ∈ answers next.log, other.outcome ≠ .ignored →
      .transmit other.serial other.request true ∈ next.log := by
  rw [added]
  constructor
  · rw [List.map_append, List.map_singleton, List.length_append, position]
    exact range_snoc _ _ ledger.numbered
  · intro other member tried
    rcases List.mem_append.mp member with earlier | last
    · exact grows _ (ledger.handed other earlier tried)
    · rw [List.mem_singleton.mp last] at tried ⊢
      exact recorded tried

theorem transition_ledger (driver next : Driver) (ctx after : Context)
    (event : CanDriver.Event) (moved : Transition platform driver ctx event next after)
    (handling : Handling driver next ctx after) (ledger : Ledger driver) : Ledger next := by
  have grows := transition_log_grows driver next ctx after event moved
  cases handling with
  | untouched sameRequests sameAnswers sameSerials samePending samePhase _ =>
      constructor
      · rw [sameRequests, sameAnswers, samePending]
        exact ledger.settled
      · rw [sameAnswers]
        exact ledger.numbered
      · rw [sameSerials, sameRequests]
        exact ledger.counted
      · intro answer member tried
        rw [sameAnswers] at member
        exact grows _ (ledger.handed answer member tried)
      · intro serial request frame phase
        obtain ⟨position, recorded⟩ :=
          ledger.writing serial request frame (samePhase serial request frame phase)
        rw [sameAnswers]
        exact ⟨position, grows _ recorded⟩
  | begun request frame idle newRequests sameAnswers newSerials phase recorded _ =>
      -- With nothing pending, the serial of the call is the number of answers so far.
      have balance := ledger.settled
      rw [idle, List.append_nil] at balance
      constructor
      · rw [newRequests, sameAnswers, phase, balance]
        rfl
      · rw [sameAnswers]
        exact ledger.numbered
      · rw [newSerials, newRequests, ledger.counted, List.length_append]
        rfl
      · intro answer member tried
        rw [sameAnswers] at member
        exact grows _ (ledger.handed answer member tried)
      · intro serial other sent transmitting
        rw [phase] at transmitting
        cases transmitting
        rw [sameAnswers, ledger.counted, balance, List.length_map]
        exact ⟨rfl, by rwa [ledger.counted, balance, List.length_map] at recorded⟩
  | refused request outcome idle newRequests newAnswers newSerials phase failed recorded _ =>
      have balance := ledger.settled
      rw [idle, List.append_nil] at balance
      have position : driver.serials = (answers driver.log).length := by
        rw [ledger.counted, balance, List.length_map]
      obtain ⟨numbered, handed⟩ :=
        ledger_answered driver next _ ledger grows newAnswers position recorded
      refine ⟨?_, numbered, ?_, handed, ?_⟩
      · rw [newRequests, newAnswers, phase, balance]
        simp
      · rw [newSerials, newRequests, ledger.counted, List.length_append]
        rfl
      · intro serial other sent transmitting
        rw [transmitting] at phase
        cases phase
  | finished serial request frame outcome transmitting sameRequests newAnswers sameSerials phase
      tried _ =>
      have balance := ledger.settled
      rw [transmitting] at balance
      obtain ⟨position, recorded⟩ := ledger.writing serial request frame transmitting
      obtain ⟨numbered, handed⟩ :=
        ledger_answered driver next _ ledger grows newAnswers position fun _ => grows _ recorded
      refine ⟨?_, numbered, ?_, handed, ?_⟩
      · rw [sameRequests, newAnswers, phase, balance]
        simp [pending]
      · rw [sameSerials, sameRequests]
        exact ledger.counted
      · intro other request' sent again
        rw [again] at phase
        cases phase

end NginLink.TransmitLedger
