import NginLink.ControlHandler
import NginLink.WordBits

/-!
What sequences of control requests do to the handler and through it, for any
configuration of callbacks: which callbacks run, with which arguments and in which
order, what is answered, and what becomes of `user_id`.
-/

namespace NginLink.ControlRequests

open ByteLayout ControlHandler GsUsbControlHandler GsUsbTypes

variable {σ : Type}

inductive Invocation where
  | start (flags : UInt32)
  | stop
  | bitTiming (timing : GsDeviceBitTiming)
  | identify (on : Bool)
  deriving DecidableEq

def perform (handler : GsUsbControlHandler σ) (state : σ) : Invocation → σ
  | .start flags => invoke (handler.onStart.map fun cb => cb flags) state
  | .stop => invoke handler.onStop state
  | .bitTiming timing => invoke (handler.onBitTiming.map fun cb => cb timing) state
  | .identify on => invoke (handler.onIdentify.map fun cb => cb on) state

def word (payload : List UInt8) (index : Nat) : UInt32 :=
  UInt32.ofNat (leValue ((payload.drop (4 * index)).take 4))

def timingWords (payload : List UInt8) : GsDeviceBitTiming :=
  { propSeg := word payload 0, phaseSeg1 := word payload 1, phaseSeg2 := word payload 2
    sjw := word payload 3, brp := word payload 4 }

/-- The callbacks a control OUT request is specified to run. -/
def expected (handler : GsUsbControlHandler σ) (req : Request) (payload : List UInt8) :
    List Invocation :=
  if req.requestType ≠ .vendor then []
  else if req.request = gsUsbBreqBittiming then
    if 20 ≤ payload.length ∧ handler.onBitTiming.isSome then [.bitTiming (timingWords payload)]
    else []
  else if req.request = gsUsbBreqMode then
    if 8 ≤ payload.length ∧ word payload 0 = 1 ∧ handler.onStart.isSome then
      [.start (word payload 1)]
    else if 8 ≤ payload.length ∧ word payload 0 ≠ 1 ∧ handler.onStop.isSome then [.stop]
    else []
  else if req.request = gsUsbBreqIdentify then
    if 4 ≤ payload.length ∧ handler.capabilities.feature.toNat.testBit 5 ∧
        handler.onIdentify.isSome then [.identify (word payload 0 == 1)]
    else []
  else []

def answer (req : Request) : Option OutResponse :=
  if req.requestType = .vendor ∧ req.request ∈ [gsUsbBreqHostFormat, gsUsbBreqBittiming,
      gsUsbBreqMode, gsUsbBreqIdentify, gsUsbBreqSetUserId, gsUsbBreqSetTermination] then
    some .accepted
  else none

-- How much of its payload a request needs.
def needed (req : Request) : Nat :=
  if req.request = gsUsbBreqBittiming then 20
  else if req.request = gsUsbBreqMode then 8
  else if req.request = gsUsbBreqIdentify ∨ req.request = gsUsbBreqSetUserId then 4
  else 0

def userIdWrite (req : Request) (payload : List UInt8) : Option (List UInt8) :=
  if req.requestType = .vendor ∧ req.request = gsUsbBreqSetUserId ∧ 4 ≤ payload.length then
    some payload
  else none

def userIdAfter (req : Request) (payload : List UInt8) (userId : UInt32) : UInt32 :=
  (userIdWrite req payload).elim userId fun written => word written 0

theorem decode_word (payload : List UInt8) :
    Layout.u32.decode (payload.take 4) = word payload 0 := rfl

theorem decode_bit_timing (payload : List UInt8) :
    GsDeviceBitTiming.layout.decode (payload.take GsDeviceBitTiming.layout.size) =
      timingWords payload := by
  simp [GsDeviceBitTiming.layout, Layout.record, Layout.pair, Layout.u32, timingWords, word,
    List.drop_take, List.take_take, List.drop_drop]

theorem decode_mode (payload : List UInt8) :
    GsDeviceMode.layout.decode (payload.take GsDeviceMode.layout.size) =
      { mode := word payload 0, flags := word payload 1 } := by
  simp [GsDeviceMode.layout, Layout.record, Layout.pair, Layout.u32, word, List.drop_take,
    List.take_take]

theorem supports_identify (capabilities : GsDeviceCapabilities) :
    capabilities.supports gsCanFeatureIdentify = capabilities.feature.toNat.testBit 5 := by
  have nonZero : (gsCanFeatureIdentify != 0) = true := by decide
  rw [GsDeviceCapabilities.supports, nonZero, Bool.true_and]
  exact WordBits.and_flag_eq capabilities.feature gsCanFeatureIdentify 5 (by decide)

section Arms
variable (handler : GsUsbControlHandler σ) (state : σ) (payload : List UInt8)

theorem bit_timing_request_runs :
    handler.bitTimingRequest state payload =
      (expected handler ⟨.vendor, gsUsbBreqBittiming⟩ payload).foldl (perform handler) state := by
  unfold bitTimingRequest expected
  rw [decode_bit_timing]
  change (if 20 ≤ payload.length then _ else _) = _
  by_cases long : 20 ≤ payload.length
  · cases set : handler.onBitTiming with
    | none => simp [long, invoke]
    | some cb => simp [long, perform, set]
  · simp [long]

theorem mode_request_runs :
    handler.modeRequest state payload =
      (expected handler ⟨.vendor, gsUsbBreqMode⟩ payload).foldl (perform handler) state := by
  have apart : gsUsbBreqMode ≠ gsUsbBreqBittiming := by decide
  unfold modeRequest expected
  rw [decode_mode]
  change (if 8 ≤ payload.length then _ else _) = _
  by_cases long : 8 ≤ payload.length
  · by_cases start : word payload 0 = 1
    · cases set : handler.onStart with
      | none => simp [apart, long, start, invoke]
      | some cb => simp [apart, long, start, perform, set]
    · cases set : handler.onStop with
      | none => simp [apart, long, start, invoke]
      | some cb => simp [apart, long, start, perform, set]
  · simp [apart, long]

theorem identify_request_runs :
    handler.identifyRequest state payload =
      (expected handler ⟨.vendor, gsUsbBreqIdentify⟩ payload).foldl (perform handler) state := by
  have apart : gsUsbBreqIdentify ≠ gsUsbBreqBittiming ∧ gsUsbBreqIdentify ≠ gsUsbBreqMode := by
    decide
  unfold identifyRequest expected
  rw [decode_word, supports_identify]
  change (if 4 ≤ payload.length then _ else _) = _
  by_cases long : 4 ≤ payload.length
  · cases listed : handler.capabilities.feature.toNat.testBit 5 with
    | false => simp [apart, long]
    | true =>
        cases set : handler.onIdentify with
        | none => simp [apart, long, invoke]
        | some cb => simp [apart, long, perform, set, GsIdentifyMode.isOn]
  · simp [apart, long]

theorem set_user_id_writes :
    handler.setUserIdRequest payload =
      { handler with
        userId := userIdAfter ⟨.vendor, gsUsbBreqSetUserId⟩ payload handler.userId } := by
  unfold setUserIdRequest userIdAfter userIdWrite
  rw [decode_word]
  change (if 4 ≤ payload.length then _ else _) = _
  by_cases long : 4 ≤ payload.length
  · simp [long]
  · simp [long]

/-- Everything a control OUT request does: its callbacks run in order, the register is
written or not, and the answer is the one of its type and code. -/
theorem control_out_exact (req : Request) :
    handler.controlOut state req payload =
      ({ handler with userId := userIdAfter req payload handler.userId },
        (expected handler req payload).foldl (perform handler) state, answer req) := by
  obtain ⟨requestType, code⟩ := req
  by_cases vendor : requestType = .vendor
  · subst vendor
    unfold controlOut
    simp only [ne_eq, not_true_eq_false, ↓reduceIte]
    split
    · rename_i timing
      cases timing
      rw [bit_timing_request_runs]
      rfl
    · split
      · rename_i format
        cases format
        rfl
      · split
        · rename_i termination
          cases termination
          rfl
        · split
          · rename_i mode
            cases mode
            rw [mode_request_runs]
            rfl
          · split
            · rename_i identify
              cases identify
              rw [identify_request_runs]
              rfl
            · split
              · rename_i setUserId
                cases setUserId
                rw [set_user_id_writes]
                rfl
              · rename_i notTiming notFormat notTermination notMode notIdentify notSetUserId
                simp [expected, answer, userIdAfter, userIdWrite, notTiming, notFormat,
                  notTermination, notMode, notIdentify, notSetUserId]
  · simp [controlOut, expected, answer, userIdAfter, userIdWrite, vendor]

end Arms

def serve (handler : GsUsbControlHandler σ) (state : σ) :
    List (Request × List UInt8) → GsUsbControlHandler σ × σ × List (Option OutResponse)
  | [] => (handler, state, [])
  | (req, payload) :: rest =>
      let (handler, state, response) := handler.controlOut state req payload
      let (handler, state, responses) := serve handler state rest
      (handler, state, response :: responses)

/-- The same handler, with callbacks that also write down that they ran. -/
def recorded (handler : GsUsbControlHandler σ) : GsUsbControlHandler (σ × List Invocation) :=
  { onStart := handler.onStart.map fun cb flags s => (cb flags s.1, s.2 ++ [.start flags])
    onStop := handler.onStop.map fun cb s => (cb s.1, s.2 ++ [.stop])
    onBitTiming := handler.onBitTiming.map fun cb timing s =>
      (cb timing s.1, s.2 ++ [.bitTiming timing])
    onIdentify := handler.onIdentify.map fun cb on s => (cb on s.1, s.2 ++ [.identify on])
    nowMs := fun s => handler.nowMs s.1
    userId := handler.userId
    capabilities := handler.capabilities }

section Sequences
variable (handler : GsUsbControlHandler σ)

theorem perform_other_user_id (userId : UInt32) :
    perform { handler with userId } = perform handler := by
  funext state invocation
  cases invocation <;> rfl

theorem serve_exact (state : σ) (requests : List (Request × List UInt8)) :
    (serve handler state requests).2 =
      ((requests.flatMap fun request => expected handler request.1 request.2).foldl
          (perform handler) state, requests.map fun request => answer request.1) := by
  induction requests generalizing handler state with
  | nil => rfl
  | cons request rest ih =>
      obtain ⟨req, payload⟩ := request
      simp only [serve, control_out_exact, ih, List.flatMap_cons, List.foldl_append,
        List.map_cons, perform_other_user_id]
      rfl

def IsSet : Invocation → Prop
  | .start _ => handler.onStart.isSome
  | .stop => handler.onStop.isSome
  | .bitTiming _ => handler.onBitTiming.isSome
  | .identify _ => handler.onIdentify.isSome

theorem expected_set (req : Request) (payload : List UInt8) (invocation : Invocation)
    (runs : invocation ∈ expected handler req payload) : IsSet handler invocation := by
  unfold expected at runs
  split at runs
  · cases runs
  · split at runs
    · split at runs
      · rename_i conditions
        cases List.mem_singleton.mp runs
        exact conditions.2
      · cases runs
    · split at runs
      · split at runs
        · rename_i conditions
          cases List.mem_singleton.mp runs
          exact conditions.2.2
        · split at runs
          · rename_i conditions
            cases List.mem_singleton.mp runs
            exact conditions.2.2
          · cases runs
      · split at runs
        · split at runs
          · rename_i conditions
            cases List.mem_singleton.mp runs
            exact conditions.2.2
          · cases runs
        · cases runs

theorem perform_recorded (state : σ) (trace : List Invocation) (invocation : Invocation)
    (set : IsSet handler invocation) :
    perform (recorded handler) (state, trace) invocation =
      (perform handler state invocation, trace ++ [invocation]) := by
  cases invocation with
  | start flags =>
      obtain ⟨cb, same⟩ := Option.isSome_iff_exists.mp set
      simp [perform, recorded, same, invoke]
  | stop =>
      obtain ⟨cb, same⟩ := Option.isSome_iff_exists.mp set
      simp [perform, recorded, same, invoke]
  | bitTiming timing =>
      obtain ⟨cb, same⟩ := Option.isSome_iff_exists.mp set
      simp [perform, recorded, same, invoke]
  | identify on =>
      obtain ⟨cb, same⟩ := Option.isSome_iff_exists.mp set
      simp [perform, recorded, same, invoke]

theorem fold_recorded (state : σ) (trace invocations : List Invocation)
    (set : ∀ invocation ∈ invocations, IsSet handler invocation) :
    invocations.foldl (perform (recorded handler)) (state, trace) =
      (invocations.foldl (perform handler) state, trace ++ invocations) := by
  induction invocations generalizing state trace with
  | nil => simp
  | cons invocation rest ih =>
      have first := perform_recorded handler state trace invocation (set invocation (by simp))
      have others := ih (perform handler state invocation) (trace ++ [invocation])
        fun other member => set other (List.mem_cons_of_mem invocation member)
      rw [List.foldl_cons, first, others, List.append_assoc]
      rfl

theorem expected_recorded (req : Request) (payload : List UInt8) :
    expected (recorded handler) req payload = expected handler req payload := by
  simp [expected, recorded]

end Sequences

theorem word_take (payload : List UInt8) (index count : Nat) (inside : 4 * index + 4 ≤ count) :
    word (payload.take count) index = word payload index := by
  have front : ((payload.take count).drop (4 * index)).take 4 =
      (payload.drop (4 * index)).take 4 := by
    rw [List.drop_take, List.take_take, Nat.min_eq_left (by omega)]
  rw [word, front, word]

/-- What lies behind the needed prefix has no influence, and a shorter payload has none. -/
theorem prefix_suffices (handler : GsUsbControlHandler σ) (state : σ) (req : Request)
    (payload : List UInt8) :
    handler.controlOut state req (payload.take (needed req)) =
      handler.controlOut state req payload := by
  rw [control_out_exact, control_out_exact]
  have runs : expected handler req (payload.take (needed req)) =
      expected handler req payload := by
    unfold expected needed
    split
    · rfl
    · split
      · simp [timingWords, word_take]
      · split
        · simp [word_take]
        · split
          · rename_i identify
            simp [identify, word_take]
          · rfl
  have writes : userIdAfter req (payload.take (needed req)) handler.userId =
      userIdAfter req payload handler.userId := by
    by_cases setUserId : req.request = gsUsbBreqSetUserId
    · have four : needed req = 4 := by
        rw [needed, setUserId]
        rfl
      rw [four]
      by_cases long : 4 ≤ payload.length
      · have same := word_take payload 0 4 (Nat.le_refl 4)
        by_cases vendor : req.requestType = .vendor
        · simp [userIdAfter, userIdWrite, setUserId, long, vendor, same]
        · simp [userIdAfter, userIdWrite, vendor]
      · rw [List.take_of_length_le (by omega)]
    · simp [userIdAfter, userIdWrite, setUserId]
  rw [runs, writes]

/-- For any callbacks and any sequence of control OUT requests: the callbacks that run
are those expected, in order, and with the effect they have; each request is answered
by its type and code; and nothing behind the needed prefix of a payload matters. -/
theorem callbacks_exact (handler : GsUsbControlHandler σ) (state : σ)
    (requests : List (Request × List UInt8)) :
    (serve (recorded handler) (state, []) requests).2.1.2 =
      requests.flatMap (fun request => expected handler request.1 request.2) ∧
    (serve (recorded handler) (state, []) requests).2.1.1 =
      (serve handler state requests).2.1 ∧
    (serve handler state requests).2.2 = requests.map (fun request => answer request.1) ∧
    ∀ req payload, handler.controlOut state req (payload.take (needed req)) =
      handler.controlOut state req payload := by
  have set : ∀ invocation ∈ requests.flatMap fun request => expected handler request.1 request.2,
      IsSet handler invocation := by
    intro invocation member
    obtain ⟨request, _, runs⟩ := List.mem_flatMap.mp member
    exact expected_set handler request.1 request.2 invocation runs
  have both := serve_exact (recorded handler) (state, []) requests
  simp only [expected_recorded, fold_recorded handler state [] _ set, List.nil_append] at both
  have plain := serve_exact handler state requests
  refine ⟨?_, ?_, ?_, ?_⟩
  · rw [both]
  · rw [both, plain]
  · rw [plain]
  · exact prefix_suffices handler state

inductive Transfer where
  | controlOut (req : Request) (payload : List UInt8)
  | controlIn (req : Request) (buf : List UInt8)

-- The transfers one after the other. `control_in` assigns nothing.
def transfers (handler : GsUsbControlHandler σ) (state : σ) :
    List Transfer → GsUsbControlHandler σ × σ
  | [] => (handler, state)
  | .controlOut req payload :: rest =>
      let (handler, state, _) := handler.controlOut state req payload
      transfers handler state rest
  | .controlIn _ _ :: rest => transfers handler state rest

def written : Transfer → Option (List UInt8)
  | .controlOut req payload => userIdWrite req payload
  | .controlIn _ _ => none

def lastWritten (requests : List Transfer) : Option (List UInt8) :=
  (requests.filterMap written).getLast?

theorem fold_writes {α β : Type} (write : α → Option β) (steps : List α) (initial : β) :
    steps.foldl (fun value entry => (write entry).getD value) initial =
      (steps.filterMap write).getLast?.getD initial := by
  induction steps using List.reverseRecOn with
  | nil => rfl
  | append_singleton earlier entry ih =>
      rw [List.foldl_append, List.filterMap_append, List.foldl_cons, List.foldl_nil, ih]
      cases writes : write entry with
      | none => simp [writes]
      | some value => simp [writes]

theorem transfers_user_id (handler : GsUsbControlHandler σ) (state : σ)
    (requests : List Transfer) :
    (transfers handler state requests).1 =
      { handler with
        userId := requests.foldl
          (fun userId request => ((written request).map fun payload => word payload 0).getD userId)
          handler.userId } := by
  induction requests generalizing handler state with
  | nil => rfl
  | cons request rest ih =>
      cases request with
      | controlOut req payload =>
          simp only [transfers, control_out_exact, ih, List.foldl_cons, written, userIdAfter]
          cases userIdWrite req payload <;> rfl
      | controlIn req buf => exact ih handler state

theorem word_bytes (payload : List UInt8) (long : 4 ≤ payload.length) :
    Layout.u32.encode (word payload 0) = payload.take 4 := by
  rw [← decode_word]
  exact Layout.u32.encode_decode (payload.take 4) (by simp [Layout.u32]; omega)

theorem written_long (request : Transfer) (payload : List UInt8)
    (writes : written request = some payload) : 4 ≤ payload.length := by
  cases request with
  | controlOut req sent =>
      simp only [written, userIdWrite] at writes
      split at writes
      · rename_i conditions
        cases writes
        exact conditions.2.2
      · cases writes
  | controlIn req buf => cases writes

theorem stored_bytes (handler : GsUsbControlHandler σ) (state : σ) (requests : List Transfer) :
    Layout.u32.encode (transfers handler state requests).1.userId =
      (lastWritten requests).elim (leBytes 4 handler.userId.toNat) fun payload =>
        payload.take 4 := by
  have words : requests.filterMap
      (fun request => (written request).map fun payload => word payload 0) =
      (requests.filterMap written).map fun payload => word payload 0 :=
    List.map_filterMap.symm
  rw [transfers_user_id]
  simp only [fold_writes, words, List.getLast?_map]
  cases last : (requests.filterMap written).getLast? with
  | none =>
      rw [lastWritten, last]
      rfl
  | some payload =>
      obtain ⟨request, _, writes⟩ := List.mem_filterMap.mp (List.mem_of_getLast? last)
      rw [lastWritten, last]
      exact word_bytes payload (written_long request payload writes)

theorem write_in_fits (buf src : List UInt8) (room : src.length ≤ buf.length) :
    writeIn buf src = (.accepted src, src ++ buf.drop src.length) := by
  simp only [writeIn, Nat.min_eq_right room, List.take_length]

theorem get_user_id_answer (handler : GsUsbControlHandler σ) (state : σ) (buf : List UInt8)
    (room : 4 ≤ buf.length) :
    handler.controlIn state ⟨.vendor, gsUsbBreqGetUserId⟩ buf =
      (some (.accepted (Layout.u32.encode handler.userId)),
        Layout.u32.encode handler.userId ++ buf.drop 4) := by
  have four : (Layout.u32.encode handler.userId).length = 4 := Layout.u32.encode_length _
  have fits := write_in_fits buf (Layout.u32.encode handler.userId) (by omega)
  rw [four] at fits
  change (some (writeIn buf _).1, (writeIn buf _).2) = _
  rw [fits]

theorem bt_const_answer (handler : GsUsbControlHandler σ) (state : σ) (buf : List UInt8)
    (room : 40 ≤ buf.length) :
    handler.controlIn state ⟨.vendor, gsUsbBreqBtConst⟩ buf =
      (some (.accepted (GsDeviceBtConst.layout.encode handler.btConst)),
        GsDeviceBtConst.layout.encode handler.btConst ++ buf.drop 40) := by
  have forty : (GsDeviceBtConst.layout.encode handler.btConst).length = 40 :=
    GsDeviceBtConst.layout.encode_length _
  have fits := write_in_fits buf (GsDeviceBtConst.layout.encode handler.btConst) (by omega)
  rw [forty] at fits
  change (some (writeIn buf _).1, (writeIn buf _).2) = _
  rw [fits]

/-- `user_id` is a register: GET_USER_ID answers what the latest long enough SET_USER_ID
carried, or the initial value, and no request changes anything else of the handler. -/
theorem user_id_register (handler : GsUsbControlHandler σ) (state : σ)
    (requests : List Transfer) :
    (∀ buf : List UInt8, 4 ≤ buf.length →
      let reading : Request := { requestType := .vendor, request := gsUsbBreqGetUserId }
      let bytes := (lastWritten requests).elim (leBytes 4 handler.userId.toNat) fun payload =>
        payload.take 4
      (transfers handler state requests).1.controlIn (transfers handler state requests).2 reading
        buf = (some (.accepted bytes), bytes ++ buf.drop 4)) ∧
    (transfers handler state requests).1.capabilities = handler.capabilities ∧
    (transfers handler state requests).1.onStart = handler.onStart ∧
    (transfers handler state requests).1.onStop = handler.onStop ∧
    (transfers handler state requests).1.onBitTiming = handler.onBitTiming ∧
    (transfers handler state requests).1.onIdentify = handler.onIdentify ∧
    (transfers handler state requests).1.nowMs = handler.nowMs := by
  have after := transfers_user_id handler state requests
  refine ⟨?_, by rw [after], by rw [after], by rw [after], by rw [after], by rw [after],
    by rw [after]⟩
  intro buf room reading bytes
  have stored : Layout.u32.encode (transfers handler state requests).1.userId = bytes :=
    stored_bytes handler state requests
  rw [← stored]
  exact get_user_id_answer _ _ buf room

def bareHandler : GsUsbControlHandler Unit :=
  { onStart := none, onStop := none, onBitTiming := none, onIdentify := none
    nowMs := fun _ => 0, userId := 7, capabilities := {} }

def twoWrites : List Transfer :=
  [.controlOut ⟨.vendor, gsUsbBreqSetUserId⟩ [1, 2, 3, 4, 5],
    .controlOut ⟨.vendor, gsUsbBreqSetUserId⟩ [9, 9]]

theorem user_id_register_two_writes :
    4 ≤ (List.replicate 6 (0 : UInt8)).length ∧
      ((transfers bareHandler () twoWrites).1.controlIn ()
        ⟨.vendor, gsUsbBreqGetUserId⟩ (List.replicate 6 0)).1 = some (.accepted [1, 2, 3, 4]) :=
  ⟨by decide, congrArg Prod.fst
    ((user_id_register bareHandler () twoWrites).1 (List.replicate 6 0) (by decide))⟩

end NginLink.ControlRequests
