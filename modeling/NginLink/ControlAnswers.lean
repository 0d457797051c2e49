import NginLink.ControlHandler

/-!
What the host reads with a control IN request, for a buffer of any length: the front of
a record whose bytes are written out here, word by word, apart from the layouts that the
handler serialises with.
-/

namespace NginLink.ControlAnswers

open ByteLayout ControlHandler GsUsbControlHandler GsUsbTypes

variable {σ : Type}

def words (values : List Nat) : List UInt8 := values.flatMap (leBytes 4)

@[simp] theorem words_length (values : List Nat) : (words values).length = 4 * values.length := by
  induction values with
  | nil => rfl
  | cons value rest ih =>
      rw [words, List.flatMap_cons, List.length_append, le_bytes_length, List.length_cons]
      change 4 + (words rest).length = _
      rw [ih]
      omega

section Requests
variable (handler : GsUsbControlHandler σ) (state : σ)

-- The requests that are answered, each with the bytes of its record.
def records : List (UInt8 × List UInt8) :=
  [ (gsUsbBreqBtConst,
      words [handler.capabilities.feature.toNat, 42000000, 1, 16, 1, 8, 4, 1, 1024, 1]),
    (gsUsbBreqDeviceConfig, List.replicate 4 0 ++ words [2, 1]),
    (gsUsbBreqTimestamp, words [(handler.nowMs state).toNat]),
    (gsUsbBreqGetUserId, words [handler.userId.toNat]),
    (gsUsbBreqDevCapabilities, words [handler.capabilities.feature.toNat]) ]

def asked (req : Request) : Option (List UInt8) :=
  if req.requestType = .vendor then (records handler state).lookup req.request else none

def answered (req : Request) (buf : List UInt8) : List UInt8 :=
  match (handler.controlIn state req buf).1 with
  | some (.accepted bytes) => bytes
  | _ => []

theorem record_sizes :
    (records handler state).map (fun entry => (entry.1, entry.2.length)) =
      [(4, 40), (5, 12), (6, 4), (8, 4), (11, 4)] := by
  simp only [records, List.map_cons, List.map_nil, List.length_append, List.length_replicate,
    words_length, List.length_cons, List.length_nil]
  rfl

theorem encode_bt_const :
    GsDeviceBtConst.layout.encode handler.btConst =
      words [handler.capabilities.feature.toNat, 42000000, 1, 16, 1, 8, 4, 1, 1024, 1] := by
  simp only [GsDeviceBtConst.layout, Layout.record, Layout.pair, Layout.u32, words,
    List.flatMap_cons, List.flatMap_nil, List.append_nil]
  rfl

theorem encode_device_config :
    GsDeviceConfig.layout.encode deviceConfig = List.replicate 4 0 ++ words [2, 1] := by
  decide

theorem encode_word (value : UInt32) : Layout.u32.encode value = words [value.toNat] := by
  rw [words, List.flatMap_cons, List.flatMap_nil, List.append_nil]
  rfl

theorem encode_capabilities :
    GsDeviceCapabilities.layout.encode handler.capabilities =
      words [handler.capabilities.feature.toNat] :=
  encode_word handler.capabilities.feature

/-- What `write_in` leaves: the front of its source, and behind it the buffer as it was. -/
theorem write_in_exact (buf src : List UInt8) :
    writeIn buf src = (.accepted (src.take buf.length),
      src.take buf.length ++ buf.drop (src.take buf.length).length) := by
  have front : src.take (min buf.length src.length) = src.take buf.length := by
    rw [List.take_eq_take_iff]
    omega
  rw [writeIn, front, List.length_take]

theorem control_in_exact (req : Request) (buf : List UInt8) :
    handler.controlIn state req buf =
      match asked handler state req with
      | some record => (some (.accepted (record.take buf.length)),
          record.take buf.length ++ buf.drop (record.take buf.length).length)
      | none => (none, buf) := by
  obtain ⟨requestType, code⟩ := req
  by_cases vendor : requestType = .vendor
  · subst vendor
    unfold controlIn
    simp only [ne_eq, not_true_eq_false, ↓reduceIte, write_in_exact]
    split
    · rename_i btConst
      cases btConst
      rw [encode_bt_const]
      rfl
    split
    · rename_i config
      cases config
      rw [encode_device_config]
      rfl
    split
    · rename_i timestamp
      cases timestamp
      rw [encode_word]
      rfl
    split
    · rename_i userId
      cases userId
      rw [encode_word]
      rfl
    split
    · rename_i capabilities
      cases capabilities
      rw [encode_capabilities]
      rfl
    · have unasked : asked handler state ⟨.vendor, code⟩ = none := by
        rw [asked, if_pos rfl, List.lookup_eq_none_iff]
        simp_all [records]
      rw [unasked]
  · rw [controlIn, if_pos vendor, asked, if_neg vendor]

theorem answered_exact (req : Request) (buf : List UInt8) :
    answered handler state req buf = ((asked handler state req).getD []).take buf.length := by
  rw [answered, control_in_exact]
  cases asked handler state req with
  | none => simp
  | some record => rfl

theorem feature_first (later : σ) :
    ((asked handler state ⟨.vendor, gsUsbBreqBtConst⟩).getD []).take 4 =
      ((asked handler later ⟨.vendor, gsUsbBreqDevCapabilities⟩).getD []).take 4 := by
  rfl

end Requests

/-- Every control IN request is answered with the front of its record, as much of it as
the buffer holds, or not at all; what lies behind the answer is left alone. -/
theorem answers_exact (handler : GsUsbControlHandler σ) (state : σ) :
    (records handler state).map (fun entry => (entry.1, entry.2.length)) =
      [(4, 40), (5, 12), (6, 4), (8, 4), (11, 4)] ∧
    (∀ req buf, match asked handler state req with
      | some record => ∃ bytes,
          handler.controlIn state req buf =
            (some (.accepted bytes), bytes ++ buf.drop bytes.length) ∧
          bytes <+: record ∧ bytes.length = min buf.length record.length
      | none => handler.controlIn state req buf = (none, buf)) ∧
    (∀ req buf other, answered handler state req buf <+: answered handler state req other ∨
      answered handler state req other <+: answered handler state req buf) ∧
    ∀ later buf other,
      (answered handler state ⟨.vendor, gsUsbBreqBtConst⟩ buf).take
          (min (min buf.length other.length) 4) =
        (answered handler later ⟨.vendor, gsUsbBreqDevCapabilities⟩ other).take
          (min (min buf.length other.length) 4) := by
  refine ⟨record_sizes handler state, ?_, ?_, ?_⟩
  · intro req buf
    have exact := control_in_exact handler state req buf
    cases found : asked handler state req with
    | none => simpa only [found] using exact
    | some record =>
        simp only [found] at exact
        exact ⟨record.take buf.length, exact, List.take_prefix _ _, List.length_take⟩
  · intro req buf other
    rw [answered_exact, answered_exact]
    rcases Nat.le_total buf.length other.length with shorter | longer
    · exact Or.inl (List.take_prefix_take_left shorter)
    · exact Or.inr (List.take_prefix_take_left longer)
  · intro later buf other
    have first := congrArg (List.take (min buf.length other.length))
      (feature_first handler state later)
    rw [List.take_take, List.take_take] at first
    rw [answered_exact, answered_exact, List.take_take, List.take_take]
    have left : min (min (min buf.length other.length) 4) buf.length =
        min (min buf.length other.length) 4 := by omega
    have right : min (min (min buf.length other.length) 4) other.length =
        min (min buf.length other.length) 4 := by omega
    rw [left, right, first]

end NginLink.ControlAnswers
