import NginLink.CanDriver

/-!
What the sniffer makes of a frame: a diagnostic identifier, the PCI byte and at most
two bytes behind it decide the result. `dlc` decides nothing, and the table of
`parse_uds_message` is shorter than the enum it fills.
-/

namespace NginLink.Sniffer

open BspCan CanDriver CanProtocol

section Grammar
variable (frame : CanFrame)

-- A standard frame with an identifier in the diagnostic range.
def IsDiagnostic : Prop := frame.isExtended = false ∧ 0x700 ≤ frame.id ∧ frame.id ≤ 0x7FF

-- The length the low nibble of the PCI byte declares.
def declared : Nat := frame.pciByte.toNat % 16

def IsSingle : Prop :=
  frame.pciByte.toNat / 16 = 0 ∧ 1 ≤ declared frame ∧ declared frame ≤ 7

instance : Decidable (IsDiagnostic frame) := inferInstanceAs (Decidable (_ ∧ _ ∧ _))
instance : Decidable (IsSingle frame) := inferInstanceAs (Decidable (_ ∧ _ ∧ _))

def obd2Command : Obd2Command :=
  { mode := obd2Mode frame.data[1]
    pid := if 2 ≤ declared frame then some frame.data[2] else none }

end Grammar

def udsMessage (sid : UInt8) : UdsMessage :=
  { isResponse := decide (0x50 ≤ sid)
    service := udsService (if 0x50 ≤ sid then sid - 0x40 else sid)
    subFunctionOrDid := none }

section Classifier
variable (frame : CanFrame)

theorem declared_value : (frame.pciByte &&& 0x0F).toNat = declared frame := by
  have low : (0x0F : UInt8).toNat = 2 ^ 4 - 1 := rfl
  rw [UInt8.toNat_and, low, Nat.and_two_pow_sub_one_eq_mod]
  rfl

theorem single_iff :
    (frame.pciByte >>> 4 = 0 ∧ 0 < (frame.pciByte &&& 0x0F).toNat ∧
      (frame.pciByte &&& 0x0F).toNat ≤ 7) ↔ IsSingle frame := by
  have nibble : frame.pciByte >>> 4 = 0 ↔ frame.pciByte.toNat / 16 = 0 := by
    rw [← UInt8.toNat_inj, UInt8.toNat_shiftRight]
    change frame.pciByte.toNat >>> 4 = 0 ↔ _
    rw [Nat.shiftRight_eq_div_pow]
  rw [declared_value, nibble]
  rfl

theorem single_payload (single : IsSingle frame) :
    ∃ rest, sliceFromOne frame.data (declared frame) = some (frame.data[1] :: rest) ∧
      rest.head? = if 2 ≤ declared frame then some frame.data[2] else none := by
  obtain ⟨_, positive, short⟩ := single
  have front : frame.data.toList.drop 1 =
      frame.data[1] :: frame.data[2] :: frame.data.toList.drop 3 := by
    rw [List.drop_eq_getElem_cons (by simp), List.drop_eq_getElem_cons (by simp)]
    simp
  obtain ⟨length, same⟩ : ∃ length, declared frame = length + 1 :=
    ⟨declared frame - 1, by omega⟩
  refine ⟨(frame.data[2] :: frame.data.toList.drop 3).take length, ?_, ?_⟩
  · rw [sliceFromOne, if_pos (by omega), front, same, List.take_succ_cons]
  · rw [same]
    cases length with
    | zero => rfl
    | succ length => rw [if_pos (by omega), List.take_succ_cons, List.head?_cons]

theorem other_is_raw (other : ¬ (IsDiagnostic frame ∧ IsSingle frame)) :
    analyzeFrame frame = some .raw := by
  unfold analyzeFrame
  by_cases diagnostic : IsDiagnostic frame
  · have single : ¬ IsSingle frame := fun single => other ⟨diagnostic, single⟩
    rw [← single_iff, CanFrame.pciByte] at single
    simp only [single, ↓reduceIte, ite_self]
  · have guard : ¬ (!frame.isExtended ∧ 0x700 ≤ frame.id ∧ frame.id ≤ 0x7FF) := by
      simpa [IsDiagnostic] using diagnostic
    rw [if_neg guard]

theorem diagnostic_single (diagnostic : IsDiagnostic frame) (single : IsSingle frame) :
    analyzeFrame frame = some (if frame.id = 0x7DF then .obd2Request (obd2Command frame)
      else .udsMessage (udsMessage frame.data[1])) := by
  obtain ⟨rest, slice, pid⟩ := single_payload frame single
  have guard : !frame.isExtended ∧ 0x700 ≤ frame.id ∧ frame.id ≤ 0x7FF := by
    simpa [IsDiagnostic] using diagnostic
  have pci := (single_iff frame).mpr single
  have length := declared_value frame
  rw [length, CanFrame.pciByte] at pci
  rw [CanFrame.pciByte] at length
  unfold analyzeFrame
  simp only [guard, pci, and_self, ↓reduceIte, length, slice]
  by_cases broadcast : frame.id = 0x7DF
  · simp only [parseObd2Request, broadcast, ↓reduceIte, pid]
    rfl
  · simp [parseObd2Request, parseUdsMessage, broadcast, udsMessage]

theorem analyze_cases :
    (IsDiagnostic frame ∧ frame.id = 0x7DF ∧ IsSingle frame ∧
      analyzeFrame frame = some (.obd2Request (obd2Command frame))) ∨
    (IsDiagnostic frame ∧ frame.id ≠ 0x7DF ∧ IsSingle frame ∧
      analyzeFrame frame = some (.udsMessage (udsMessage frame.data[1]))) ∨
    (¬ (IsDiagnostic frame ∧ IsSingle frame) ∧ analyzeFrame frame = some .raw) := by
  by_cases both : IsDiagnostic frame ∧ IsSingle frame
  · obtain ⟨diagnostic, single⟩ := both
    have result := diagnostic_single frame diagnostic single
    by_cases broadcast : frame.id = 0x7DF
    · rw [if_pos broadcast] at result
      exact Or.inl ⟨diagnostic, broadcast, single, result⟩
    · rw [if_neg broadcast] at result
      exact Or.inr (Or.inl ⟨diagnostic, broadcast, single, result⟩)
  · exact Or.inr (Or.inr ⟨both, other_is_raw frame both⟩)

end Classifier

def modeByte : Obd2Mode → UInt8
  | .showCurrentData => 0x01
  | .showFreezeFrame => 0x02
  | .showStoredDTCs => 0x03
  | .clearDTCs => 0x04
  | .unknown mode => mode

def serviceByte : UdsService → UInt8
  | .diagnosticSessionControl => 0x10
  | .ecuReset => 0x11
  | .securityAccess => 0x27
  | .communicationControl => 0x28
  | .testerPresent => 0x3E
  | .readDataByIdentifier => 0x22
  | .writeDataByIdentifier => 0x2E
  | .routineControl => 0x31
  | .requestDownload => 0x34
  | .transferData => 0x36
  | .requestTransferExit => 0x37
  | .unknown sid => sid

def IsNamed : UdsService → Prop
  | .unknown _ => False
  | _ => True

-- The SID byte, read back from the two fields that depend on it.
def sidOf (isResponse : Bool) (service : UdsService) : UInt8 :=
  if isResponse then serviceByte service + 0x40 else serviceByte service

theorem mode_byte_obd2_mode (byte : UInt8) : modeByte (obd2Mode byte) = byte := by
  unfold obd2Mode
  repeat' split
  all_goals simp_all [modeByte]

theorem service_byte_uds_service (byte : UInt8) : serviceByte (udsService byte) = byte := by
  unfold udsService
  repeat' split
  all_goals simp_all [serviceByte]

theorem sid_of_uds_message (sid : UInt8) :
    sidOf (udsMessage sid).isResponse (udsMessage sid).service = sid := by
  by_cases response : 0x50 ≤ sid
  · simp [sidOf, udsMessage, response, service_byte_uds_service]
  · simp [sidOf, udsMessage, response, service_byte_uds_service]

section Results
variable (frame : CanFrame)

theorem broadcast_diagnostic (standard : frame.isExtended = false) (broadcast : frame.id = 0x7DF) :
    IsDiagnostic frame := by
  rw [IsDiagnostic, broadcast]
  exact ⟨standard, by decide, by decide⟩

/-- Each result, with the frames it is returned for and what it is then made of. -/
theorem obd2_exact (command : Obd2Command) :
    analyzeFrame frame = some (.obd2Request command) ↔
      (frame.isExtended = false ∧ frame.id = 0x7DF ∧ IsSingle frame) ∧
        command = obd2Command frame := by
  constructor
  · intro decoded
    rcases analyze_cases frame with
      ⟨diagnostic, broadcast, single, result⟩ | ⟨_, _, _, result⟩ | ⟨_, result⟩
    · rw [result] at decoded
      cases decoded
      exact ⟨⟨diagnostic.1, broadcast, single⟩, rfl⟩
    · rw [result] at decoded
      cases decoded
    · rw [result] at decoded
      cases decoded
  · rintro ⟨⟨standard, broadcast, single⟩, rfl⟩
    have diagnostic := broadcast_diagnostic frame standard broadcast
    rw [diagnostic_single frame diagnostic single, if_pos broadcast]

theorem uds_exact (message : UdsMessage) :
    analyzeFrame frame = some (.udsMessage message) ↔
      (IsDiagnostic frame ∧ frame.id ≠ 0x7DF ∧ IsSingle frame) ∧
        message = udsMessage frame.data[1] := by
  constructor
  · intro decoded
    rcases analyze_cases frame with
      ⟨_, _, _, result⟩ | ⟨diagnostic, physical, single, result⟩ | ⟨_, result⟩
    · rw [result] at decoded
      cases decoded
    · rw [result] at decoded
      cases decoded
      exact ⟨⟨diagnostic, physical, single⟩, rfl⟩
    · rw [result] at decoded
      cases decoded
  · rintro ⟨⟨diagnostic, physical, single⟩, rfl⟩
    rw [diagnostic_single frame diagnostic single, if_neg physical]

theorem diagnostic_single_decoded (diagnostic : IsDiagnostic frame) (single : IsSingle frame) :
    analyzeFrame frame ≠ some .raw := by
  rw [diagnostic_single frame diagnostic single]
  intro raw
  split at raw
  · cases raw
  · cases raw

theorem raw_exact :
    analyzeFrame frame = some .raw ↔ ¬ (IsDiagnostic frame ∧ IsSingle frame) := by
  constructor
  · rintro raw ⟨diagnostic, single⟩
    exact diagnostic_single_decoded frame diagnostic single raw
  · intro other
    exact other_is_raw frame other

theorem diagnostic_iff :
    IsDiagnostic frame ∧ IsSingle frame ↔
      (frame.isExtended = false ∧ frame.id = 0x7DF ∧ IsSingle frame) ∨
        (IsDiagnostic frame ∧ frame.id ≠ 0x7DF ∧ IsSingle frame) := by
  constructor
  · rintro ⟨diagnostic, single⟩
    by_cases broadcast : frame.id = 0x7DF
    · exact Or.inl ⟨diagnostic.1, broadcast, single⟩
    · exact Or.inr ⟨diagnostic, broadcast, single⟩
  · rintro (⟨standard, broadcast, single⟩ | ⟨diagnostic, _, single⟩)
    · exact ⟨broadcast_diagnostic frame standard broadcast, single⟩
    · exact ⟨diagnostic, single⟩

end Results

/-- The classifier never fails and accepts exactly its grammar, whatever `dlc` says; mode,
PID and SID can be read back from what it returns. -/
theorem grammar_accepted_exactly (frame : CanFrame) :
    (∃ decoded, analyzeFrame frame = some decoded) ∧
    ((∃ command, analyzeFrame frame = some (.obd2Request command)) ↔
      frame.isExtended = false ∧ frame.id = 0x7DF ∧ IsSingle frame) ∧
    (∀ command, analyzeFrame frame = some (.obd2Request command) →
      command.mode = obd2Mode frame.data[1] ∧
        command.pid = if 2 ≤ declared frame then some frame.data[2] else none) ∧
    Function.Injective obd2Mode ∧
    ((∃ message, analyzeFrame frame = some (.udsMessage message)) ↔
      IsDiagnostic frame ∧ frame.id ≠ 0x7DF ∧ IsSingle frame) ∧
    (∀ message, analyzeFrame frame = some (.udsMessage message) →
      sidOf message.isResponse message.service = frame.data[1]) ∧
    (analyzeFrame frame = some .raw ↔
      ¬ (frame.isExtended = false ∧ frame.id = 0x7DF ∧ IsSingle frame) ∧
        ¬ (IsDiagnostic frame ∧ frame.id ≠ 0x7DF ∧ IsSingle frame)) := by
  refine ⟨analyze_frame_total frame, ?_, ?_, ?_, ?_, ?_, ?_⟩
  · simp only [obd2_exact, exists_and_left, exists_eq, and_true]
  · intro command decoded
    rw [((obd2_exact frame command).mp decoded).2]
    exact ⟨rfl, rfl⟩
  · have inverse : Function.LeftInverse modeByte obd2Mode := mode_byte_obd2_mode
    exact inverse.injective
  · simp only [uds_exact, exists_and_left, exists_eq, and_true]
  · intro message decoded
    rw [((uds_exact frame message).mp decoded).2]
    exact sid_of_uds_message frame.data[1]
  · rw [raw_exact, diagnostic_iff, not_or]

-- The discriminants of the enum that `parse_uds_message` does not match.
def unmatched : List UInt8 := [0x11, 0x28, 0x2E, 0x31, 0x36, 0x37]

def Decodes (frame : CanFrame) (service : UdsService) (isResponse : Bool) : Prop :=
  ∃ message, analyzeFrame frame = some (.udsMessage message) ∧ message.service = service ∧
    message.isResponse = isResponse

/-- A SID that names a service, or the positive response to it, is decoded as such. -/
def Recognised (frame : CanFrame) : Prop :=
  ∀ service, IsNamed service →
    (frame.data[1] = serviceByte service → Decodes frame service false) ∧
    (frame.data[1] = serviceByte service + 0x40 → Decodes frame service true)

theorem matched_iff (service : UdsService) (named : IsNamed service) :
    udsService (serviceByte service) = service ↔ serviceByte service ∉ unmatched := by
  cases service with
  | unknown sid => exact named.elim
  | _ => decide

theorem response_offset (service : UdsService) (named : IsNamed service) :
    ¬ 0x50 ≤ serviceByte service ∧ 0x50 ≤ serviceByte service + 0x40 ∧
      serviceByte service + 0x40 - 0x40 = serviceByte service := by
  cases service with
  | unknown sid => exact named.elim
  | _ => decide

theorem unmatched_named (code : UInt8) (missing : code ∈ unmatched) :
    ∃ service, IsNamed service ∧ serviceByte service = code := by
  simp only [unmatched, List.mem_cons, List.not_mem_nil, or_false] at missing
  rcases missing with rfl | rfl | rfl | rfl | rfl | rfl
  · exact ⟨.ecuReset, trivial, rfl⟩
  · exact ⟨.communicationControl, trivial, rfl⟩
  · exact ⟨.writeDataByIdentifier, trivial, rfl⟩
  · exact ⟨.routineControl, trivial, rfl⟩
  · exact ⟨.transferData, trivial, rfl⟩
  · exact ⟨.requestTransferExit, trivial, rfl⟩

theorem request_decoded_iff (frame : CanFrame) (service : UdsService)
    (result : analyzeFrame frame = some (.udsMessage (udsMessage frame.data[1])))
    (named : IsNamed service) (request : frame.data[1] = serviceByte service) :
    Decodes frame service false ↔ serviceByte service ∉ unmatched := by
  have low := (response_offset service named).1
  rw [← matched_iff service named, Decodes, result, request]
  constructor
  · rintro ⟨message, same, decoded, _⟩
    cases same
    rwa [udsMessage, if_neg low] at decoded
  · intro decoded
    exact ⟨_, rfl, by rw [udsMessage, if_neg low, decoded], by simp [udsMessage, low]⟩

theorem response_decoded_iff (frame : CanFrame) (service : UdsService)
    (result : analyzeFrame frame = some (.udsMessage (udsMessage frame.data[1])))
    (named : IsNamed service) (response : frame.data[1] = serviceByte service + 0x40) :
    Decodes frame service true ↔ serviceByte service ∉ unmatched := by
  obtain ⟨_, high, back⟩ := response_offset service named
  rw [← matched_iff service named, Decodes, result, response]
  constructor
  · rintro ⟨message, same, decoded, _⟩
    cases same
    rwa [udsMessage, if_pos high, back] at decoded
  · intro decoded
    exact ⟨_, rfl, by rw [udsMessage, if_pos high, back, decoded], by simp [udsMessage, high]⟩

/-- A single frame of a physical identifier is decoded by name exactly if its SID is not
one of the unmatched discriminants or the response to one. -/
theorem recognised_iff_matched (frame : CanFrame) (diagnostic : IsDiagnostic frame)
    (physical : frame.id ≠ 0x7DF) (single : IsSingle frame) :
    Recognised frame ↔
      frame.data[1] ∉ unmatched ∧ frame.data[1] ∉ unmatched.map (· + 0x40) := by
  have result := diagnostic_single frame diagnostic single
  rw [if_neg physical] at result
  constructor
  · intro recognised
    constructor
    · intro missing
      obtain ⟨service, named, same⟩ := unmatched_named frame.data[1] missing
      have decoded := (recognised service named).1 same.symm
      have matched := (request_decoded_iff frame service result named same.symm).mp decoded
      rw [same] at matched
      exact matched missing
    · intro missing
      obtain ⟨code, listed, offset⟩ := List.mem_map.mp missing
      obtain ⟨service, named, same⟩ := unmatched_named code listed
      rw [← same] at offset
      have decoded := (recognised service named).2 offset.symm
      have matched := (response_decoded_iff frame service result named offset.symm).mp decoded
      rw [same] at matched
      exact matched listed
  · rintro ⟨notRequest, notResponse⟩ service named
    constructor
    · intro request
      apply (request_decoded_iff frame service result named request).mpr
      rwa [← request]
    · intro response
      apply (response_decoded_iff frame service result named response).mpr
      intro missing
      apply notResponse
      rw [response]
      exact List.mem_map_of_mem missing

def downloadRequest : CanFrame :=
  { id := 0x7E0, isExtended := false, data := #v[0x02, 0x34, 0x00, 0, 0, 0, 0, 0], dlc := 8 }

def resetRequest : CanFrame :=
  { id := 0x7E0, isExtended := false, data := #v[0x02, 0x11, 0x01, 0, 0, 0, 0, 0], dlc := 8 }

theorem recognised_iff_matched_download :
    IsDiagnostic downloadRequest ∧ downloadRequest.id ≠ 0x7DF ∧ IsSingle downloadRequest ∧
      Recognised downloadRequest :=
  ⟨by decide, by decide, by decide,
    (recognised_iff_matched downloadRequest (by decide) (by decide) (by decide)).mpr
      ⟨by decide, by decide⟩⟩

/-- The reset is a service of the enum, and the decoder does not know it. -/
theorem reset_unrecognised :
    IsDiagnostic resetRequest ∧ resetRequest.id ≠ 0x7DF ∧ IsSingle resetRequest ∧
      declared resetRequest + 1 ≤ resetRequest.dlc.toNat ∧ resetRequest.dlc ≤ 8 ∧
      resetRequest.data[1] = serviceByte .ecuReset ∧
      analyzeFrame resetRequest = some (.udsMessage ⟨false, .unknown 0x11, none⟩) ∧
      ¬ Recognised resetRequest := by
  have result : analyzeFrame resetRequest = some (.udsMessage ⟨false, .unknown 0x11, none⟩) := by
    decide
  refine ⟨by decide, by decide, by decide, by decide, by decide, rfl, result, ?_⟩
  intro recognised
  obtain ⟨message, decoded, service, _⟩ := (recognised .ecuReset trivial).1 rfl
  rw [result] at decoded
  cases decoded
  cases service

/-- Bytes behind the first `dlc` have no influence, and a single frame that is shorter
than it declares is left alone. -/
def Confined (frame : CanFrame) : Prop :=
  (∀ other : CanFrame, other.id = frame.id → other.isExtended = frame.isExtended →
    other.dlc = frame.dlc →
    other.data.toList.take frame.dlc.toNat = frame.data.toList.take frame.dlc.toNat →
    analyzeFrame other = analyzeFrame frame) ∧
  (IsSingle frame → frame.dlc.toNat < declared frame + 1 → analyzeFrame frame = some .raw)

/-- A diagnostic frame has a PCI byte, and as a single frame all it declares. -/
def Covered (frame : CanFrame) : Prop :=
  IsDiagnostic frame →
    1 ≤ frame.dlc.toNat ∧ (IsSingle frame → declared frame + 1 ≤ frame.dlc.toNat)

theorem agree_at (left right : Vector UInt8 8) (count index : Nat) (inside : index < 8)
    (early : index < count) (agree : left.toList.take count = right.toList.take count) :
    left[index] = right[index] := by
  have same := congrArg (fun bytes => bytes[index]?) agree
  simpa [List.getElem?_take, early, inside] using same

theorem same_result (frame other : CanFrame)
    (id : other.id = frame.id) (extended : other.isExtended = frame.isExtended)
    (pci : other.pciByte = frame.pciByte)
    (payload : ∀ index (inside : index < 8), IsSingle frame → index ≤ declared frame →
      other.data[index] = frame.data[index]) :
    analyzeFrame other = analyzeFrame frame := by
  have diagnostic : IsDiagnostic other ↔ IsDiagnostic frame := by
    rw [IsDiagnostic, IsDiagnostic, id, extended]
  have length : declared other = declared frame := by rw [declared, declared, pci]
  have single : IsSingle other ↔ IsSingle frame := by
    rw [IsSingle, IsSingle, length, pci]
  by_cases both : IsDiagnostic frame ∧ IsSingle frame
  · obtain ⟨known, whole⟩ := both
    have sid : other.data[1] = frame.data[1] := payload 1 (by decide) whole whole.2.1
    rw [diagnostic_single frame known whole,
      diagnostic_single other (diagnostic.mpr known) (single.mpr whole), id, sid]
    have command : obd2Command other = obd2Command frame := by
      rw [obd2Command, obd2Command, length, sid]
      by_cases two : 2 ≤ declared frame
      · rw [payload 2 (by decide) whole two]
      · rw [if_neg two, if_neg two]
    rw [command]
  · rw [other_is_raw frame both, other_is_raw other (by rwa [diagnostic, single])]

/-- The sniffer keeps to the bytes of a frame exactly if it is not diagnostic, or has a PCI
byte and, as a single frame, the length it declares. -/
theorem confined_iff_covered (frame : CanFrame) : Confined frame ↔ Covered frame := by
  constructor
  · rintro ⟨blind, cut⟩ diagnostic
    constructor
    · by_contra empty
      have bare : frame.dlc.toNat = 0 := by omega
      have single : IsSingle { downloadRequest with data := #v[1, 0, 0, 0, 0, 0, 0, 0] } := by
        decide
      -- Without a PCI byte in the frame, two bytes behind it give two results.
      have first := blind { frame with data := #v[1, 0, 0, 0, 0, 0, 0, 0] } rfl rfl rfl
        (by rw [bare]; rfl)
      have second := blind { frame with data := Vector.replicate 8 0 } rfl rfl rfl
        (by rw [bare]; rfl)
      have raw : analyzeFrame { frame with data := Vector.replicate 8 0 } = some .raw :=
        other_is_raw _ fun both => Nat.not_succ_le_zero 0 both.2.2.1
      apply diagnostic_single_decoded { frame with data := #v[1, 0, 0, 0, 0, 0, 0, 0] }
        diagnostic single
      rw [first, ← second, raw]
    · intro single
      by_contra short
      exact diagnostic_single_decoded frame diagnostic single (cut single (by omega))
  · intro covered
    constructor
    · intro other id extended dlc agree
      by_cases diagnostic : IsDiagnostic frame
      · obtain ⟨nonempty, long⟩ := covered diagnostic
        apply same_result frame other id extended
        · exact agree_at _ _ _ 0 (by decide) (by omega) agree
        · intro index inside single within
          have enough := long single
          exact agree_at _ _ _ index inside (by omega) agree
      · have foreign : ¬ IsDiagnostic other := by rwa [IsDiagnostic, id, extended]
        rw [other_is_raw frame fun both => diagnostic both.1,
          other_is_raw other fun both => foreign both.1]
    · intro single short
      apply other_is_raw frame
      rintro ⟨diagnostic, _⟩
      have enough := (covered diagnostic).2 single
      omega

def cutFrame : Frame :=
  { id := .standard ⟨0x7E0, by decide⟩, isRemote := false, len := 1
    bytes := #v[0x02, 0, 0, 0, 0, 0, 0, 0], bounded := Nat.le_add_left 1 7 }

/-- The padding of a frame from the bus is decoded as a service, and another padding as
another. -/
theorem cut_frame_decoded :
    (toCanFrame cutFrame).dlc = 1 ∧ declared (toCanFrame cutFrame) = 2 ∧
      analyzeFrame (toCanFrame cutFrame) = some (.udsMessage ⟨false, .unknown 0, none⟩) ∧
      analyzeFrame { toCanFrame cutFrame with data := #v[0x02, 0x10, 0, 0, 0, 0, 0, 0] } =
        some (.udsMessage ⟨false, .diagnosticSessionControl, none⟩) ∧
      ¬ Confined (toCanFrame cutFrame) := by
  have result : analyzeFrame (toCanFrame cutFrame) =
      some (.udsMessage ⟨false, .unknown 0, none⟩) := by
    decide
  refine ⟨by decide, by decide, result, by decide, ?_⟩
  rintro ⟨_, cut⟩
  have raw := cut (by decide) (by decide)
  rw [result] at raw
  cases raw

end NginLink.Sniffer
