import Mathlib.Data.List.Basic

/-!
`crates/can-protocol`: the frame type that travels through CAN_RX_CHANNEL and
the sniffer that classifies it. `none` stands for a slice index out of range.
-/

namespace NginLink.CanProtocol

structure CanFrame where
  id : UInt32
  isExtended : Bool
  data : Vector UInt8 8
  dlc : UInt8
  deriving DecidableEq

inductive Obd2Mode where
  | showCurrentData
  | showFreezeFrame
  | showStoredDTCs
  | clearDTCs
  | unknown (mode : UInt8)
  deriving DecidableEq

structure Obd2Command where
  mode : Obd2Mode
  pid : Option UInt8
  deriving DecidableEq

inductive UdsService where
  | diagnosticSessionControl
  | ecuReset
  | securityAccess
  | communicationControl
  | testerPresent
  | readDataByIdentifier
  | writeDataByIdentifier
  | routineControl
  | requestDownload
  | transferData
  | requestTransferExit
  | unknown (sid : UInt8)
  deriving DecidableEq

structure UdsMessage where
  isResponse : Bool
  service : UdsService
  subFunctionOrDid : Option UInt16
  deriving DecidableEq

inductive DecodedProtocol where
  | obd2Request (command : Obd2Command)
  | udsMessage (message : UdsMessage)
  | raw
  deriving DecidableEq

def obd2Mode (byte : UInt8) : Obd2Mode :=
  if byte = 0x01 then .showCurrentData
  else if byte = 0x02 then .showFreezeFrame
  else if byte = 0x03 then .showStoredDTCs
  else if byte = 0x04 then .clearDTCs
  else .unknown byte

def parseObd2Request (id : UInt32) (payload : List UInt8) : Option Obd2Command :=
  match payload with
  | [] => none
  | mode :: rest => if id = 0x7DF then some { mode := obd2Mode mode, pid := rest.head? } else none

def udsService (baseSid : UInt8) : UdsService :=
  if baseSid = 0x10 then .diagnosticSessionControl
  else if baseSid = 0x22 then .readDataByIdentifier
  else if baseSid = 0x27 then .securityAccess
  else if baseSid = 0x3E then .testerPresent
  else if baseSid = 0x34 then .requestDownload
  else .unknown baseSid

def parseUdsMessage (id : UInt32) (payload : List UInt8) : Option UdsMessage :=
  match payload with
  | [] => none
  | sid :: _ =>
      if id = 0x7DF then none
      else
        let isResponse := decide (0x50 ≤ sid)
        let baseSid := if isResponse then sid - 0x40 else sid
        some { isResponse, service := udsService baseSid, subFunctionOrDid := none }

-- `&data[1..=last]`.
def sliceFromOne (data : Vector UInt8 8) (last : Nat) : Option (List UInt8) :=
  if last + 1 ≤ 8 then some ((data.toList.drop 1).take last) else none

def analyzeFrame (frame : CanFrame) : Option DecodedProtocol :=
  if !frame.isExtended ∧ 0x700 ≤ frame.id ∧ frame.id ≤ 0x7FF then
    let pciByte := frame.data[0]
    let frameType := pciByte >>> 4
    let payloadLen := (pciByte &&& 0x0F).toNat
    if frameType = 0 ∧ 0 < payloadLen ∧ payloadLen ≤ 7 then
      match sliceFromOne frame.data payloadLen with
      | none => none
      | some payload =>
          match parseObd2Request frame.id payload with
          | some command => some (.obd2Request command)
          | none =>
              match parseUdsMessage frame.id payload with
              | some message => some (.udsMessage message)
              | none => some .raw
    else some .raw
  else some .raw

def CanFrame.pciByte (frame : CanFrame) : UInt8 := frame.data[0]

/-- The length check bounds the slice, so the sniffer cannot panic. -/
theorem analyze_frame_total (frame : CanFrame) : ∃ decoded, analyzeFrame frame = some decoded := by
  unfold analyzeFrame
  by_cases diagnostic : !frame.isExtended ∧ 0x700 ≤ frame.id ∧ frame.id ≤ 0x7FF
  · simp only [diagnostic, and_self, ↓reduceIte]
    by_cases single : frame.data[0] >>> 4 = 0 ∧ 0 < (frame.data[0] &&& 0x0F).toNat ∧
        (frame.data[0] &&& 0x0F).toNat ≤ 7
    · have slice : sliceFromOne frame.data (frame.data[0] &&& 0x0F).toNat =
          some ((frame.data.toList.drop 1).take (frame.data[0] &&& 0x0F).toNat) := by
        have short := single.2.2
        rw [sliceFromOne, if_pos (by omega)]
      simp only [single, and_self, ↓reduceIte, slice]
      cases parseObd2Request frame.id _ with
      | some command => exact ⟨_, rfl⟩
      | none =>
          cases parseUdsMessage frame.id _ with
          | some message => exact ⟨_, rfl⟩
          | none => exact ⟨_, rfl⟩
    · simp only [single, ↓reduceIte]
      exact ⟨_, rfl⟩
  · simp only [diagnostic, ↓reduceIte]
    exact ⟨_, rfl⟩

end NginLink.CanProtocol
