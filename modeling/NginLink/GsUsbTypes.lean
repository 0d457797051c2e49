import NginLink.ByteLayout

/-!
The wire types of `crates/gs-usb-protocol/src/gs_usb_types.rs`. Every record is
`#[repr(C)]` and `Pod` without padding on a little-endian target, so its bytes
are its fields in order (`layout`).
-/

namespace NginLink.GsUsbTypes

open ByteLayout

def gsCanIdFlagEff : UInt32 := (1 : UInt32) <<< 31
def gsCanIdFlagRtr : UInt32 := (1 : UInt32) <<< 30
def gsCanIdFlagErr : UInt32 := (1 : UInt32) <<< 29

def gsHostFrameEchoIdRx : UInt32 := 0xFFFFFFFF

def gsCanIdMaskSff : UInt32 := 0x000007FF
def gsCanIdMaskEff : UInt32 := 0x1FFFFFFF

-- Frame flags, and the echo flag the source defines apart from them.
def gsCanFlagOverflow : UInt8 := (1 : UInt8) <<< 0
def gsUsbFlagTxEcho : UInt8 := (1 : UInt8) <<< 0

-- SocketCAN error classes (`can_id`) and codes (`data[1]`, `data[2]`).
def canErrDlc : UInt8 := 8
def canErrCrtl : UInt32 := 0x00000004
def canErrProt : UInt32 := 0x00000008
def canErrAck : UInt32 := 0x00000020
def canErrBusoff : UInt32 := 0x00000040
def canErrBuserror : UInt32 := 0x00000080
def canErrProtForm : UInt8 := 0x02
def canErrProtStuff : UInt8 := 0x04
def canErrProtBit0 : UInt8 := 0x08
def canErrProtBit1 : UInt8 := 0x10
def canErrCrtlRxWarning : UInt8 := 0x04
def canErrCrtlTxWarning : UInt8 := 0x08
def canErrCrtlRxPassive : UInt8 := 0x10
def canErrCrtlTxPassive : UInt8 := 0x20

-- Mode flags of `gs_device_mode.flags`.
def gsCanFlagListenOnly : UInt32 := (1 : UInt32) <<< 0
def gsCanFlagLoopBack : UInt32 := (1 : UInt32) <<< 1
def gsCanFlagOneShot : UInt32 := (1 : UInt32) <<< 3

def gsCanFeatureListenOnly : UInt32 := (1 : UInt32) <<< 0
def gsCanFeatureLoopBack : UInt32 := (1 : UInt32) <<< 1
def gsCanFeatureIdentify : UInt32 := (1 : UInt32) <<< 5
def gsCanFeatureUserId : UInt32 := (1 : UInt32) <<< 6

def gsUsbBreqHostFormat : UInt8 := 0
def gsUsbBreqBittiming : UInt8 := 1
def gsUsbBreqMode : UInt8 := 2
def gsUsbBreqBtConst : UInt8 := 4
def gsUsbBreqDeviceConfig : UInt8 := 5
def gsUsbBreqTimestamp : UInt8 := 6
def gsUsbBreqIdentify : UInt8 := 7
def gsUsbBreqGetUserId : UInt8 := 8
def gsUsbBreqSetUserId : UInt8 := 9
def gsUsbBreqDevCapabilities : UInt8 := 11
def gsUsbBreqSetTermination : UInt8 := 12

structure GsDeviceConfig where
  reserved1 : UInt8 := 0
  reserved2 : UInt8 := 0
  reserved3 : UInt8 := 0
  interfaceCount : UInt8 := 0
  swVersion : UInt32 := 0
  hwVersion : UInt32 := 0
  deriving DecidableEq

structure GsDeviceBtConst where
  feature : UInt32
  fclkCan : UInt32
  tseg1Min : UInt32
  tseg1Max : UInt32
  tseg2Min : UInt32
  tseg2Max : UInt32
  sjwMax : UInt32
  brpMin : UInt32
  brpMax : UInt32
  brpInc : UInt32
  deriving DecidableEq

structure GsDeviceBitTiming where
  propSeg : UInt32
  phaseSeg1 : UInt32
  phaseSeg2 : UInt32
  sjw : UInt32
  brp : UInt32
  deriving DecidableEq

structure GsIdentifyMode where
  mode : UInt32
  deriving DecidableEq

def GsIdentifyMode.isOn (identify : GsIdentifyMode) : Bool := identify.mode == 1

structure GsDeviceCapabilities where
  feature : UInt32 := 0
  deriving DecidableEq

structure GsDeviceMode where
  mode : UInt32
  flags : UInt32
  deriving DecidableEq

namespace GsDeviceCapabilities

def withFeature (capabilities : GsDeviceCapabilities) (feature : UInt32) : GsDeviceCapabilities :=
  { capabilities with feature := capabilities.feature ||| feature }

def supports (capabilities : GsDeviceCapabilities) (feature : UInt32) : Bool :=
  feature != 0 && (capabilities.feature &&& feature) == feature

end GsDeviceCapabilities

def GsDeviceConfig.layout : Layout GsDeviceConfig :=
  Layout.record (.pair .u8 (.pair .u8 (.pair .u8 (.pair .u8 (.pair .u32 .u32)))))
    { toFun := fun (a, b, c, d, e, f) => ⟨a, b, c, d, e, f⟩
      invFun := fun r =>
        (r.reserved1, r.reserved2, r.reserved3, r.interfaceCount, r.swVersion, r.hwVersion)
      left_inv := fun _ => rfl
      right_inv := fun _ => rfl }

def GsDeviceBtConst.layout : Layout GsDeviceBtConst :=
  Layout.record (.pair .u32 (.pair .u32 (.pair .u32 (.pair .u32 (.pair .u32 (.pair .u32
      (.pair .u32 (.pair .u32 (.pair .u32 .u32)))))))))
    { toFun := fun (a, b, c, d, e, f, g, h, i, j) => ⟨a, b, c, d, e, f, g, h, i, j⟩
      invFun := fun r => (r.feature, r.fclkCan, r.tseg1Min, r.tseg1Max, r.tseg2Min, r.tseg2Max,
        r.sjwMax, r.brpMin, r.brpMax, r.brpInc)
      left_inv := fun _ => rfl
      right_inv := fun _ => rfl }

def GsDeviceBitTiming.layout : Layout GsDeviceBitTiming :=
  Layout.record (.pair .u32 (.pair .u32 (.pair .u32 (.pair .u32 .u32))))
    { toFun := fun (a, b, c, d, e) => ⟨a, b, c, d, e⟩
      invFun := fun r => (r.propSeg, r.phaseSeg1, r.phaseSeg2, r.sjw, r.brp)
      left_inv := fun _ => rfl
      right_inv := fun _ => rfl }

def GsDeviceMode.layout : Layout GsDeviceMode :=
  Layout.record (.pair .u32 .u32)
    { toFun := fun (a, b) => ⟨a, b⟩
      invFun := fun r => (r.mode, r.flags)
      left_inv := fun _ => rfl
      right_inv := fun _ => rfl }

def GsDeviceCapabilities.layout : Layout GsDeviceCapabilities :=
  Layout.record .u32
    { toFun := fun feature => ⟨feature⟩
      invFun := fun r => r.feature
      left_inv := fun _ => rfl
      right_inv := fun _ => rfl }

structure GsHostFrame where
  echoId : UInt32
  canId : UInt32
  canDlc : UInt8
  channel : UInt8
  flags : UInt8
  reserved : UInt8
  data : Vector UInt8 8
  deriving DecidableEq

/-- Host to device. The same field order as `GsHostFrame`, declared separately. -/
structure GsTxMsg where
  echoId : UInt32
  canId : UInt32
  canDlc : UInt8
  channel : UInt8
  flags : UInt8
  reserved : UInt8
  data : Vector UInt8 8
  deriving DecidableEq

abbrev FrameFields := UInt32 × UInt32 × UInt8 × UInt8 × UInt8 × UInt8 × Vector UInt8 8

def frameFields : Layout FrameFields :=
  .pair .u32 (.pair .u32 (.pair .u8 (.pair .u8 (.pair .u8 (.pair .u8 (.array 8))))))

def GsHostFrame.layout : Layout GsHostFrame :=
  Layout.record frameFields
    { toFun := fun (a, b, c, d, e, f, g) => ⟨a, b, c, d, e, f, g⟩
      invFun := fun r => (r.echoId, r.canId, r.canDlc, r.channel, r.flags, r.reserved, r.data)
      left_inv := fun _ => rfl
      right_inv := fun _ => rfl }

def GsTxMsg.layout : Layout GsTxMsg :=
  Layout.record frameFields
    { toFun := fun (a, b, c, d, e, f, g) => ⟨a, b, c, d, e, f, g⟩
      invFun := fun r => (r.echoId, r.canId, r.canDlc, r.channel, r.flags, r.reserved, r.data)
      left_inv := fun _ => rfl
      right_inv := fun _ => rfl }

theorem tx_msg_size : GsTxMsg.layout.size = 20 := rfl

inductive CanBusError where
  | stuff
  | form
  | acknowledge
  | bitRecessive
  | bitDominant
  | crc
  | software
  deriving DecidableEq

inductive CanControllerError where
  | busOff
  | errorPassive
  | errorWarning
  deriving DecidableEq

namespace GsHostFrame

/-- The `can_id` word both data-frame constructors compute. -/
def dataCanId (id : UInt32) (isExtended : Bool) : UInt32 :=
  if isExtended then (id &&& gsCanIdMaskEff) ||| gsCanIdFlagEff else id &&& gsCanIdMaskSff

/-- The body shared by `from_can_frame` and `from_tx_msg_echo`. -/
def dataFrame (echoId : UInt32) (flags : UInt8) (id : UInt32) (isExtended : Bool) (dlc : UInt8)
    (data : Vector UInt8 8) : GsHostFrame :=
  { echoId, canId := dataCanId id isExtended, canDlc := dlc, channel := 0, flags, reserved := 0
    data }

def fromCanFrame (id : UInt32) (isExtended : Bool) (dlc : UInt8) (data : Vector UInt8 8) :
    GsHostFrame :=
  dataFrame gsHostFrameEchoIdRx 0 id isExtended dlc data

def fromTxMsgEcho (echoId id : UInt32) (isExtended : Bool) (dlc : UInt8) (data : Vector UInt8 8) :
    GsHostFrame :=
  dataFrame echoId gsUsbFlagTxEcho id isExtended dlc data

/-- The body shared by the two error-frame constructors: one payload byte is
set when the error class is the one that byte belongs to. -/
def errorFrame (canIdBits errorClass : UInt32) (index : Fin 8) (code : UInt8) : GsHostFrame :=
  let data := Vector.replicate 8 0
  { echoId := gsHostFrameEchoIdRx
    canId := gsCanIdFlagErr ||| canIdBits
    canDlc := canErrDlc
    channel := 0
    flags := 0
    reserved := 0
    data := if canIdBits &&& errorClass != 0 then data.set index code else data }

def fromBusError (error : CanBusError) : GsHostFrame :=
  let (canIdBits, protType) := match error with
    | .stuff => (canErrProt, canErrProtStuff)
    | .form => (canErrProt, canErrProtForm)
    | .acknowledge => (canErrAck, 0)
    | .bitRecessive => (canErrProt, canErrProtBit0)
    | .bitDominant => (canErrProt, canErrProtBit1)
    | .crc => (canErrProt, 0)
    | .software => (canErrBuserror, 0)
  errorFrame canIdBits canErrProt 2 protType

def fromControllerError (error : CanControllerError) : GsHostFrame :=
  let (canIdBits, crtlFlags) := match error with
    | .busOff => (canErrBusoff, 0)
    | .errorPassive => (canErrCrtl, canErrCrtlRxPassive ||| canErrCrtlTxPassive)
    | .errorWarning => (canErrCrtl, canErrCrtlRxWarning ||| canErrCrtlTxWarning)
  errorFrame canIdBits canErrCrtl 1 crtlFlags

-- What the host reads off a frame; the firmware itself never tests these bits.
def hasOverflow (frame : GsHostFrame) : Bool := frame.flags &&& gsCanFlagOverflow != 0
def isTxEcho (frame : GsHostFrame) : Bool := frame.flags &&& gsUsbFlagTxEcho != 0
def hasRtr (frame : GsHostFrame) : Bool := frame.canId &&& gsCanIdFlagRtr != 0

end GsHostFrame

namespace GsTxMsg

def isExtended (msg : GsTxMsg) : Bool := msg.canId &&& gsCanIdFlagEff != 0

def isRtr (msg : GsTxMsg) : Bool := msg.canId &&& gsCanIdFlagRtr != 0

def id (msg : GsTxMsg) : UInt32 :=
  if msg.isExtended then msg.canId &&& gsCanIdMaskEff else msg.canId &&& gsCanIdMaskSff

def dlc (msg : GsTxMsg) : UInt8 := min msg.canDlc 8

end GsTxMsg
end NginLink.GsUsbTypes
