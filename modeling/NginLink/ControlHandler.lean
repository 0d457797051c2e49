import NginLink.GsUsbTypes

/-!
`GsUsbControlHandler` of `crates/gs-usb-protocol/src/handler.rs`. The callbacks
are plain function pointers that act on static state; here that state is the
parameter `σ`, and a callback is a state transformer. A `none` answer makes the
USB stack stall the request.
-/

namespace NginLink.ControlHandler

open ByteLayout GsUsbTypes

inductive RequestType where
  | standard
  | classRequest
  | vendor
  | reserved
  deriving DecidableEq

structure Request where
  requestType : RequestType
  request : UInt8
  deriving DecidableEq

inductive OutResponse where
  | accepted
  | rejected
  deriving DecidableEq

inductive InResponse where
  | accepted (bytes : List UInt8)
  | rejected
  deriving DecidableEq

structure GsUsbControlHandler (σ : Type) where
  onStart : Option (UInt32 → σ → σ)
  onStop : Option (σ → σ)
  onBitTiming : Option (GsDeviceBitTiming → σ → σ)
  onIdentify : Option (Bool → σ → σ)
  nowMs : σ → UInt32
  userId : UInt32
  capabilities : GsDeviceCapabilities

namespace GsUsbControlHandler
variable {σ : Type}

/-- Copies what fits; returns the answer and the buffer it left behind. -/
def writeIn (buf src : List UInt8) : InResponse × List UInt8 :=
  let len := min buf.length src.length
  (.accepted (src.take len), src.take len ++ buf.drop len)

def btConstFeature (handler : GsUsbControlHandler σ) : UInt32 := handler.capabilities.feature

def btConst (handler : GsUsbControlHandler σ) : GsDeviceBtConst :=
  { feature := handler.btConstFeature
    fclkCan := 42000000
    tseg1Min := 1
    tseg1Max := 16
    tseg2Min := 1
    tseg2Max := 8
    sjwMax := 4
    brpMin := 1
    brpMax := 1024
    brpInc := 1 }

def deviceConfig : GsDeviceConfig := { interfaceCount := 0, swVersion := 2, hwVersion := 1 }

/-- The answer, if any, and the host buffer after the call. -/
def controlIn (handler : GsUsbControlHandler σ) (state : σ) (req : Request) (buf : List UInt8) :
    Option InResponse × List UInt8 :=
  let answer (src : List UInt8) : Option InResponse × List UInt8 :=
    ((writeIn buf src).1, (writeIn buf src).2)
  if req.requestType ≠ .vendor then (none, buf)
  else if req.request = gsUsbBreqBtConst then
    answer (GsDeviceBtConst.layout.encode handler.btConst)
  else if req.request = gsUsbBreqDeviceConfig then
    answer (GsDeviceConfig.layout.encode deviceConfig)
  else if req.request = gsUsbBreqTimestamp then
    answer (Layout.u32.encode (handler.nowMs state))
  else if req.request = gsUsbBreqGetUserId then
    answer (Layout.u32.encode handler.userId)
  else if req.request = gsUsbBreqDevCapabilities then
    answer (GsDeviceCapabilities.layout.encode handler.capabilities)
  else (none, buf)

-- `if let Some(cb) = callback { cb() }`.
def invoke (callback : Option (σ → σ)) (state : σ) : σ :=
  match callback with
  | some run => run state
  | none => state

-- The payload-carrying arms of `control_out`. Each looks at its payload only
-- when the payload is long enough, and then only at the needed prefix.
def bitTimingRequest (handler : GsUsbControlHandler σ) (state : σ) (buf : List UInt8) : σ :=
  if GsDeviceBitTiming.layout.size ≤ buf.length then
    let timing := GsDeviceBitTiming.layout.decode (buf.take GsDeviceBitTiming.layout.size)
    invoke (handler.onBitTiming.map fun cb => cb timing) state
  else state

def modeRequest (handler : GsUsbControlHandler σ) (state : σ) (buf : List UInt8) : σ :=
  if GsDeviceMode.layout.size ≤ buf.length then
    let devMode := GsDeviceMode.layout.decode (buf.take GsDeviceMode.layout.size)
    if devMode.mode = 1 then invoke (handler.onStart.map fun cb => cb devMode.flags) state
    else invoke handler.onStop state
  else state

def identifyRequest (handler : GsUsbControlHandler σ) (state : σ) (buf : List UInt8) : σ :=
  if Layout.u32.size ≤ buf.length then
    let identify : GsIdentifyMode := ⟨Layout.u32.decode (buf.take 4)⟩
    if handler.capabilities.supports gsCanFeatureIdentify then
      invoke (handler.onIdentify.map fun cb => cb identify.isOn) state
    else state
  else state

def setUserIdRequest (handler : GsUsbControlHandler σ) (buf : List UInt8) :
    GsUsbControlHandler σ :=
  if Layout.u32.size ≤ buf.length then
    { handler with userId := Layout.u32.decode (buf.take 4) }
  else handler

def controlOut (handler : GsUsbControlHandler σ) (state : σ) (req : Request) (buf : List UInt8) :
    GsUsbControlHandler σ × σ × Option OutResponse :=
  if req.requestType ≠ .vendor then (handler, state, none)
  else if req.request = gsUsbBreqBittiming then
    (handler, handler.bitTimingRequest state buf, some .accepted)
  else if req.request = gsUsbBreqHostFormat then (handler, state, some .accepted)
  else if req.request = gsUsbBreqSetTermination then (handler, state, some .accepted)
  else if req.request = gsUsbBreqMode then
    (handler, handler.modeRequest state buf, some .accepted)
  else if req.request = gsUsbBreqIdentify then
    (handler, handler.identifyRequest state buf, some .accepted)
  else if req.request = gsUsbBreqSetUserId then
    (handler.setUserIdRequest buf, state, some .accepted)
  else (handler, state, none)

end GsUsbControlHandler
end NginLink.ControlHandler
