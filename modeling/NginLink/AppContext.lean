import NginLink.BoundedChannel
import NginLink.CanProtocol
import NginLink.ControlHandler

/-!
`firmware/src/app_context.rs` and the handler that `firmware/src/usb_setup.rs`
configures: the three static channels, the metrics, and the callbacks that turn
control requests into driver commands.
-/

namespace NginLink.AppContext

open BoundedChannel ByteLayout CanProtocol ControlHandler GsUsbTypes

structure CanTxRequest where
  echoId : UInt32
  id : UInt32
  isExtended : Bool
  isRtr : Bool
  data : Vector UInt8 8
  dlc : UInt8
  deriving DecidableEq

inductive CanDriverCmd where
  | start (loopback listenOnly oneShot : Bool)
  | stop
  | setBitTiming (timing : GsDeviceBitTiming)
  | transmit (request : CanTxRequest)
  deriving DecidableEq

structure CanService where
  started : Bool := false
  errorCount : UInt32 := 0
  droppedRx : UInt32 := 0
  busOffCount : UInt32 := 0
  deriving DecidableEq

def CanService.markStarted (service : CanService) : CanService := { service with started := true }
def CanService.markStopped (service : CanService) : CanService := { service with started := false }

-- `dropped_rx.fetch_add(1, Relaxed)`: atomics wrap.
def CanService.countDropped (service : CanService) : CanService :=
  { service with droppedRx := service.droppedRx + 1 }

/-- The statics, with the milliseconds since boot that `embassy_time` reports. -/
structure Context where
  canRx : Channel CanFrame 32
  canCmd : Channel CanDriverCmd 16
  usbEcho : Channel GsHostFrame 16
  service : CanService
  clockMs : Nat

def Context.new : Context :=
  { canRx := .new, canCmd := .new, usbEcho := .new, service := {}, clockMs := 0 }

-- `CAN_CMD_CHANNEL.try_send(cmd)`; the callers here discard the result.
def Context.sendCmd (ctx : Context) (cmd : CanDriverCmd) : Context :=
  { ctx with canCmd := (ctx.canCmd.trySend cmd).1 }

def startCmd (flags : UInt32) : CanDriverCmd :=
  .start (flags &&& gsCanFlagLoopBack != 0) (flags &&& gsCanFlagListenOnly != 0)
    (flags &&& gsCanFlagOneShot != 0)

def onStartCb (flags : UInt32) (ctx : Context) : Context := ctx.sendCmd (startCmd flags)
def onStopCb (ctx : Context) : Context := ctx.sendCmd .stop
def onBitTimingCb (timing : GsDeviceBitTiming) (ctx : Context) : Context :=
  ctx.sendCmd (.setBitTiming timing)

-- Only logs.
def onIdentifyCb (_on : Bool) (ctx : Context) : Context := ctx

def nowMs (ctx : Context) : UInt32 := UInt32.ofNat ctx.clockMs

def parseTxMsg (msg : GsTxMsg) : CanTxRequest :=
  { echoId := msg.echoId
    id := msg.id
    isExtended := msg.isExtended
    isRtr := msg.isRtr
    data := msg.data
    dlc := msg.dlc }

/-- The handler of `build_usb_stack`, given the callbacks that `main` passes. -/
def controlHandler : GsUsbControlHandler Context :=
  { onStart := some onStartCb
    onStop := some onStopCb
    onBitTiming := some onBitTimingCb
    onIdentify := some onIdentifyCb
    nowMs := nowMs
    userId := 0
    capabilities := (((GsDeviceCapabilities.withFeature {} gsCanFeatureListenOnly).withFeature
      gsCanFeatureLoopBack).withFeature gsCanFeatureIdentify).withFeature gsCanFeatureUserId }

/-- The command that a control OUT request asks for, if any. -/
def requestedCmd (req : Request) (buf : List UInt8) : Option CanDriverCmd :=
  if req.requestType ≠ .vendor then none
  else if req.request = gsUsbBreqBittiming then
    if GsDeviceBitTiming.layout.size ≤ buf.length then
      some (.setBitTiming (GsDeviceBitTiming.layout.decode
        (buf.take GsDeviceBitTiming.layout.size)))
    else none
  else if req.request = gsUsbBreqMode then
    if GsDeviceMode.layout.size ≤ buf.length then
      let devMode := GsDeviceMode.layout.decode (buf.take GsDeviceMode.layout.size)
      some (if devMode.mode = 1 then startCmd devMode.flags else .stop)
    else none
  else none

def Configured (handler : GsUsbControlHandler Context) : Prop :=
  handler = { controlHandler with userId := handler.userId }

theorem set_user_id_configured (handler : GsUsbControlHandler Context) (buf : List UInt8)
    (configured : Configured handler) : Configured (handler.setUserIdRequest buf) := by
  unfold GsUsbControlHandler.setUserIdRequest
  split
  · unfold Configured at *
    rw [configured]
  · exact configured

theorem identify_effect (handler : GsUsbControlHandler Context) (ctx : Context)
    (buf : List UInt8) (configured : Configured handler) :
    handler.identifyRequest ctx buf = ctx := by
  have callback : handler.onIdentify = some onIdentifyCb := by rw [configured]; rfl
  unfold GsUsbControlHandler.identifyRequest
  split
  · split
    · rw [callback]
      rfl
    · rfl
  · rfl

/-- Everything a control OUT request does: at most one command is offered to
CAN_CMD_CHANNEL, and of the handler only `user_id` can change. -/
theorem control_out_effect (handler : GsUsbControlHandler Context) (ctx : Context)
    (req : Request) (buf : List UInt8) (configured : Configured handler) :
    (handler.controlOut ctx req buf).2.1 = (requestedCmd req buf).elim ctx ctx.sendCmd ∧
      Configured (handler.controlOut ctx req buf).1 := by
  have onStart : handler.onStart = some onStartCb := by rw [configured]; rfl
  have onStop : handler.onStop = some onStopCb := by rw [configured]; rfl
  have onBitTiming : handler.onBitTiming = some onBitTimingCb := by rw [configured]; rfl
  unfold GsUsbControlHandler.controlOut requestedCmd
  by_cases vendor : req.requestType = .vendor
  · simp only [vendor, ne_eq, not_true_eq_false, ↓reduceIte]
    by_cases timing : req.request = gsUsbBreqBittiming
    · simp only [timing, ↓reduceIte]
      refine ⟨?_, configured⟩
      unfold GsUsbControlHandler.bitTimingRequest
      rw [onBitTiming]
      split <;> rfl
    · by_cases mode : req.request = gsUsbBreqMode
      · have notTiming : gsUsbBreqMode ≠ gsUsbBreqBittiming := by decide
        have notFormat : gsUsbBreqMode ≠ gsUsbBreqHostFormat := by decide
        have notTermination : gsUsbBreqMode ≠ gsUsbBreqSetTermination := by decide
        simp only [mode, notTiming, notFormat, notTermination, ↓reduceIte]
        refine ⟨?_, configured⟩
        unfold GsUsbControlHandler.modeRequest
        rw [onStart, onStop]
        split
        · simp only [Option.elim_some]
          split <;> rfl
        · rfl
      · simp only [timing, mode, ↓reduceIte]
        -- Host format, termination, identify, user id and the stalled codes
        -- leave the channel alone.
        repeat' split
        all_goals first
          | exact ⟨rfl, configured⟩
          | exact ⟨identify_effect handler ctx buf configured, configured⟩
          | exact ⟨rfl, set_user_id_configured handler buf configured⟩
  · simp only [vendor, ne_eq, not_false_eq_true, ↓reduceIte]
    exact ⟨rfl, configured⟩

end NginLink.AppContext
