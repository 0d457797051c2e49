import NginLink.CanDriver
import NginLink.Machine
import NginLink.UsbTasks

/-!
The whole firmware: the tasks that `main` spawns, the statics they share and the
USB control handler, under any schedule. An event is one step of one task or one
thing the outside does (a control transfer, a frame leaving a mailbox, time).
The executor is cooperative, so a step between two awaits is atomic.
-/

namespace NginLink.Firmware

open AppContext BspCan CanDriver ControlHandler GsUsbTypes UsbTasks

/-- A control OUT transfer: its answer, and whether CAN_CMD_CHANNEL had a free slot. -/
structure ControlRecord where
  req : Request
  payload : List UInt8
  answer : Option OutResponse
  hadRoom : Bool
  deriving DecidableEq

structure System where
  handler : GsUsbControlHandler Context
  controls : List ControlRecord
  usbRx : UsbRx
  usbTx : UsbTx
  driver : Driver
  ctx : Context

def boot (config : CanConfig) : System :=
  { handler := controlHandler, controls := [], usbRx := .new, usbTx := .new
    driver := .new (.new config), ctx := .new }

inductive Event where
  | controlOut (req : Request) (payload : List UInt8)
  | controlIn (req : Request) (buf : List UInt8)
  | epOutEnabled
  | epInEnabled
  | bulkOut (packet : Packet)
  -- `read` returned `Err`; it may have written to the buffer.
  | bulkOutError (buf : Buffer)
  | driver (event : CanDriver.Event)
  | takeRx
  | takeEcho
  | writeDone
  | mailboxSent (index : Nat)
  | tick (ms : Nat)

def controlOut (s : System) (req : Request) (payload : List UInt8) : System :=
  let (handler, ctx, answer) := s.handler.controlOut s.ctx req payload
  { s with
    handler, ctx
    controls := s.controls ++ [⟨req, payload, answer, s.ctx.canCmd.hasRoom⟩] }

def step (platform : Platform) (s : System) : Event → Option System
  | .controlOut req payload => some (controlOut s req payload)
  -- `control_in` borrows the handler mutably but changes nothing in it.
  | .controlIn _ _ => some s
  | .epOutEnabled => some { s with usbRx := { s.usbRx with enabled := true } }
  | .epInEnabled =>
      if s.usbTx.phase = .disabled then
        some { s with usbTx := { s.usbTx with phase := .selecting } }
      else none
  | .bulkOut packet =>
      if s.usbRx.enabled then
        let (usbRx, ctx) := readPacket s.usbRx s.ctx packet
        some { s with usbRx, ctx }
      else none
  | .bulkOutError buf =>
      if s.usbRx.enabled then some { s with usbRx := { s.usbRx with buf } } else none
  | .driver event =>
      (CanDriver.step platform s.driver s.ctx event).map fun (driver, ctx) => { s with driver, ctx }
  | .takeRx => (receiveRx s.usbTx s.ctx).map fun (usbTx, ctx) => { s with usbTx, ctx }
  | .takeEcho => (receiveEcho s.usbTx s.ctx).map fun (usbTx, ctx) => { s with usbTx, ctx }
  | .writeDone => (endWrite s.usbTx).map fun usbTx => { s with usbTx }
  | .mailboxSent index =>
      if index < s.driver.can.mailboxes.length ∧ s.driver.can.transmits = true then
        some { s with driver := { s.driver with can := s.driver.can.sent index } }
      else none
  | .tick ms => some { s with ctx := { s.ctx with clockMs := s.ctx.clockMs + ms } }

/-- CAN_CMD_CHANNEL and USB_ECHO_CHANNEL are empty and every task waits for its
next event (`usb_rx_task` always does, between two steps). -/
def Quiescent (s : System) : Prop :=
  s.ctx.canCmd.queued = [] ∧ s.ctx.usbEcho.queued = [] ∧ s.driver.isWaiting = true ∧
    s.usbTx.phase = .selecting

def hostMode (mode flags : UInt32) : Event :=
  .controlOut { requestType := .vendor, request := gsUsbBreqMode }
    (GsDeviceMode.layout.encode { mode, flags })

-- The host starts the controller, the driver takes the command and `enable` returns.
def bringUp : List Event := [hostMode 1 0, .driver .command, .driver .enabled]

def hostMessage (echoId canId : UInt32) : Event :=
  .bulkOut
    { bytes := GsTxMsg.layout.encode
        { echoId, canId, canDlc := 0, channel := 0, flags := 0, reserved := 0
          data := Vector.replicate 8 0 }
      bounded := by
        rw [ByteLayout.Layout.encode_length]
        decide }

-- The driver takes a message, the peripheral stores its frame.
def storeMessage : List Event := [.driver .command, .driver (.written none)]

/-- The host listens in loop-back, sets a timing, sends a message, stops, and starts again to
send each frame only once. -/
def retuned : List Event :=
  [hostMode 1 (gsCanFlagListenOnly ||| gsCanFlagLoopBack), .driver .command, .driver .enabled,
    .controlOut { requestType := .vendor, request := gsUsbBreqBittiming }
      (GsDeviceBitTiming.layout.encode
        { propSeg := 1, phaseSeg1 := 10, phaseSeg2 := 2, sjw := 1, brp := 6 }),
    .driver .command, .driver .enabled, .epOutEnabled, hostMessage 1 0x123] ++ storeMessage ++
  [hostMode 0 0, .driver .command, .driver .enabled, hostMode 1 gsCanFlagOneShot,
    .driver .command, .driver .enabled]

/-- Four messages on a bus that acknowledges nothing. The first three are stored and
their echoes taken; they keep the mailboxes busy, and the fourth, which has the identifier
of the first and may not replace any of them, times out. -/
def silentBus : List Event :=
  bringUp ++ [.epOutEnabled, .epInEnabled] ++
    ([1, 2, 3].flatMap fun echoId =>
      hostMessage echoId (0x122 + echoId) :: storeMessage ++ [.takeEcho, .writeDone]) ++
    [hostMessage 4 0x123, .driver .command, .driver .timedOut]

def resetConfig : CanConfig :=
  { silent := false, loopback := false, automaticRetransmit := true, bitTiming := none }

end NginLink.Firmware
