import NginLink.AppContext

/-!
`usb_rx_task` and `usb_tx_task` of `firmware/src/tasks`, cut at their awaits.
`messages` and `taken` are history variables: every message the first task
decoded, and every frame the second took out of a channel for writing.
-/

namespace NginLink.UsbTasks

open AppContext BoundedChannel ByteLayout CanProtocol GsUsbTypes

structure Packet where
  bytes : List UInt8
  bounded : bytes.length ≤ 64
  deriving DecidableEq

abbrev Buffer := Vector UInt8 64

/-- `read(&mut buf)` overwrites the front of the buffer and keeps what lies behind. -/
def overwrite (buf : Buffer) (packet : Packet) : Buffer :=
  ⟨(packet.bytes ++ buf.toList.drop packet.bytes.length).toArray, by
    have bounded := packet.bounded
    simp
    omega⟩

/-- A decoded message, whether CAN_SERVICE said started when it was read, and
whether CAN_CMD_CHANNEL took the command made of it. -/
structure MessageRecord where
  msg : GsTxMsg
  started : Bool
  queued : Bool
  deriving DecidableEq

structure UsbRx where
  enabled : Bool
  buf : Buffer
  messages : List MessageRecord

def UsbRx.new : UsbRx := { enabled := false, buf := Vector.replicate 64 0, messages := [] }

def decodeMsg (buf : Buffer) : GsTxMsg :=
  GsTxMsg.layout.decode (buf.toList.take GsTxMsg.layout.size)

-- `read` returned `Ok(n)`.
def readPacket (rx : UsbRx) (ctx : Context) (packet : Packet) : UsbRx × Context :=
  let rx := { rx with buf := overwrite rx.buf packet }
  if GsTxMsg.layout.size ≤ packet.bytes.length then
    let txMsg := decodeMsg rx.buf
    let (canCmd, sent) := ctx.canCmd.trySend (.transmit (parseTxMsg txMsg))
    ({ rx with messages := rx.messages ++ [⟨txMsg, ctx.service.started, sent⟩] },
      { ctx with canCmd })
  else (rx, ctx)

inductive Source where
  | canRx
  | usbEcho
  deriving DecidableEq

inductive TxPhase where
  -- `wait_enabled()`
  | disabled
  -- `select(CAN_RX_CHANNEL.receive(), USB_ECHO_CHANNEL.receive())`
  | selecting
  -- `ep_in.write(bytes)`
  | writing (bytes : List UInt8)
  | panicked
  deriving DecidableEq

structure UsbTx where
  phase : TxPhase
  taken : List (Source × GsHostFrame)

def UsbTx.new : UsbTx := { phase := .disabled, taken := [] }

def UsbTx.startWrite (tx : UsbTx) (source : Source) (frame : GsHostFrame) : UsbTx :=
  { phase := .writing (GsHostFrame.layout.encode frame), taken := tx.taken ++ [(source, frame)] }

def toHostFrame (frame : CanFrame) : GsHostFrame :=
  GsHostFrame.fromCanFrame frame.id frame.isExtended frame.dlc frame.data

/-- `Either::First(frame)`: the sniffer runs for its log line only. -/
def takeFrame (tx : UsbTx) (frame : CanFrame) : UsbTx :=
  match analyzeFrame frame with
  | none => { tx with phase := .panicked }
  | some _ => tx.startWrite .canRx (toHostFrame frame)

def receiveRx (tx : UsbTx) (ctx : Context) : Option (UsbTx × Context) :=
  if tx.phase = .selecting then
    ctx.canRx.tryReceive.map fun (frame, canRx) => (takeFrame tx frame, { ctx with canRx })
  else none

def receiveEcho (tx : UsbTx) (ctx : Context) : Option (UsbTx × Context) :=
  if tx.phase = .selecting then
    ctx.usbEcho.tryReceive.map fun (frame, usbEcho) =>
      (tx.startWrite .usbEcho frame, { ctx with usbEcho })
  else none

/-- The transfer ended, with or without an error; the task only logs which. -/
def endWrite (tx : UsbTx) : Option UsbTx :=
  match tx.phase with
  | .writing _ => some { tx with phase := .selecting }
  | _ => none

theorem take_frame_eq (tx : UsbTx) (frame : CanFrame) :
    takeFrame tx frame = tx.startWrite .canRx (toHostFrame frame) := by
  obtain ⟨decoded, total⟩ := analyze_frame_total frame
  simp only [takeFrame, total]

end NginLink.UsbTasks
