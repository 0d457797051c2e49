import NginLink.AppContext
import NginLink.BspCan

/-!
`can_driver_task` of `firmware/src/tasks/can.rs`, cut at its awaits: a `Phase` is
an await the task is suspended in, and one step runs it from that await to the
next. Between two steps any other task may run. `select` may return either
branch that is ready, so commands and bus results come in any order. The `log`
is a history variable: nothing in the task reads it.
-/

namespace NginLink.CanDriver

open AppContext BoundedChannel BspCan CanProtocol GsUsbTypes

-- `embassy_stm32::can::enums::BusError`.
inductive BusError where
  | stuff
  | form
  | acknowledge
  | bitRecessive
  | bitDominant
  | crc
  | software
  deriving DecidableEq

def BusError.toCanBusError : BusError → CanBusError
  | .stuff => .stuff
  | .form => .form
  | .acknowledge => .acknowledge
  | .bitRecessive => .bitRecessive
  | .bitDominant => .bitDominant
  | .crc => .crc
  | .software => .software

def busOffDelaysMs : List Nat := [100, 200, 400, 800, 1600, 3200]
def maxBusOffRetries : UInt8 := 5

inductive Outcome where
  | ignored
  | frameError
  | timeout
  | echoed
  | echoDropped
  deriving DecidableEq

-- `transmit` returned `Ok`, so an echo frame was built.
def Outcome.isOk : Outcome → Bool
  | .echoed | .echoDropped => true
  | .ignored | .frameError | .timeout => false

inductive Offer where
  | received
  | echo
  | busError
  | busOff
  deriving DecidableEq

inductive Record where
  | command (cmd : CanDriverCmd) (started : Bool)
  | finished (cmd : CanDriverCmd) (asleep : Bool)
  | transmit (serial : Nat) (request : CanTxRequest) (started : Bool)
  | outcome (serial : Nat) (request : CanTxRequest) (outcome : Outcome)
  | dequeued (serials : List Nat)
  | aborted (serials : List Nat)
  | reading (started : Bool)
  | frameRead (frame : Frame)
  | errorRead (error : BusError) (sleeping : Bool)
  | offered (offer : Offer) (sent : Bool)
  | evicted (frame : CanFrame)
  | enabled
  | delayed (ms : Nat)
  deriving DecidableEq

inductive Phase where
  -- `select(CAN_CMD_CHANNEL.receive(), can.can.read())`
  | selecting
  -- `CAN_CMD_CHANNEL.receive()`, while stopped
  | receiving
  -- `enable()` at the end of `start`, `stop` or `reenable`; `inLoop` tells the
  -- started branch, which still has its tail to run
  | enabling (cmd : CanDriverCmd) (inLoop : Bool)
  -- `with_timeout(100 ms, write(&frame))`
  | transmitting (serial : Nat) (request : CanTxRequest) (frame : Frame)
  -- `enable()` after a bus-off
  | recovering (delayMs : Nat)
  | delaying (delayMs : Nat)
  | panicked
  deriving DecidableEq

/-- The locals of the task and its peripheral. `serials` counts the transmit
requests taken so far and `log` what the task did; both are history variables. -/
structure Driver where
  can : Can
  isStarted : Bool
  canErrorCount : UInt32
  overflowPending : Bool
  phase : Phase
  serials : Nat
  log : List Record

-- The task has just reached its first await; the controller is stopped.
def Driver.new (can : Can) : Driver :=
  { can, isStarted := false, canErrorCount := 0, overflowPending := false
    phase := .receiving, serials := 0, log := [] }

def Driver.isWaiting (driver : Driver) : Bool :=
  driver.phase = .selecting ∨ driver.phase = .receiving

def Driver.note (driver : Driver) (records : List Record) : Driver :=
  { driver with log := driver.log ++ records }

def Driver.panic (driver : Driver) : Driver := { driver with phase := .panicked }

def Driver.loopTop (driver : Driver) : Driver :=
  if driver.isStarted then
    { driver.note [.reading driver.isStarted] with phase := .selecting }
  else { driver with phase := .receiving }

-- `if overflow_pending { .. }` at the end of the started branch, then the loop.
def endIteration (driver : Driver) (ctx : Context) : Driver × Context :=
  if driver.overflowPending then
    match ctx.canRx.tryReceive with
    | some (frame, canRx) =>
        (({ driver.note [.evicted frame] with overflowPending := false } : Driver).loopTop,
          { ctx with canRx })
    | none => (({ driver with overflowPending := false } : Driver).loopTop, ctx)
  else (driver.loopTop, ctx)

-- `&tx_req.data[..tx_req.dlc as usize]`; `none` is the slice panic.
def dataSlice (request : CanTxRequest) : Option (List UInt8) :=
  if request.dlc.toNat ≤ 8 then some (request.data.toList.take request.dlc.toNat) else none

/-- The `Transmit` arm up to the await inside `can.transmit`. -/
def transmitCmd (platform : Platform) (driver : Driver) (ctx : Context) (request : CanTxRequest) :
    Driver × Context :=
  match dataSlice request with
  | none => (driver.panic, ctx)
  | some data =>
      let serial := driver.serials
      let driver := { driver.note [.transmit serial request driver.isStarted] with
        serials := serial + 1 }
      match Can.transmitFrame platform request.id request.isExtended request.isRtr data with
      | .error _ => endIteration (driver.note [.outcome serial request .frameError]) ctx
      | .ok frame => ({ driver with phase := .transmitting serial request frame }, ctx)

def startedCmd (platform : Platform) (driver : Driver) (ctx : Context) :
    CanDriverCmd → Driver × Context
  | .stop =>
      ({ driver with isStarted := false, can := driver.can.stop, phase := .enabling .stop true },
        { ctx with service := ctx.service.markStopped })
  | .start loopback listenOnly oneShot =>
      ({ driver with
          can := driver.can.start loopback listenOnly oneShot
          phase := .enabling (.start loopback listenOnly oneShot) true }, ctx)
  | .setBitTiming timing =>
      match driver.can.setBitTiming platform timing with
      | some can => ({ driver with can, phase := .enabling (.setBitTiming timing) true }, ctx)
      | none => (driver.panic, ctx)
  | .transmit request => transmitCmd platform driver ctx request

def stoppedCmd (platform : Platform) (driver : Driver) (ctx : Context) :
    CanDriverCmd → Driver × Context
  | .start loopback listenOnly oneShot =>
      ({ driver with
          isStarted := true
          can := driver.can.start loopback listenOnly oneShot
          phase := .enabling (.start loopback listenOnly oneShot) false },
        { ctx with service := ctx.service.markStarted })
  | .stop => (driver.loopTop, ctx)
  | .setBitTiming timing =>
      match driver.can.setBitTiming platform timing with
      | some can => (({ driver with can } : Driver).loopTop, ctx)
      | none => (driver.panic, ctx)
  | .transmit request =>
      (({ driver.note [.outcome driver.serials request .ignored] with
        serials := driver.serials + 1 } : Driver).loopTop, ctx)

/-- The conversion of a received frame. `id` and `data` are `rx_frame.id()` and
`rx_frame.data()`. -/
def toCanFrame (frame : Frame) : CanFrame :=
  let payload := frame.data
  { id := frame.id.raw
    isExtended := frame.id.isExtended
    data :=
      if short : payload.length ≤ 8 then
        ⟨(payload ++ List.replicate (8 - payload.length) 0).toArray, by simp; omega⟩
      else Vector.replicate 8 0
    dlc := UInt8.ofNat payload.length }

-- `Either::Second(Ok(env))`.
def readOk (driver : Driver) (ctx : Context) (frame : Frame) : Driver × Context :=
  let (canRx, sent) := ctx.canRx.trySend (toCanFrame frame)
  let driver := driver.note [.frameRead frame, .offered .received sent]
  if sent then endIteration driver { ctx with canRx }
  else
    endIteration { driver with overflowPending := true }
      { ctx with canRx, service := ctx.service.countDropped }

-- The bus-off branch: `is_sleeping()` was true.
def busOff (driver : Driver) (ctx : Context) : Driver × Context :=
  let retryCount := ctx.service.busOffCount
  let ctx := { ctx with service := { ctx.service with busOffCount := retryCount + 1 } }
  let retryIdx := min retryCount.toNat (busOffDelaysMs.length - 1)
  if retryCount < maxBusOffRetries.toUInt32 then
    match busOffDelaysMs[retryIdx]? with
    | some delayMs => ({ driver with phase := .recovering delayMs }, ctx)
    | none => (driver.panic, ctx)
  else
    let (usbEcho, sent) := ctx.usbEcho.trySend (GsHostFrame.fromControllerError .busOff)
    endIteration (driver.note [.offered .busOff sent]) { ctx with usbEcho }

/-- `Either::Second(Err(e))`. The peripheral may have gone to sleep by itself, so
what `is_sleeping()` reports is an input. -/
def readErr (platform : Platform) (driver : Driver) (ctx : Context) (error : BusError)
    (sleeping : Bool) : Driver × Context :=
  let driver := driver.note [.errorRead error sleeping]
  match platform.addU32 driver.canErrorCount 1 with
  | none => (driver.panic, ctx)
  | some canErrorCount =>
      let driver := { driver with canErrorCount, can := { driver.can with asleep := sleeping } }
      let ctx := { ctx with service := { ctx.service with errorCount := canErrorCount } }
      if sleeping then busOff driver ctx
      else
        let (usbEcho, sent) := ctx.usbEcho.trySend (GsHostFrame.fromBusError error.toCanBusError)
        let driver := driver.note [.offered .busError sent]
        if sent then endIteration driver { ctx with usbEcho }
        else
          endIteration { driver with overflowPending := true }
            { ctx with usbEcho, service := ctx.service.countDropped }

def echoFrame (request : CanTxRequest) : GsHostFrame :=
  GsHostFrame.fromTxMsgEcho request.echoId request.id request.isExtended request.dlc request.data

/-- `write` stored the frame: `transmit` returns `Ok(())`, whatever `_status` says of a frame
taken out for it. -/
def written (driver : Driver) (ctx : Context) (serial : Nat) (request : CanTxRequest)
    (frame : Frame) (dequeued : Option Nat) : Driver × Context :=
  let serials := takenOut (driver.can.mailboxes.map Prod.fst) dequeued
  let driver := { driver with can := driver.can.store serial frame dequeued }
  let (usbEcho, sent) := ctx.usbEcho.trySend (echoFrame request)
  let outcome := if sent then Outcome.echoed else .echoDropped
  let driver := driver.note
    [.dequeued serials, .outcome serial request outcome, .offered .echo sent]
  if sent then endIteration driver { ctx with usbEcho }
  else endIteration driver { ctx with usbEcho, service := ctx.service.countDropped }

-- The 100 ms passed first: the three mailboxes are aborted.
def timedOut (driver : Driver) (ctx : Context) (serial : Nat) (request : CanTxRequest) :
    Driver × Context :=
  let records := [.aborted (driver.can.mailboxes.map Prod.fst), .outcome serial request .timeout]
  endIteration { driver.note records with can := driver.can.abortMailboxes } ctx

-- `enable()` at the end of a command has returned.
def commandEnabled (driver : Driver) (ctx : Context) (cmd : CanDriverCmd) (inLoop : Bool) :
    Driver × Context :=
  let can := driver.can.enable
  let driver := { driver.note [.enabled, .finished cmd can.asleep] with can }
  if inLoop then endIteration driver ctx else (driver.loopTop, ctx)

inductive Event where
  | command
  | frame (frame : Frame)
  | error (error : BusError) (sleeping : Bool)
  | enabled
  | written (dequeued : Option Nat)
  | timedOut
  | delayElapsed
  deriving DecidableEq

/-- One step of the task, from the await it is suspended in; `none` when that
await cannot complete with this event. -/
def step (platform : Platform) (driver : Driver) (ctx : Context) (event : Event) :
    Option (Driver × Context) :=
  match driver.phase, event with
  | .selecting, .command =>
      ctx.canCmd.tryReceive.map fun (cmd, canCmd) =>
        startedCmd platform (driver.note [.command cmd driver.isStarted]) { ctx with canCmd } cmd
  | .receiving, .command =>
      ctx.canCmd.tryReceive.map fun (cmd, canCmd) =>
        stoppedCmd platform (driver.note [.command cmd driver.isStarted]) { ctx with canCmd } cmd
  | .selecting, .frame frame => some (readOk driver ctx frame)
  | .selecting, .error error sleeping => some (readErr platform driver ctx error sleeping)
  | .enabling cmd inLoop, .enabled => some (commandEnabled driver ctx cmd inLoop)
  | .transmitting serial request frame, .written dequeued =>
      some (written driver ctx serial request frame dequeued)
  | .transmitting serial request _, .timedOut => some (timedOut driver ctx serial request)
  | .recovering delayMs, .enabled =>
      some ({ driver.note [.enabled] with can := driver.can.enable, phase := .delaying delayMs },
        ctx)
  | .delaying delayMs, .delayElapsed =>
      some (endIteration { driver.note [.delayed delayMs] with
        canErrorCount := 0, overflowPending := false } ctx)
  | _, _ => none

end NginLink.CanDriver
