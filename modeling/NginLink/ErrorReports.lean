import NginLink.HostFrames

/-!
The errors on the way to the host. Each kind of error has its own frame, which the error bit
of `can_id` tells from all others. So the frames with that bit on the Bulk IN endpoint carry
what the driver had to report in the order in which it happened, whatever stands between
them. A bus-off that the driver recovers from is not among it.
-/

namespace NginLink.ErrorReports

open AppContext BoundedChannel BspCan CanDriver DriverState Echoes Firmware GsUsbTypes
open HostFrames Reception TransmitLedger Translation UsbTasks

inductive Fault where
  | bus (error : CanBusError)
  | controller (error : CanControllerError)
  deriving DecidableEq

def Fault.frame : Fault → GsHostFrame
  | .bus error => GsHostFrame.fromBusError error
  | .controller error => GsHostFrame.fromControllerError error

theorem fault_frame_err (fault : Fault) : hasErr fault.frame = true := by
  cases fault with
  | bus error => cases error <;> decide
  | controller error => cases error <;> decide

def faultKey (frame : GsHostFrame) : UInt32 × List UInt8 := (frame.canId, frame.data.toList)

theorem fault_frame_injective : Function.Injective Fault.frame := by
  intro first second same
  have keys := congrArg faultKey same
  rcases first with first | first <;> rcases second with second | second <;>
    cases first <;> cases second <;> first | rfl | exact absurd keys (by decide)

def errorFrames (frames : List GsHostFrame) : List GsHostFrame := frames.filter hasErr

@[simp] theorem error_frames_append (first second : List GsHostFrame) :
    errorFrames (first ++ second) = errorFrames first ++ errorFrames second :=
  List.filter_append first second

/-- Every error read with the controller awake, and every bus-off that is given up. -/
def faultOf : Record → Option Fault
  | .errorRead error false => some (.bus error.toCanBusError)
  | .offered .busOff _ => some (.controller .busOff)
  | _ => none

abbrev faults (log : List Record) : List Fault := log.filterMap faultOf

abbrev faultFrames (log : List Record) : List GsHostFrame := (faults log).map Fault.frame

@[simp] theorem faults_loop_top (driver : Driver) : faults driver.loopTop.log = faults driver.log :=
  loop_top_view driver faultOf rfl

/-- What has gone into USB_ECHO_CHANNEL, against what there was to report. -/
structure Reports (driver : Driver) (ctx : Context) : Prop where
  among : (errorFrames ctx.usbEcho.accepted).Sublist (faultFrames driver.log)
  complete : driver.phase ≠ .panicked → errorFrames ctx.usbEcho.refused = [] →
    errorFrames ctx.usbEcho.accepted = faultFrames driver.log

theorem data_no_error (frame : GsHostFrame) (word : DataWord frame) : errorFrames [frame] = [] := by
  simp [errorFrames, word.1]

theorem echo_no_error (request : CanTxRequest) : errorFrames [echoFrame request] = [] :=
  data_no_error _ (data_frame_word _ _ _ _ _ _)

theorem received_no_error (frame : CanProtocol.CanFrame) : errorFrames [toHostFrame frame] = [] :=
  data_no_error _ (data_frame_word _ _ _ _ _ _)

theorem fault_is_error (fault : Fault) : errorFrames [fault.frame] = [fault.frame] := by
  simp [errorFrames, fault_frame_err]

theorem errors_after_send (channel : Channel GsHostFrame 16) (frame : GsHostFrame) :
    errorFrames (channel.trySend frame).1.accepted =
      errorFrames channel.accepted ++ if channel.hasRoom then errorFrames [frame] else [] := by
  rw [Channel.try_send_accepted]
  split <;> simp

theorem refused_after_send (channel : Channel GsHostFrame 16) (frame : GsHostFrame) :
    errorFrames (channel.trySend frame).1.refused =
      errorFrames channel.refused ++ if channel.hasRoom then [] else errorFrames [frame] := by
  rw [Channel.try_send_refused]
  split <;> simp

variable {platform : Platform}

/-- What one step has to report it sends, or it sends nothing with the error bit. -/
theorem transition_faults (driver next : Driver) (ctx after : Context)
    (event : CanDriver.Event) (moved : Transition platform driver ctx event next after) :
    (∃ frame, after.usbEcho = (ctx.usbEcho.trySend frame).1 ∧
      faultFrames next.log = faultFrames driver.log ++ errorFrames [frame]) ∨
    after.usbEcho = ctx.usbEcho ∧
      (faultFrames next.log = faultFrames driver.log ∨ next.phase = .panicked ∧
        faultFrames driver.log <+: faultFrames next.log) := by
  cases moved with
  | written dequeued serial request frame transmitting room
  | writtenRefused dequeued serial request frame transmitting full =>
      refine Or.inl ⟨_, rfl, ?_⟩
      rw [echo_no_error]
      simp [faultFrames, faultOf]
  | errorQueued error count selecting counted room
  | errorRefused error count value canRx selecting counted full taken
  | errorRefusedAlone error count selecting counted full empty =>
      refine Or.inl ⟨(Fault.bus error.toCanBusError).frame, rfl, ?_⟩
      rw [fault_is_error]
      simp [faultFrames, faultOf]
  | busOffGivenUp error count selecting counted many =>
      refine Or.inl ⟨(Fault.controller .busOff).frame, rfl, ?_⟩
      rw [fault_is_error]
      simp [faultFrames, faultOf]
  | errorPanic error sleeping selecting overflow =>
      exact Or.inr ⟨rfl, Or.inr ⟨rfl, ((List.prefix_append driver.log _).filterMap _).map _⟩⟩
  | _ => exact Or.inr ⟨rfl, Or.inl (by simp [faultFrames, faultOf, Driver.panic])⟩

theorem transition_reports (driver next : Driver) (ctx after : Context)
    (event : CanDriver.Event) (moved : Transition platform driver ctx event next after)
    (reports : Reports driver ctx) : Reports next after := by
  have alive := transition_running driver next ctx after event moved
  rcases transition_faults driver next ctx after event moved with
    ⟨frame, sent, more⟩ | ⟨same, kept | ⟨panicked, grown⟩⟩
  · constructor
    · rw [sent, more, errors_after_send]
      refine reports.among.append ?_
      split
      · exact List.Sublist.refl _
      · exact List.nil_sublist _
    · intro running unrefused
      rw [sent, refused_after_send] at unrefused
      obtain ⟨before, now⟩ := List.append_eq_nil_iff.mp unrefused
      rw [sent, more, errors_after_send, reports.complete alive before]
      split
      · rfl
      · rename_i full
        rw [if_neg full] at now
        rw [now]
  · exact ⟨by rw [same, kept]; exact reports.among,
      fun running unrefused => by
        rw [same] at unrefused ⊢
        rw [kept, reports.complete alive unrefused]⟩
  · exact ⟨by rw [same]; exact reports.among.trans grown.sublist,
      fun running => absurd panicked running⟩

-- Errors come to the host through USB_ECHO_CHANNEL only, and all that leave it do.
def Passed (s : System) : Prop :=
  errorFrames (s.usbTx.taken.map Prod.snd) = errorFrames s.ctx.usbEcho.received

theorem passed_start (tx : UsbTx) (source : Source) (frame : GsHostFrame) :
    errorFrames ((tx.startWrite source frame).taken.map Prod.snd) =
      errorFrames (tx.taken.map Prod.snd) ++ errorFrames [frame] := by
  simp [UsbTx.startWrite]

theorem move_passed (s next : System) (event : Firmware.Event)
    (moved : Move platform s event next) (passed : Passed s) : Passed next := by
  unfold Passed at *
  cases moved with
  | driver event driver ctx moved =>
      rw [passed, transition_echo_received s.driver driver s.ctx ctx event moved]
  | tookRx frame canRx selecting taken =>
      rw [passed_start, received_no_error, passed]
      simp
  | tookEcho frame usbEcho selecting taken =>
      have received := (Channel.try_receive_some s.ctx.usbEcho usbEcho frame taken).2.1
      rw [passed_start, passed, received, error_frames_append]
  | _ => exact passed

theorem move_reports (s next : System) (event : Firmware.Event)
    (moved : Move platform s event next) (reports : Reports s.driver s.ctx) :
    Reports next.driver next.ctx := by
  cases moved with
  | driver event driver ctx moved =>
      exact transition_reports s.driver driver s.ctx ctx event moved reports
  | tookEcho frame usbEcho selecting taken =>
      obtain ⟨_, _, accepted, refused⟩ := Channel.try_receive_some s.ctx.usbEcho usbEcho _ taken
      exact ⟨by rw [accepted]; exact reports.among,
        fun running unrefused => by
          rw [accepted]
          exact reports.complete running (by rwa [refused] at unrefused)⟩
  | _ => exact ⟨reports.among, reports.complete⟩

/-- Over every run the error frames that `usb_tx_task` has taken, and those on their way to
it, are the frames of some of the errors there were to report, in the order in which they
happened; as long as the driver has not panicked and no error frame met a full channel, they
are those of all of them. Different errors have different frames. -/
theorem host_reads_errors_in_order (platform : Platform) (config : CanConfig)
    (events : List Firmware.Event) (final : System)
    (finished : Machine.run (step platform) (boot config) events = some final) :
    let frames := errorFrames (final.usbTx.taken.map Prod.snd ++ final.ctx.usbEcho.queued)
    frames.Sublist ((faults final.driver.log).map Fault.frame) ∧
    (final.driver.phase ≠ .panicked → errorFrames final.ctx.usbEcho.refused = [] →
      frames = (faults final.driver.log).map Fault.frame) ∧
    Function.Injective Fault.frame := by
  obtain ⟨passed, reports⟩ := run_move_invariant
    (fun s => Passed s ∧ Reports s.driver s.ctx)
    (fun s event next _ known moved =>
      ⟨move_passed s next event moved known.1, move_reports s next event moved known.2⟩)
    config events final finished ⟨rfl, List.Sublist.slnil, fun _ _ => rfl⟩
  have split : errorFrames (final.usbTx.taken.map Prod.snd ++ final.ctx.usbEcho.queued) =
      errorFrames final.ctx.usbEcho.accepted := by
    rw [error_frames_append, passed, ← final.ctx.usbEcho.fifo, error_frames_append]
  intro frames
  rw [show frames = _ from split]
  exact ⟨reports.among, reports.complete, fault_frame_injective⟩

-- Three errors around a received frame; the host has taken the first two.
def mixedErrors : List Firmware.Event :=
  bringUp ++ [.epInEnabled, .driver (.error .stuff false), .driver (.frame sampleFrame),
    .driver (.error .acknowledge false), .takeEcho, .writeDone, .takeRx, .writeDone, .takeEcho,
    .driver (.error .bitDominant false)]

theorem host_reads_errors_in_order_mixed :
    ∃ final, Machine.run (step (Platform.embassy true)) (boot resetConfig) mixedErrors =
        some final ∧
      final.driver.phase ≠ .panicked ∧ errorFrames final.ctx.usbEcho.refused = [] ∧
      final.usbTx.taken.length = 3 ∧
      errorFrames (final.usbTx.taken.map Prod.snd ++ final.ctx.usbEcho.queued) =
        [.bus .stuff, .bus .acknowledge, .bus .bitDominant].map Fault.frame := by
  obtain ⟨final, finished, running, unrefused, three, all⟩ : ∃ final,
      Machine.run (step (Platform.embassy true)) (boot resetConfig) mixedErrors = some final ∧
      final.driver.phase ≠ .panicked ∧ errorFrames final.ctx.usbEcho.refused = [] ∧
      final.usbTx.taken.length = 3 ∧
      faults final.driver.log = [.bus .stuff, .bus .acknowledge, .bus .bitDominant] :=
    ⟨_, rfl, by decide, by decide, by decide, by decide⟩
  refine ⟨final, finished, running, unrefused, three, ?_⟩
  rw [← all]
  exact (host_reads_errors_in_order (Platform.embassy true) resetConfig mixedErrors final
    finished).2.1 running unrefused

end NginLink.ErrorReports
