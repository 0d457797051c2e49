import NginLink.Correlation
import NginLink.HostMessages
import NginLink.Progress
import NginLink.TransmitLedger

/-!
The host's side of `echo_id`: it keeps each message it has sent until a frame with the
`echo_id` of that message comes back. The dongle only carries the word along, through two
channels, two tasks and a mailbox, and drops many a message on the way; still the
host finds for each echo the message that it is the echo of.
-/

namespace NginLink.EchoTable

open AppContext BoundedChannel BspCan CanDriver CommandQueue Correlation DriverState Firmware
open GsUsbTypes HostMessages TransmitLedger Translation UsbTasks

def echoScheme : Scheme GsTxMsg GsHostFrame UInt32 where
  key := (·.echoId)
  usable msg := msg.echoId != gsHostFrameEchoIdRx
  replyKey frame := if frame.echoId = gsHostFrameEchoIdRx then none else some frame.echoId
  image msg := echoFrame (parseTxMsg msg)
  answers := by
    intro msg usable
    exact if_neg (bne_iff_ne.mp usable)

-- What the host knows of a step: the message it wrote, or the frame of a transfer that
-- has ended.
def hostSees (s : System) : Firmware.Event → Option (Happening GsTxMsg GsHostFrame)
  | .bulkOut packet =>
      if GsTxMsg.layout.size ≤ packet.bytes.length then some (.sent (messageOf packet)) else none
  | .writeDone =>
      match s.usbTx.phase with
      | .writing bytes => some (.came (GsHostFrame.layout.decode bytes))
      | .disabled | .selecting | .panicked => none
  | _ => none

def inFlight : TxPhase → List GsHostFrame
  | .writing bytes => [GsHostFrame.layout.decode bytes]
  | .disabled | .selecting | .panicked => []

/-- The frames in USB_ECHO_CHANNEL, and behind them the echoes of the requests that the
driver has still to settle, should it come to that. -/
def ahead (driver : Driver) (ctx : Context) : List GsHostFrame :=
  ctx.usbEcho.queued ++
    (pending driver.phase ++ ctx.canCmd.queued.filterMap requestOf).map echoFrame

def way (s : System) : List GsHostFrame := inFlight s.usbTx.phase ++ ahead s.driver s.ctx

theorem ahead_taken (driver next : Driver) (ctx after : Context)
    (cmd : CanDriverCmd) (idle : pending driver.phase = [])
    (taken : ctx.canCmd.tryReceive = some (cmd, after.canCmd))
    (begun : (pending next.phase).Sublist (requestOf cmd).toList)
    (echoes : after.usbEcho = ctx.usbEcho) :
    (due echoScheme (ahead next after)).Sublist (due echoScheme (ahead driver ctx)) := by
  have front := (Channel.try_receive_some ctx.canCmd after.canCmd cmd taken).1
  have split : (cmd :: after.canCmd.queued).filterMap requestOf =
      (requestOf cmd).toList ++ after.canCmd.queued.filterMap requestOf := by
    cases carried : requestOf cmd <;> simp [carried]
  rw [ahead, ahead, front, split, idle, echoes, List.nil_append]
  exact (((begun.append_right _).map echoFrame).append_left _).filter _

-- A pending request is given up.
theorem ahead_settled (driver next : Driver) (ctx after : Context)
    (still : pending next.phase = []) (commands : after.canCmd = ctx.canCmd)
    (echoes : after.usbEcho.queued = ctx.usbEcho.queued) :
    (due echoScheme (ahead next after)).Sublist (due echoScheme (ahead driver ctx)) := by
  rw [ahead, ahead, commands, echoes, still]
  exact (((List.sublist_append_right _ _).map echoFrame).append_left _).filter _

theorem ahead_reported (driver next : Driver) (ctx after : Context)
    (report : GsHostFrame) (silent : echoScheme.replyKey report = none)
    (idle : pending driver.phase = []) (still : pending next.phase = [])
    (commands : after.canCmd = ctx.canCmd)
    (sent : after.usbEcho = (ctx.usbEcho.trySend report).1) :
    (due echoScheme (ahead next after)).Sublist (due echoScheme (ahead driver ctx)) := by
  rw [ahead, ahead, commands, idle, still, sent, Channel.try_send_queued]
  split <;> simp [due, silent]

theorem bus_error_silent (error : CanBusError) :
    echoScheme.replyKey (GsHostFrame.fromBusError error) = none := by
  cases error <;> rfl

theorem bus_off_silent : echoScheme.replyKey (GsHostFrame.fromControllerError .busOff) = none :=
  rfl

theorem received_silent (frame : CanProtocol.CanFrame) :
    echoScheme.replyKey (toHostFrame frame) = none := rfl

variable {platform : Platform}

/-- Whatever the driver does, it only takes away from what is due to the host. -/
theorem transition_ahead (driver next : Driver) (ctx after : Context) (event : CanDriver.Event)
    (moved : Transition platform driver ctx event next after) :
    (due echoScheme (ahead next after)).Sublist (due echoScheme (ahead driver ctx)) := by
  cases moved with
  | startedTransmit canCmd request data frame selecting taken sliced built =>
      exact ahead_taken driver _ ctx _ (.transmit request) (by rw [selecting]; rfl) taken
        (List.Sublist.refl _) rfl
  | startedStop canCmd selecting taken
  | startedStart canCmd loopback listenOnly oneShot selecting taken
  | startedTiming canCmd timing can selecting taken valid =>
      exact ahead_taken driver _ ctx _ _ (by rw [selecting]; rfl) taken (List.nil_sublist _) rfl
  | startedFrameError canCmd request data error selecting taken sliced failed =>
      exact ahead_taken driver _ ctx _ _ (by rw [selecting]; rfl) taken (by simp) rfl
  | stoppedStart canCmd loopback listenOnly oneShot receiving taken =>
      exact ahead_taken driver _ ctx _ _ (by rw [receiving]; rfl) taken (List.nil_sublist _) rfl
  | stoppedStop canCmd receiving taken
  | stoppedTiming canCmd timing can receiving taken valid
  | stoppedTransmit canCmd request receiving taken =>
      exact ahead_taken driver _ ctx _ _ (by rw [receiving]; rfl) taken (by simp) rfl
  | commandPanic canCmd cmd waiting taken fatal =>
      -- A panic loses its command and whatever it would have answered.
      have idle : pending driver.phase = [] := by
        rcases waiting with phase | phase <;> rw [phase] <;> rfl
      exact ahead_taken driver _ ctx _ cmd idle taken (List.nil_sublist _) rfl
  | errorQueued error count selecting counted room
  | errorRefused error count evicted canRx selecting counted full taken
  | errorRefusedAlone error count selecting counted full empty =>
      exact ahead_reported driver _ ctx _ _ (bus_error_silent error.toCanBusError)
        (by rw [selecting]; rfl) (by simp) rfl rfl
  | busOffGivenUp error count selecting counted many =>
      exact ahead_reported driver _ ctx _ _ bus_off_silent (by rw [selecting]; rfl) (by simp)
        rfl rfl
  | written dequeued serial request frame transmitting room =>
      -- The echo takes the place that its request had.
      have front : pending (.transmitting serial request frame) = [request] := rfl
      rw [ahead, ahead, transmitting, front, pending_loop_top, Channel.try_send_queued,
        if_pos room]
      simp
  | writtenRefused dequeued serial request frame transmitting full =>
      refine ahead_settled driver _ ctx _ (by simp) rfl ?_
      simp [Channel.try_send_queued, full]
  | errorPanic error sleeping selecting overflow
  | busOffRetry error count delayMs selecting counted few delay
  | recovered delayMs recovering =>
      exact ahead_settled driver _ ctx _ rfl rfl rfl
  | _ => exact ahead_settled driver _ ctx _ (by simp) rfl rfl

theorem move_tracks (s next : System) (event : Firmware.Event)
    (history : List (Happening GsTxMsg GsHostFrame)) (moved : Move platform s event next)
    (tracks : Tracks echoScheme history (way s)) :
    Tracks echoScheme (history ++ (hostSees s event).toList) (way next) := by
  cases moved with
  | message packet enabled whole =>
      rw [hostSees, if_pos whole, Option.toList_some]
      refine tracks_sent history (way s) (messageOf packet) _ tracks ?_
      rw [decode_packet s.usbRx.buf packet whole]
      -- A message that a full channel refuses is sent all the same, as far as the host knows.
      simp only [way, ahead, Context.sendCmd, Channel.try_send_queued]
      split
      · simp only [List.filterMap_append, List.map_append, ← List.append_assoc]
        rw [due, List.filter_append]
        exact List.filter_sublist.append_left _
      · exact List.sublist_append_left _ _
  | short packet enabled partly =>
      rw [Machine.unobserved hostSees history s (.bulkOut packet)
        (if_neg (Nat.not_le_of_lt partly))]
      exact tracks
  | wrote bytes writing =>
      simp only [hostSees, writing, Option.toList_some]
      rw [way, writing] at tracks
      exact tracks_came history (way _) _ tracks
  | requested req payload cmd handler asks configured =>
      have silent := control_no_request cmd (requested_is_control req payload cmd asks)
      rw [Machine.unobserved hostSees history s _ rfl]
      refine tracks_lost history (way s) _ tracks ?_
      simp only [way, ahead, Context.sendCmd, Channel.try_send_queued]
      split <;> simp [silent]
  | driver event driver ctx moved =>
      rw [Machine.unobserved hostSees history s _ rfl]
      refine tracks_lost history (way s) _ tracks ?_
      rw [way, way, due, due, List.filter_append, List.filter_append]
      exact (transition_ahead s.driver driver s.ctx ctx event moved).append_left _
  | tookRx frame canRx selecting taken =>
      rw [Machine.unobserved hostSees history s _ rfl]
      refine tracks_lost history (way s) _ tracks ?_
      simp [way, due, UsbTx.startWrite, inFlight, selecting, received_silent, ahead]
  | tookEcho frame usbEcho selecting taken =>
      -- The echo stays in front of the host, only nearer to it.
      have front := (Channel.try_receive_some s.ctx.usbEcho usbEcho frame taken).1
      rw [Machine.unobserved hostSees history s _ rfl]
      refine tracks_lost history (way s) _ tracks ?_
      simp [way, due, UsbTx.startWrite, inFlight, selecting, ahead, front]
  | inEnabled disabled =>
      rw [Machine.unobserved hostSees history s _ rfl]
      refine tracks_lost history (way s) _ tracks ?_
      simp [way, inFlight, disabled]
  | _ =>
      rw [Machine.unobserved hostSees history s _ rfl]
      exact tracks

def hostHistory (platform : Platform) (config : CanConfig) (events : List Firmware.Event) :
    List (Happening GsTxMsg GsHostFrame) :=
  Machine.observed (step platform) hostSees (boot config) events

theorem move_sent (s next : System) (event : Firmware.Event)
    (history : List (Happening GsTxMsg GsHostFrame)) (moved : Move platform s event next)
    (read : sentItems history = s.usbRx.messages.map (·.msg)) :
    sentItems (history ++ (hostSees s event).toList) = next.usbRx.messages.map (·.msg) := by
  cases moved with
  | message packet enabled whole =>
      rw [hostSees, if_pos whole, decode_packet s.usbRx.buf packet whole, List.map_append, ← read]
      simp [sentItems, messageOf]
  | short packet enabled partly =>
      rw [Machine.unobserved hostSees history s (.bulkOut packet)
        (if_neg (Nat.not_le_of_lt partly))]
      exact read
  | wrote bytes writing =>
      simp only [hostSees, writing, Option.toList_some]
      rw [← read]
      simp [sentItems]
  | _ =>
      rw [Machine.unobserved hostSees history s _ rfl]
      exact read

/-- Over every run, and whichever transfers of it fail, a host that never has an `echo_id`
in use twice is never shown one that it does not know: each echo closes a message that it
is the echo of, and each message read by the dongle is closed once or still waits. -/
theorem echoes_close_their_messages (platform : Platform) (config : CanConfig)
    (events : List Firmware.Event) (final : System)
    (finished : Machine.run (step platform) (boot config) events = some final)
    (heard : List (Happening GsTxMsg GsHostFrame))
    (hears : Heard (hostHistory platform config events) heard)
    (kept : replay echoScheme heard ≠ .error .keyInUse) :
    ∃ table, replay echoScheme heard = .ok table ∧
      (∀ entry ∈ table.closed, entry.2 = echoFrame (parseTxMsg entry.1)) ∧
      table.closed.map Prod.snd = due echoScheme (cameReplies heard) ∧
      (table.waiting ++ table.closed.map Prod.fst).Perm (final.usbRx.messages.map (·.msg)) := by
  obtain ⟨_, tracks, read⟩ := Machine.run_observed_invariant (step platform) hostSees
    (fun history s => Sound s ∧ Tracks echoScheme history (way s) ∧
      sentItems history = s.usbRx.messages.map (·.msg))
    (by
      rintro history s event next ⟨sound, tracks, read⟩ stepped
      have moved := step_move s next event sound stepped
      exact ⟨move_sound s next event sound moved, move_tracks s next event history moved tracks,
        move_sent s next event history moved read⟩)
    [] (boot config) final events finished ⟨boot_sound config, tracks_empty, rfl⟩
  rw [List.nil_append, ← hostHistory] at tracks read
  obtain ⟨table, replayed, agrees⟩ := tracks heard hears kept
  obtain ⟨items, replies⟩ := replay_booked heard table replayed
  refine ⟨table, replayed, agrees.paired, replies, ?_⟩
  rw [← read, ← hears.sent]
  exact items

-- The third message has the `echo_id` of the first again, whose echo has come back; the
-- transfer of the second echo fails.
def reusing : List Firmware.Event :=
  bringUp ++ [.epOutEnabled, .epInEnabled] ++ ([7, 9, 7].flatMap fun echoId =>
    hostMessage echoId 0x123 :: storeMessage ++ [.mailboxSent 0, .takeEcho, .writeDone])

theorem echoes_close_their_messages_reusing :
    ∃ final heard table, Machine.run (step (Platform.embassy true)) (boot resetConfig) reusing =
        some final ∧
      Heard (hostHistory (Platform.embassy true) resetConfig reusing) heard ∧
      replay echoScheme heard ≠ .error .keyInUse ∧ replay echoScheme heard = .ok table ∧
      table.waiting.map (·.echoId) = [9] ∧
      table.closed.map (fun entry => (entry.1.echoId, entry.2.echoId)) = [(7, 7), (7, 7)] ∧
      ∀ entry ∈ table.closed, entry.2 = echoFrame (parseTxMsg entry.1) := by
  obtain ⟨final, finished⟩ : ∃ final, Machine.run (step (Platform.embassy true))
      (boot resetConfig) reusing = some final := ⟨_, rfl⟩
  let history := hostHistory (Platform.embassy true) resetConfig reusing
  obtain ⟨known, replayed, waiting, closed⟩ : ∃ table,
      replay echoScheme (history.eraseIdx 3) = .ok table ∧
      table.waiting.map (·.echoId) = [9] ∧
      table.closed.map (fun entry => (entry.1.echoId, entry.2.echoId)) = [(7, 7), (7, 7)] :=
    ⟨_, rfl, by decide, by decide⟩
  have hears : Heard history (history.eraseIdx 3) := ⟨List.eraseIdx_sublist _ _, by rfl⟩
  have kept : replay echoScheme (history.eraseIdx 3) ≠ .error .keyInUse := by
    rw [replayed]
    exact nofun
  obtain ⟨table, same, paired, _⟩ := echoes_close_their_messages (Platform.embassy true)
    resetConfig reusing final finished (history.eraseIdx 3) hears kept
  rw [replayed] at same
  cases same
  exact ⟨final, _, known, finished, hears, kept, replayed, waiting, closed, paired⟩

end NginLink.EchoTable
