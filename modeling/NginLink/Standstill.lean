import NginLink.Lifecycle

/-!
A stopped adapter. Once the driver has taken a Stop, and until it takes a Start, it reads
nothing from the bus and writes nothing to a mailbox, under any schedule: the host gets
what already waits for it, the bus what the mailboxes still hold, and messages are ignored.
-/

namespace NginLink.Standstill

open AppContext BoundedChannel BspCan CanDriver DriverState Firmware Lifecycle

def isStart : CanDriverCmd → Bool
  | .start _ _ _ => true
  | .stop | .setBitTiming _ | .transmit _ => false

def Unasked (s : System) : Firmware.Event → Prop
  | .driver .command => s.ctx.canCmd.queued.head?.any isStart = false
  | _ => True

instance (s : System) : (event : Firmware.Event) → Decidable (Unasked s event)
  | .driver .command => inferInstanceAs
      (Decidable (s.ctx.canCmd.queued.head?.any isStart = false))
  | .driver (.frame _) | .driver (.error _ _) | .driver .enabled | .driver (.written _)
  | .driver .timedOut | .driver .delayElapsed | .controlOut _ _ | .controlIn _ _ | .epOutEnabled
  | .epInEnabled | .bulkOut _ | .bulkOutError _ | .takeRx | .takeEcho | .writeDone
  | .mailboxSent _ | .tick _ => isTrue trivial

/-- What a stopped driver may note: commands other than Start, messages ignored, and the
`enable` that its Stop still waits for. -/
def Idle : Record → Bool
  | .command cmd started => !isStart cmd && !started
  | .outcome _ _ .ignored | .finished _ _ | .enabled => true
  | _ => false

structure Still (driver next : Driver) (ctx after : Context) : Prop where
  off : next.isStarted = false
  idle : ∃ added, next.log = driver.log ++ added ∧ ∀ record ∈ added, Idle record = true
  modes : next.can.config =
    { driver.can.config with bitTiming := next.can.config.bitTiming }
  mailboxes : next.can.mailboxes = driver.can.mailboxes
  received : after.canRx = ctx.canRx
  reported : after.usbEcho = ctx.usbEcho
  service : after.service = ctx.service
  errors : next.canErrorCount = driver.canErrorCount

variable {platform : Platform}

theorem transition_still (driver next : Driver) (ctx after : Context) (event : CanDriver.Event)
    (moved : Transition platform driver ctx event next after)
    (branch : InBranch driver.isStarted driver.phase) (off : driver.isStarted = false)
    (unasked : event = .command → ctx.canCmd.queued.head?.any isStart = false) :
    Still driver next ctx after := by
  have front : ∀ cmd rest, event = .command → ctx.canCmd.tryReceive = some (cmd, rest) →
      isStart cmd = false := by
    intro cmd rest command taken
    have other := unasked command
    rw [(Channel.try_receive_some ctx.canCmd rest cmd taken).1] at other
    exact other
  -- Only `receive` and the `enable` of a Stop are awaited while stopped.
  have awaited : ∀ phase, driver.phase = phase → InBranch false phase := by
    intro phase here
    rwa [off, here] at branch
  cases moved with
  | stoppedStart canCmd loopback listenOnly oneShot receiving taken =>
      cases front _ canCmd rfl taken
  | stoppedStop canCmd receiving taken =>
      exact ⟨by simp [off], ⟨[.command .stop false], by simp [loop_top_log, off], by decide⟩,
        by simp, by simp, rfl, rfl, rfl, by simp⟩
  | stoppedTiming canCmd timing can receiving taken valid =>
      cases set_bit_timing_effect driver.can can timing valid
      exact ⟨by simp [off], ⟨[.command (.setBitTiming timing) false], by simp [loop_top_log, off],
        by simp [Idle, isStart]⟩, by simp [Can.modifyConfig], by simp [Can.modifyConfig], rfl, rfl,
        rfl, by simp⟩
  | stoppedTransmit canCmd request receiving taken =>
      exact ⟨by simp [off], ⟨[.command (.transmit request) false,
        .outcome driver.serials request .ignored], by simp [loop_top_log, off],
        by simp [Idle, isStart]⟩, by simp, by simp, rfl, rfl, rfl, by simp⟩
  | commandPanic canCmd cmd waiting taken fatal =>
      have kind := front cmd canCmd rfl taken
      exact ⟨by simp [Driver.panic, off], ⟨[.command cmd false], by simp [Driver.panic, off],
        by simp [Idle, kind]⟩, by simp [Driver.panic], by simp [Driver.panic], rfl, rfl, rfl,
        by simp [Driver.panic]⟩
  | commandEnabled cmd inLoop enabling =>
      exact ⟨by simp [off], ⟨[.enabled, .finished cmd false], by simp [loop_top_log, off],
        by simp [Idle]⟩, by simp [Can.enable], by simp [Can.enable], rfl, rfl, rfl, by simp⟩
  | recovered delayMs here
  | delayed delayMs here
  | written dequeued serial request frame here room
  | writtenRefused dequeued serial request frame here full
  | timedOut serial request frame here
  | startedStop canCmd here taken
  | startedStart canCmd loopback listenOnly oneShot here taken
  | startedTiming canCmd timing can here taken valid
  | startedTransmit canCmd request data frame here taken sliced built
  | startedFrameError canCmd request data error here taken sliced failed
  | frameQueued frame here room
  | frameRefused frame evicted canRx here full taken
  | errorPanic error sleeping here overflow
  | busOffRetry error count delayMs here counted few delay
  | busOffGivenUp error count here counted many
  | errorQueued error count here counted room
  | errorRefused error count evicted canRx here counted full taken
  | errorRefusedAlone error count here counted full empty =>
      exact absurd (awaited _ here) (by simp [InBranch])

def Mute (driver : Driver) : Prop :=
  driver.isStarted = false → driver.can.asleep = true ∨ driver.can.config.silent = true

theorem transition_mute (driver next : Driver) (ctx after : Context) (event : CanDriver.Event)
    (moved : Transition platform driver ctx event next after) (coherent : Coherent driver ctx)
    (mute : Mute driver) : Mute next := by
  intro off
  have quiet := (transition_coherent driver next ctx after event moved coherent).quiet off
  rcases quiet with silent | ⟨_, _, unwoken⟩
  · exact Or.inr silent
  · -- A controller that was never woken: what is left is that it sleeps.
    have started : driver.phase = .selecting → driver.isStarted = true :=
      selecting_started driver coherent.branch
    cases moved with
    | startedStop => exact Or.inl rfl
    | startedTiming canCmd timing can here taken valid
    | stoppedTiming canCmd timing can here taken valid =>
        cases set_bit_timing_effect driver.can can timing valid
        exact Or.inl (by simp [Can.modifyConfig])
    | commandEnabled | recovered => simp [loop_top_log] at unwoken
    | busOffRetry error count delayMs here
    | busOffGivenUp error count here
    | errorQueued error count here
    | errorRefused error count evicted canRx here
    | errorRefusedAlone error count here => simp [started here] at off
    | written dequeued serial request frame here
    | writtenRefused dequeued serial request frame here
    | timedOut serial request frame here =>
        simpa [Can.store, Can.abortMailboxes] using mute (by simpa using off)
    | startedStart canCmd loopback listenOnly oneShot here => simp [started here] at off
    | stoppedStart => cases off
    | _ => simpa [Driver.panic] using mute (by simpa [Driver.panic] using off)

theorem move_mute (s next : System) (event : Firmware.Event) (moved : Move platform s event next)
    (coherent : Coherent s.driver s.ctx) (mute : Mute s.driver) : Mute next.driver := by
  cases moved with
  | driver event driver ctx moved =>
      exact transition_mute s.driver driver s.ctx ctx event moved coherent mute
  | _ => exact mute

theorem run_mute (config : CanConfig) (events : List Firmware.Event) (final : System)
    (finished : Machine.run (step platform) (boot config) events = some final) :
    Mute final.driver := by
  have both := run_move_invariant (fun s => Coherent s.driver s.ctx ∧ Mute s.driver)
    (fun s event next _ known moved => ⟨move_coherent s next event moved known.1,
      move_mute s next event moved known.1 known.2⟩)
    config events final finished ⟨boot_coherent config, fun _ => Or.inl rfl⟩
  exact both.2

/-- A run since the controller was seen stopped. -/
structure Stood (stopped s : System) (departed : List (Nat × Frame)) : Prop where
  off : s.driver.isStarted = false
  idle : ∃ added, s.driver.log = stopped.driver.log ++ added ∧ ∀ record ∈ added, Idle record = true
  modes : s.driver.can.config =
    { stopped.driver.can.config with bitTiming := s.driver.can.config.bitTiming }
  mailboxes : (departed ++ s.driver.can.mailboxes).Perm stopped.driver.can.mailboxes
  received : s.ctx.canRx.accepted = stopped.ctx.canRx.accepted
  reported : s.ctx.usbEcho.accepted = stopped.ctx.usbEcho.accepted
  service : s.ctx.service = stopped.ctx.service
  errors : s.driver.canErrorCount = stopped.driver.canErrorCount
  grounded : stopped.driver.can.config.loopback = false → departed = []

theorem begun_stood (stopped : System) (off : stopped.driver.isStarted = false) :
    Stood stopped stopped [] where
  off := off
  idle := ⟨[], (List.append_nil _).symm, by simp⟩
  modes := rfl
  mailboxes := List.Perm.refl _
  received := rfl
  reported := rfl
  service := rfl
  errors := rfl
  grounded := fun _ => rfl

-- A step of another task leaves the driver as it is, and offers it nothing it looks at.
theorem aside_stood (stopped s next : System) (departed : List (Nat × Frame))
    (event : Firmware.Event) (stood : Stood stopped s departed)
    (unseen : departure s event = none) (driver : next.driver = s.driver)
    (received : next.ctx.canRx.accepted = s.ctx.canRx.accepted)
    (reported : next.ctx.usbEcho.accepted = s.ctx.usbEcho.accepted)
    (service : next.ctx.service = s.ctx.service) :
    Stood stopped next (departed ++ (departure s event).toList) := by
  rw [Machine.unobserved departure departed s event unseen]
  constructor
  · rw [driver]
    exact stood.off
  · rw [driver]
    exact stood.idle
  · rw [driver]
    exact stood.modes
  · rw [driver]
    exact stood.mailboxes
  · exact received.trans stood.received
  · exact reported.trans stood.reported
  · exact service.trans stood.service
  · rw [driver]
    exact stood.errors
  · exact stood.grounded

theorem driver_stood (stopped s : System) (driver : Driver) (ctx : Context)
    (departed : List (Nat × Frame)) (event : CanDriver.Event) (stood : Stood stopped s departed)
    (still : Still s.driver driver s.ctx ctx) :
    Stood stopped { s with driver, ctx }
      (departed ++ (departure s (.driver event)).toList) := by
  rw [Machine.unobserved departure departed s _ rfl]
  obtain ⟨added, log, idle⟩ := stood.idle
  obtain ⟨more, longer, quiet⟩ := still.idle
  constructor
  · exact still.off
  · refine ⟨added ++ more, by rw [longer, log, List.append_assoc], ?_⟩
    intro record member
    exact (List.mem_append.mp member).elim (idle record) (quiet record)
  · rw [still.modes, stood.modes]
  · rw [still.mailboxes]
    exact stood.mailboxes
  · rw [still.received, stood.received]
  · rw [still.reported, stood.reported]
  · rw [still.service, stood.service]
  · exact still.errors.trans stood.errors
  · exact stood.grounded

theorem move_stood (stopped s next : System) (departed : List (Nat × Frame))
    (event : Firmware.Event) (moved : Move platform s event next)
    (branch : InBranch s.driver.isStarted s.driver.phase) (mute : Mute s.driver)
    (unasked : Unasked s event) (stood : Stood stopped s departed) :
    Stood stopped next (departed ++ (departure s event).toList) := by
  cases moved with
  | driver event driver ctx moved =>
      apply driver_stood stopped s driver ctx departed event stood
      apply transition_still s.driver driver s.ctx ctx event moved branch stood.off
      intro command
      subst command
      exact unasked
  | mailboxSent index held transmits =>
      refine ⟨stood.off, stood.idle, stood.modes, List.Perm.trans ?_ stood.mailboxes,
        stood.received, stood.reported, stood.service, stood.errors, ?_⟩
      · -- A frame that was held leaves; the two lists together stay a permutation.
        rw [departure, List.getElem?_eq_getElem held, Option.toList_some, List.append_assoc]
        exact (List.getElem_cons_eraseIdx_perm held).append_left departed
      · -- Awake and silent, it can only have sent to itself.
        intro straight
        have loopback : s.driver.can.config.loopback = false := by rw [stood.modes, ← straight]
        rcases mute stood.off with asleep | silent
        · simp [Can.transmits, asleep] at transmits
        · simp [Can.transmits, silent, loopback] at transmits
  | tookRx frame canRx selecting taken =>
      have accepted := (Channel.try_receive_some s.ctx.canRx canRx _ taken).2.2.1
      exact aside_stood stopped s _ departed _ stood rfl rfl accepted rfl rfl
  | tookEcho frame usbEcho selecting taken =>
      have accepted := (Channel.try_receive_some s.ctx.usbEcho usbEcho _ taken).2.2.1
      exact aside_stood stopped s _ departed _ stood rfl rfl rfl accepted rfl
  | _ => exact aside_stood stopped s _ departed _ stood rfl rfl rfl rfl rfl

/-- From a reachable state in which the controller is stopped, over any run in which the
driver takes no Start: it reads and transmits nothing and offers nothing to the host,
ignores the messages it takes, keeps its modes and its counters, and the frames that leave
its mailboxes are among those that they held; without loop-back none leaves. -/
theorem stopped_adapter_stands_still (platform : Platform) (config : CanConfig)
    (before after : List Firmware.Event) (stopped final : System)
    (reached : Machine.run (step platform) (boot config) before = some stopped)
    (off : stopped.driver.isStarted = false)
    (unasked : Machine.Along (step platform) Unasked stopped after)
    (finished : Machine.run (step platform) stopped after = some final) :
    Stood stopped final (Machine.observed (step platform) departure stopped after) := by
  have known := run_reached (boot config) stopped before reached (boot_reached config)
  have both := Machine.run_observed_invariant_along (step platform) departure Unasked
    (fun departed s => Reached s ∧ Mute s.driver ∧ Stood stopped s departed)
    (by
      rintro departed s event next ⟨reached, mute, stood⟩ unasked stepped
      have moved := step_move s next event reached.sound stepped
      exact ⟨move_reached s next event reached moved,
        move_mute s next event moved reached.coherent mute,
        move_stood stopped s next departed event moved reached.coherent.branch mute unasked
          stood⟩)
    [] stopped final after unasked finished
    ⟨known, run_mute config before stopped reached, begun_stood stopped off⟩
  rw [List.nil_append] at both
  exact both.2.2

/-- A message is stored with loop-back on and the controller stopped before it leaves; a
second message is read and taken while stopped. -/
def storedThenStopped : List Firmware.Event :=
  [hostMode 1 GsUsbTypes.gsCanFlagLoopBack, .driver .command, .driver .enabled, .epOutEnabled,
    hostMessage 1 0x123] ++ storeMessage ++ [hostMode 0 0, .driver .command, .driver .enabled]

def whileStopped : List Firmware.Event :=
  [hostMessage 2 0x100, .tick 5, .driver .command, .mailboxSent 0]

theorem stopped_adapter_stands_still_stored :
    ∃ stopped final,
      Machine.run (step (Platform.embassy true)) (boot resetConfig) storedThenStopped =
        some stopped ∧
      stopped.driver.isStarted = false ∧
      Machine.Along (step (Platform.embassy true)) Unasked stopped whileStopped ∧
      Machine.run (step (Platform.embassy true)) stopped whileStopped = some final ∧
      (Machine.observed (step (Platform.embassy true)) departure stopped whileStopped).map
        Prod.fst = [0] ∧
      final.driver.can.mailboxes = [] ∧
      Stood stopped final
        (Machine.observed (step (Platform.embassy true)) departure stopped whileStopped) := by
  obtain ⟨stopped, final, reached, off, unasked, finished, departed, empty⟩ :
      ∃ stopped final,
        Machine.run (step (Platform.embassy true)) (boot resetConfig) storedThenStopped =
          some stopped ∧
        stopped.driver.isStarted = false ∧
        Machine.Along (step (Platform.embassy true)) Unasked stopped whileStopped ∧
        Machine.run (step (Platform.embassy true)) stopped whileStopped = some final ∧
        (Machine.observed (step (Platform.embassy true)) departure stopped whileStopped).map
          Prod.fst = [0] ∧
        final.driver.can.mailboxes = [] :=
    ⟨_, _, rfl, by decide, by decide, rfl, by decide, by decide⟩
  exact ⟨stopped, final, reached, off, unasked, finished, departed, empty,
    stopped_adapter_stands_still (Platform.embassy true) resetConfig storedThenStopped whileStopped
      stopped final reached off unasked finished⟩

end NginLink.Standstill
