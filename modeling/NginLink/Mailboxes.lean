import NginLink.TransmitLedger

/-!
The three transmit mailboxes. `write` completes as soon as a mailbox is free, so
`transmit` returns `Ok`, and the host gets its echo, while the frame still waits
for the bus. The timeout of a later request aborts all three mailboxes.
-/

namespace NginLink.Mailboxes

open AppContext BspCan CanDriver Firmware TransmitLedger

/-- What is assumed of bxCAN: `write` stores a frame as long as one of the three mailboxes
is free, takes none out, and so only times out with all three held. -/
def MailboxContract (s : System) : Firmware.Event → Prop
  | .driver (.written dequeued) => dequeued = none ∧ s.driver.can.mailboxes.length < 3
  | .driver .timedOut => s.driver.can.mailboxes.length = 3
  | _ => True

instance (s : System) (event : Firmware.Event) : Decidable (MailboxContract s event) := by
  unfold MailboxContract
  split <;> infer_instance

def Acknowledged (log : List Record) (serial : Nat) : Prop :=
  ∃ answer ∈ answers log, answer.serial = serial ∧ answer.outcome.isOk = true

def abortOf : Record → Option (List Nat)
  | .aborted serials => some serials
  | _ => none

abbrev aborts (log : List Record) : List (List Nat) := log.filterMap abortOf

def Cancelled (log : List Record) : Prop :=
  ∃ serials ∈ aborts log, ∃ serial ∈ serials, Acknowledged log serial

def HeldAcknowledged (driver : Driver) : Prop :=
  ∀ slot ∈ driver.can.mailboxes, Acknowledged driver.log slot.1

variable {platform : Platform}

theorem transition_answers_grow (driver next : Driver) (ctx after : Context)
    (event : CanDriver.Event) (moved : Transition platform driver ctx event next after)
    (answer : Answer) (member : answer ∈ answers driver.log) : answer ∈ answers next.log := by
  obtain ⟨record, logged, found⟩ := List.mem_filterMap.mp member
  exact List.mem_filterMap.mpr
    ⟨record, transition_log_grows driver next ctx after event moved record logged, found⟩

theorem transition_acknowledged (driver next : Driver) (ctx after : Context)
    (event : CanDriver.Event) (moved : Transition platform driver ctx event next after)
    (serial : Nat) (known : Acknowledged driver.log serial) : Acknowledged next.log serial := by
  obtain ⟨answer, member, same, ok⟩ := known
  exact ⟨answer, transition_answers_grow driver next ctx after event moved answer member, same, ok⟩

theorem transition_held (driver next : Driver) (ctx after : Context)
    (event : CanDriver.Event) (moved : Transition platform driver ctx event next after)
    (held : HeldAcknowledged driver) : HeldAcknowledged next := by
  intro slot member
  rcases DriverState.transition_mailboxes driver next ctx after event moved slot member with
    earlier | ⟨request, outcome, _, logged, ok⟩
  · exact transition_acknowledged driver next ctx after event moved slot.1 (held slot earlier)
  · -- `transmit` returns in the very step that stores the frame.
    exact ⟨⟨slot.1, request, outcome⟩, List.mem_filterMap.mpr ⟨_, logged, rfl⟩, rfl, ok⟩

theorem move_held (s next : System) (event : Firmware.Event)
    (moved : Move platform s event next) (held : HeldAcknowledged s.driver) :
    HeldAcknowledged next.driver := by
  cases moved with
  | driver event driver ctx moved =>
      exact transition_held s.driver driver s.ctx ctx event moved held
  | mailboxSent index present transmits =>
      intro slot member
      exact held slot (List.mem_of_mem_eraseIdx member)
  | _ => exact held

@[simp] theorem aborts_loop_top (driver : Driver) :
    aborts driver.loopTop.log = aborts driver.log :=
  DriverState.loop_top_view driver abortOf rfl

/-- Only the timeout arm aborts, and it aborts whatever the mailboxes hold. -/
theorem transition_aborts (driver next : Driver) (ctx after : Context)
    (event : CanDriver.Event) (moved : Transition platform driver ctx event next after) :
    aborts next.log = aborts driver.log ++
      if event = .timedOut then [driver.can.mailboxes.map Prod.fst] else [] := by
  cases moved with
  | timedOut serial request frame transmitting => simp [abortOf]
  | _ => simp [abortOf, Driver.panic]

theorem transition_cancelled (driver next : Driver) (ctx after : Context)
    (event : CanDriver.Event) (moved : Transition platform driver ctx event next after)
    (cancelled : Cancelled driver.log) : Cancelled next.log := by
  obtain ⟨serials, aborted, serial, member, known⟩ := cancelled
  refine ⟨serials, ?_, serial, member,
    transition_acknowledged driver next ctx after event moved serial known⟩
  rw [transition_aborts driver next ctx after event moved]
  exact List.mem_append_left _ aborted

theorem move_cancelled (s next : System) (event : Firmware.Event)
    (moved : Move platform s event next) (cancelled : Cancelled s.driver.log) :
    Cancelled next.driver.log := by
  cases moved with
  | driver event driver ctx moved =>
      exact transition_cancelled s.driver driver s.ctx ctx event moved cancelled
  | _ => exact cancelled

theorem move_no_aborts (s next : System) (event : Firmware.Event)
    (moved : Move platform s event next) (quiet : event ≠ .driver .timedOut)
    (none : aborts s.driver.log = []) : aborts next.driver.log = [] := by
  cases moved with
  | driver event driver ctx moved =>
      have other : event ≠ .timedOut := by
        rintro rfl
        exact quiet rfl
      rw [transition_aborts s.driver driver s.ctx ctx event moved, none, if_neg other]
      rfl
  | _ => exact none

-- A timeout finds the mailboxes full of acknowledged frames.
theorem timeout_cancels (s next : System) (moved : Move platform s (.driver .timedOut) next)
    (full : s.driver.can.mailboxes.length = 3) (held : HeldAcknowledged s.driver) :
    Cancelled next.driver.log := by
  cases moved with
  | driver _ driver ctx moved =>
      have aborted := transition_aborts s.driver driver s.ctx ctx .timedOut moved
      rw [if_pos rfl] at aborted
      cases mailboxes : s.driver.can.mailboxes with
      | nil => simp [mailboxes] at full
      | cons slot rest =>
          have known : Acknowledged s.driver.log slot.1 := held slot (by simp [mailboxes])
          refine ⟨s.driver.can.mailboxes.map Prod.fst, ?_, slot.1, ?_, ?_⟩
          · rw [aborted]
            simp
          · simp [mailboxes]
          · exact transition_acknowledged s.driver driver s.ctx ctx .timedOut moved slot.1 known

/-- Under the mailbox contract an acknowledged frame is cancelled exactly in the runs
in which some request times out. -/
theorem cancelled_iff_timeout (platform : Platform) (config : CanConfig)
    (events : List Firmware.Event) (final : System)
    (contract : Machine.Along (step platform) MailboxContract (boot config) events)
    (finished : Machine.run (step platform) (boot config) events = some final) :
    ¬ Cancelled final.driver.log ↔ .driver .timedOut ∉ events := by
  constructor
  · intro safe timeout
    apply safe
    exact run_move_establishes MailboxContract (fun s => HeldAcknowledged s.driver)
      (fun s => Cancelled s.driver.log) (.driver .timedOut)
      (fun s event next held moved => move_held s next event moved held)
      (fun s next held full moved => timeout_cancels s next moved full held)
      (fun s event next cancelled moved => move_cancelled s next event moved cancelled)
      config events final contract finished (by
        intro slot member
        cases member) timeout
  · rintro quiet ⟨serials, aborted, _⟩
    have permitted := Machine.along_of_events (step platform) (· ≠ .driver .timedOut)
      (boot config) events (by
        rintro event member rfl
        exact quiet member)
    have none := run_move_invariant_along (fun _ event => event ≠ .driver .timedOut)
      (fun s => aborts s.driver.log = [])
      (fun s event next _ none other moved => move_no_aborts s next event moved other none)
      config events final permitted finished rfl
    rw [none] at aborted
    cases aborted

theorem cancelled_iff_timeout_silent_bus :
    ∃ final,
      Machine.Along (step (Platform.embassy true)) MailboxContract (boot resetConfig) silentBus ∧
      Machine.run (step (Platform.embassy true)) (boot resetConfig) silentBus = some final ∧
      (¬ Cancelled final.driver.log ↔ .driver .timedOut ∉ silentBus) := by
  have contract : Machine.Along (step (Platform.embassy true)) MailboxContract (boot resetConfig)
      silentBus := by decide
  obtain ⟨final, finished⟩ : ∃ final, Machine.run (step (Platform.embassy true))
      (boot resetConfig) silentBus = some final := ⟨_, rfl⟩
  exact ⟨final, contract, finished,
    cancelled_iff_timeout (Platform.embassy true) resetConfig silentBus final contract finished⟩

/-- The fourth message times out and takes the three acknowledged frames with it. -/
theorem timeout_cancels_acknowledged :
    ∃ final,
      Machine.Along (step (Platform.embassy true)) MailboxContract (boot resetConfig) silentBus ∧
      Machine.run (step (Platform.embassy true)) (boot resetConfig) silentBus = some final ∧
      aborts final.driver.log = [[0, 1, 2]] ∧
      (final.usbTx.taken.map fun entry => entry.2.echoId) = [1, 2, 3] ∧
      Cancelled final.driver.log := by
  refine ⟨_, by decide, rfl, by decide, by decide, ?_⟩
  unfold Cancelled Acknowledged
  decide

end NginLink.Mailboxes
