import NginLink.CommandQueue
import NginLink.ControlRequests

/-!
The modes the peripheral runs in, against those the host was told of. The feature
word is assembled in `build_usb_stack` and reported by BT_CONST; `on_start_cb` decodes
the flags word of a Start without looking at it.
-/

namespace NginLink.AdvertisedModes

open AppContext BoundedChannel BspCan BusMode ByteLayout CanDriver CommandQueue
open ControlHandler ControlRequests DriverState Firmware GsUsbTypes

-- The mode bits of a flags word. Flags and features share their bit positions.
def modesOf (flags : UInt32) : Modes :=
  { loopback := flags &&& gsCanFlagLoopBack != 0
    listenOnly := flags &&& gsCanFlagListenOnly != 0
    oneShot := flags &&& gsCanFlagOneShot != 0 }

def applied (config : CanConfig) : Modes :=
  { loopback := config.loopback, listenOnly := config.silent
    oneShot := !config.automaticRetransmit }

def reportedFeature (s : System) : UInt32 :=
  match (s.handler.controlIn s.ctx ⟨.vendor, gsUsbBreqBtConst⟩ (List.replicate 40 0)).1 with
  | some (.accepted bytes) => (GsDeviceBtConst.layout.decode bytes).feature
  | _ => 0

/-- The flags word of a Start request whose command found a free slot. -/
def startWord (record : ControlRecord) : Option UInt32 :=
  if record.hadRoom ∧ record.req.requestType = .vendor ∧ record.req.request = gsUsbBreqMode ∧
      8 ≤ record.payload.length ∧ word record.payload 0 = 1 then
    some (word record.payload 1)
  else none

abbrev starts (log : List Record) : List Modes := (commands log).filterMap startModes

def processedWords (s : System) : List UInt32 :=
  (s.controls.filterMap startWord).take (starts s.driver.log).length

/-- While started, the peripheral runs in the modes that the flags word of the last
processed Start asked for and BT_CONST reports. -/
def Advertised (s : System) : Prop :=
  s.driver.isStarted = true → ∀ flags, (processedWords s).getLast? = some flags →
    applied s.driver.can.config = modesOf (flags &&& reportedFeature s)

theorem reported_feature (s : System) (sound : Sound s) : reportedFeature s = 0x63 := by
  have answered := bt_const_answer s.handler s.ctx (List.replicate 40 0) (by simp)
  have configured : s.handler.capabilities = controlHandler.capabilities := by
    rw [sound.configured]
  rw [reportedFeature, answered]
  simp only [Layout.decode_encode]
  change s.handler.capabilities.feature = 0x63
  rw [configured]
  decide

theorem modes_of_reported (flags : UInt32) :
    modesOf (flags &&& 0x63) = { modesOf flags with oneShot := false } := by
  have loopback : (0x63 : UInt32) &&& gsCanFlagLoopBack = gsCanFlagLoopBack := by decide
  have listenOnly : (0x63 : UInt32) &&& gsCanFlagListenOnly = gsCanFlagListenOnly := by decide
  have oneShot : (0x63 : UInt32) &&& gsCanFlagOneShot = 0 := by decide
  simp [modesOf, UInt32.and_assoc, loopback, listenOnly, oneShot]

theorem queued_start (record : ControlRecord) :
    (queuedCmd record).bind startModes = (startWord record).map modesOf := by
  have apart : gsUsbBreqMode ≠ gsUsbBreqBittiming := by decide
  unfold queuedCmd startWord
  by_cases room : record.hadRoom = true
  · by_cases vendor : record.req.requestType = .vendor
    · by_cases mode : record.req.request = gsUsbBreqMode
      · have asks : requestedCmd record.req record.payload =
            if 8 ≤ record.payload.length then
              some (if word record.payload 0 = 1 then startCmd (word record.payload 1) else .stop)
            else none := by
          simp only [requestedCmd, vendor, mode, apart, ne_eq, not_true_eq_false, ↓reduceIte,
            decode_mode]
          rfl
        rw [asks]
        by_cases long : 8 ≤ record.payload.length
        · by_cases start : word record.payload 0 = 1
          · simp [room, vendor, mode, long, start]
            rfl
          · simp [room, long, start, startModes]
        · simp [long]
      · by_cases timing : record.req.request = gsUsbBreqBittiming
        · simp only [requestedCmd, vendor, timing, ne_eq, not_true_eq_false, ↓reduceIte]
          split <;> split <;> simp_all [startModes]
        · simp [requestedCmd, mode, timing]
    · simp [requestedCmd, vendor]
  · simp [room]

theorem start_is_control (cmd : CanDriverCmd) (other : isControl cmd = false) :
    startModes cmd = none := by
  cases cmd with
  | transmit request => rfl
  | start loopback listenOnly oneShot => cases other
  | stop => cases other
  | setBitTiming timing => cases other

theorem accepted_starts (s : System) (queue : Queue s) :
    s.ctx.canCmd.accepted.filterMap startModes =
      (s.controls.filterMap startWord).map modesOf := by
  have control : s.ctx.canCmd.accepted.filterMap startModes =
      (s.ctx.canCmd.accepted.filter isControl).filterMap startModes := by
    rw [List.filterMap_filter]
    apply List.filterMap_congr
    intro cmd _
    cases sent : isControl cmd with
    | true => rfl
    | false => exact start_is_control cmd sent
  rw [control, queue.control, List.filterMap_filterMap, List.map_filterMap]
  apply List.filterMap_congr
  intro record _
  exact queued_start record

theorem processed_words_modes (s : System) (queue : Queue s) :
    (processedWords s).map modesOf = starts s.driver.log := by
  have all := accepted_starts s queue
  rw [← s.ctx.canCmd.fifo, List.filterMap_append, ← queue.taken] at all
  rw [processedWords, List.map_take, ← all]
  exact List.take_left

theorem started_applied (s : System) (coherent : Coherent s.driver s.ctx) (queue : Queue s)
    (started : s.driver.isStarted = true) :
    ∃ flags, (processedWords s).getLast? = some flags ∧
      applied s.driver.can.config = modesOf flags := by
  have mode := coherent.mode
  rw [started] at mode
  have last := running_last_start _ _ mode.symm
  change (starts s.driver.log).getLast? = some (applied s.driver.can.config) at last
  rw [← processed_words_modes s queue, List.getLast?_map] at last
  obtain ⟨flags, found, same⟩ := Option.map_eq_some_iff.mp last
  exact ⟨flags, found, same.symm⟩

/-- Exactly one-shot is honoured without being reported. -/
theorem advertised_iff (s : System) (sound : Sound s) (coherent : Coherent s.driver s.ctx)
    (queue : Queue s) :
    Advertised s ↔ (s.driver.isStarted = true →
      (applied s.driver.can.config).oneShot = false) := by
  unfold Advertised
  rw [reported_feature s sound]
  constructor
  · intro advertised started
    obtain ⟨flags, last, _⟩ := started_applied s coherent queue started
    rw [advertised started flags last, modes_of_reported]
  · intro retransmits started flags last
    obtain ⟨found, same, modes⟩ := started_applied s coherent queue started
    rw [last] at same
    cases same
    have off := retransmits started
    rw [modes] at off
    rw [modes, modes_of_reported, ← off]

def nextWord (s : System) : Option UInt32 :=
  (s.controls.filterMap startWord)[(starts s.driver.log).length]?

-- The step takes a Start whose flags word has the one-shot bit.
def TakesOneShot (s : System) : Firmware.Event → Prop
  | .driver .command => s.driver.isWaiting = true ∧
      (∃ loopback listenOnly oneShot rest,
        s.ctx.canCmd.tryReceive = some (.start loopback listenOnly oneShot, rest)) ∧
      ∃ flags, nextWord s = some flags ∧ flags &&& gsCanFlagOneShot ≠ 0
  | _ => False

theorem next_word_modes (s : System) (queue : Queue s) (loopback listenOnly oneShot : Bool)
    (rest : Channel CanDriverCmd 16)
    (front : s.ctx.canCmd.tryReceive = some (.start loopback listenOnly oneShot, rest)) :
    (nextWord s).map modesOf = some ⟨loopback, listenOnly, oneShot⟩ := by
  have all := accepted_starts s queue
  rw [← s.ctx.canCmd.fifo, (Channel.try_receive_some _ rest _ front).1, List.filterMap_append,
    ← queue.taken] at all
  rw [nextWord, ← List.getElem?_map, ← all, List.getElem?_append_right (Nat.le_refl _),
    Nat.sub_self]
  rfl

theorem takes_one_shot_iff (s : System) (queue : Queue s) (loopback listenOnly oneShot : Bool)
    (rest : Channel CanDriverCmd 16) (waiting : s.driver.isWaiting = true)
    (front : s.ctx.canCmd.tryReceive = some (.start loopback listenOnly oneShot, rest)) :
    TakesOneShot s (.driver .command) ↔ oneShot = true := by
  obtain ⟨flags, next, modes⟩ := Option.map_eq_some_iff.mp
    (next_word_modes s queue loopback listenOnly oneShot rest front)
  have bit : (flags &&& gsCanFlagOneShot != 0) = oneShot := congrArg Modes.oneShot modes
  rw [← bit, bne_iff_ne]
  constructor
  · rintro ⟨_, _, other, same, set⟩
    cases next.symm.trans same
    exact set
  · intro set
    exact ⟨waiting, ⟨loopback, listenOnly, oneShot, rest, front⟩, flags, next, set⟩

variable {platform : Platform}

theorem transition_one_shot (driver next : Driver) (ctx after : Context)
    (event : CanDriver.Event) (moved : Transition platform driver ctx event next after)
    (branch : InBranch driver.isStarted driver.phase) :
    (event = .command ∧ driver.isWaiting = true ∧ ∃ loopback listenOnly oneShot,
      ctx.canCmd.tryReceive = some (.start loopback listenOnly oneShot, after.canCmd) ∧
      next.isStarted = true ∧ (applied next.can.config).oneShot = oneShot) ∨
    ((next.isStarted = true → driver.isStarted = true) ∧
      (applied next.can.config).oneShot = (applied driver.can.config).oneShot) := by
  cases moved with
  | startedStart canCmd loopback listenOnly oneShot selecting taken =>
      have started := selecting_started driver branch selecting
      exact Or.inl ⟨rfl, by simp [Driver.isWaiting, selecting], loopback, listenOnly, oneShot,
        taken, started, by simp [applied, Can.start, Can.modifyConfig]⟩
  | stoppedStart canCmd loopback listenOnly oneShot receiving taken =>
      exact Or.inl ⟨rfl, by simp [Driver.isWaiting, receiving], loopback, listenOnly, oneShot,
        taken, rfl, by simp [applied, Can.start, Can.modifyConfig]⟩
  | startedStop canCmd selecting taken =>
      refine Or.inr ⟨?_, by simp [applied, Can.stop, Can.modifyConfig]⟩
      intro started
      cases started
  | startedTiming canCmd timing can selecting taken valid =>
      cases set_bit_timing_effect driver.can can timing valid
      exact Or.inr ⟨by simp, by simp [applied, Can.modifyConfig]⟩
  | stoppedTiming canCmd timing can receiving taken valid =>
      cases set_bit_timing_effect driver.can can timing valid
      exact Or.inr ⟨by simp, by simp [applied, Can.modifyConfig]⟩
  | _ => exact Or.inr ⟨by simp [Driver.panic], by
      simp [applied, Can.enable, Can.store, Can.abortMailboxes, Driver.panic]⟩

structure Retransmitting (s : System) : Prop where
  sound : Sound s
  coherent : Coherent s.driver s.ctx
  queue : Queue s
  off : s.driver.isStarted = true → (applied s.driver.can.config).oneShot = false

theorem move_retransmitting (s next : System) (event : Firmware.Event)
    (moved : Move platform s event next) (holds : Retransmitting s)
    (spared : ¬ TakesOneShot s event) : Retransmitting next where
  sound := move_sound s next event holds.sound moved
  coherent := move_coherent s next event moved holds.coherent
  queue := move_queue s next event moved holds.queue
  off := by
    cases moved with
    | driver event driver ctx moved =>
        intro started
        rcases transition_one_shot s.driver driver s.ctx ctx event moved holds.coherent.branch with
          ⟨rfl, waiting, loopback, listenOnly, oneShot, taken, _, same⟩ | ⟨before, same⟩
        · rw [takes_one_shot_iff s holds.queue _ _ _ _ waiting taken] at spared
          rw [same]
          exact Bool.eq_false_of_not_eq_true spared
        · exact same.trans (holds.off (before started))
    | _ => exact holds.off

theorem start_applied (driver next : Driver) (ctx after : Context)
    (moved : Transition platform driver ctx .command next after)
    (branch : InBranch driver.isStarted driver.phase) (loopback listenOnly oneShot : Bool)
    (rest : Channel CanDriverCmd 16)
    (front : ctx.canCmd.tryReceive = some (.start loopback listenOnly oneShot, rest)) :
    next.isStarted = true ∧ (applied next.can.config).oneShot = oneShot := by
  cases moved with
  | startedStart canCmd loopback listenOnly oneShot selecting taken =>
      rw [front] at taken
      cases taken
      exact ⟨selecting_started driver branch selecting,
        by simp [applied, Can.start, Can.modifyConfig]⟩
  | stoppedStart canCmd loopback listenOnly oneShot receiving taken =>
      rw [front] at taken
      cases taken
      exact ⟨rfl, by simp [applied, Can.start, Can.modifyConfig]⟩
  | commandPanic canCmd cmd waiting taken fatal =>
      rw [front] at taken
      cases taken
      rcases fatal with ⟨_, same, _⟩ | ⟨_, same, _⟩
      · cases same
      · cases same
  | startedStop canCmd phase taken
  | stoppedStop canCmd phase taken
  | startedTiming canCmd timing can phase taken
  | stoppedTiming canCmd timing can phase taken
  | startedTransmit canCmd request data frame phase taken
  | startedFrameError canCmd request data error phase taken
  | stoppedTransmit canCmd request phase taken =>
      rw [front] at taken
      cases taken

theorem one_shot_applied (platform : Platform) (s : System) (event : Firmware.Event)
    (sound : Sound s) (coherent : Coherent s.driver s.ctx) (queue : Queue s)
    (takes : TakesOneShot s event) :
    ∃ next, step platform s event = some next ∧ next.driver.isStarted = true ∧
      (applied next.driver.can.config).oneShot = true := by
  have bit := takes
  unfold TakesOneShot at takes
  split at takes
  · obtain ⟨waiting, ⟨loopback, listenOnly, oneShot, rest, taken⟩, _⟩ := takes
    cases (takes_one_shot_iff s queue loopback listenOnly oneShot rest waiting taken).mp bit
    obtain ⟨next, stepped⟩ := command_enabled platform s _ rest waiting taken
    refine ⟨next, stepped, ?_⟩
    cases step_move s next _ sound stepped with
    | driver _ driver ctx moved =>
        exact start_applied s.driver driver s.ctx ctx moved coherent.branch loopback listenOnly
          true rest taken
  · exact takes.elim

/-- In every run, the modes applied are the requested ones that BT_CONST reports if and
only if no Start with the one-shot bit is processed. -/
theorem advertised_iff_no_one_shot (platform : Platform) (config : CanConfig)
    (events : List Firmware.Event) :
    Machine.Always (step platform) Advertised (boot config) events ↔
      Machine.Along (step platform) (fun s event => ¬ TakesOneShot s event) (boot config)
        events := by
  apply move_always_iff_along _ Retransmitting
  · intro s holds
    exact (advertised_iff s holds.sound holds.coherent holds.queue).mpr holds.off
  · intro s event next holds spared moved
    exact move_retransmitting s next event moved holds spared
  · intro s event sound holds taken
    obtain ⟨next, stepped, started, honoured⟩ :=
      one_shot_applied platform s event sound holds.coherent holds.queue
        (Classical.not_not.mp taken)
    refine ⟨next, stepped, ?_⟩
    intro moved advertised
    have off := (advertised_iff next (move_sound s next event sound moved)
      (move_coherent s next event moved holds.coherent)
      (move_queue s next event moved holds.queue)).mp advertised started
    rw [honoured] at off
    cases off
  · refine ⟨boot_sound config, boot_coherent config, boot_queue config, ?_⟩
    intro started
    cases started

/-- A Start with the one-shot bit alone. The host reads that one-shot is not supported,
and the peripheral does not retransmit. -/
theorem one_shot_unadvertised :
    ∃ final, Machine.run (step (Platform.embassy true)) (boot resetConfig)
        [hostMode 1 8, .driver .command, .driver .enabled] = some final ∧
      processedWords final = [8] ∧ reportedFeature final = 0x63 ∧
      modesOf (8 &&& 0x63) = ⟨false, false, false⟩ ∧
      applied final.driver.can.config = ⟨false, false, true⟩ ∧ ¬ Advertised final := by
  obtain ⟨final, finished, words, reported, started, modes⟩ : ∃ final,
      Machine.run (step (Platform.embassy true)) (boot resetConfig)
        [hostMode 1 8, .driver .command, .driver .enabled] = some final ∧
      processedWords final = [8] ∧ reportedFeature final = 0x63 ∧
      final.driver.isStarted = true ∧
      applied final.driver.can.config = ⟨false, false, true⟩ :=
    ⟨_, rfl, by decide, by decide, by decide, by decide⟩
  refine ⟨final, finished, words, reported, by decide, modes, ?_⟩
  intro advertised
  have same := advertised started 8 (by rw [words]; rfl)
  rw [modes, reported] at same
  revert same
  decide

end NginLink.AdvertisedModes
