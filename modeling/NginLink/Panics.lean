import NginLink.BitTiming
import NginLink.Lifecycle

/-!
Every panic of the driver and of the two USB tasks. Two additions are checked when the
profile checks overflow: `prop_seg + phase_seg1` of a bit timing, and the error counter. The
peripheral crate panics on some timings too; on which of them is a parameter. The slice of a
transmit request, the table of recovery delays and the sniffer can panic as they are
written, and never do.
-/

namespace NginLink.Panics

open AppContext BitTiming BoundedChannel BspCan CanDriver CommandQueue DriverState Echoes Firmware
open Lifecycle

def Alive (s : System) : Prop := s.driver.phase ≠ .panicked ∧ s.usbTx.phase ≠ .panicked

-- The timing that a command hands over to the crate.
def timingOf (platform : Platform) : CanDriverCmd → Option NominalBitTiming
  | .setBitTiming timing => Can.nominalBitTiming platform timing
  | _ => none

def handedOver (platform : Platform) : Record → Option NominalBitTiming
  | .command cmd _ => timingOf platform cmd
  | _ => none

abbrev handed (platform : Platform) (log : List Record) : List NominalBitTiming :=
  log.filterMap (handedOver platform)

/-- Nor in the code of the crate: its `set_bit_timing` has returned from every timing.
Embassy's panics under overflow checks if the nine bits it keeps of the prescaler are zero. -/
def Unharmed (platform : Platform) (takes : NominalBitTiming → Bool) (s : System) : Prop :=
  Alive s ∧ ∀ timing ∈ handed platform s.driver.log, takes timing = true

/-- A step whose checked addition overflows, or that hands the crate a timing it panics on. -/
def Fatal (platform : Platform) (takes : NominalBitTiming → Bool) (s : System) :
    Firmware.Event → Prop
  | .driver .command => s.driver.isWaiting = true ∧ ∃ timing rest,
      s.ctx.canCmd.tryReceive = some (.setBitTiming timing, rest) ∧
        (platform.overflowChecks = true ∧ 2 ^ 32 ≤ tseg1 timing ∨
          ∃ nominal, Can.nominalBitTiming platform timing = some nominal ∧ takes nominal = false)
  | .driver (.error _ _) => s.driver.phase = .selecting ∧ platform.overflowChecks = true ∧
      s.driver.canErrorCount.toNat = 2 ^ 32 - 1
  | _ => False

variable {platform : Platform}

theorem set_bit_timing_panics_iff (can : Can) (timing : GsUsbTypes.GsDeviceBitTiming) :
    can.setBitTiming platform timing = none ↔
      platform.overflowChecks = true ∧ 2 ^ 32 ≤ tseg1 timing := by
  rw [← nominal_bit_timing_panics_iff]
  unfold Can.setBitTiming
  cases Can.nominalBitTiming platform timing <;> simp

theorem error_count_panics_iff (count : UInt32) :
    platform.addU32 count 1 = none ↔
      platform.overflowChecks = true ∧ count.toNat = 2 ^ 32 - 1 := by
  have bounded := count.toNat_lt
  unfold Platform.addU32
  constructor
  · intro panics
    split at panics
    · rename_i overflow
      exact ⟨overflow.1, by have := overflow.2; simp at this; omega⟩
    · cases panics
  · rintro ⟨checks, last⟩
    rw [if_pos ⟨checks, by simp [last]⟩]

theorem loop_top_runs (driver : Driver) : driver.loopTop.phase ≠ .panicked := by
  rw [loop_top_phase]
  split <;> simp

@[simp] theorem handed_loop_top (driver : Driver) :
    handed platform driver.loopTop.log = handed platform driver.log :=
  loop_top_view driver (handedOver platform) rfl

def handing (platform : Platform) (ctx : Context) : CanDriver.Event → Option NominalBitTiming
  | .command => ctx.canCmd.tryReceive.bind fun taken => timingOf platform taken.1
  | _ => none

theorem transition_handed (driver next : Driver) (ctx after : Context) (event : CanDriver.Event)
    (moved : Transition platform driver ctx event next after) :
    handed platform next.log =
      handed platform driver.log ++ (handing platform ctx event).toList := by
  cases moved with
  | startedStop canCmd phase taken | stoppedStop canCmd phase taken
  | startedStart canCmd loopback listenOnly oneShot phase taken
  | stoppedStart canCmd loopback listenOnly oneShot phase taken
  | startedTiming canCmd timing can phase taken valid
  | stoppedTiming canCmd timing can phase taken valid
  | startedTransmit canCmd request data frame phase taken sliced built
  | startedFrameError canCmd request data error phase taken sliced failed
  | stoppedTransmit canCmd request phase taken
  | commandPanic canCmd cmd phase taken fatal =>
      simp [handedOver, handing, taken, timingOf, Driver.panic]
  | _ => simp [handedOver, handing, Driver.panic]

theorem command_waits (driver next : Driver) (ctx after : Context)
    (moved : Transition platform driver ctx .command next after) : driver.isWaiting = true := by
  cases moved with
  | commandPanic canCmd cmd waiting taken fatal => simpa [Driver.isWaiting] using waiting
  | startedStop canCmd waiting taken | stoppedStop canCmd waiting taken
  | startedStart canCmd loopback listenOnly oneShot waiting taken
  | stoppedStart canCmd loopback listenOnly oneShot waiting taken
  | startedTiming canCmd timing can waiting taken valid
  | stoppedTiming canCmd timing can waiting taken valid
  | startedTransmit canCmd request data frame waiting taken sliced built
  | startedFrameError canCmd request data error waiting taken sliced failed
  | stoppedTransmit canCmd request waiting taken => simp [Driver.isWaiting, waiting]

theorem driver_runs (takes : NominalBitTiming → Bool) (s : System) (event : CanDriver.Event)
    (driver : Driver) (ctx : Context) (reached : Reached s)
    (harmless : ¬ Fatal platform takes s (.driver event))
    (moved : Transition platform s.driver s.ctx event driver ctx) : driver.phase ≠ .panicked := by
  cases moved with
  | commandPanic canCmd cmd waiting taken fatal =>
      rcases fatal with ⟨timing, rfl, invalid⟩ | ⟨request, rfl, unsliced⟩
      · apply absurd _ harmless
        exact ⟨by simpa [Driver.isWaiting] using waiting, timing, canCmd, taken,
          Or.inl ((set_bit_timing_panics_iff s.driver.can timing).mp invalid)⟩
      -- The channel only ever holds requests whose length fits their data.
      · exact absurd unsliced (queued_sliceable s reached.queue request canCmd taken)
  | errorPanic error sleeping selecting overflow =>
      exact absurd ⟨selecting, (error_count_panics_iff s.driver.canErrorCount).mp overflow⟩
        harmless
  | startedStop | startedStart | startedTiming | startedTransmit | stoppedStart
  | busOffRetry | recovered => simp
  | _ => exact loop_top_runs _

theorem handing_taken (takes : NominalBitTiming → Bool) (s : System) (event : CanDriver.Event)
    (driver : Driver) (ctx : Context) (harmless : ¬ Fatal platform takes s (.driver event))
    (moved : Transition platform s.driver s.ctx event driver ctx) (nominal : NominalBitTiming)
    (now : nominal ∈ (handing platform s.ctx event).toList) : takes nominal = true := by
  by_contra refused
  apply harmless
  cases event with
  | command =>
      obtain ⟨⟨cmd, rest⟩, taken, computed⟩ :=
        Option.bind_eq_some_iff.mp (Option.mem_toList.mp now)
      cases cmd with
      | setBitTiming timing =>
          exact ⟨command_waits s.driver driver s.ctx ctx moved, timing, rest, taken,
            Or.inr ⟨nominal, computed, Bool.eq_false_of_not_eq_true refused⟩⟩
      | start | stop | transmit => cases computed
  | _ => cases now

theorem move_unharmed (takes : NominalBitTiming → Bool) (s next : System)
    (event : Firmware.Event) (reached : Reached s) (unharmed : Unharmed platform takes s)
    (harmless : ¬ Fatal platform takes s event) (moved : Move platform s event next) :
    Unharmed platform takes next := by
  cases moved with
  | inEnabled | tookRx | tookEcho | wrote =>
      exact ⟨⟨unharmed.1.1, by simp [UsbTasks.UsbTx.startWrite]⟩, unharmed.2⟩
  | driver event driver ctx moved =>
      refine ⟨⟨driver_runs takes s event driver ctx reached harmless moved, unharmed.1.2⟩, ?_⟩
      rw [transition_handed s.driver driver s.ctx ctx event moved]
      intro nominal member
      rcases List.mem_append.mp member with earlier | now
      · exact unharmed.2 nominal earlier
      · exact handing_taken takes s event driver ctx harmless moved nominal now
  | _ => exact unharmed

theorem fatal_harms (platform : Platform) (takes : NominalBitTiming → Bool) (s : System)
    (event : Firmware.Event) (sound : Sound s) (fatal : Fatal platform takes s event) :
    ∃ next, step platform s event = some next ∧ ¬ Unharmed platform takes next := by
  unfold Fatal at fatal
  split at fatal
  · obtain ⟨waiting, timing, rest, taken, overflow | ⟨nominal, computed, refused⟩⟩ := fatal
    · have invalid := (set_bit_timing_panics_iff s.driver.can timing).mpr overflow
      have panics : ∃ next, step platform s (.driver .command) = some next ∧
          next.driver.phase = .panicked := by
        rcases waiting_phase s.driver waiting with selecting | receiving
        · simp [Firmware.step, CanDriver.step, selecting, taken, startedCmd, invalid, Driver.panic]
        · simp [Firmware.step, CanDriver.step, receiving, taken, stoppedCmd, invalid, Driver.panic]
      obtain ⟨next, stepped, panicked⟩ := panics
      exact ⟨next, stepped, fun unharmed => unharmed.1.1 panicked⟩
    · have enabled : ∃ next, step platform s (.driver .command) = some next := by
        rcases waiting_phase s.driver waiting with selecting | receiving
        · simp [Firmware.step, CanDriver.step, selecting, taken]
        · simp [Firmware.step, CanDriver.step, receiving, taken]
      obtain ⟨next, stepped⟩ := enabled
      refine ⟨next, stepped, ?_⟩
      rintro ⟨_, all⟩
      cases step_move s next _ sound stepped with
      | driver _ driver ctx moved =>
          have given : handing platform s.ctx .command = some nominal := by
            rw [handing, taken, Option.bind_some, timingOf, computed]
          have member : nominal ∈ handed platform driver.log := by
            rw [transition_handed s.driver driver s.ctx ctx _ moved, given]
            simp
          rw [all nominal member] at refused
          cases refused
  · rename_i error sleeping
    obtain ⟨selecting, overflow⟩ := fatal
    have overflows := (error_count_panics_iff s.driver.canErrorCount).mpr overflow
    have panics : ∃ next, step platform s (.driver (.error error sleeping)) = some next ∧
        next.driver.phase = .panicked := by
      simp [Firmware.step, CanDriver.step, selecting, readErr, overflows, Driver.panic]
    obtain ⟨next, stepped, panicked⟩ := panics
    exact ⟨next, stepped, fun unharmed => unharmed.1.1 panicked⟩
  · exact absurd fatal id

/-- Whatever timings the crate takes: no task panics throughout a run exactly if none of its
steps overflows a checked addition and none hands the crate a timing that it does not take. -/
theorem alive_iff_no_fatal_step (platform : Platform) (takes : NominalBitTiming → Bool)
    (config : CanConfig) (events : List Firmware.Event) :
    Machine.Always (step platform) (Unharmed platform takes) (boot config) events ↔
      Machine.Along (step platform) (fun s event => ¬ Fatal platform takes s event) (boot config)
        events := by
  apply Machine.always_iff_along (step platform) _
    (fun s => Reached s ∧ Unharmed platform takes s)
  · rintro s ⟨_, unharmed⟩
    exact unharmed
  · rintro s event next ⟨reached, unharmed⟩ harmless stepped
    have moved := step_move s next event reached.sound stepped
    exact ⟨move_reached s next event reached moved,
      move_unharmed takes s next event reached unharmed harmless moved⟩
  · rintro s event ⟨reached, _⟩ fatal
    exact fatal_harms platform takes s event reached.sound (not_not.mp fatal)
  · exact ⟨boot_reached config, ⟨by simp [boot, Driver.new], by simp [boot, UsbTasks.UsbTx.new]⟩,
      by simp [boot, Driver.new]⟩

/-- A divider of 512 is within the limits of BT_CONST, and fatal with overflow checks. -/
example : ∃ s, Machine.run (step (Platform.embassy true)) (boot resetConfig)
    [.controlOut timingRequest (GsUsbTypes.GsDeviceBitTiming.layout.encode
      { propSeg := 1, phaseSeg1 := 10, phaseSeg2 := 2, sjw := 1, brp := 512 })] = some s ∧
    Fatal (Platform.embassy true) (fun timing => timing.prescaler.val % 512 != 0) s
      (.driver .command) :=
  ⟨_, rfl, by decide, _, _, rfl, Or.inr ⟨_, rfl, by decide⟩⟩

end NginLink.Panics
