import NginLink.ControlRequests
import NginLink.FirmwareSteps

/-!
From the five words of a BITTIMING request to the timing in the peripheral. The
limits are those BT_CONST reports; between the request and the peripheral nothing
compares a word with them. A word is narrowed by a cast, and a zero becomes one.
-/

namespace NginLink.BitTiming

open AppContext BoundedChannel BspCan CanDriver ControlHandler ControlRequests Firmware GsUsbTypes

def tseg1 (timing : GsDeviceBitTiming) : Nat := timing.propSeg.toNat + timing.phaseSeg1.toNat

def Admitted (limits : GsDeviceBtConst) (timing : GsDeviceBitTiming) : Prop :=
  (limits.tseg1Min.toNat ≤ tseg1 timing ∧ tseg1 timing ≤ limits.tseg1Max.toNat) ∧
  (limits.tseg2Min.toNat ≤ timing.phaseSeg2.toNat ∧
    timing.phaseSeg2.toNat ≤ limits.tseg2Max.toNat) ∧
  timing.sjw.toNat ≤ limits.sjwMax.toNat ∧
  limits.brpMin.toNat ≤ timing.brp.toNat ∧ timing.brp.toNat ≤ limits.brpMax.toNat

instance (limits : GsDeviceBtConst) (timing : GsDeviceBitTiming) :
    Decidable (Admitted limits timing) :=
  inferInstanceAs (Decidable ((_ ∧ _) ∧ (_ ∧ _) ∧ _ ∧ _ ∧ _))

theorem admitted_iff {σ : Type} (handler : GsUsbControlHandler σ) (timing : GsDeviceBitTiming) :
    Admitted handler.btConst timing ↔
      (1 ≤ tseg1 timing ∧ tseg1 timing ≤ 16) ∧
      (1 ≤ timing.phaseSeg2.toNat ∧ timing.phaseSeg2.toNat ≤ 8) ∧
      timing.sjw.toNat ≤ 4 ∧ 1 ≤ timing.brp.toNat ∧ timing.brp.toNat ≤ 1024 :=
  Iff.rfl

theorem max_to_nat {α : Type} [LE α] [DecidableLE α] (toNat : α → Nat)
    (order : ∀ left right, left ≤ right ↔ toNat left ≤ toNat right) (value bound : α) :
    toNat (maxOfLe.max value bound) = max (toNat value) (toNat bound) := by
  change toNat (if value ≤ bound then bound else value) = _
  by_cases small : value ≤ bound
  · rw [if_pos small, Nat.max_eq_right ((order value bound).mp small)]
  · have large : toNat bound ≤ toNat value := by
      have exceeds := mt (order value bound).mpr small
      omega
    rw [if_neg small, Nat.max_eq_left large]

-- `max(1)` makes the `unwrap` safe.
theorem non_zero_u8 (value : UInt8) :
    ∃ bounded, nonZeroU8 (max value 1) = some bounded ∧ bounded.val.toNat = max value.toNat 1 := by
  have raised : (max value 1).toNat = max value.toNat 1 :=
    max_to_nat UInt8.toNat (fun _ _ => UInt8.le_iff_toNat_le) value 1
  have nonZero : max value 1 ≠ 0 := by
    intro zero
    rw [zero, UInt8.toNat_zero] at raised
    omega
  exact ⟨⟨max value 1, nonZero⟩, dif_pos nonZero, raised⟩

theorem non_zero_u16 (value : UInt16) :
    ∃ bounded, nonZeroU16 (max value 1) = some bounded ∧
      bounded.val.toNat = max value.toNat 1 := by
  have raised : (max value 1).toNat = max value.toNat 1 :=
    max_to_nat UInt16.toNat (fun _ _ => UInt16.le_iff_toNat_le) value 1
  have nonZero : max value 1 ≠ 0 := by
    intro zero
    rw [zero, UInt16.toNat_zero] at raised
    omega
  exact ⟨⟨max value 1, nonZero⟩, dif_pos nonZero, raised⟩

variable {platform : Platform}

/-- Where the sum can be formed, every field is its word, narrowed and raised to one. -/
theorem nominal_bit_timing_some (timing : GsDeviceBitTiming) (sum : UInt32)
    (added : platform.addU32 timing.propSeg timing.phaseSeg1 = some sum) :
    ∃ bt, Can.nominalBitTiming platform timing = some bt ∧
      bt.syncJumpWidth.val.toNat = max (timing.sjw.toNat % 2 ^ 8) 1 ∧
      bt.seg1.val.toNat = max (sum.toNat % 2 ^ 8) 1 ∧
      bt.seg2.val.toNat = max (timing.phaseSeg2.toNat % 2 ^ 8) 1 ∧
      bt.prescaler.val.toNat = max (timing.brp.toNat % 2 ^ 16) 1 := by
  obtain ⟨sjw, sjwSome, sjwValue⟩ := non_zero_u8 timing.sjw.toUInt8
  obtain ⟨seg1, seg1Some, seg1Value⟩ := non_zero_u8 sum.toUInt8
  obtain ⟨seg2, seg2Some, seg2Value⟩ := non_zero_u8 timing.phaseSeg2.toUInt8
  obtain ⟨prescaler, prescalerSome, prescalerValue⟩ := non_zero_u16 timing.brp.toUInt16
  refine ⟨⟨sjw, seg1, seg2, prescaler⟩, ?_, sjwValue, seg1Value, seg2Value, prescalerValue⟩
  simp [Can.nominalBitTiming, added, sjwSome, seg1Some, seg2Some, prescalerSome]

theorem small_sum (platform : Platform) (timing : GsDeviceBitTiming)
    (fits : tseg1 timing < 2 ^ 32) :
    ∃ sum, platform.addU32 timing.propSeg timing.phaseSeg1 = some sum ∧
      sum.toNat = tseg1 timing := by
  unfold tseg1 at *
  refine ⟨timing.propSeg + timing.phaseSeg1, ?_, ?_⟩
  · rw [Platform.addU32, if_neg]
    rintro ⟨_, exceeds⟩
    omega
  · rw [UInt32.toNat_add, Nat.mod_eq_of_lt fits]

theorem nominal_bit_timing_panics_iff (timing : GsDeviceBitTiming) :
    Can.nominalBitTiming platform timing = none ↔
      platform.overflowChecks = true ∧ 2 ^ 32 ≤ tseg1 timing := by
  unfold tseg1
  cases added : platform.addU32 timing.propSeg timing.phaseSeg1 with
  | none =>
      obtain ⟨sjw, sjwSome, _⟩ := non_zero_u8 timing.sjw.toUInt8
      have overflow : platform.overflowChecks = true ∧
          2 ^ 32 ≤ timing.propSeg.toNat + timing.phaseSeg1.toNat := by
        by_contra fine
        rw [Platform.addU32, if_neg fine] at added
        cases added
      exact ⟨fun _ => overflow, fun _ => by simp [Can.nominalBitTiming, added, sjwSome]⟩
  | some sum =>
      obtain ⟨bt, computed, _⟩ := nominal_bit_timing_some timing sum added
      constructor
      · intro panics
        rw [panics] at computed
        cases computed
      · intro overflow
        rw [Platform.addU32, if_pos overflow] at added
        cases added

def timingRequest : Request := { requestType := .vendor, request := gsUsbBreqBittiming }

-- The callback offers the five words of the payload to CAN_CMD_CHANNEL, unchecked.
theorem timing_request_queued (handler : GsUsbControlHandler Context) (ctx : Context)
    (payload : List UInt8) (configured : Configured handler) (long : 20 ≤ payload.length) :
    (handler.controlOut ctx timingRequest payload).2.1 =
      ctx.sendCmd (.setBitTiming (timingWords payload)) := by
  have asks : requestedCmd timingRequest payload =
      some (.setBitTiming (timingWords payload)) := by
    rw [← decode_bit_timing]
    exact if_pos long
  rw [(control_out_effect handler ctx timingRequest payload configured).1, asks]
  rfl

theorem timing_processed (driver : Driver) (ctx : Context) (canCmd : Channel CanDriverCmd 16)
    (timing : GsDeviceBitTiming) (can : Can)
    (waiting : driver.phase = .selecting ∨ driver.phase = .receiving)
    (taken : ctx.canCmd.tryReceive = some (.setBitTiming timing, canCmd))
    (valid : driver.can.setBitTiming platform timing = some can) :
    ∃ next, CanDriver.step platform driver ctx .command = some next ∧ next.1.can = can ∧
      next.1.phase ≠ .panicked := by
  rcases waiting with selecting | receiving
  · have stepped : CanDriver.step platform driver ctx .command =
        some (startedCmd platform
          (driver.note [.command (.setBitTiming timing) driver.isStarted]) { ctx with canCmd }
          (.setBitTiming timing)) := by
      simp only [CanDriver.step, selecting, taken, Option.map_some]
    refine ⟨_, stepped, ?_, ?_⟩
    · simp [startedCmd, valid]
    · simp [startedCmd, valid]
  · have stepped : CanDriver.step platform driver ctx .command =
        some (stoppedCmd platform
          (driver.note [.command (.setBitTiming timing) driver.isStarted]) { ctx with canCmd }
          (.setBitTiming timing)) := by
      simp only [CanDriver.step, receiving, taken, Option.map_some]
    refine ⟨_, stepped, ?_, ?_⟩
    · simp [stoppedCmd, valid]
    · simp only [stoppedCmd, note_can, valid, loop_top_phase]
      split <;> simp

/-- A timing within the limits is programmed word for word, whatever follows the 20
bytes, in both states of the driver and with or without overflow checks. -/
theorem admitted_timing_programmed (platform : Platform)
    (handler : GsUsbControlHandler Context) (ctx : Context) (payload : List UInt8)
    (configured : Configured handler) (long : 20 ≤ payload.length)
    (admitted : Admitted handler.btConst (timingWords payload))
    (positive : 1 ≤ (timingWords payload).sjw.toNat) :
    (handler.controlOut ctx timingRequest payload).2.1 =
      ctx.sendCmd (.setBitTiming (timingWords payload)) ∧
    ∀ (driver : Driver) (ctx : Context) (canCmd : Channel CanDriverCmd 16),
      driver.phase = .selecting ∨ driver.phase = .receiving →
      ctx.canCmd.tryReceive = some (.setBitTiming (timingWords payload), canCmd) →
      ∃ next bt, CanDriver.step platform driver ctx .command = some next ∧
        next.1.phase ≠ .panicked ∧ next.1.can.config.bitTiming = some bt ∧
        bt.syncJumpWidth.val.toNat = (word payload 3).toNat ∧
        bt.seg1.val.toNat = (word payload 0).toNat + (word payload 1).toNat ∧
        bt.seg2.val.toNat = (word payload 2).toNat ∧
        bt.prescaler.val.toNat = (word payload 4).toNat := by
  refine ⟨timing_request_queued handler ctx payload configured long, ?_⟩
  intro driver ctx canCmd waiting taken
  obtain ⟨⟨low1, high1⟩, ⟨low2, high2⟩, highJump, lowBrp, highBrp⟩ :=
    (admitted_iff handler _).mp admitted
  obtain ⟨sum, added, sumValue⟩ := small_sum platform (timingWords payload) (by omega)
  obtain ⟨bt, computed, jump, seg1, seg2, prescaler⟩ :=
    nominal_bit_timing_some (timingWords payload) sum added
  have valid : driver.can.setBitTiming platform (timingWords payload) =
      some (driver.can.modifyConfig fun config => { config with bitTiming := some bt }) := by
    simp [Can.setBitTiming, computed]
  obtain ⟨next, stepped, same, running⟩ :=
    timing_processed driver ctx canCmd (timingWords payload) _ waiting taken valid
  refine ⟨next, bt, stepped, running, by rw [same]; rfl, ?_, ?_, ?_, ?_⟩
  · rw [jump, Nat.mod_eq_of_lt (by omega), Nat.max_eq_left positive]
    rfl
  · rw [seg1, sumValue, Nat.mod_eq_of_lt (by omega), Nat.max_eq_left low1]
    rfl
  · rw [seg2, Nat.mod_eq_of_lt (by omega), Nat.max_eq_left low2]
    rfl
  · rw [prescaler, Nat.mod_eq_of_lt (by omega), Nat.max_eq_left lowBrp]
    rfl

-- 500 kbit/s, followed by a byte that does not belong to it.
def samplePayload : List UInt8 :=
  GsDeviceBitTiming.layout.encode
    { propSeg := 1, phaseSeg1 := 10, phaseSeg2 := 2, sjw := 1, brp := 6 } ++ [0xFF]

theorem waiting_command (timing : GsDeviceBitTiming) :
    ∃ canCmd, (Context.new.sendCmd (.setBitTiming timing)).canCmd.tryReceive =
      some (.setBitTiming timing, canCmd) := ⟨_, rfl⟩

theorem admitted_timing_programmed_sample :
    Configured controlHandler ∧ 20 ≤ samplePayload.length ∧
      Admitted controlHandler.btConst (timingWords samplePayload) ∧
      1 ≤ (timingWords samplePayload).sjw.toNat ∧
      ∃ next bt, CanDriver.step (Platform.embassy true) (Driver.new (.new resetConfig))
          (Context.new.sendCmd (.setBitTiming (timingWords samplePayload))) .command = some next ∧
        next.1.can.config.bitTiming = some bt ∧ bt.syncJumpWidth.val.toNat = 1 ∧
        bt.seg1.val.toNat = 11 ∧ bt.seg2.val.toNat = 2 ∧ bt.prescaler.val.toNat = 6 := by
  obtain ⟨canCmd, taken⟩ := waiting_command (timingWords samplePayload)
  obtain ⟨next, bt, stepped, _, stored, jump, seg1, seg2, prescaler⟩ :=
    (admitted_timing_programmed (Platform.embassy true) controlHandler Context.new samplePayload
      rfl (by decide) (by decide) (by decide)).2 (Driver.new (.new resetConfig)) _ canCmd
      (Or.inr rfl) taken
  exact ⟨rfl, by decide, by decide, by decide, next, bt, stepped, stored, jump.trans (by decide),
    seg1.trans (by decide), seg2.trans (by decide), prescaler.trans (by decide)⟩

/-- Processing the command leaves the programmed timing alone, whatever it was. -/
def LeftAsItWas (platform : Platform) (timing : GsDeviceBitTiming) : Prop :=
  ∀ (driver : Driver) (ctx : Context) (canCmd : Channel CanDriverCmd 16)
    (next : Driver × Context),
    driver.phase = .selecting ∨ driver.phase = .receiving →
    ctx.canCmd.tryReceive = some (.setBitTiming timing, canCmd) →
    CanDriver.step platform driver ctx .command = some next →
    next.1.can.config.bitTiming = driver.can.config.bitTiming

theorem fitting_timing_programmed (timing : GsDeviceBitTiming) (fits : tseg1 timing < 2 ^ 32) :
    ¬ LeftAsItWas platform timing := by
  intro left
  obtain ⟨sum, added, _⟩ := small_sum platform timing fits
  obtain ⟨bt, computed, _⟩ := nominal_bit_timing_some timing sum added
  obtain ⟨canCmd, taken⟩ := waiting_command timing
  have valid : (Can.new resetConfig).setBitTiming platform timing =
      some ((Can.new resetConfig).modifyConfig fun config =>
        { config with bitTiming := some bt }) := by
    simp [Can.setBitTiming, computed]
  obtain ⟨next, stepped, same, _⟩ := timing_processed (Driver.new (.new resetConfig)) _ canCmd
    timing _ (Or.inr rfl) taken valid
  have unchanged := left _ _ canCmd next (Or.inr rfl) taken stepped
  rw [same] at unchanged
  cases unchanged

/-- For any five words: the sum fits and a timing outside the limits is never programmed
as something else exactly if the timing is within the limits. -/
theorem limits_kept_iff_admitted (platform : Platform) (handler : GsUsbControlHandler Context)
    (ctx : Context) (payload : List UInt8) (configured : Configured handler)
    (long : 20 ≤ payload.length) :
    (handler.controlOut ctx timingRequest payload).2.1 =
      ctx.sendCmd (.setBitTiming (timingWords payload)) ∧
    ((tseg1 (timingWords payload) < 2 ^ 32 ∧
        (¬ Admitted handler.btConst (timingWords payload) →
          LeftAsItWas platform (timingWords payload))) ↔
      Admitted handler.btConst (timingWords payload)) := by
  refine ⟨timing_request_queued handler ctx payload configured long, ?_⟩
  constructor
  · rintro ⟨fits, kept⟩
    by_contra outside
    exact fitting_timing_programmed (timingWords payload) fits (kept outside)
  · intro admitted
    have inside := ((admitted_iff handler _).mp admitted).1.2
    exact ⟨by omega, fun outside => absurd admitted outside⟩

theorem limits_kept_iff_admitted_sample :
    Configured controlHandler ∧ 20 ≤ samplePayload.length ∧
      tseg1 (timingWords samplePayload) < 2 ^ 32 :=
  ⟨rfl, by decide, ((limits_kept_iff_admitted (Platform.embassy true) controlHandler Context.new
    samplePayload rfl (by decide)).2.mpr (by decide)).1⟩

def wildTiming : GsDeviceBitTiming :=
  { propSeg := 256, phaseSeg1 := 260, phaseSeg2 := 0x10003, sjw := 0x501, brp := 0x20006 }

/-- The wild request programs a plausible timing, and one whose sum overflows takes the
task down under overflow checks. -/
theorem wild_timing_programmed :
    (∃ final, Machine.run (step (Platform.embassy true)) (boot resetConfig)
        (bringUp ++ [.controlOut timingRequest (GsDeviceBitTiming.layout.encode wildTiming),
          .driver .command]) = some final ∧
      ¬ Admitted final.handler.btConst wildTiming ∧ resetConfig.bitTiming = none ∧
      (final.driver.can.config.bitTiming.map fun bt => (bt.syncJumpWidth.val, bt.seg1.val,
        bt.seg2.val, bt.prescaler.val)) = some (1, 4, 3, 6)) ∧
    ∃ final, Machine.run (step (Platform.embassy true)) (boot resetConfig)
        (bringUp ++ [.controlOut timingRequest (GsDeviceBitTiming.layout.encode
          { wildTiming with propSeg := 0xFFFFFFFF }), .driver .command]) = some final ∧
      final.driver.phase = .panicked :=
  ⟨⟨_, rfl, by decide, rfl, by decide⟩, ⟨_, rfl, by decide⟩⟩

end NginLink.BitTiming
