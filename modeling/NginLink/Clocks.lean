import Mathlib.Data.Rat.Defs
import Mathlib.Algebra.Order.Ring.Rat
import Mathlib.Tactic.NormNum
import NginLink.BitTiming
import NginLink.ControlAnswers
import NginLink.HostAgreement
import NginLink.Lifecycle

/-!
From the clock tree that `init` of `crates/bsp-f446/src/lib.rs` sets up to the bit rate on
the bus. The host computes its rate from the clock that BT_CONST names, the peripheral
divides the APB1 clock; the two frequencies are written down in different crates. Between
the timing handed over and the timing register stands the peripheral crate, here a parameter.
-/

namespace NginLink.Clocks

open AppContext BitTiming BspCan CanDriver CommandQueue ControlAnswers ControlHandler
open ControlRequests DriverState Firmware GsUsbTypes HostAgreement Lifecycle

-- What `init` writes into `config.rcc`. The AHB prescaler stays at its default.
structure Rcc where
  hse : Nat
  prediv : Nat
  mul : Nat
  divp : Nat
  divq : Nat
  ahbPre : Nat
  apb1Pre : Nat
  apb2Pre : Nat

def boardRcc : Rcc :=
  { hse := 8000000, prediv := 4, mul := 168, divp := 4, divq := 7
    ahbPre := 1, apb1Pre := 2, apb2Pre := 1 }

namespace Rcc
variable (rcc : Rcc)

def vco : ℚ := rcc.hse / rcc.prediv * rcc.mul
-- `Sysclk::PLL1_P`
def sys : ℚ := rcc.vco / rcc.divp
def usb : ℚ := rcc.vco / rcc.divq
def apb1 : ℚ := rcc.sys / rcc.ahbPre / rcc.apb1Pre

end Rcc

/-- SYS=84MHz, USB=48MHz, as `init` reports, and what BT_CONST names for CAN. -/
theorem board_clocks : boardRcc.sys = 84000000 ∧ boardRcc.usb = 48000000 ∧
    boardRcc.apb1 = 42000000 := by
  refine ⟨?_, ?_, ?_⟩ <;> norm_num [Rcc.apb1, Rcc.usb, Rcc.sys, Rcc.vco, boardRcc]

def bitRate (clock : ℚ) (prescaler seg1 seg2 : Nat) : ℚ :=
  clock / (prescaler * (1 + seg1 + seg2))

def samplePoint (seg1 seg2 : Nat) : ℚ := (1 + seg1) / (1 + seg1 + seg2)

structure Quanta where
  prescaler : Nat
  seg1 : Nat
  seg2 : Nat

/-- What is relied on of the way from a timing to the register: one that fits the fields
arrives there. Of the prescaler the crate keeps nine bits, so up to 511 and not to 1024. -/
def Kept (btr : NominalBitTiming → Quanta) : Prop :=
  ∀ bt, bt.syncJumpWidth.val.toNat ≤ 4 → bt.seg1.val.toNat ≤ 16 → bt.seg2.val.toNat ≤ 8 →
    bt.prescaler.val.toNat < 512 →
    btr bt = ⟨bt.prescaler.val.toNat, bt.seg1.val.toNat, bt.seg2.val.toNat⟩

-- What the peripheral makes of its register, on the clock it is driven with.
def busRate (quanta : Quanta) : ℚ :=
  bitRate boardRcc.apb1 quanta.prescaler quanta.seg1 quanta.seg2

def busSamplePoint (quanta : Quanta) : ℚ := samplePoint quanta.seg1 quanta.seg2

-- What the host makes of the same numbers, on the clock it was told.
def hostRate (limits : GsDeviceBtConst) (timing : GsDeviceBitTiming) : ℚ :=
  bitRate limits.fclkCan.toNat timing.brp.toNat (tseg1 timing) timing.phaseSeg2.toNat

def hostSamplePoint (timing : GsDeviceBitTiming) : ℚ :=
  samplePoint (tseg1 timing) timing.phaseSeg2.toNat

def readLimits (s : System) (buf : List UInt8) : GsDeviceBtConst :=
  GsDeviceBtConst.layout.decode (answered s.handler s.ctx ⟨.vendor, gsUsbBreqBtConst⟩ buf)

theorem read_limits (s : System) (buf : List UInt8) (room : 40 ≤ buf.length) :
    readLimits s buf = s.handler.btConst := by
  have answer := bt_const_answer s.handler s.ctx buf room
  rw [readLimits, answered, answer, ByteLayout.Layout.decode_encode]

theorem admitted_rate (platform : Platform) (btr : NominalBitTiming → Quanta) (kept : Kept btr)
    (handler : GsUsbControlHandler Context) (timing : GsDeviceBitTiming)
    (admitted : Admitted handler.btConst timing) (low : timing.brp.toNat < 512) :
    ∃ bt, Can.nominalBitTiming platform timing = some bt ∧
      busRate (btr bt) = hostRate handler.btConst timing ∧
      busSamplePoint (btr bt) = hostSamplePoint timing := by
  obtain ⟨⟨low1, high1⟩, ⟨low2, high2⟩, jump, lowBrp, _⟩ := (admitted_iff handler _).mp admitted
  obtain ⟨sum, added, sumValue⟩ := small_sum platform timing (by omega)
  obtain ⟨bt, computed, sjw, seg1, seg2, prescaler⟩ := nominal_bit_timing_some timing sum added
  have first : bt.seg1.val.toNat = tseg1 timing := by
    rw [seg1, sumValue]
    omega
  have second : bt.seg2.val.toNat = timing.phaseSeg2.toNat := by
    rw [seg2]
    omega
  have divider : bt.prescaler.val.toNat = timing.brp.toNat := by
    rw [prescaler]
    omega
  have register := kept bt (by rw [sjw]; omega) (by omega) (by omega) (by omega)
  rw [first, second, divider] at register
  have clock : ((handler.btConst.fclkCan.toNat : Nat) : ℚ) = boardRcc.apb1 := by
    rw [board_clocks.2.2]
    rfl
  refine ⟨bt, computed, ?_, ?_⟩
  · rw [busRate, hostRate, register, clock]
  · rw [busSamplePoint, hostSamplePoint, register]

/-- The host reads BT_CONST at any time, and later asks for a timing within the limits it
has read, with a divider of at most 511. Once the request is worked off, the bus has the bit
rate and the sample point that the host has computed from that answer. -/
theorem bus_runs_at_asked_rate (platform : Platform) (btr : NominalBitTiming → Quanta)
    (kept : Kept btr) (config : CanConfig) (before after : List Firmware.Event)
    (probed final : System) (buf : List UInt8) (timing : GsDeviceBitTiming)
    (reached : Machine.run (step platform) (boot config) before = some probed)
    (finished : Machine.run (step platform) probed after = some final)
    (room : 40 ≤ buf.length) (admitted : Admitted (readLimits probed buf) timing)
    (low : timing.brp.toNat < 512)
    (last : lastTimingRequest (delivered final.controls) = some timing)
    (empty : final.ctx.canCmd.queued = []) (waiting : final.driver.isWaiting = true) :
    ∃ bt, final.driver.can.config.bitTiming = some bt ∧
      busRate (btr bt) = hostRate (readLimits probed buf) timing ∧
      busSamplePoint (btr bt) = hostSamplePoint timing := by
  have whole := Machine.run_append (step platform) (boot config) probed final before after
    reached finished
  have queue := run_queue config (before ++ after) final whole
  have taken : commands final.driver.log = final.ctx.canCmd.accepted := by
    rw [queue.taken, BoundedChannel.Channel.received_eq_accepted _ empty]
  have programmed := run_timing config (before ++ after) final whole
    (waiting_running final.driver waiting)
  rw [taken, ← timing_of_control, queue.control,
    (mode_of_requests final.controls queue.answered).2, last, expectedTiming, Option.elim_some]
    at programmed
  rw [read_limits probed buf room] at admitted ⊢
  obtain ⟨bt, computed, rate, sample⟩ :=
    admitted_rate platform btr kept probed.handler timing admitted low
  exact ⟨bt, programmed.trans computed, rate, sample⟩

-- A register of four and three bits for the segments, and nine bits of the prescaler.
def maskedBtr (bt : NominalBitTiming) : Quanta :=
  { prescaler := bt.prescaler.val.toNat % 512
    seg1 := (bt.seg1.val.toNat - 1) % 16 + 1
    seg2 := (bt.seg2.val.toNat - 1) % 8 + 1 }

theorem masked_kept : Kept maskedBtr := by
  intro bt _ small1 small2 low
  have some1 := bt.seg1.property
  have some2 := bt.seg2.property
  rw [ne_eq, ← UInt8.toNat_inj, UInt8.toNat_zero] at some1 some2
  simp only [maskedBtr, Quanta.mk.injEq]
  omega

def bringUpTimed : List Firmware.Event :=
  [.controlOut timingRequest samplePayload, hostMode 1 0, .driver .command, .driver .command,
    .driver .enabled]

theorem bus_runs_at_asked_rate_sample :
    Kept maskedBtr ∧
    ∃ final bt, Machine.run (step (Platform.embassy true)) (boot resetConfig) bringUpTimed =
        some final ∧
      40 ≤ (List.replicate 64 (0 : UInt8)).length ∧
      Admitted (readLimits (boot resetConfig) (List.replicate 64 0)) (timingWords samplePayload) ∧
      (timingWords samplePayload).brp.toNat < 512 ∧
      lastTimingRequest (delivered final.controls) = some (timingWords samplePayload) ∧
      final.ctx.canCmd.queued = [] ∧ final.driver.isWaiting = true ∧
      final.driver.can.config.bitTiming = some bt ∧ busRate (maskedBtr bt) = 500000 ∧
      busSamplePoint (maskedBtr bt) = 12 / 14 := by
  obtain ⟨final, finished, admitted, last, empty, waiting⟩ :
      ∃ final, Machine.run (step (Platform.embassy true)) (boot resetConfig) bringUpTimed =
          some final ∧
        Admitted (readLimits (boot resetConfig) (List.replicate 64 0))
          (timingWords samplePayload) ∧
        lastTimingRequest (delivered final.controls) = some (timingWords samplePayload) ∧
        final.ctx.canCmd.queued = [] ∧ final.driver.isWaiting = true :=
    ⟨_, rfl, by decide, by decide, by decide, by decide⟩
  obtain ⟨bt, programmed, rate, sample⟩ := bus_runs_at_asked_rate (Platform.embassy true)
    maskedBtr masked_kept resetConfig [] bringUpTimed (boot resetConfig) final
    (List.replicate 64 0) (timingWords samplePayload) rfl finished (by decide) admitted (by decide)
    last empty waiting
  have seg1 : tseg1 (timingWords samplePayload) = 11 := by decide
  have seg2 : (timingWords samplePayload).phaseSeg2.toNat = 2 := by decide
  have divider : (timingWords samplePayload).brp.toNat = 6 := by decide
  have clock : (readLimits (boot resetConfig) (List.replicate 64 0)).fclkCan.toNat = 42000000 := by
    decide
  refine ⟨masked_kept, final, bt, finished, by decide, admitted, by decide, last, empty, waiting,
    programmed, ?_, ?_⟩
  · rw [rate, hostRate, bitRate, seg1, seg2, divider, clock]
    norm_num
  · rw [sample, hostSamplePoint, samplePoint, seg1, seg2]
    norm_num

end NginLink.Clocks
