import NginLink.ControlRequests
import NginLink.FirmwareSteps
import NginLink.Progress
import NginLink.WrappedClock

/-!
TIMESTAMP as a clock for the host. The dongle answers with the low 32 bits of its
milliseconds since boot, and between two requests anything may happen to it.
-/

namespace NginLink.HostClock

open AppContext BspCan ByteLayout CanDriver ControlHandler ControlRequests Firmware GsUsbTypes
open WrappedClock

-- The milliseconds since boot at which a TIMESTAMP request is answered, with what the
-- host reads off the answer.
def clockReading (s : System) : Firmware.Event → Option (Nat × Nat)
  | .controlIn req buf =>
      if req = ⟨.vendor, gsUsbBreqTimestamp⟩ ∧ Layout.u32.size ≤ buf.length then
        match (s.handler.controlIn s.ctx req buf).1 with
        | some (.accepted bytes) => some (s.ctx.clockMs, (Layout.u32.decode bytes).toNat)
        | some .rejected | none => none
      else none
  | _ => none

theorem timestamp_answer (s : System) (buf : List UInt8) (configured : Configured s.handler)
    (room : Layout.u32.size ≤ buf.length) :
    (s.handler.controlIn s.ctx ⟨.vendor, gsUsbBreqTimestamp⟩ buf).1 =
      some (.accepted (Layout.u32.encode (nowMs s.ctx))) := by
  have clock : s.handler.nowMs = nowMs := by
    rw [configured]
    rfl
  have fits := write_in_fits buf (Layout.u32.encode (nowMs s.ctx))
    (by rwa [Layout.u32.encode_length])
  rw [← clock] at fits ⊢
  change some (GsUsbControlHandler.writeIn buf _).1 = _
  rw [fits]

variable {platform : Platform}

theorem transition_clock (driver next : Driver) (ctx after : Context) (event : CanDriver.Event)
    (moved : Transition platform driver ctx event next after) : after.clockMs = ctx.clockMs := by
  cases moved <;> rfl

theorem move_clock (s next : System) (event : Firmware.Event)
    (moved : Move platform s event next) : s.ctx.clockMs ≤ next.ctx.clockMs := by
  cases moved with
  | driver event driver ctx moved =>
      rw [transition_clock s.driver driver s.ctx ctx event moved]
  | ticked ms => exact Nat.le_add_right _ _
  | _ => exact Nat.le_refl _

structure Followed (readings : List (Nat × Nat)) (s : System) : Prop where
  low : ∀ reading ∈ readings, reading.2 = reading.1 % 2 ^ 32
  past : ∀ reading ∈ readings, reading.1 ≤ s.ctx.clockMs
  ordered : (readings.map Prod.fst).Pairwise (· ≤ ·)

theorem read_followed (readings : List (Nat × Nat)) (s : System) (followed : Followed readings s) :
    Followed (readings ++ [(s.ctx.clockMs, s.ctx.clockMs % 2 ^ 32)]) s := by
  constructor
  · exact Machine.seen_one_more readings _ followed.low rfl
  · exact Machine.seen_one_more readings _ followed.past (Nat.le_refl _)
  · rw [List.map_append, List.pairwise_append]
    refine ⟨followed.ordered, List.pairwise_singleton _ _, ?_⟩
    intro earlier member now same
    obtain ⟨reading, among, rfl⟩ := List.mem_map.mp member
    rw [List.mem_singleton.mp same]
    exact followed.past reading among

theorem reading_taken (s : System) (event : Firmware.Event) (configured : Configured s.handler) :
    clockReading s event = none ∨
      clockReading s event = some (s.ctx.clockMs, s.ctx.clockMs % 2 ^ 32) := by
  cases event with
  | controlIn req buf =>
      simp only [clockReading]
      split
      · rename_i asks
        obtain ⟨rfl, room⟩ := asks
        rw [timestamp_answer s buf configured room]
        refine Or.inr ?_
        simp [nowMs]
      · exact Or.inl rfl
  | _ => exact Or.inl rfl

theorem step_followed (readings : List (Nat × Nat)) (s next : System) (event : Firmware.Event)
    (moved : Move platform s event next) (sound : Sound s) (followed : Followed readings s) :
    Followed (readings ++ (clockReading s event).toList) next := by
  have later : ∀ readings, Followed readings s → Followed readings next := fun readings known =>
    ⟨known.low, fun reading member => (known.past reading member).trans
      (move_clock s next event moved), known.ordered⟩
  rcases reading_taken s event sound.configured with silent | taken
  · rw [Machine.unobserved clockReading readings s event silent]
    exact later readings followed
  · rw [taken, Option.toList_some]
    exact later _ (read_followed readings s followed)

/-- Over every run, a host that adds up what the TIMESTAMP answers tell it is never ahead of
the dongle's clock, and behind it by whole rounds of 2^32 ms if at all; if it asks before a
round has passed each time, it knows every time of an answer exactly. -/
theorem host_follows_clock (platform : Platform) (config : CanConfig)
    (events : List Firmware.Event) (final : System)
    (finished : Machine.run (step platform) (boot config) events = some final) :
    let readings := Machine.observed (step platform) clockReading (boot config) events
    let times := readings.map Prod.fst
    let told := estimates (2 ^ 32) 0 (readings.map Prod.snd)
    List.Forall₂ (fun estimate time => estimate ≤ time ∧ estimate ≡ time [MOD 2 ^ 32]) told
      times ∧
    (List.IsChain (fun earlier later => later < earlier + 2 ^ 32) (0 :: times) →
      told = times) ∧
    ∀ time ∈ times, time ≤ final.ctx.clockMs := by
  intro readings times told
  have known := Machine.run_observed_invariant (step platform) clockReading
    (fun readings s => Sound s ∧ Followed readings s)
    (by
      rintro readings s event next ⟨sound, followed⟩ stepped
      have moved := step_move s next event sound stepped
      exact ⟨move_sound s next event sound moved,
        step_followed readings s next event moved sound followed⟩)
    [] (boot config) final events finished
    ⟨boot_sound config, by simp, by simp, List.Pairwise.nil⟩
  rw [List.nil_append] at known
  have followed : Followed readings final := known.2
  have positive : 0 < 2 ^ 32 := by decide
  have shown : readings.map Prod.snd = times.map (· % 2 ^ 32) := by
    rw [List.map_map]
    exact List.map_congr_left followed.low
  have reconstructs := readings_reconstruct (readings.map Prod.snd) times positive shown
    followed.ordered
  refine ⟨reconstructs.behind, reconstructs.exact, ?_⟩
  intro time member
  obtain ⟨reading, among, rfl⟩ := List.mem_map.mp member
  exact followed.past reading among

-- The clock comes round between the two requests.
def twoReadings : List Firmware.Event :=
  let asks : Firmware.Event := .controlIn ⟨.vendor, gsUsbBreqTimestamp⟩ (List.replicate 64 0)
  [.tick 4000000000, asks, .tick 400000000, asks]

theorem host_follows_clock_two_readings :
    ∃ final, Machine.run (step (Platform.embassy true)) (boot resetConfig) twoReadings =
        some final ∧
      (Machine.observed (step (Platform.embassy true)) clockReading (boot resetConfig)
        twoReadings).map Prod.snd = [4000000000, 105032704] ∧
      estimates (2 ^ 32) 0 ((Machine.observed (step (Platform.embassy true)) clockReading
        (boot resetConfig) twoReadings).map Prod.snd) = [4000000000, 4400000000] := by
  obtain ⟨final, finished, shown, times⟩ : ∃ final,
      Machine.run (step (Platform.embassy true)) (boot resetConfig) twoReadings = some final ∧
      (Machine.observed (step (Platform.embassy true)) clockReading (boot resetConfig)
        twoReadings).map Prod.snd = [4000000000, 105032704] ∧
      (Machine.observed (step (Platform.embassy true)) clockReading (boot resetConfig)
        twoReadings).map Prod.fst = [4000000000, 4400000000] := ⟨_, rfl, by decide, by decide⟩
  obtain ⟨_, exact, _⟩ := host_follows_clock (Platform.embassy true) resetConfig twoReadings final
    finished
  refine ⟨final, finished, shown, ?_⟩
  rw [exact (by rw [times]; decide), times]

end NginLink.HostClock
