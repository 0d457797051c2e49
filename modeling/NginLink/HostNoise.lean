import NginLink.FirmwareSteps
import NginLink.Progress
import NginLink.Translation

/-!
What a host may send without any effect: queries, control requests that ask for no
command, packets too short for a message, and transfers that fail. They are answered and
may leave anything in the buffer of `usb_rx_task` or in the `user_id`, but no message,
command or frame depends on what they leave.
-/

namespace NginLink.HostNoise

open AppContext BspCan CanDriver ControlHandler Firmware GsUsbTypes Translation UsbTasks

def isNoise : Firmware.Event → Bool
  | .controlOut req payload => (requestedCmd req payload).isNone
  | .controlIn _ _ | .bulkOutError _ => true
  | .bulkOut packet => packet.bytes.length < GsTxMsg.layout.size
  | _ => false

/-- All of a system but the buffer, the handler and the record of its requests. -/
structure Felt where
  enabled : Bool
  messages : List MessageRecord
  usbTx : UsbTx
  driver : Driver
  ctx : Context

def felt (s : System) : Felt :=
  { enabled := s.usbRx.enabled, messages := s.usbRx.messages, usbTx := s.usbTx
    driver := s.driver, ctx := s.ctx }

variable {platform : Platform}

theorem noise_unfelt (s next : System) (event : Firmware.Event) (noise : isNoise event = true)
    (moved : Move platform s event next) : felt next = felt s := by
  cases moved with
  | answered | queried | short | outError => rfl
  | requested req payload cmd handler asks configured =>
      rw [isNoise, asks] at noise
      cases noise
  | message packet enabled whole =>
      have brief : packet.bytes.length < GsTxMsg.layout.size := of_decide_eq_true noise
      exact absurd brief (Nat.not_lt_of_le whole)
  | _ => cases noise

theorem step_alike (s twin : System) (event : Firmware.Event) (next : System) (sound : Sound s)
    (twinSound : Sound twin) (same : felt twin = felt s) (heard : isNoise event = false)
    (stepped : step platform s event = some next) :
    ∃ other, step platform twin event = some other ∧ felt other = felt next := by
  obtain ⟨handler, controls, ⟨enabled, buf, messages⟩, usbTx, driver, ctx⟩ := s
  obtain ⟨twinHandler, twinControls, ⟨twinEnabled, twinBuf, twinMessages⟩, twinTx, twinDriver,
    twinCtx⟩ := twin
  simp only [felt, Felt.mk.injEq] at same
  obtain ⟨rfl, rfl, rfl, rfl, rfl⟩ := same
  cases event with
  | controlOut req payload =>
      cases stepped
      -- The handlers may differ, in what earlier queries left there, but not in the callbacks.
      have effect := control_out_effect handler twinCtx req payload sound.configured
      have twinEffect := control_out_effect twinHandler twinCtx req payload twinSound.configured
      exact ⟨_, rfl, by simp [felt, controlOut, effect.1, twinEffect.1]⟩
  | controlIn req buf => cases heard
  | bulkOutError buf => cases heard
  | bulkOut packet =>
      -- A whole message overwrites all that is decoded, whatever the buffers held before.
      have whole : GsTxMsg.layout.size ≤ packet.bytes.length :=
        Nat.le_of_not_lt (of_decide_eq_false heard)
      simp only [Firmware.step] at stepped ⊢
      split at stepped
      · rename_i enabled
        cases stepped
        refine ⟨_, if_pos enabled, ?_⟩
        simp only [felt, readPacket, whole, ↓reduceIte, decode_packet _ packet whole]
      · cases stepped
  | epOutEnabled | tick _ =>
      cases stepped
      exact ⟨_, rfl, rfl⟩
  | driver _ | takeRx | takeEcho | writeDone =>
      obtain ⟨result, moved, rfl⟩ := Option.map_eq_some_iff.mp stepped
      exact ⟨_, Option.map_eq_some_iff.mpr ⟨result, moved, rfl⟩, rfl⟩
  | epInEnabled | mailboxSent _ =>
      simp only [Firmware.step] at stepped ⊢
      split at stepped
      · rename_i enabled
        cases stepped
        exact ⟨_, if_pos enabled, rfl⟩
      · cases stepped

section Interference
variable (s next : System) (event : Firmware.Event)

theorem step_sound (sound : Sound s) (stepped : step platform s event = some next) : Sound next :=
  move_sound s next event sound (step_move s next event sound stepped)

theorem step_unfelt (sound : Sound s) (noise : isNoise event = true)
    (stepped : step platform s event = some next) : felt next = felt s :=
  noise_unfelt s next event noise (step_move s next event sound stepped)

theorem noise_taken (enabled : s.usbRx.enabled = true) (noise : isNoise event = true) :
    ∃ after, step platform s event = some after := by
  cases event with
  | controlOut req payload => exact ⟨_, rfl⟩
  | controlIn req buf => exact ⟨_, rfl⟩
  | bulkOut packet => exact ⟨_, if_pos enabled⟩
  | bulkOutError buf => exact ⟨_, if_pos enabled⟩
  | _ => cases noise

theorem step_stays_enabled (sound : Sound s) (enabled : s.usbRx.enabled = true)
    (stepped : step platform s event = some next) : next.usbRx.enabled = true := by
  cases step_move s next event sound stepped with
  | outEnabled => rfl
  | _ => exact enabled

end Interference

/-- Once the OUT endpoint is enabled, noise can be put in at any place of a run. -/
theorem noise_put_in (s final : System) (events noisy : List Firmware.Event) (sound : Sound s)
    (enabled : s.usbRx.enabled = true)
    (finished : Machine.run (step platform) s events = some final)
    (same : noisy.filter (fun event => !isNoise event) =
      events.filter (fun event => !isNoise event)) :
    ∃ other, Machine.run (step platform) s noisy = some other ∧ felt other = felt final := by
  obtain ⟨quiet, ran, shown⟩ := Machine.run_without_hidden (step platform) felt isNoise Sound
    (fun s event next => step_sound s next event) (fun s event next => step_unfelt s next event)
    step_alike s s final events finished sound sound rfl
  rw [← same] at ran
  obtain ⟨other, loud, agrees⟩ := Machine.run_with_hidden (step platform) felt isNoise Sound
    (fun s event next => step_sound s next event) (fun s event next => step_unfelt s next event)
    step_alike (·.usbRx.enabled = true) (fun s event => noise_taken s event)
    (fun s event next => step_stays_enabled s next event)
    s s quiet noisy ran sound sound enabled rfl
  exact ⟨other, loud, agrees.trans shown⟩

/-- In every run the noise can be left out, and runs that differ in nothing but noise leave
everything but the buffer, the handler and the record of requests the same. Once the OUT
endpoint is enabled, noise can also be put in anywhere. -/
theorem noise_is_unfelt (platform : Platform) (config : CanConfig)
    (events : List Firmware.Event) (final : System)
    (finished : Machine.run (step platform) (boot config) events = some final) :
    (∃ quiet, Machine.run (step platform) (boot config)
        (events.filter fun event => !isNoise event) = some quiet ∧ felt quiet = felt final) ∧
    (∀ others other, Machine.run (step platform) (boot config) others = some other →
      others.filter (fun event => !isNoise event) = events.filter (fun event => !isNoise event) →
      felt other = felt final) ∧
    (final.usbRx.enabled = true → ∀ after last noisy,
      Machine.run (step platform) final after = some last →
      noisy.filter (fun event => !isNoise event) = after.filter (fun event => !isNoise event) →
      ∃ other, Machine.run (step platform) final noisy = some other ∧ felt other = felt last) := by
  refine ⟨?_, ?_, ?_⟩
  · exact Machine.run_without_hidden (step platform) felt isNoise Sound
      (fun s event next => step_sound s next event) (fun s event next => step_unfelt s next event)
      step_alike (boot config) (boot config) final events finished (boot_sound config)
      (boot_sound config) rfl
  · intro others other ran same
    exact Machine.runs_agree_without_hidden (step platform) felt isNoise Sound
      (fun s event next => step_sound s next event) (fun s event next => step_unfelt s next event)
      step_alike (boot config) final other events others finished ran same (boot_sound config)
  · intro enabled after last noisy ran same
    exact noise_put_in final last after noisy (run_sound config events final finished) enabled ran
      same

-- A failed transfer fills the buffer, and a short packet follows it, before a message.
def noisyMessage : List Firmware.Event :=
  bringUp ++ [.epOutEnabled, .bulkOutError (Vector.replicate 64 0xFF),
    .controlOut ⟨.vendor, gsUsbBreqSetUserId⟩ [1, 2, 3, 4], .bulkOut ⟨[9, 9], by decide⟩,
    hostMessage 1 0x123] ++ storeMessage

theorem noise_is_unfelt_message :
    ∃ final quiet,
      Machine.run (step (Platform.embassy true)) (boot resetConfig) noisyMessage = some final ∧
      Machine.run (step (Platform.embassy true)) (boot resetConfig)
        (bringUp ++ [.epOutEnabled, hostMessage 1 0x123] ++ storeMessage) = some quiet ∧
      final.handler.userId ≠ quiet.handler.userId ∧ felt quiet = felt final := by
  obtain ⟨final, quiet, finished, ran, register⟩ : ∃ final quiet,
      Machine.run (step (Platform.embassy true)) (boot resetConfig) noisyMessage = some final ∧
      Machine.run (step (Platform.embassy true)) (boot resetConfig)
        (bringUp ++ [.epOutEnabled, hostMessage 1 0x123] ++ storeMessage) = some quiet ∧
      final.handler.userId ≠ quiet.handler.userId := ⟨_, _, rfl, rfl, by decide⟩
  exact ⟨final, quiet, finished, ran, register,
    (noise_is_unfelt (Platform.embassy true) resetConfig noisyMessage final finished).2.1 _ quiet
      ran (by rfl)⟩

end NginLink.HostNoise
