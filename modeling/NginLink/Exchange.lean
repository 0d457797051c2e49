import NginLink.ExactlyOnce
import NginLink.SharedBus

/-!
Several dongles on one bus, all of them keeping up. What `ExactlyOnce` says of one sender
and `SharedBus` of one reader together make the bus a reliable broadcast: at rest the
host of the reader has got every message of every sender once, and nothing else.
-/

namespace NginLink.Exchange

open BoundedChannel BspCan CanDriver ExactlyOnce Firmware Lifecycle Quiescence Reception SharedBus

variable {platform : Platform}

-- A session that was paced and served throughout and has worked off all it was given.
structure Completed (window : Nat) (session : Session platform) : Prop where
  fits : window ≤ 16
  served : Machine.Along (step platform) (PacedAndServed window) (boot session.config)
    session.events
  rest : AtRest session.final
  running : session.final.driver.phase ≠ .panicked
  drained : session.final.driver.can.mailboxes = []

/-- A reader that has read exactly these frames off the bus and lost none on the way up. -/
structure HeardAll (session : Session platform) (frames : List Frame) : Prop where
  heard : framesRead session.final.driver.log = frames
  unrefused : session.final.ctx.canRx.refused = []
  unevicted : evicted session.final.driver.log = []
  empty : session.final.ctx.canRx.queued = []

theorem heard_all_taken (reader : Session platform) (frames : List Frame)
    (all : HeardAll reader frames) : takenFrames reader.final.usbTx = frames.map hostImage := by
  have flow := run_flow reader.config reader.events reader.final reader.finished
  have received := Channel.received_eq_accepted reader.final.ctx.canRx all.empty
  have exact := flow.complete all.unrefused
  have length := flow.removed
  rw [all.unevicted, List.length_nil, Nat.add_zero] at length
  have taken := flow.taken.eq_of_length (by rw [List.length_map, length])
  rw [taken, received, exact, all.heard, List.map_map]
  rfl

theorem completed_kept (documented : platform.Documented) (window : Nat)
    (session : Session platform) (completed : Completed window session) :
    ExactlyOnce.Kept session.final :=
  run_kept documented session.config window completed.fits session.events session.final
    completed.served session.finished

theorem carried_iff_read {Dongle : Type} [DecidableEq Dongle] (documented : platform.Documented)
    (senders : Dongle → Session platform) (traffic : Traffic senders) (window : Nat)
    (completed : ∀ dongle, Completed window (senders dongle)) (dongle : Dongle) (number : Nat) :
    (dongle, number) ∈ traffic.carried.map source ↔
      number < (senders dongle).final.usbRx.messages.length := by
  have kept := completed_kept documented window (senders dongle) (completed dongle)
  obtain ⟨waiting, empty⟩ := (completed dongle).rest.driver.resolve_left (completed dongle).running
  -- What a sender at rest has read is in stage sent, and that is what has left for the bus.
  have known := departed_known documented (senders dongle)
  rw [← sent_iff_read (senders dongle).final kept empty waiting (completed dongle).drained number,
    ← known.sent number, ← traffic.merged dongle]
  constructor
  · intro member
    obtain ⟨entry, carried, same⟩ := List.mem_map.mp member
    cases same
    exact List.mem_map_of_mem (List.mem_map_of_mem (List.mem_filter.mpr ⟨carried, by simp⟩))
  · intro member
    obtain ⟨slot, among, rfl⟩ := List.mem_map.mp member
    obtain ⟨entry, chosen, rfl⟩ := List.mem_map.mp among
    obtain ⟨carried, own⟩ := List.mem_filter.mp chosen
    refine List.mem_map.mpr ⟨entry, carried, ?_⟩
    rw [source, of_decide_eq_true own]

def servedFrames : List (Nat × Frame) :=
  Machine.observed (step (Platform.embassy true)) departure (boot resetConfig) bothServed

def readsServed : List Firmware.Event :=
  bringUp ++ .epInEnabled :: (servedFrames.map fun slot => .driver (.frame slot.2)) ++
    [.takeRx, .writeDone, .takeRx]

end NginLink.Exchange
