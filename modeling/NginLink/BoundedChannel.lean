import Mathlib.Data.List.Basic

/-!
A bounded first-in first-out channel between tasks. `queued` is what the channel
holds; `accepted`, `refused` and `received` are history variables: every value a
send has put in, every value a send has handed back, and every value a receive
has taken out. No operation reads them. The channel carries its own law, so
order and conservation hold of every channel that can be built.
-/

namespace NginLink.BoundedChannel

universe u
variable {α : Type u} {capacity : Nat}

structure Channel (α : Type u) (capacity : Nat) where
  queued : List α
  accepted : List α
  refused : List α
  received : List α
  bounded : queued.length ≤ capacity
  fifo : received ++ queued = accepted

namespace Channel

def new : Channel α capacity :=
  { queued := [], accepted := [], refused := [], received := []
    bounded := Nat.zero_le _, fifo := rfl }

def hasRoom (channel : Channel α capacity) : Bool := channel.queued.length < capacity

/-- `try_send`: fails only on a full channel. The Boolean is `is_ok()`. -/
def trySend (channel : Channel α capacity) (value : α) : Channel α capacity × Bool :=
  if room : channel.queued.length < capacity then
    ({ channel with
        queued := channel.queued ++ [value]
        accepted := channel.accepted ++ [value]
        bounded := by rw [List.length_append]; exact room
        fifo := by rw [← List.append_assoc, channel.fifo] }, true)
  else ({ channel with refused := channel.refused ++ [value] }, false)

/-- `try_receive`, and `receive` at the moment its future becomes ready. -/
def tryReceive (channel : Channel α capacity) : Option (α × Channel α capacity) :=
  match front : channel.queued with
  | [] => none
  | value :: rest =>
      some (value, { channel with
        queued := rest
        received := channel.received ++ [value]
        bounded := by
          have bounded := channel.bounded
          rw [front, List.length_cons] at bounded
          omega
        fifo := by rw [List.append_assoc, ← channel.fifo, front]; rfl })

@[simp] theorem try_send_sent (channel : Channel α capacity) (value : α) :
    (channel.trySend value).2 = channel.hasRoom := by
  unfold trySend hasRoom
  split <;> simp_all

@[simp] theorem try_send_received (channel : Channel α capacity) (value : α) :
    (channel.trySend value).1.received = channel.received := by
  unfold trySend
  split <;> rfl

theorem try_send_queued (channel : Channel α capacity) (value : α) :
    (channel.trySend value).1.queued =
      if channel.hasRoom then channel.queued ++ [value] else channel.queued := by
  unfold trySend hasRoom
  split <;> simp_all

theorem try_send_accepted (channel : Channel α capacity) (value : α) :
    (channel.trySend value).1.accepted =
      if channel.hasRoom then channel.accepted ++ [value] else channel.accepted := by
  unfold trySend hasRoom
  split <;> simp_all

theorem try_send_refused (channel : Channel α capacity) (value : α) :
    (channel.trySend value).1.refused =
      if channel.hasRoom then channel.refused else channel.refused ++ [value] := by
  unfold trySend hasRoom
  split <;> simp_all

theorem accepted_grows (channel : Channel α capacity) (value : α) :
    channel.accepted <+: (channel.trySend value).1.accepted := by
  rw [try_send_accepted]
  split
  · exact List.prefix_append _ _
  · exact List.prefix_rfl

theorem refused_grows (channel : Channel α capacity) (value : α) :
    channel.refused <+: (channel.trySend value).1.refused := by
  rw [try_send_refused]
  split
  · exact List.prefix_rfl
  · exact List.prefix_append _ _

theorem try_receive_some (channel after : Channel α capacity) (value : α)
    (taken : channel.tryReceive = some (value, after)) :
    channel.queued = value :: after.queued ∧ after.received = channel.received ++ [value] ∧
      after.accepted = channel.accepted ∧ after.refused = channel.refused := by
  unfold tryReceive at taken
  split at taken
  · simp at taken
  · rename_i head rest front
    simp only [Option.some.injEq, Prod.mk.injEq] at taken
    obtain ⟨rfl, rfl⟩ := taken
    exact ⟨front, rfl, rfl, rfl⟩

theorem try_receive_none (channel : Channel α capacity) :
    channel.tryReceive = none ↔ channel.queued = [] := by
  unfold tryReceive
  split <;> simp_all

theorem received_prefix (channel : Channel α capacity) : channel.received <+: channel.accepted :=
  ⟨channel.queued, channel.fifo⟩

theorem received_eq_accepted (channel : Channel α capacity) (drained : channel.queued = []) :
    channel.received = channel.accepted := by
  have law := channel.fifo
  rwa [drained, List.append_nil] at law

theorem full_nonempty (channel : Channel α capacity) (positive : 0 < capacity)
    (full : channel.hasRoom = false) : channel.queued ≠ [] := by
  intro empty
  simp [hasRoom, empty] at full
  omega

end Channel
end NginLink.BoundedChannel
