import Mathlib.Data.List.Basic

/-!
Finite runs of an event-driven machine. An event that is not enabled in a state
has no successor, so a run exists only for event sequences the machine can take.
Invariants are proved for one step and lifted here, once, to every run; the same
rule takes an assumption about each step of the run (`Along`), and `Always`
speaks about every state a run passes through.
-/

namespace NginLink.Machine

universe u v w

theorem seen_one_more {Seen : Type w} {holds : Seen → Prop} (seen : List Seen) (last : Seen)
    (known : ∀ each ∈ seen, holds each) (new : holds last) :
    ∀ each ∈ seen ++ [last], holds each :=
  List.forall_mem_append.mpr ⟨known, List.forall_mem_singleton.mpr new⟩

variable {State : Type u} {Event : Type v}

def run (step : State → Event → Option State) : State → List Event → Option State
  | state, [] => some state
  | state, event :: rest =>
      match step state event with
      | none => none
      | some next => run step next rest

/-- Every step of the run is taken from a state in which `allowed` holds of the event. -/
def Along (step : State → Event → Option State) (allowed : State → Event → Prop) :
    State → List Event → Prop
  | _, [] => True
  | state, event :: rest => allowed state event ∧
      ∀ next, step state event = some next → Along step allowed next rest

/-- Every state the run passes through, its first and last included. -/
def Always (step : State → Event → Option State) (holds : State → Prop) :
    State → List Event → Prop
  | state, [] => holds state
  | state, event :: rest => holds state ∧
      ∀ next, step state event = some next → Always step holds next rest

variable (step : State → Event → Option State)

theorem run_cons (state : State) (event : Event) (rest : List Event) :
    run step state (event :: rest) = (step state event).bind (fun next => run step next rest) := by
  rw [run]
  cases step state event <;> rfl

theorem run_cons_some (state final : State) (event : Event) (rest : List Event)
    (finished : run step state (event :: rest) = some final) :
    ∃ next, step state event = some next ∧ run step next rest = some final := by
  rw [run_cons] at finished
  exact Option.bind_eq_some_iff.mp finished

instance decidableAlong (allowed : State → Event → Prop)
    [decidable : ∀ state event, Decidable (allowed state event)] :
    ∀ state events, Decidable (Along step allowed state events)
  | _, [] => isTrue trivial
  | state, event :: rest =>
      match stepped : step state event with
      | none => decidable_of_iff (allowed state event) (by simp [Along, stepped])
      | some next =>
          have := decidableAlong allowed next rest
          decidable_of_iff (allowed state event ∧ Along step allowed next rest)
            (by simp [Along, stepped])

/-- The rule every invariant goes through: preserved by each allowed step, it is
preserved by each run whose steps are allowed. -/
theorem run_invariant_along (allowed : State → Event → Prop) (invariant : State → Prop)
    (preserved : ∀ state event next, invariant state → allowed state event →
      step state event = some next → invariant next)
    (state final : State) (events : List Event) (permitted : Along step allowed state events)
    (finished : run step state events = some final) (initial : invariant state) :
    invariant final := by
  induction events generalizing state with
  | nil =>
      cases finished
      exact initial
  | cons event rest ih =>
      obtain ⟨next, stepped, continued⟩ := run_cons_some step state final event rest finished
      exact ih next (permitted.2 next stepped) continued
        (preserved state event next initial permitted.1 stepped)

theorem along_true (state : State) (events : List Event) :
    Along step (fun _ _ => True) state events := by
  induction events generalizing state with
  | nil => trivial
  | cons event rest ih => exact ⟨trivial, fun next _ => ih next⟩

theorem run_history_invariant (invariant : List Event → State → Prop)
    (preserved : ∀ past state event next, invariant past state →
      step state event = some next → invariant (past ++ [event]) next)
    (past : List Event) (state final : State) (events : List Event)
    (finished : run step state events = some final) (initial : invariant past state) :
    invariant (past ++ events) final := by
  induction events generalizing past state with
  | nil =>
      cases finished
      rw [List.append_nil]
      exact initial
  | cons event rest ih =>
      obtain ⟨next, stepped, continued⟩ := run_cons_some step state final event rest finished
      have further := ih (past ++ [event]) next continued
        (preserved past state event next initial stepped)
      rw [List.append_assoc] at further
      exact further

theorem run_establishes (allowed : State → Event → Prop) (invariant goal : State → Prop)
    (mark : Event)
    (preserved : ∀ state event next, invariant state → allowed state event →
      step state event = some next → invariant next)
    (establishes : ∀ state next, invariant state → allowed state mark →
      step state mark = some next → goal next)
    (keeps : ∀ state event next, invariant state → goal state → step state event = some next →
      goal next)
    (state final : State) (events : List Event) (permitted : Along step allowed state events)
    (finished : run step state events = some final) (initial : invariant state)
    (marked : mark ∈ events) : goal final := by
  induction events generalizing state with
  | nil => cases marked
  | cons event rest ih =>
      obtain ⟨next, stepped, continued⟩ := run_cons_some step state final event rest finished
      have holds := preserved state event next initial permitted.1 stepped
      rcases List.mem_cons.mp marked with rfl | later
      · have both := run_invariant_along step allowed (fun s => invariant s ∧ goal s)
          (fun s e after known may moved =>
            ⟨preserved s e after known.1 may moved, keeps s e after known.1 known.2 moved⟩)
          next final rest (permitted.2 next stepped) continued
          ⟨holds, establishes state next initial permitted.1 stepped⟩
        exact both.2
      · exact ih next (permitted.2 next stepped) continued holds later

theorem along_and (first second : State → Event → Prop) (state : State) (events : List Event)
    (one : Along step first state events) (other : Along step second state events) :
    Along step (fun s event => first s event ∧ second s event) state events := by
  induction events generalizing state with
  | nil => trivial
  | cons event rest ih =>
      exact ⟨⟨one.1, other.1⟩, fun next stepped =>
        ih next (one.2 next stepped) (other.2 next stepped)⟩

theorem along_of_events (admits : Event → Prop) (state : State) (events : List Event)
    (every : ∀ event ∈ events, admits event) :
    Along step (fun _ event => admits event) state events := by
  induction events generalizing state with
  | nil => trivial
  | cons event rest ih =>
      exact ⟨every event (by simp), fun next _ => ih next
        (fun later member => every later (List.mem_cons_of_mem event member))⟩

/-- When exactly the steps outside `allowed` break a property that otherwise holds, the
property holds throughout a run if and only if no such step is taken. -/
theorem always_iff_along (allowed : State → Event → Prop) (invariant holds : State → Prop)
    (current : ∀ state, invariant state → holds state)
    (kept : ∀ state event next, invariant state → allowed state event →
      step state event = some next → invariant next)
    (broken : ∀ state event, invariant state → ¬ allowed state event →
      ∃ next, step state event = some next ∧ ¬ holds next)
    (state : State) (events : List Event) (initial : invariant state) :
    Always step holds state events ↔ Along step allowed state events := by
  induction events generalizing state with
  | nil => exact ⟨fun _ => trivial, fun _ => current state initial⟩
  | cons event rest ih =>
      constructor
      · rintro ⟨_, later⟩
        have permitted : allowed state event := by
          by_contra refused
          obtain ⟨next, stepped, fails⟩ := broken state event initial refused
          apply fails
          cases rest with
          | nil => exact later next stepped
          | cons second others => exact (later next stepped).1
        refine ⟨permitted, ?_⟩
        intro next stepped
        exact (ih next (kept state event next initial permitted stepped)).mp (later next stepped)
      · rintro ⟨permitted, later⟩
        refine ⟨current state initial, ?_⟩
        intro next stepped
        exact (ih next (kept state event next initial permitted stepped)).mpr
          (later next stepped)

end NginLink.Machine
