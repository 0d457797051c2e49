import Mathlib.Logic.Relation
import NginLink.Machine

/-!
Where the runs of a machine lead. A measure that every allowed step lowers bounds
the length of a run, and where no rest is reached before some allowed step is
left to take, it gives a run to one. A view whose every change is a step of an abstract
machine shows a path of that machine. `observed` is what an observer of each step
has noted by the end of a run.
-/

namespace NginLink.Machine

universe u v w w'
variable {State : Type u} {Event : Type v}
variable (step : State → Event → Option State)

theorem run_append (state middle final : State) (before after : List Event)
    (reached : run step state before = some middle)
    (finished : run step middle after = some final) :
    run step state (before ++ after) = some final := by
  induction before generalizing state with
  | nil =>
      cases reached
      exact finished
  | cons event rest ih =>
      obtain ⟨next, stepped, continued⟩ := run_cons_some step state middle event rest reached
      rw [List.cons_append, run_cons, stepped]
      exact ih next continued

section Descent
variable (allowed : State → Event → Prop) (invariant : State → Prop) (measure : State → Nat)
variable (kept : ∀ state event next, invariant state → allowed state event →
  step state event = some next → invariant next)
variable (lowers : ∀ state event next, invariant state → allowed state event →
  step state event = some next → measure next < measure state)
include kept lowers

theorem descent_bounds_run (state final : State) (events : List Event)
    (permitted : Along step allowed state events)
    (finished : run step state events = some final) (initial : invariant state) :
    events.length + measure final ≤ measure state := by
  induction events generalizing state with
  | nil =>
      cases finished
      exact Nat.le_of_eq (Nat.zero_add _)
  | cons event rest ih =>
      obtain ⟨next, stepped, continued⟩ := run_cons_some step state final event rest finished
      have lower := lowers state event next initial permitted.1 stepped
      have remaining := ih next (permitted.2 next stepped) continued
        (kept state event next initial permitted.1 stepped)
      rw [List.length_cons]
      omega

/-- As long as a state that is not at rest has an allowed step, some run comes to rest. -/
theorem descent_reaches_rest (rest : State → Prop)
    (proceeds : ∀ state, invariant state → rest state ∨
      ∃ event next, allowed state event ∧ step state event = some next)
    (state : State) (initial : invariant state) :
    ∃ events final, Along step allowed state events ∧ run step state events = some final ∧
      rest final := by
  -- Strong induction on the measure: a step that is taken lowers it.
  induction size : measure state using Nat.strongRecOn generalizing state with
  | ind size ih =>
      subst size
      rcases proceeds state initial with done | ⟨event, next, may, stepped⟩
      · exact ⟨[], state, trivial, rfl, done⟩
      · obtain ⟨events, final, permitted, finished, done⟩ :=
          ih (measure next) (lowers state event next initial may stepped) next
            (kept state event next initial may stepped) rfl
        refine ⟨event :: events, final, ⟨may, ?_⟩, ?_, done⟩
        · intro other again
          rw [stepped] at again
          cases again
          exact permitted
        · rw [run_cons, stepped]
          exact finished

end Descent

theorem run_simulates {View : Type w} (view : State → View) (edge : View → View → Prop)
    (invariant : State → Prop)
    (kept : ∀ state event next, invariant state → step state event = some next → invariant next)
    (follows : ∀ state event next, invariant state → step state event = some next →
      view next = view state ∨ edge (view state) (view next))
    (state final : State) (events : List Event)
    (finished : run step state events = some final) (initial : invariant state) :
    Relation.ReflTransGen edge (view state) (view final) := by
  induction events generalizing state with
  | nil =>
      cases finished
      exact .refl
  | cons event rest ih =>
      obtain ⟨next, stepped, continued⟩ := run_cons_some step state final event rest finished
      have path := ih next continued (kept state event next initial stepped)
      rcases follows state event next initial stepped with same | moves
      · rwa [same] at path
      · exact .head moves path

section InnerMachine
variable {Inner : Type w} {InnerEvent : Type w'} (inner : Inner → InnerEvent → Option Inner)
variable (view : State → Inner) (allowed : Inner → InnerEvent → Prop)

/-- Where each step is a step of the inner machine or leaves its view alone, a run shows
the run of the inner machine. -/
theorem run_projects (own : Event → Option InnerEvent)
    (leaves : ∀ state event next, step state event = some next → own event = none →
      view next = view state)
    (takes : ∀ state event next taken, step state event = some next → own event = some taken →
      allowed (view state) taken ∧ inner (view state) taken = some (view next))
    (state final : State) (events : List Event)
    (finished : run step state events = some final) :
    Along inner allowed (view state) (events.filterMap own) ∧
      run inner (view state) (events.filterMap own) = some (view final) := by
  induction events generalizing state with
  | nil =>
      cases finished
      exact ⟨trivial, rfl⟩
  | cons event rest ih =>
      obtain ⟨next, stepped, continued⟩ := run_cons_some step state final event rest finished
      obtain ⟨permitted, reached⟩ := ih next continued
      cases shown : own event with
      | none =>
          rw [List.filterMap_cons_none shown, ← leaves state event next stepped shown]
          exact ⟨permitted, reached⟩
      | some taken =>
          obtain ⟨may, moved⟩ := takes state event next taken stepped shown
          rw [List.filterMap_cons_some shown, run_cons, moved]
          refine ⟨⟨may, ?_⟩, reached⟩
          intro after same
          cases moved.symm.trans same
          exact permitted

theorem run_lifts (lift : InnerEvent → Event) (invariant : State → Prop)
    (follows : ∀ state event after, invariant state → allowed (view state) event →
      inner (view state) event = some after →
      ∃ next, step state (lift event) = some next ∧ view next = after ∧ invariant next)
    (state : State) (last : Inner) (events : List InnerEvent) (initial : invariant state)
    (permitted : Along inner allowed (view state) events)
    (finished : run inner (view state) events = some last) :
    ∃ final, run step state (events.map lift) = some final ∧ view final = last := by
  induction events generalizing state with
  | nil =>
      cases finished
      exact ⟨state, rfl, rfl⟩
  | cons event rest ih =>
      obtain ⟨after, moved, continued⟩ := run_cons_some inner (view state) last event rest finished
      obtain ⟨next, stepped, rfl, kept⟩ := follows state event after initial permitted.1 moved
      rw [List.map_cons, run_cons, stepped]
      exact ih next kept (permitted.2 _ moved) continued

end InnerMachine

section Observation
variable {Seen : Type w} (observe : State → Event → Option Seen)

def observed : State → List Event → List Seen
  | _, [] => []
  | state, event :: rest => (observe state event).toList ++
      match step state event with
      | none => []
      | some next => observed next rest

omit step in
theorem unobserved (seen : List Seen) (state : State) (event : Event)
    (silent : observe state event = none) : seen ++ (observe state event).toList = seen := by
  rw [silent, Option.toList_none, List.append_nil]

theorem run_observed_invariant_along (allowed : State → Event → Prop)
    (invariant : List Seen → State → Prop)
    (preserved : ∀ seen state event next, invariant seen state → allowed state event →
      step state event = some next → invariant (seen ++ (observe state event).toList) next)
    (seen : List Seen) (state final : State) (events : List Event)
    (permitted : Along step allowed state events)
    (finished : run step state events = some final) (initial : invariant seen state) :
    invariant (seen ++ observed step observe state events) final := by
  induction events generalizing seen state with
  | nil =>
      cases finished
      rw [observed, List.append_nil]
      exact initial
  | cons event rest ih =>
      obtain ⟨next, stepped, continued⟩ := run_cons_some step state final event rest finished
      have further := ih _ next (permitted.2 next stepped) continued
        (preserved seen state event next initial permitted.1 stepped)
      rw [observed, stepped, ← List.append_assoc]
      exact further

theorem run_observed_invariant (invariant : List Seen → State → Prop)
    (preserved : ∀ seen state event next, invariant seen state →
      step state event = some next → invariant (seen ++ (observe state event).toList) next)
    (seen : List Seen) (state final : State) (events : List Event)
    (finished : run step state events = some final) (initial : invariant seen state) :
    invariant (seen ++ observed step observe state events) final :=
  run_observed_invariant_along step observe (fun _ _ => True) invariant
    (fun seen state event next holds _ => preserved seen state event next holds)
    seen state final events (along_true step state events) finished initial

end Observation

section Interference
variable {View : Type w} (view : State → View) (hidden : Event → Bool) (invariant : State → Prop)
variable (kept : ∀ state event next, invariant state → step state event = some next →
  invariant next)
variable (unseen : ∀ state event next, invariant state → hidden event = true →
  step state event = some next → view next = view state)
variable (alike : ∀ state twin event next, invariant state → invariant twin →
  view twin = view state → hidden event = false → step state event = some next →
  ∃ other, step twin event = some other ∧ view other = view next)
include kept unseen alike

/-- When hidden events leave the view alone and states of one view answer every other event
alike, a view only depends on the events that are not hidden. -/
theorem run_without_hidden (state twin final : State) (events : List Event)
    (finished : run step state events = some final) (initial : invariant state)
    (twinInitial : invariant twin) (same : view twin = view state) :
    ∃ other, run step twin (events.filter fun event => !hidden event) = some other ∧
      view other = view final := by
  induction events generalizing state twin with
  | nil =>
      cases finished
      exact ⟨twin, rfl, same⟩
  | cons event rest ih =>
      obtain ⟨next, stepped, continued⟩ := run_cons_some step state final event rest finished
      have later := kept state event next initial stepped
      -- The twin skips a hidden step and answers every other one.
      cases concealed : hidden event with
      | true =>
          rw [List.filter_cons_of_neg (by simp [concealed])]
          exact ih next twin continued later twinInitial
            (same.trans (unseen state event next initial concealed stepped).symm)
      | false =>
          obtain ⟨other, answered, agrees⟩ :=
            alike state twin event next initial twinInitial same concealed stepped
          rw [List.filter_cons_of_pos (by simp [concealed]), run_cons, answered]
          exact ih next other continued later (kept twin event other twinInitial answered) agrees

theorem runs_agree_without_hidden (state final other : State) (events others : List Event)
    (finished : run step state events = some final) (ran : run step state others = some other)
    (same : others.filter (fun event => !hidden event) =
      events.filter (fun event => !hidden event))
    (initial : invariant state) : view other = view final := by
  obtain ⟨alone, runs, shows⟩ := run_without_hidden step view hidden invariant kept unseen alike
    state state final events finished initial initial rfl
  obtain ⟨twin, twinRuns, twinShows⟩ := run_without_hidden step view hidden invariant kept unseen
    alike state state other others ran initial initial rfl
  rw [same, runs] at twinRuns
  cases twinRuns
  rw [← twinShows, shows]

/-- Where hidden events are always taken, they can be put into a run at any place. -/
theorem run_with_hidden (ready : State → Prop)
    (accepts : ∀ state event, ready state → hidden event = true →
      ∃ next, step state event = some next)
    (stays : ∀ state event next, invariant state → ready state →
      step state event = some next → ready next)
    (state twin final : State) (others : List Event)
    (finished : run step state (others.filter fun event => !hidden event) = some final)
    (initial : invariant state) (twinInitial : invariant twin) (willing : ready twin)
    (same : view twin = view state) :
    ∃ other, run step twin others = some other ∧ view other = view final := by
  induction others generalizing state twin with
  | nil =>
      cases finished
      exact ⟨twin, rfl, same⟩
  | cons event rest ih =>
      cases concealed : hidden event with
      | true =>
          rw [List.filter_cons_of_neg (by simp [concealed])] at finished
          obtain ⟨next, stepped⟩ := accepts twin event willing concealed
          rw [run_cons, stepped]
          exact ih state next finished initial (kept twin event next twinInitial stepped)
            (stays twin event next twinInitial willing stepped)
            ((unseen twin event next twinInitial concealed stepped).trans same)
      | false =>
          rw [List.filter_cons_of_pos (by simp [concealed])] at finished
          obtain ⟨next, stepped, continued⟩ := run_cons_some step state final event _ finished
          obtain ⟨other, answered, agrees⟩ :=
            alike state twin event next initial twinInitial same concealed stepped
          rw [run_cons, answered]
          exact ih next other continued (kept state event next initial stepped)
            (kept twin event other twinInitial answered)
            (stays twin event other twinInitial willing answered) agrees

end Interference

/-- A count that no step raises by more than one takes every value on its way up. -/
theorem run_passes (count : State → Nat) (invariant : State → Prop)
    (kept : ∀ state event next, invariant state → step state event = some next → invariant next)
    (slow : ∀ state event next, invariant state → step state event = some next →
      count next ≤ count state + 1)
    (state final : State) (events : List Event)
    (finished : run step state events = some final) (initial : invariant state) (value : Nat)
    (low : count state ≤ value) (high : value < count final) :
    ∃ before event after here next, events = before ++ event :: after ∧
      run step state before = some here ∧ step here event = some next ∧
      run step next after = some final ∧ count here = value ∧ count next = value + 1 := by
  induction events generalizing state with
  | nil =>
      cases finished
      omega
  | cons event rest ih =>
      obtain ⟨next, stepped, continued⟩ := run_cons_some step state final event rest finished
      have most := slow state event next initial stepped
      -- The first step that leaves the count above the value is the one looked for.
      by_cases still : count next ≤ value
      · obtain ⟨before, crossing, after, here, there, split, reached, crossed⟩ :=
          ih next continued (kept state event next initial stepped) still
        refine ⟨event :: before, crossing, after, here, there, ?_, ?_, crossed⟩
        · rw [split, List.cons_append]
        · rw [run_cons, stepped]
          exact reached
      · exact ⟨[], event, rest, state, next, rfl, rfl, stepped, continued, by omega, by omega⟩

end NginLink.Machine
