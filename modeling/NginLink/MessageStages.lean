import Mathlib.Data.List.Nodup
import Mathlib.Logic.Relation
import NginLink.CanDriver

/-!
The life of a host message as an automaton of its own. Messages are numbered in
the order in which CAN_CMD_CHANNEL took them, and a `Tally` keeps only the counts
and numbers that their stages are read off. A `Turn` is what one step can do to a
tally; whatever it does moves each message along one edge of the automaton or
not at all.
-/

namespace NginLink.MessageStages

open BspCan CanDriver

inductive Stage where
  | absent
  | queued
  -- taken by the stopped driver, which drops it
  | ignored
  -- no frame could be built of it
  | rejected
  | writing
  -- given up after 100 ms without a free mailbox
  | timedOut
  | stored
  -- cleared from its mailbox by the timeout of a later message
  | aborted
  -- taken out of its mailbox for the frame of a later message
  | replaced
  | sent
  deriving DecidableEq

inductive Cause where
  | offer
  | take
  | store
  | expire
  | send
  deriving DecidableEq

inductive Edge : Cause → Stage → Stage → Prop where
  | offered : Edge .offer .absent .queued
  | ignored : Edge .take .queued .ignored
  | rejected : Edge .take .queued .rejected
  | begun : Edge .take .queued .writing
  | stored : Edge .store .writing .stored
  | replaced : Edge .store .stored .replaced
  | timedOut : Edge .expire .writing .timedOut
  | aborted : Edge .expire .stored .aborted
  | sent : Edge .send .stored .sent

def Advance (earlier later : Stage) : Prop := ∃ cause, Edge cause earlier later

/-- A stage that no edge leaves. -/
def Stage.isFinal : Stage → Bool
  | .ignored | .rejected | .timedOut | .aborted | .replaced | .sent => true
  | .absent | .queued | .writing | .stored => false

theorem final_stays (earlier later : Stage) (path : Relation.ReflTransGen Advance earlier later)
    (done : earlier.isFinal = true) : later = earlier := by
  rcases Relation.ReflTransGen.cases_head path with same | ⟨middle, ⟨cause, edge⟩, _⟩
  · exact same.symm
  · cases edge <;> cases done

structure Tally where
  -- of the messages that are through `transmit`, in order
  outcomes : List Outcome
  taken : Nat
  offered : Nat
  -- numbers of the frames in the mailboxes
  held : List Nat
  cancelled : List Nat
  replaced : List Nat

namespace Tally

-- The numbers that have left the mailboxes, but not for the bus.
def gone (tally : Tally) : List Nat := tally.cancelled ++ tally.replaced

-- The stage of a message that is through `transmit`.
def settledStage (tally : Tally) (number : Nat) : Outcome → Stage
  | .ignored => .ignored
  | .frameError => .rejected
  | .timeout => .timedOut
  | .echoed | .echoDropped =>
      if number ∈ tally.held then .stored
      else if number ∈ tally.cancelled then .aborted
      else if number ∈ tally.replaced then .replaced
      else .sent

def openStage (tally : Tally) (number : Nat) : Stage :=
  if number < tally.taken then .writing
  else if number < tally.offered then .queued
  else .absent

def stage (tally : Tally) (number : Nat) : Stage :=
  match tally.outcomes[number]? with
  | some outcome => tally.settledStage number outcome
  | none => tally.openStage number

structure Valid (tally : Tally) : Prop where
  taken : tally.taken ≤ tally.offered
  settled : tally.outcomes.length ≤ tally.taken
  single : tally.taken ≤ tally.outcomes.length + 1
  distinct : tally.held.Nodup
  acknowledged : ∀ number ∈ tally.held,
    ∃ outcome, tally.outcomes[number]? = some outcome ∧ outcome.isOk = true
  known : ∀ number ∈ tally.gone, number < tally.outcomes.length
  apart : ∀ number ∈ tally.held, number ∉ tally.gone

def empty : Tally :=
  { outcomes := [], taken := 0, offered := 0, held := [], cancelled := [], replaced := [] }

theorem empty_valid : empty.Valid where
  taken := Nat.le_refl 0
  settled := Nat.le_refl 0
  single := Nat.zero_le 1
  distinct := List.nodup_nil
  acknowledged := by
    intro number member
    cases member
  known := by
    intro number member
    cases member
  apart := by
    intro number member
    cases member

end Tally

/-- What one step can do to a tally. -/
inductive Turn (tally : Tally) : Option Cause → Tally → Prop where
  | rest (cause) : Turn tally cause tally
  | offer : Turn tally (some .offer) { tally with offered := tally.offered + 1 }
  | begin (idle : tally.outcomes.length = tally.taken) (waiting : tally.taken < tally.offered) :
      Turn tally (some .take) { tally with taken := tally.taken + 1 }
  | refuse (outcome) (idle : tally.outcomes.length = tally.taken)
      (waiting : tally.taken < tally.offered)
      (refused : outcome = .ignored ∨ outcome = .frameError) :
      Turn tally (some .take)
        { tally with outcomes := tally.outcomes ++ [outcome], taken := tally.taken + 1 }
  | store (outcome dequeued) (busy : tally.taken = tally.outcomes.length + 1)
      (ok : outcome.isOk = true) :
      Turn tally (some .store)
        { tally with
          outcomes := tally.outcomes ++ [outcome]
          held := remaining tally.held dequeued ++ [tally.outcomes.length]
          replaced := tally.replaced ++ takenOut tally.held dequeued }
  | expire (busy : tally.taken = tally.outcomes.length + 1) :
      Turn tally (some .expire)
        { tally with
          outcomes := tally.outcomes ++ [.timeout]
          held := []
          cancelled := tally.cancelled ++ tally.held }
  | send (index) (present : index < tally.held.length) :
      Turn tally (some .send) { tally with held := tally.held.eraseIdx index }

section Turns
variable (tally : Tally) (valid : tally.Valid)
include valid

theorem held_settled (number : Nat) (member : number ∈ tally.held) :
    number < tally.outcomes.length := by
  obtain ⟨outcome, found, _⟩ := valid.acknowledged number member
  exact (List.getElem?_eq_some_iff.mp found).1

theorem held_stored (number : Nat) (member : number ∈ tally.held) :
    tally.stage number = .stored := by
  obtain ⟨outcome, found, ok⟩ := valid.acknowledged number member
  unfold Tally.stage
  rw [found]
  cases outcome with
  | echoed => exact if_pos member
  | echoDropped => exact if_pos member
  | _ => cases ok

theorem acknowledged_snoc (last : Outcome) (number : Nat) (member : number ∈ tally.held) :
    ∃ outcome, (tally.outcomes ++ [last])[number]? = some outcome ∧ outcome.isOk = true := by
  obtain ⟨outcome, found, ok⟩ := valid.acknowledged number member
  refine ⟨outcome, ?_, ok⟩
  rw [List.getElem?_append_left (held_settled tally valid number member)]
  exact found

-- The number is the one being written; what is held has been settled before.
theorem writing_unheld : tally.outcomes.length ∉ tally.held := by
  intro member
  exact Nat.lt_irrefl _ (held_settled tally valid _ member)

theorem touched_settled (number : Nat)
    (touched : number ∈ tally.gone ∨ number ∈ tally.held) : number < tally.outcomes.length := by
  rcases touched with gone | held
  · exact valid.known number gone
  · exact held_settled tally valid number held

theorem store_valid (outcome : Outcome) (dequeued : Option Nat)
    (busy : tally.taken = tally.outcomes.length + 1) (ok : outcome.isOk = true) :
    Tally.Valid
      { tally with
        outcomes := tally.outcomes ++ [outcome]
        held := remaining tally.held dequeued ++ [tally.outcomes.length]
        replaced := tally.replaced ++ takenOut tally.held dequeued } := by
  have length : (tally.outcomes ++ [outcome]).length = tally.taken := by
    rw [List.length_append, busy]
    rfl
  have kept := (remaining_sublist tally.held dequeued).subset
  have removed := taken_out_subset tally.held dequeued
  have fresh := writing_unheld tally valid
  constructor
  · exact valid.taken
  · exact Nat.le_of_eq length
  · exact Nat.le_succ_of_le (Nat.le_of_eq length.symm)
  · refine List.nodup_append.mpr
      ⟨valid.distinct.sublist (remaining_sublist _ dequeued), List.nodup_singleton _, ?_⟩
    rintro number member other added rfl
    rw [List.mem_singleton.mp added] at member
    exact fresh (kept member)
  · intro number member
    rcases List.mem_append.mp member with earlier | added
    · exact acknowledged_snoc tally valid outcome number (kept earlier)
    · rw [List.mem_singleton.mp added]
      exact ⟨outcome, by simp, ok⟩
  · intro number member
    rw [Tally.gone, ← List.append_assoc] at member
    have touched := (List.mem_append.mp member).imp id (removed ·)
    exact Nat.lt_of_lt_of_le (touched_settled tally valid number touched) (by simp)
  · intro number member gone
    rw [Tally.gone, ← List.append_assoc] at gone
    rcases List.mem_append.mp member with earlier | added
    · rcases List.mem_append.mp gone with before | now
      · exact valid.apart number (kept earlier) before
      · exact remaining_not_taken_out tally.held dequeued valid.distinct number earlier now
    · rw [List.mem_singleton.mp added] at gone
      rcases List.mem_append.mp gone with before | now
      · exact Nat.lt_irrefl _ (valid.known _ before)
      · exact fresh (removed now)

theorem turn_valid (cause : Option Cause) (next : Tally) (turn : Turn tally cause next) :
    next.Valid := by
  cases turn with
  | rest => exact valid
  | offer =>
      exact { valid with taken := Nat.le_succ_of_le valid.taken }
  | begin idle waiting =>
      exact { valid with
        taken := waiting
        settled := Nat.le_succ_of_le valid.settled
        single := Nat.le_of_eq (congrArg (· + 1) idle.symm) }
  | refuse outcome idle waiting refused =>
      have length : (tally.outcomes ++ [outcome]).length = tally.taken + 1 := by
        rw [List.length_append, idle]
        rfl
      constructor
      · exact waiting
      · exact Nat.le_of_eq length
      · exact Nat.le_succ_of_le (Nat.le_of_eq length.symm)
      · exact valid.distinct
      · exact acknowledged_snoc tally valid outcome
      · intro number member
        exact Nat.lt_of_lt_of_le (valid.known number member) (by simp)
      · exact valid.apart
  | store outcome dequeued busy ok => exact store_valid tally valid outcome dequeued busy ok
  | expire busy =>
      have length : (tally.outcomes ++ [Outcome.timeout]).length = tally.taken := by
        rw [List.length_append, busy]
        rfl
      constructor
      · exact valid.taken
      · exact Nat.le_of_eq length
      · exact Nat.le_succ_of_le (Nat.le_of_eq length.symm)
      · exact List.nodup_nil
      · intro number member
        cases member
      · intro number member
        have touched : number ∈ tally.gone ∨ number ∈ tally.held := by
          simp only [Tally.gone, List.mem_append] at member ⊢
          tauto
        exact Nat.lt_of_lt_of_le (touched_settled tally valid number touched) (by simp)
      · intro number member
        cases member
  | send index present =>
      have kept := (List.eraseIdx_sublist tally.held index).subset
      constructor
      · exact valid.taken
      · exact valid.settled
      · exact valid.single
      · exact valid.distinct.sublist (List.eraseIdx_sublist tally.held index)
      · exact fun number member => valid.acknowledged number (kept member)
      · exact valid.known
      · exact fun number member => valid.apart number (kept member)

end Turns

theorem stage_settled (tally : Tally) (number : Nat) (outcome : Outcome)
    (found : tally.outcomes[number]? = some outcome) :
    tally.stage number = tally.settledStage number outcome := by
  rw [Tally.stage, found]

theorem stage_open (tally : Tally) (number : Nat) (unsettled : tally.outcomes.length ≤ number) :
    tally.stage number = tally.openStage number := by
  rw [Tally.stage, List.getElem?_eq_none unsettled]

theorem stage_congr (tally next : Tally) (number : Nat)
    (outcome : next.outcomes[number]? = tally.outcomes[number]?)
    (unsettled : tally.outcomes.length ≤ number →
      next.openStage number = tally.openStage number)
    (held : number ∈ next.held ↔ number ∈ tally.held)
    (cancelled : number ∈ next.cancelled ↔ number ∈ tally.cancelled)
    (replaced : number ∈ next.replaced ↔ number ∈ tally.replaced) :
    next.stage number = tally.stage number := by
  unfold Tally.stage
  rw [outcome]
  cases found : tally.outcomes[number]? with
  | some outcome => cases outcome <;> simp only [Tally.settledStage, held, cancelled, replaced]
  | none => exact unsettled (List.getElem?_eq_none_iff.mp found)

theorem earlier_outcomes (outcomes : List Outcome) (last : Outcome) (number : Nat)
    (other : number ≠ outcomes.length) :
    (outcomes ++ [last])[number]? = outcomes[number]? := by
  rcases Nat.lt_or_ge number outcomes.length with before | after
  · exact List.getElem?_append_left before
  · rw [List.getElem?_eq_none (by simp; omega), List.getElem?_eq_none after]

theorem front_queued (tally : Tally) (idle : tally.outcomes.length = tally.taken)
    (waiting : tally.taken < tally.offered) : tally.stage tally.outcomes.length = .queued := by
  rw [stage_open tally _ (Nat.le_refl _), Tally.openStage, idle, if_neg (Nat.lt_irrefl _),
    if_pos waiting]

theorem busy_writing (tally : Tally) (busy : tally.taken = tally.outcomes.length + 1) :
    tally.stage tally.outcomes.length = .writing := by
  rw [stage_open tally _ (Nat.le_refl _), Tally.openStage, busy, if_pos (Nat.lt_succ_self _)]

section Edges
variable (tally next : Tally) (number : Nat)

theorem offer_edge (valid : tally.Valid)
    (grown : next = { tally with offered := tally.offered + 1 }) :
    next.stage number = tally.stage number ∨
      Edge .offer (tally.stage number) (next.stage number) := by
  have taken := valid.taken
  -- Only the message offered changes its stage; for the others nothing they depend on moves.
  by_cases last : number = tally.offered
  · have unsettled : tally.outcomes.length ≤ number := last ▸ valid.settled.trans taken
    have before : tally.stage number = .absent := by
      rw [stage_open tally number unsettled, Tally.openStage, if_neg (by omega),
        if_neg (by omega)]
    have after : next.stage number = .queued := by
      rw [stage_open next number (by rw [grown]; exact unsettled), Tally.openStage, grown,
        if_neg (by simp; omega), if_pos (by simp; omega)]
    rw [before, after]
    exact Or.inr .offered
  · left
    refine stage_congr tally next number (by rw [grown]) ?_ (by rw [grown]) (by rw [grown])
      (by rw [grown])
    intro _
    have same : number < tally.offered + 1 ↔ number < tally.offered := by omega
    simp only [Tally.openStage, grown, same]

theorem begin_edge (idle : tally.outcomes.length = tally.taken)
    (waiting : tally.taken < tally.offered)
    (begun : next = { tally with taken := tally.taken + 1 }) :
    next.stage number = tally.stage number ∨
      Edge .take (tally.stage number) (next.stage number) := by
  -- The driver takes the front of the queue, the first message without an outcome.
  by_cases front : number = tally.outcomes.length
  · have after := busy_writing next (by rw [begun, ← idle])
    have same : next.outcomes = tally.outcomes := by rw [begun]
    rw [same] at after
    rw [front, front_queued tally idle waiting, after]
    exact Or.inr .begun
  · left
    refine stage_congr tally next number (by rw [begun]) ?_ (by rw [begun]) (by rw [begun])
      (by rw [begun])
    intro unsettled
    have same : number < tally.taken + 1 ↔ number < tally.taken := by omega
    simp only [Tally.openStage, begun, same]

theorem refuse_edge (outcome : Outcome) (idle : tally.outcomes.length = tally.taken)
    (waiting : tally.taken < tally.offered) (refused : outcome = .ignored ∨ outcome = .frameError)
    (settled : next =
      { tally with outcomes := tally.outcomes ++ [outcome], taken := tally.taken + 1 }) :
    next.stage number = tally.stage number ∨
      Edge .take (tally.stage number) (next.stage number) := by
  have added : next.outcomes = tally.outcomes ++ [outcome] := by rw [settled]
  by_cases front : number = tally.outcomes.length
  · subst front
    have found : next.outcomes[tally.outcomes.length]? = some outcome := by
      rw [added, List.getElem?_concat_length]
    rw [front_queued tally idle waiting, stage_settled next _ outcome found]
    rcases refused with rfl | rfl
    · exact Or.inr .ignored
    · exact Or.inr .rejected
  · left
    refine stage_congr tally next number ?_ ?_ (by rw [settled]) (by rw [settled])
      (by rw [settled])
    · rw [added, earlier_outcomes _ outcome number front]
    · intro unsettled
      have same : number < tally.taken + 1 ↔ number < tally.taken := by omega
      simp only [Tally.openStage, settled, same]

theorem store_edge (valid : tally.Valid) (outcome : Outcome) (dequeued : Option Nat)
    (busy : tally.taken = tally.outcomes.length + 1) (ok : outcome.isOk = true)
    (stored : next =
      { tally with
        outcomes := tally.outcomes ++ [outcome]
        held := remaining tally.held dequeued ++ [tally.outcomes.length]
        replaced := tally.replaced ++ takenOut tally.held dequeued }) :
    next.stage number = tally.stage number ∨
      Edge .store (tally.stage number) (next.stage number) := by
  have added : next.outcomes = tally.outcomes ++ [outcome] := by rw [stored]
  by_cases front : number = tally.outcomes.length
  · subst front
    have found : next.outcomes[tally.outcomes.length]? = some outcome := by
      rw [added, List.getElem?_concat_length]
    have held : tally.outcomes.length ∈ next.held := by simp [stored]
    rw [busy_writing tally busy, stage_settled next _ outcome found]
    cases outcome with
    | echoed | echoDropped =>
        rw [Tally.settledStage, if_pos held]
        exact Or.inr .stored
    | _ => cases ok
  · by_cases removed : number ∈ takenOut tally.held dequeued
    · -- A frame is in one mailbox only, so the one taken out is not held any more.
      have held : number ∈ tally.held := taken_out_subset tally.held dequeued removed
      obtain ⟨earlier, found, fine⟩ := acknowledged_snoc tally valid outcome number held
      rw [← added] at found
      have unheld : number ∉ next.held := by
        intro member
        rw [stored] at member
        rcases List.mem_append.mp member with kept | last
        · exact remaining_not_taken_out tally.held dequeued valid.distinct number kept removed
        · exact front (List.mem_singleton.mp last)
      have uncancelled : number ∉ next.cancelled := by
        rw [stored]
        exact fun member => valid.apart number held (List.mem_append_left _ member)
      have replaced : number ∈ next.replaced := by
        rw [stored]
        exact List.mem_append_right _ removed
      rw [held_stored tally valid number held, stage_settled next number earlier found]
      cases earlier with
      | echoed | echoDropped =>
          rw [Tally.settledStage, if_neg unheld, if_neg uncancelled, if_pos replaced]
          exact Or.inr .replaced
      | _ => cases fine
    · left
      have same : number ∈ remaining tally.held dequeued ↔ number ∈ tally.held := by
        rw [← (taken_out_perm tally.held dequeued).mem_iff, List.mem_append]
        exact (or_iff_right removed).symm
      refine stage_congr tally next number ?_ ?_ ?_ (by rw [stored]) ?_
      · rw [added, earlier_outcomes _ outcome number front]
      · intro _
        rw [stored]
        rfl
      · simp [stored, front, same]
      · simp [stored, removed]

theorem expire_edge (valid : tally.Valid) (busy : tally.taken = tally.outcomes.length + 1)
    (expired : next =
      { tally with
        outcomes := tally.outcomes ++ [.timeout]
        held := []
        cancelled := tally.cancelled ++ tally.held }) :
    next.stage number = tally.stage number ∨
      Edge .expire (tally.stage number) (next.stage number) := by
  have added : next.outcomes = tally.outcomes ++ [.timeout] := by rw [expired]
  by_cases front : number = tally.outcomes.length
  · subst front
    have found : next.outcomes[tally.outcomes.length]? = some .timeout := by
      rw [added, List.getElem?_concat_length]
    rw [busy_writing tally busy, stage_settled next _ .timeout found]
    exact Or.inr .timedOut
  · by_cases held : number ∈ tally.held
    · obtain ⟨outcome, found, ok⟩ := acknowledged_snoc tally valid .timeout number held
      rw [← added] at found
      have gone : number ∉ next.held := by simp [expired]
      have cleared : number ∈ next.cancelled := by simp [expired, held]
      rw [held_stored tally valid number held, stage_settled next number outcome found]
      cases outcome with
      | echoed | echoDropped =>
          rw [Tally.settledStage, if_neg gone, if_pos cleared]
          exact Or.inr .aborted
      | _ => cases ok
    · left
      refine stage_congr tally next number ?_ ?_ ?_ ?_ (by rw [expired])
      · rw [added, earlier_outcomes _ .timeout number front]
      · intro _
        rw [expired]
        rfl
      · simp [expired, held]
      · simp [expired, held]

/-- The frame that leaves its mailbox is that of one message, stored until then. -/
theorem send_stage (valid : tally.Valid) (index : Nat) (present : index < tally.held.length)
    (departed : next = { tally with held := tally.held.eraseIdx index }) :
    next.stage number =
      if number = tally.held[index] then .sent else tally.stage number := by
  have remaining : number ∈ next.held ↔ number ≠ tally.held[index] ∧ number ∈ tally.held := by
    rw [departed, ← valid.distinct.mem_erase_iff, valid.distinct.erase_getElem index present]
  split
  · rename_i same
    have held : number ∈ tally.held := same ▸ List.getElem_mem present
    obtain ⟨outcome, found, ok⟩ := valid.acknowledged number held
    have gone : number ∉ next.held := fun member => (remaining.mp member).1 same
    have apart := valid.apart number held
    simp only [Tally.gone, List.mem_append, not_or] at apart
    have uncancelled : number ∉ next.cancelled := by
      rw [departed]
      exact apart.1
    have unreplaced : number ∉ next.replaced := by
      rw [departed]
      exact apart.2
    rw [stage_settled next number outcome (by rw [departed]; exact found)]
    cases outcome with
    | echoed | echoDropped =>
        rw [Tally.settledStage, if_neg gone, if_neg uncancelled, if_neg unreplaced]
    | _ => cases ok
  · rename_i other
    refine stage_congr tally next number (by rw [departed]) ?_ ?_ (by rw [departed])
      (by rw [departed])
    · intro _
      rw [departed]
      rfl
    · rw [remaining]
      exact and_iff_right other

end Edges

/-- Whatever a turn does, each message stays where it is or moves along one edge. -/
theorem turn_edge (tally next : Tally) (cause : Option Cause) (valid : tally.Valid)
    (turn : Turn tally cause next) (number : Nat) :
    next.stage number = tally.stage number ∨
      ∃ reason, cause = some reason ∧ Edge reason (tally.stage number) (next.stage number) := by
  cases turn with
  | rest => exact Or.inl rfl
  | offer =>
      exact (offer_edge tally _ number valid rfl).imp_right fun edge => ⟨.offer, rfl, edge⟩
  | begin idle waiting =>
      exact (begin_edge tally _ number idle waiting rfl).imp_right fun edge => ⟨.take, rfl, edge⟩
  | refuse outcome idle waiting refused =>
      exact (refuse_edge tally _ number outcome idle waiting refused rfl).imp_right
        fun edge => ⟨.take, rfl, edge⟩
  | store outcome dequeued busy ok =>
      exact (store_edge tally _ number valid outcome dequeued busy ok rfl).imp_right
        fun edge => ⟨.store, rfl, edge⟩
  | expire busy =>
      exact (expire_edge tally _ number valid busy rfl).imp_right fun edge => ⟨.expire, rfl, edge⟩
  | send index present =>
      rw [send_stage tally _ number valid index present rfl]
      split
      · rename_i same
        rw [same, held_stored tally valid _ (List.getElem_mem present)]
        exact Or.inr ⟨.send, rfl, .sent⟩
      · exact Or.inl rfl

/-- Nothing but a frame leaving its mailbox counts a message as sent, and nothing revokes it. -/
theorem turn_sent (tally next : Tally) (cause : Option Cause) (valid : tally.Valid)
    (turn : Turn tally cause next) (other : cause ≠ some .send) (number : Nat) :
    next.stage number = .sent ↔ tally.stage number = .sent := by
  rcases turn_edge tally next cause valid turn number with same | ⟨reason, rfl, edge⟩
  · rw [same]
  · generalize tally.stage number = before at edge ⊢
    generalize next.stage number = after at edge ⊢
    cases edge with
    | sent => exact absurd rfl other
    | _ => simp

end NginLink.MessageStages
