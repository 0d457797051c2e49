import Mathlib.Data.List.Induction
import Mathlib.Data.List.Nodup

/-!
A sender that keeps a table of what it has sent and finds the item of each reply by a
key. The table knows nothing of what happens on the way. As long as the sender has no key
in use twice, replies that come in the order of their items find the very items they
answer, whatever is lost on the way and whatever else comes in between.
-/

namespace NginLink.Correlation

universe u v w
variable {Item : Type u} {Reply : Type v} {Key : Type w}

/-- How items and replies name each other; a reply to no item has no key. -/
structure Scheme (Item : Type u) (Reply : Type v) (Key : Type w) where
  key : Item → Key
  usable : Item → Bool
  replyKey : Reply → Option Key
  image : Item → Reply
  answers : ∀ item, usable item = true → replyKey (image item) = some (key item)

inductive Fault where
  -- The sender uses a key that is reserved, or still in the table.
  | keyInUse
  -- A reply has a key that is not in the table.
  | unexpected
  deriving DecidableEq

structure Table (scheme : Scheme Item Reply Key) where
  waiting : List Item
  closed : List (Item × Reply)
  distinct : (waiting.map scheme.key).Nodup
  usable : ∀ item ∈ waiting, scheme.usable item = true

variable {scheme : Scheme Item Reply Key}

def Table.empty : Table scheme :=
  { waiting := [], closed := [], distinct := List.nodup_nil
    usable := by
      intro item member
      cases member }

def due (scheme : Scheme Item Reply Key) (way : List Reply) : List Reply :=
  way.filter fun reply => (scheme.replyKey reply).isSome

/-- The replies on the way are due to waiting items, in the order of the items, and each
closed item has got its own reply. -/
structure Agrees (table : Table scheme) (way : List Reply) : Prop where
  ahead : (due scheme way).Sublist (table.waiting.map scheme.image)
  paired : ∀ entry ∈ table.closed, entry.2 = scheme.image entry.1

theorem empty_agrees : Agrees (Table.empty : Table scheme) [] where
  ahead := List.Sublist.slnil
  paired := by
    intro entry member
    cases member

theorem agrees_lost (table : Table scheme) (way less : List Reply) (agrees : Agrees table way)
    (lost : (due scheme less).Sublist (due scheme way)) : Agrees table less :=
  ⟨lost.trans agrees.ahead, agrees.paired⟩

variable [DecidableEq Key]

def Scheme.named (scheme : Scheme Item Reply Key) (key : Key) (item : Item) : Bool :=
  scheme.key item = key

namespace Table

def sends (table : Table scheme) (item : Item) : Except Fault (Table scheme) :=
  if free : scheme.usable item = true ∧ scheme.key item ∉ table.waiting.map scheme.key then
    .ok { table with
      waiting := table.waiting ++ [item]
      distinct := by
        rw [List.map_append, List.map_singleton, ← List.concat_eq_append]
        exact table.distinct.concat free.2
      usable := by
        intro other member
        rcases List.mem_append.mp member with earlier | added
        · exact table.usable other earlier
        · rw [List.mem_singleton.mp added]
          exact free.1 }
  else .error .keyInUse

def takes (table : Table scheme) (reply : Reply) : Except Fault (Table scheme) :=
  match scheme.replyKey reply with
  | none => .ok table
  | some key =>
      match table.waiting.find? (scheme.named key) with
      | none => .error .unexpected
      | some item =>
          .ok
            { waiting := table.waiting.eraseP (scheme.named key)
              closed := table.closed ++ [(item, reply)]
              distinct := table.distinct.sublist (List.eraseP_sublist.map scheme.key)
              usable := fun other member =>
                table.usable other (List.eraseP_sublist.subset member) }

end Table

inductive Happening (Item : Type u) (Reply : Type v) where
  | sent (item : Item)
  | came (reply : Reply)

def Table.follows (table : Table scheme) : Happening Item Reply → Except Fault (Table scheme)
  | .sent item => table.sends item
  | .came reply => table.takes reply

/-- The table after all that has happened, or the first fault. -/
def replay (scheme : Scheme Item Reply Key) (history : List (Happening Item Reply)) :
    Except Fault (Table scheme) :=
  history.foldlM Table.follows Table.empty

theorem replay_snoc (history : List (Happening Item Reply)) (happening : Happening Item Reply) :
    replay scheme (history ++ [happening]) =
      (replay scheme history).bind (·.follows happening) := by
  rw [replay, List.foldlM_append, ← replay]
  cases replay scheme history with
  | error fault => rfl
  | ok table =>
      change (table.follows happening >>= pure) = table.follows happening
      rw [bind_pure]

section Steps
variable (table : Table scheme) (way : List Reply)

theorem sends_fault (item : Item) (fault : Fault) (failed : table.sends item = .error fault) :
    fault = .keyInUse := by
  unfold Table.sends at failed
  split at failed
  · cases failed
  · cases failed
    rfl

theorem agrees_sent (after : Table scheme) (item : Item) (more : List Reply)
    (agrees : Agrees table way) (sends : table.sends item = .ok after)
    (grown : (due scheme more).Sublist (due scheme way ++ [scheme.image item])) :
    Agrees after more := by
  unfold Table.sends at sends
  split at sends
  · cases sends
    refine ⟨grown.trans ?_, agrees.paired⟩
    rw [List.map_append]
    exact agrees.ahead.append_right _
  · cases sends

/-- The items being named apart, the key of the front reply finds the item it is due to,
and what comes behind is still due to the others. -/
theorem find_front (items : List Item) (reply : Reply) (key : Key) (behind : List Reply)
    (distinct : (items.map scheme.key).Nodup)
    (usable : ∀ item ∈ items, scheme.usable item = true)
    (names : scheme.replyKey reply = some key)
    (ahead : (reply :: behind).Sublist (items.map scheme.image)) :
    ∃ item, items.find? (scheme.named key) = some item ∧ reply = scheme.image item ∧
      behind.Sublist ((items.eraseP (scheme.named key)).map scheme.image) := by
  have key_of : ∀ item ∈ items, reply = scheme.image item → scheme.key item = key := by
    rintro item member rfl
    rw [scheme.answers item (usable item member)] at names
    exact Option.some.inj names
  -- The induction is on the items that wait; where the reply is due to a later item, the
  -- first one has another key and the search passes over it.
  induction items with
  | nil => cases ahead
  | cons first others ih =>
      rw [List.map_cons, List.nodup_cons] at distinct
      rw [List.map_cons, List.sublist_cons_iff] at ahead
      rcases ahead with later | ⟨others', front, remaining⟩
      · obtain ⟨item, found, same, rest⟩ := ih distinct.2
          (fun item member => usable item (List.mem_cons_of_mem first member)) later
          (fun item member => key_of item (List.mem_cons_of_mem first member))
        have among := List.mem_of_find?_eq_some found
        have other : scheme.named key first = false := by
          refine decide_eq_false ?_
          intro clash
          rw [clash, ← key_of item (List.mem_cons_of_mem first among) same] at distinct
          exact distinct.1 (List.mem_map_of_mem among)
        refine ⟨item, ?_, same, ?_⟩
        · rw [List.find?_cons_of_neg (by simp [other])]
          exact found
        · rw [List.eraseP_cons_of_neg (by simp [other]), List.map_cons]
          exact rest.cons _
      · cases front
        have named : scheme.named key first = true :=
          decide_eq_true (key_of first List.mem_cons_self rfl)
        refine ⟨first, List.find?_cons_of_pos named, rfl, ?_⟩
        rw [List.eraseP_cons_of_pos named]
        exact remaining

theorem agrees_came (reply : Reply) (agrees : Agrees table (reply :: way)) :
    ∃ after, table.takes reply = .ok after ∧ Agrees after way := by
  obtain ⟨ahead, paired⟩ := agrees
  unfold Table.takes
  cases names : scheme.replyKey reply with
  | none =>
      rw [due, List.filter_cons_of_neg (by simp [names])] at ahead
      exact ⟨table, rfl, ahead, paired⟩
  | some key =>
      rw [due, List.filter_cons_of_pos (by simp [names])] at ahead
      obtain ⟨item, found, same, rest⟩ :=
        find_front table.waiting reply key _ table.distinct table.usable names ahead
      simp only [found]
      refine ⟨_, rfl, rest, ?_⟩
      intro entry member
      rcases List.mem_append.mp member with earlier | added
      · exact paired entry earlier
      · rw [List.mem_singleton.mp added]
        exact same

end Steps

def sentItems (history : List (Happening Item Reply)) : List Item :=
  history.filterMap fun
    | .sent item => some item
    | .came _ => none

def cameReplies (history : List (Happening Item Reply)) : List Reply :=
  history.filterMap fun
    | .sent _ => none
    | .came reply => some reply

/-- Every item sent is in the table once, waiting or closed; every reply due has closed one. -/
structure Booked (table : Table scheme) (history : List (Happening Item Reply)) : Prop where
  items : (table.waiting ++ table.closed.map Prod.fst).Perm (sentItems history)
  replies : table.closed.map Prod.snd = due scheme (cameReplies history)

theorem found_perm (items : List Item) (item : Item) (wanted : Item → Bool)
    (found : items.find? wanted = some item) : items.Perm (item :: items.eraseP wanted) := by
  obtain ⟨named, before, others, rfl, earlier⟩ := List.find?_eq_some_iff_append.mp found
  rw [List.eraseP_append_right _ (by simpa using earlier), List.eraseP_cons_of_pos named]
  exact List.perm_middle

theorem follows_booked (table after : Table scheme) (history : List (Happening Item Reply))
    (happening : Happening Item Reply) (booked : Booked table history)
    (follows : table.follows happening = .ok after) :
    Booked after (history ++ [happening]) := by
  obtain ⟨items, replies⟩ := booked
  cases happening with
  | sent item =>
      simp only [Table.follows, Table.sends] at follows
      split at follows
      · cases follows
        constructor
        · have moved : (table.waiting ++ [item] ++ table.closed.map Prod.fst).Perm
              (table.waiting ++ table.closed.map Prod.fst ++ [item]) := by
            rw [List.append_assoc, List.append_assoc]
            exact List.perm_append_comm.append_left _
          refine moved.trans ?_
          rw [sentItems, List.filterMap_append]
          exact items.append_right _
        · simpa [cameReplies] using replies
      · cases follows
  | came reply =>
      simp only [Table.follows, Table.takes] at follows
      cases names : scheme.replyKey reply with
      | none =>
          simp only [names] at follows
          cases follows
          refine ⟨by simpa [sentItems] using items, ?_⟩
          rw [replies]
          simp [cameReplies, due, names]
      | some key =>
          simp only [names] at follows
          cases found : table.waiting.find? (scheme.named key) with
          | none => simp [found] at follows
          | some item =>
              simp only [found, Except.ok.injEq] at follows
              subst follows
              constructor
              · have silent : sentItems (history ++ [.came reply]) = sentItems history := by
                  simp [sentItems]
                rw [silent, List.map_append, List.map_singleton, ← List.append_assoc]
                refine (List.perm_append_singleton item _).trans ?_
                exact ((found_perm table.waiting item _ found).append_right _).symm.trans items
              · simp [replies, cameReplies, due, names]

theorem replay_booked (history : List (Happening Item Reply)) (table : Table scheme)
    (replayed : replay scheme history = .ok table) : Booked table history := by
  induction history using List.reverseRecOn generalizing table with
  | nil =>
      cases replayed
      exact ⟨List.Perm.refl _, rfl⟩
  | append_singleton history happening ih =>
      rw [replay_snoc] at replayed
      cases before : replay scheme history with
      | error fault => simp [before, Except.bind] at replayed
      | ok earlier =>
          rw [before] at replayed
          exact follows_booked earlier table history happening (ih earlier before) replayed

/-- A sender hears of everything that it sends itself, but not of every reply. -/
structure Heard (history heard : List (Happening Item Reply)) : Prop where
  part : heard.Sublist history
  sent : sentItems heard = sentItems history

theorem heard_snoc (history heard : List (Happening Item Reply))
    (happening : Happening Item Reply) (hears : Heard (history ++ [happening]) heard) :
    (∃ earlier, heard = earlier ++ [happening] ∧ Heard history earlier) ∨
      ∃ reply, happening = .came reply ∧ Heard history heard := by
  obtain ⟨part, sent⟩ := hears
  obtain ⟨earlier, last, rfl, among, final⟩ := List.sublist_append_iff.mp part
  rcases List.sublist_singleton.mp final with rfl | rfl
  · rw [List.append_nil] at sent ⊢
    cases happening with
    | sent item =>
        -- A send cannot be missed: the counts of the sent items would differ.
        have fewer := (among.filterMap fun
          | .sent item => some item
          | .came _ => none).length_le
        have more := congrArg List.length sent
        simp only [sentItems, List.filterMap_append, List.length_append] at fewer more
        simp at more
        omega
    | came reply =>
        refine Or.inr ⟨reply, rfl, among, ?_⟩
        simpa [sentItems] using sent
  · refine Or.inl ⟨earlier, rfl, among, ?_⟩
    simpa only [sentItems, List.filterMap_append, List.append_cancel_right_eq] using sent

/-- Whatever part of the history is heard, only the sender itself can be at fault, and its
table agrees with what is on the way. -/
def Tracks (scheme : Scheme Item Reply Key) (history : List (Happening Item Reply))
    (way : List Reply) : Prop :=
  ∀ heard, Heard history heard → replay scheme heard ≠ .error .keyInUse →
    ∃ table, replay scheme heard = .ok table ∧ Agrees table way

theorem tracks_empty : Tracks scheme [] [] := by
  intro heard hears _
  cases List.sublist_nil.mp hears.part
  exact ⟨Table.empty, rfl, empty_agrees⟩

theorem tracks_lost (history : List (Happening Item Reply)) (way : List Reply)
    (less : List Reply) (tracks : Tracks scheme history way)
    (lost : (due scheme less).Sublist (due scheme way)) : Tracks scheme history less := by
  intro heard hears kept
  obtain ⟨table, replayed, agrees⟩ := tracks heard hears kept
  exact ⟨table, replayed, agrees_lost table way less agrees lost⟩

theorem tracks_sent (history : List (Happening Item Reply)) (way : List Reply)
    (item : Item) (more : List Reply) (tracks : Tracks scheme history way)
    (grown : (due scheme more).Sublist (due scheme way ++ [scheme.image item])) :
    Tracks scheme (history ++ [.sent item]) more := by
  intro heard hears kept
  rcases heard_snoc history heard _ hears with ⟨earlier, rfl, before⟩ | ⟨_, other, _⟩
  · rw [replay_snoc] at kept ⊢
    have fine : replay scheme earlier ≠ .error .keyInUse := by
      intro fault
      rw [fault] at kept
      exact kept rfl
    obtain ⟨table, replayed, agrees⟩ := tracks earlier before fine
    rw [replayed] at kept ⊢
    change table.sends item ≠ _ at kept
    change ∃ after, table.sends item = _ ∧ _
    cases sends : table.sends item with
    | ok after => exact ⟨after, rfl, agrees_sent table way after item more agrees sends grown⟩
    | error fault =>
        rw [sends, sends_fault table item fault sends] at kept
        exact absurd rfl kept
  · cases other

theorem tracks_came (history : List (Happening Item Reply)) (way : List Reply)
    (reply : Reply) (tracks : Tracks scheme history (reply :: way)) :
    Tracks scheme (history ++ [.came reply]) way := by
  intro heard hears kept
  -- Either the reply came through, or it was lost and is only gone from the way.
  rcases heard_snoc history heard _ hears with ⟨earlier, rfl, before⟩ | ⟨_, _, missed⟩
  · rw [replay_snoc] at kept ⊢
    have fine : replay scheme earlier ≠ .error .keyInUse := by
      intro fault
      rw [fault] at kept
      exact kept rfl
    obtain ⟨table, replayed, agrees⟩ := tracks earlier before fine
    rw [replayed]
    exact agrees_came table way reply agrees
  · obtain ⟨table, replayed, agrees⟩ := tracks heard missed kept
    refine ⟨table, replayed, agrees_lost table _ way agrees ?_⟩
    exact (List.sublist_cons_self reply way).filter _

end NginLink.Correlation
