import Mathlib.Data.List.DropRight
import Workflow.Proofs.Conversation.Stuck
import Workflow.Proofs.Dispatch.Tally
import Workflow.Proofs.Session.Pinned

/-!
# Conversations that are kept

Which conversations are at hand follows from those that a session started and from the order in
which they were completed, both listed by a `Roster`. A conversation that is not completed is never
dropped, and one that is completed goes when as many as are kept were completed after it. A session
is a `Course` of starts and replies, with work in between that leaves the conversations at hand
alone; handlers of the user's own may start and reply as well.
-/

namespace Workflow

/-- Where no element is taken twice, one that is not among the last ones has as many after it. -/
theorem List.not_mem_rtake_iff {α : Type} {items : List α} (hdistinct : items.Nodup) {item : α}
    {n : Nat} :
    item ∈ items ∧ item ∉ items.rtake n ↔
      ∃ earlier later, items = earlier ++ item :: later ∧ n ≤ later.length := by
  constructor
  · rintro ⟨hmem, hlast⟩
    have hsplit := List.take_append_drop (items.length - n) items
    rw [← hsplit] at hmem
    rcases List.mem_append.mp hmem with hfront | hback
    · obtain ⟨earlier, between, hfront⟩ := List.append_of_mem hfront
      refine ⟨earlier, between ++ items.rtake n, ?_, ?_⟩
      · rw [← List.cons_append, ← List.append_assoc, ← hfront]
        exact hsplit.symm
      · have hpos : 0 < (items.take (items.length - n)).length := by
          rw [hfront, List.length_append, List.length_cons]
          omega
        simp only [List.length_take] at hpos
        simp only [List.length_append, List.rtake, List.length_drop]
        omega
    · exact absurd hback hlast
  · rintro ⟨earlier, later, rfl, hle⟩
    have hlast : (earlier ++ item :: later).rtake n ⊆ later := by
      rw [List.append_cons, rtake_append_of_le hle, List.rtake]
      exact List.drop_subset _ _
    have hnew : item ∉ later := (List.nodup_cons.mp (List.nodup_append.mp hdistinct).2.1).1
    exact ⟨by simp, fun hmem => hnew (hlast hmem)⟩

/-- One more of the last elements is one in front of them. -/
theorem List.exists_rtake_succ {α : Type} {items : List α} {n : Nat} (h : n < items.length) :
    ∃ item, items.rtake (n + 1) = item :: items.rtake n := by
  have hlt : items.length - (n + 1) < items.length := by omega
  have hnext : items.length - (n + 1) + 1 = items.length - n := by omega
  refine ⟨items[items.length - (n + 1)], ?_⟩
  rw [List.rtake, List.drop_eq_getElem_cons hlt, hnext, List.rtake]

theorem ConversationTable.limit_makeRoom (table : ConversationTable) :
    table.makeRoom.limit = table.limit := by
  unfold makeRoom
  split
  · split <;> rfl
  · rfl

theorem ConversationTable.conversations_makeRoom (table : ConversationTable) :
    table.makeRoom.conversations ⊆ table.conversations := by
  unfold makeRoom
  split
  · split
    · exact fun _ hmem => (List.mem_filter.mp hmem).1
    · exact List.Subset.refl _
  · exact List.Subset.refl _

theorem Keyed.eq_of_mem_put {κ α : Type} [DecidableEq κ] {keyOf : α → κ} {record other : α}
    {records : List α} (hdistinct : (records.map keyOf).Nodup)
    (h : other ∈ put keyOf record records) (hkey : keyOf other = keyOf record) : other = record :=
  List.inj_on_of_nodup_map (nodup_map_put hdistinct record) h (mem_put_self keyOf record records)
    hkey

/-- The conversations that were started, and those that were completed in the order in which that
happened. -/
structure Roster where
  started : List String := []
  completed : List String := []
  deriving DecidableEq, Repr

namespace Roster

/-- The conversations that are to be at hand: those that are not completed and the last of those
that are. -/
def kept (roster : Roster) (limit : Nat) : List String :=
  roster.started.filter fun id => id ∉ roster.completed ∨ id ∈ roster.completed.rtake limit

/-- The roster with a conversation as it stands after a request. -/
def take (roster : Roster) (c : Conversation) : Roster where
  started := if c.id ∈ roster.started then roster.started else roster.started ++ [c.id]
  completed :=
    if c.state = .completed ∧ c.id ∉ roster.completed then roster.completed ++ [c.id]
    else roster.completed

/-- The roster after a start or a reply was answered. -/
def hear (roster : Roster) : Except Fault Conversation → Roster
  | .ok c => roster.take c
  | .error _ => roster

/-- The table holds the conversations that are to be at hand and remembers which of them were
completed. -/
structure Lists (limit made : Nat) (roster : Roster) (table : ConversationTable) : Prop where
  positive : 0 < limit
  bound : table.limit = limit
  ids : table.conversations.map Conversation.id = roster.kept limit
  finished : table.finished = roster.completed.rtake limit
  distinct : roster.started.Nodup
  once : roster.completed.Nodup
  subset : roster.completed ⊆ roster.started
  named : ∀ id ∈ roster.started, ∃ n < made, id = Identifier.ofNumber n

namespace Lists

variable {limit made made' : Nat} {roster : Roster} {table : ConversationTable} {c : Conversation}

theorem later (h : Lists limit made roster table) (hmade : made ≤ made') :
    Lists limit made' roster table :=
  { h with
    named := fun id hid => by
      obtain ⟨n, hn, hname⟩ := h.named id hid
      exact ⟨n, Nat.lt_of_lt_of_le hn hmade, hname⟩ }

theorem mem_ids_iff (h : Lists limit made roster table) {id : String} :
    id ∈ table.conversations.map Conversation.id ↔
      id ∈ roster.started ∧ (id ∉ roster.completed ∨ id ∈ roster.completed.rtake limit) := by
  rw [h.ids, kept, List.mem_filter, decide_eq_true_eq]

theorem nodup_ids (h : Lists limit made roster table) :
    (table.conversations.map Conversation.id).Nodup := by
  rw [h.ids]
  exact h.distinct.filter _

/-- A conversation at hand was completed exactly if the table remembers that. -/
theorem mem_finished_iff (h : Lists limit made roster table) {id : String}
    (hid : id ∈ table.conversations.map Conversation.id) :
    id ∈ table.finished ↔ id ∈ roster.completed := by
  rw [h.finished]
  constructor
  · exact fun hmem => List.drop_subset _ _ hmem
  · intro hmem
    exact (h.mem_ids_iff.mp hid).2.resolve_left (not_not_intro hmem)

/-- A conversation at hand is put in its own place. -/
theorem put_known (h : Lists limit made roster table)
    (hid : c.id ∈ table.conversations.map Conversation.id) :
    Lists limit made roster (table.put c) :=
  { h with ids := by rw [ConversationTable.put, Keyed.map_put, if_pos hid, h.ids] }

/-- A conversation with a new name comes last. -/
theorem put_new (h : Lists limit made roster table) {n : Nat} (hmade : made ≤ n) (hn : n < made')
    (hname : c.id = Identifier.ofNumber n) :
    c.id ∉ roster.started ∧
      Lists limit made' { roster with started := roster.started ++ [c.id] } (table.put c) := by
  have hnew : c.id ∉ roster.started := by
    intro hmem
    obtain ⟨k, hk, hname'⟩ := h.named c.id hmem
    have := Identifier.ofNumber_injective (hname.symm.trans hname')
    omega
  have hunknown : c.id ∉ table.conversations.map Conversation.id :=
    fun hid => hnew (h.mem_ids_iff.mp hid).1
  have hopen : c.id ∉ roster.completed := fun hmem => hnew (h.subset hmem)
  refine ⟨hnew, h.positive, h.bound, ?_, h.finished, ?_, h.once, ?_, ?_⟩
  · rw [ConversationTable.put, Keyed.map_put, if_neg hunknown, h.ids, kept, kept,
      List.filter_append]
    simp [hopen]
  · exact List.nodup_append.mpr ⟨h.distinct, List.nodup_singleton _, by
      rintro id hid _ hmem rfl
      exact hnew (List.mem_singleton.mp hmem ▸ hid)⟩
  · exact fun id hid => List.mem_append_left _ (h.subset hid)
  · intro id hid
    rcases List.mem_append.mp hid with hid | hid
    · obtain ⟨k, hk, hname'⟩ := h.named id hid
      exact ⟨k, by omega, hname'⟩
    · exact ⟨n, hn, (List.mem_singleton.mp hid).trans hname⟩

/-- While there is room for one more completed conversation, none goes. -/
theorem makeRoom_of_le {m : Nat} (h : Lists (m + 1) made roster table)
    (hfew : roster.completed.length ≤ m) : table.makeRoom = table := by
  have hall : table.finished = roster.completed :=
    h.finished.trans (List.rtake_eq_self (Nat.le_succ_of_le hfew))
  unfold ConversationTable.makeRoom
  split
  · rw [if_neg (by rw [h.bound, hall]; omega)]
  · rfl

/-- When there is none, the one goes that was completed first of those that are kept. -/
theorem makeRoom_of_oldest {m : Nat} (h : Lists (m + 1) made roster table) {oldest : String}
    (hmany : m < roster.completed.length)
    (hlast : roster.completed.rtake (m + 1) = oldest :: roster.completed.rtake m) :
    table.makeRoom = { table.erase oldest with finished := roster.completed.rtake m } := by
  unfold ConversationTable.makeRoom
  rw [h.finished.trans hlast]
  refine if_pos ?_
  rw [h.bound, List.length_cons, List.rtake, List.length_drop]
  omega

/-- Room for one more completed conversation leaves those at hand that are to stay once it is
completed. -/
theorem makeRoom {m : Nat} (h : Lists (m + 1) made roster table) {id : String}
    (hopen : id ∉ roster.completed) :
    table.makeRoom.conversations.map Conversation.id = roster.started.filter (fun other =>
        other ∉ roster.completed ++ [id] ∨ other ∈ roster.completed.rtake m ++ [id]) ∧
      table.makeRoom.finished = roster.completed.rtake m := by
  have hids := h.ids
  rw [kept] at hids
  by_cases hfew : roster.completed.length ≤ m
  case pos =>
    rw [h.makeRoom_of_le hfew, hids, h.finished, List.rtake_eq_self hfew,
      List.rtake_eq_self (Nat.le_succ_of_le hfew)]
    refine ⟨List.filter_congr fun other _ => ?_, rfl⟩
    simp only [List.mem_append, decide_eq_decide]
    tauto
  case neg =>
    have hmany := Nat.lt_of_not_le hfew
    obtain ⟨oldest, hlast⟩ := List.exists_rtake_succ hmany
    have hdone : oldest ∈ roster.completed :=
      List.drop_subset _ _ (hlast ▸ List.mem_cons_self : oldest ∈ roster.completed.rtake (m + 1))
    have hnew : oldest ∉ roster.completed.rtake m := by
      have hlastOnce : (roster.completed.rtake (m + 1)).Nodup :=
        h.once.sublist (List.drop_sublist _ _)
      rw [hlast] at hlastOnce
      exact (List.nodup_cons.mp hlastOnce).1
    have herase : (table.erase oldest).conversations.map Conversation.id =
        (table.conversations.map Conversation.id).filter fun other => other ≠ oldest := by
      rw [List.filter_map]
      rfl
    rw [h.makeRoom_of_oldest hmany hlast]
    refine ⟨?_, rfl⟩
    rw [show (_ : List Conversation).map Conversation.id = _ from herase, hids, List.filter_filter,
      hlast]
    refine List.filter_congr fun other _ => ?_
    have hdiffers : id ≠ oldest := fun heq => hopen (heq ▸ hdone)
    by_cases hother : other = oldest
    · subst hother
      simp [hdone, hnew, hdiffers.symm]
    · by_cases hid : other = id
      · subst hid
        simp [hopen, hother]
      · simp [hother, hid]

/-- One more conversation at hand is completed. -/
theorem finish (h : Lists limit made roster table) {id : String}
    (hid : id ∈ table.conversations.map Conversation.id) (hopen : id ∉ roster.completed) :
    Lists limit made { roster with completed := roster.completed ++ [id] }
      { table.makeRoom with finished := table.makeRoom.finished ++ [id] } := by
  obtain ⟨m, rfl⟩ := Nat.exists_eq_add_one.mpr h.positive
  obtain ⟨hids, hfinished⟩ := h.makeRoom hopen
  have hstarted : id ∈ roster.started := (h.mem_ids_iff.mp hid).1
  refine ⟨h.positive, ?_, ?_, ?_, h.distinct, ?_, ?_, h.named⟩
  · exact table.limit_makeRoom.trans h.bound
  · rw [kept, List.rtake_concat_succ]
    exact hids
  · rw [List.rtake_concat_succ, hfinished]
  · exact List.nodup_append.mpr ⟨h.once, List.nodup_singleton _, by
      rintro other hother _ hmem rfl
      exact hopen (List.mem_singleton.mp hmem ▸ hother)⟩
  · exact List.append_subset.mpr ⟨h.subset, List.cons_subset.mpr ⟨hstarted, List.nil_subset _⟩⟩

end Lists

/-- The table holds the conversations that are to be at hand, and those that are completed are the
ones that are listed so. -/
structure Describes (limit made : Nat) (roster : Roster) (table : ConversationTable) : Prop extends
    Lists limit made roster table where
  states : ∀ c ∈ table.conversations, c.state = .completed ↔ c.id ∈ roster.completed
  placed : ∀ c ∈ table.conversations, c.Placed

namespace Describes

variable {limit made made' : Nat} {roster : Roster} {table : ConversationTable} {c : Conversation}

theorem new (made : Nat) (h : 0 < limit) : Describes limit made {} { limit } :=
  ⟨⟨h, rfl, rfl, (List.rtake_nil limit).symm, .nil, .nil, List.Subset.refl _, nofun⟩, nofun, nofun⟩

theorem later (h : Describes limit made roster table) (hmade : made ≤ made') :
    Describes limit made' roster table :=
  ⟨h.toLists.later hmade, h.states, h.placed⟩

/-- A conversation at hand that is as far as it was. -/
theorem put (h : Describes limit made roster table) (hplaced : c.Placed)
    (hid : c.id ∈ table.conversations.map Conversation.id)
    (hstate : c.state = .completed ↔ c.id ∈ roster.completed) :
    Describes limit made roster (table.put c) := by
  refine ⟨h.put_known hid, fun other hother => ?_, fun other hother => ?_⟩
  · rcases Keyed.mem_of_mem_put hother with rfl | hother
    · exact hstate
    · exact h.states other hother
  · rcases Keyed.mem_of_mem_put hother with rfl | hother
    · exact hplaced
    · exact h.placed other hother

/-- A conversation is taken in that is at hand already or that has a new name. -/
theorem track (h : Describes limit made roster table) (hplaced : c.Placed)
    (hid : c.id ∈ table.conversations.map Conversation.id ∨
      ∃ n, made ≤ n ∧ n < made' ∧ c.id = Identifier.ofNumber n)
    (hmade : made ≤ made') (hdone : c.id ∈ roster.completed → c.state = .completed) :
    Describes limit made' (roster.take c) (table.track c) := by
  have hlists : Lists limit made' { roster with started := (roster.take c).started }
      (table.put c) := by
    rcases hid with hid | ⟨n, hn, hn', hname⟩
    · have hstarted := (h.mem_ids_iff.mp hid).1
      rw [Roster.take, if_pos hstarted]
      exact (h.put_known hid).later hmade
    · obtain ⟨hnew, hlists⟩ := h.put_new hn hn' hname
      rw [Roster.take, if_neg hnew]
      exact hlists
  have hself : c.id ∈ (table.put c).conversations.map Conversation.id :=
    List.mem_map_of_mem (Keyed.mem_put_self _ c _)
  -- Of the conversations that were put only the one with this name is another one than before.
  have hothers : ∀ other ∈ (table.put c).conversations,
      other = c ∨ other.id ≠ c.id ∧ other ∈ table.conversations := by
    intro other hother
    by_cases heq : other.id = c.id
    · exact .inl (Keyed.eq_of_mem_put h.nodup_ids hother heq)
    · refine .inr ⟨heq, (Keyed.mem_of_mem_put hother).resolve_left ?_⟩
      rintro rfl
      exact heq rfl
  have hopen : c.id ∈ table.finished ↔ c.id ∈ roster.completed := hlists.mem_finished_iff hself
  by_cases hnow : c.state = .completed ∧ c.id ∉ roster.completed
  · rw [Roster.take, if_pos hnow, ConversationTable.track_of_new ⟨hnow.1, hopen.not.mpr hnow.2⟩]
    have hroom : (table.put c).makeRoom.conversations ⊆ (table.put c).conversations :=
      ConversationTable.conversations_makeRoom _
    refine ⟨hlists.finish hself hnow.2, fun other hother => ?_, fun other hother => ?_⟩
    · rcases hothers other (hroom hother) with rfl | ⟨hne, hother⟩
      · simp [hnow.1]
      · simp [h.states other hother, hne]
    · rcases hothers other (hroom hother) with rfl | ⟨-, hother⟩
      · exact hplaced
      · exact h.placed other hother
  · rw [Roster.take, if_neg hnow, ConversationTable.track_of_not
      fun hnew => hnow ⟨hnew.1, hopen.not.mp hnew.2⟩]
    refine ⟨hlists, fun other hother => ?_, fun other hother => ?_⟩
    · rcases hothers other hother with rfl | ⟨-, hother⟩
      · exact ⟨fun hstate => not_not.mp fun hnot => hnow ⟨hstate, hnot⟩, hdone⟩
      · exact h.states other hother
    · rcases hothers other hother with rfl | ⟨-, hother⟩
      · exact hplaced
      · exact h.placed other hother

end Describes

end Roster

/-- A turn that ends with a fault completes nothing. -/
theorem Conversation.completed_iff_of_fault {c : Conversation} (hplaced : c.Placed)
    {occasion : Occasion} {fault : Fault} (h : (c.meet occasion).response = .error fault) :
    (c.meet occasion).conversation.state = .completed ↔ c.state = .completed := by
  cases htaken : c.takesUp occasion.request with
  | true =>
      have hrunning := (running_meet_iff hplaced htaken).mpr ⟨fault, h⟩
      refine iff_of_false (by rw [hrunning]; decide) ?_
      rintro hcompleted
      cases hrequest : occasion.request <;> simp [hrequest, takesUp, hcompleted] at htaken
  | false => rw [(meet_of_not_takesUp htaken).1]

namespace Engine

open Activity (Holds RetainsEach)
open Operation (Respects)

variable {X : Type} {engine engine' between : Engine X} {roster : Roster} {limit : Nat}

section Requests

theorem plain_publish (t : Template) : Respects Plain (publish t : Work X Template) := by
  refine .bind .get fun _ => .bind (.ofExcept _) fun _ => .bind (plain_stored _) fun taken => ?_
  cases taken with
  | some _ => exact .fail _
  | none => exact .bind (plain_stored _) fun _ => .pure _

theorem plain_afterPublication (engine : Engine X) (publication : Publication) :
    Plain engine (engine.afterPublication publication) := by
  cases publication with
  | publish t => exact plain_publish t engine
  | seed templates =>
      refine Respects.bind (.each (fun t => ?_) templates) (fun _ => .pure _) engine
      refine .bind (.map _ plain_count) fun id => .bind (plain_stored _) fun taken => ?_
      cases taken with
      | some _ => exact .pure _
      | none => exact .map _ (plain_publish _)

/-- A start is answered with a conversation that goes by a new name and is taken in, or it fails and
the conversations at hand are the same. -/
theorem start_answered (routine : String) (bindings : Fields) (engine : Engine X) :
    (∃ fault between, (start routine bindings).perform engine = (.error fault, between) ∧
      Plain engine between) ∨
    ∃ (c : Conversation) (between : Engine X) (n : Nat), (start routine bindings).perform engine =
        (.ok c, { between with table := between.table.track c }) ∧
      Plain engine between ∧ c.Placed ∧ c.id = Identifier.ofNumber n ∧ engine.made ≤ n ∧
        n < between.made := by
  have hplain := plain_routine routine none engine
  rcases hroutine : (Engine.routine routine none).perform engine with ⟨fault | found, asked⟩ <;>
    rw [hroutine] at hplain
  · exact .inl ⟨fault, asked, Operation.perform_bind_error hroutine, hplain⟩
  by_cases hactive : found.status = .active
  case neg =>
    refine .inl ⟨.refusedStart found.id found.name found.status, asked, ?_, hplain⟩
    rw [start, Operation.perform_bind_ok hroutine, if_pos hactive]
    rfl
  have hcheck : (check found.definition : Work X Graph).perform asked = _ := perform_check _
  cases hgraph : Graph.ofDefinition (rules asked.settings) found.definition with
  | error fault =>
    rw [hgraph] at hcheck
    refine .inl ⟨fault, asked, ?_, hplain⟩
    rw [start, Operation.perform_bind_ok hroutine, if_neg (not_not.mpr hactive)]
    exact Operation.perform_bind_error hcheck
  | ok graph =>
  rw [hgraph] at hcheck
  let counted : Engine X := { asked with made := asked.made + 1 }
  let idle : Conversation :=
    { graph, id := Identifier.ofNumber asked.made, routine := found.id
      bindings := .ofFields (Dict.merge found.configuration bindings) }
  have hfresh : (fresh : Work X String).perform asked = (.ok idle.id, counted) := rfl
  have hbegins : (start routine bindings).perform engine = (begin idle).perform counted := by
    rw [start, Operation.perform_bind_ok hroutine, if_neg (not_not.mpr hactive),
      Operation.perform_bind_ok hcheck, Operation.perform_bind_ok hfresh]
    rfl
  obtain ⟨between, -, hcarried, hbegin⟩ := begin_outcome .memory counted idle
  have hcounted : Plain asked counted := plain_count asked
  have hbetween : Plain engine between :=
    trans_of Plain hplain (trans_of Plain hcounted hcarried)
  rw [hbegins]
  rcases hbegin with ⟨fault, hfailed⟩ | hbegun
  · exact .inl ⟨fault, between, hfailed, hbetween⟩
  · let occasion : Occasion := ⟨.start, recorderFor counted idle.routine, fun _ => .ok ()⟩
    have hidle : idle.Placed := Conversation.placed_of_idle rfl
    obtain ⟨hid, -⟩ := idle.belonging_handle occasion.recorder .start
    exact .inr ⟨_, between, asked.made, hbegun, hbetween,
      (Conversation.becomes_meet hidle occasion).placed hidle, hid, hplain.made, hcarried.made⟩

/-- A reply is refused, or the conversation that it is for takes it up and is put in its place. -/
theorem resume_answered (id : String) (input : Value) (engine : Engine X) :
    engine.Refuses (resume id input) ∨
    ∃ (c : Conversation) (between : Engine X), engine.table.find? id = some c ∧
      Plain engine between ∧
      let outcome := c.handle (recorderFor engine c.routine) (.resume input)
      ((∃ fault, outcome.response = .error fault ∧ (resume id input).perform engine =
        (.error fault, { between with table := between.table.put outcome.conversation })) ∨
      (resume id input).perform engine =
        (.ok outcome.conversation,
          { between with table := between.table.track outcome.conversation })) := by
  rcases resume_outcome id input engine with refused | ⟨c, hfind, hgate⟩
  · exact .inl refused
  obtain ⟨between, hcarried, -⟩ := perform_carryOut .memory engine c (.resume input)
  have hplain : Plain engine between := by
    simpa [hcarried] using plain_carryOut c (.resume input) engine
  exact .inr ⟨c, between, hfind, hplain, resume_delivers hfind hgate input hcarried⟩

end Requests

section Course

/-- A course of starts and replies, with work in between that leaves the conversations at hand
alone. The roster says which of them were started and completed. -/
inductive Course (engine : Engine X) : Roster → Engine X → Prop
  | new : Course engine {} engine
  /-- Whatever else is done: names are at most made. -/
  | aside {roster : Roster} {between engine' : Engine X} (course : Course engine roster between)
      (table : engine'.table = between.table) (made : between.made ≤ engine'.made) :
      Course engine roster engine'
  /-- A conversation is started, or the start fails. -/
  | start {roster : Roster} {between engine' : Engine X} {answer : Except Fault Conversation}
      (course : Course engine roster between) (routine : String) (bindings : Fields)
      (answered : (Engine.start routine bindings).perform between = (answer, engine')) :
      Course engine (roster.hear answer) engine'
  /-- A reply is delivered, or it is refused, or its turn ends with a fault. -/
  | resume {roster : Roster} {between engine' : Engine X} {answer : Except Fault Conversation}
      (course : Course engine roster between) (id : String) (input : Value)
      (answered : (Engine.resume id input).perform between = (answer, engine')) :
      Course engine (roster.hear answer) engine'

/-- Some course of starts and replies leads to the engine. -/
def OnCourse (engine engine' : Engine X) : Prop := ∃ roster, Course engine roster engine'

/-- A start keeps a roster that describes the conversations at hand. -/
theorem describes_start (h : roster.Describes limit engine.made engine.table) (routine : String)
    (bindings : Fields) :
    let answered := (start routine bindings).perform engine
    (roster.hear answered.1).Describes limit answered.2.made answered.2.table := by
  intro answered
  rcases start_answered routine bindings engine with
    ⟨fault, between, hfailed, hplain⟩ | ⟨c, between, n, hanswered, hplain, hplaced, hname, hn, hn'⟩
  · rw [show answered = _ from hfailed]
    exact hplain.table ▸ h.later hplain.made
  · rw [show answered = _ from hanswered]
    have hnew : c.id ∉ roster.completed := by
      intro hmem
      obtain ⟨k, hk, hname'⟩ := h.named c.id (h.subset hmem)
      have := Identifier.ofNumber_injective (hname.symm.trans hname')
      omega
    show Roster.Describes limit between.made (roster.take c) (between.table.track c)
    rw [hplain.table]
    exact h.track hplaced (.inr ⟨n, hn, hn', hname⟩) hplain.made (absurd · hnew)

/-- A reply keeps a roster that describes the conversations at hand. -/
theorem describes_resume (h : roster.Describes limit engine.made engine.table) (id : String)
    (input : Value) :
    let answered := (resume id input).perform engine
    (roster.hear answered.1).Describes limit answered.2.made answered.2.table := by
  intro answered
  rcases resume_answered id input engine with
    ⟨fault, refused⟩ | ⟨c, between, hfind, hplain, houtcome⟩
  · rw [show answered = _ from refused]
    exact h
  obtain ⟨hmem, rfl⟩ := ConversationTable.mem_of_find? hfind
  let occasion : Occasion := ⟨.resume input, recorderFor engine c.routine, fun _ => .ok ()⟩
  let after : Conversation := (c.meet occasion).conversation
  have hid : after.id = c.id := (c.belonging_handle occasion.recorder occasion.request).1
  have hplaced : after.Placed :=
    (Conversation.becomes_meet (h.placed c hmem) occasion).placed (h.placed c hmem)
  have hhand : after.id ∈ engine.table.conversations.map Conversation.id :=
    hid ▸ List.mem_map_of_mem hmem
  have hstill : c.state = .completed → after = c := fun hcompleted =>
    (Conversation.handle_of_completed hcompleted occasion.recorder input).1
  rcases houtcome with ⟨fault, hresponse, hfailed⟩ | hanswered
  · rw [show answered = _ from hfailed]
    show Roster.Describes limit between.made roster (between.table.put after)
    rw [hplain.table]
    have hstate : after.state = .completed ↔ after.id ∈ roster.completed := by
      rw [hid, ← h.states c hmem]
      exact Conversation.completed_iff_of_fault (h.placed c hmem) hresponse
    exact (h.put hplaced hhand hstate).later hplain.made
  · rw [show answered = _ from hanswered]
    show Roster.Describes limit between.made (roster.take after) (between.table.track after)
    rw [hplain.table]
    refine h.track hplaced (.inl hhand) hplain.made fun hdone => ?_
    have hcompleted := (h.states c hmem).mpr (hid ▸ hdone)
    rw [hstill hcompleted]
    exact hcompleted

theorem Course.describes (h : ({} : Roster).Describes limit engine.made engine.table)
    (course : Course engine roster engine') :
    roster.Describes limit engine'.made engine'.table := by
  induction course with
  | new => exact h
  | aside _ table made ih => exact table ▸ ih.later made
  | start _ routine bindings answered ih =>
      have hafter := describes_start ih routine bindings
      rwa [answered] at hafter
  | resume _ id input answered ih =>
      have hafter := describes_resume ih id input
      rwa [answered] at hafter

end Course

section Sessions

variable {new : Engine X} {perform : X → Context → Fields → Activity (Engine X) Returned}

theorem OnCourse.aside (h : OnCourse new engine) (table : engine'.table = engine.table)
    (made : engine.made ≤ engine'.made) : OnCourse new engine' := by
  obtain ⟨roster, course⟩ := h
  exact ⟨roster, course.aside table made⟩

theorem OnCourse.plain (h : OnCourse new engine) (hplain : Plain engine engine') :
    OnCourse new engine' := h.aside hplain.table hplain.made

/-- Whatever results of steps are kept and whatever is told, no conversation is touched. -/
theorem sheltered_onCourse (new : Engine X) :
    Sheltered (fun _ _ => True) fun (_ : Unit) (engine : Engine X) => OnCourse new engine where
  quiet hquiet := fun _ h => h.aside hquiet.table hquiet.made
  told _ := fun _ _ h => h.aside rfl (Nat.le_refl _)
  kept _ result := fun engine _ h => h.plain (plain_auditResult _ result engine)
  called _ _ _ _ := trivial

theorem Course.afterStart (perform : X → Context → Fields → Activity (Engine X) Returned)
    (course : Course new roster engine) (routine : String) (bindings : Fields) :
    Course new (roster.hear ((Engine.start routine bindings).perform engine).1)
      (engine.afterJob perform (.start routine bindings)) :=
  course.start routine bindings rfl

theorem Course.afterResume (perform : X → Context → Fields → Activity (Engine X) Returned)
    (course : Course new roster engine) (id : String) (input : Value) :
    Course new (roster.hear ((Engine.resume id input).perform engine).1)
      (engine.afterJob perform (.resume id input)) :=
  course.resume id input rfl

variable (hperform : ∀ x context config,
  Holds (fun _ : Unit => OnCourse new) (perform x context config))

include hperform

/-- A job leads on along the course, as long as handlers do. -/
theorem onCourse_afterJob (h : OnCourse new engine) (job : Job X) :
    OnCourse new (engine.afterJob perform job) := by
  cases job with
  | publication publication => exact h.plain (plain_afterPublication engine publication)
  | errand errand =>
      refine retains_runErrand (i := ()) (holds_runErrand (sheltered_onCourse new) hperform ?_) h
      exact fun call _ engine _ h => h.plain (plain_call call engine)
  | register key handler description =>
      dsimp only [afterJob]
      split
      · exact h.aside rfl (Nat.le_refl _)
      · exact h
  | start routine bindings =>
      obtain ⟨roster, course⟩ := h
      exact ⟨_, course.afterStart perform routine bindings⟩
  | resume id input =>
      obtain ⟨roster, course⟩ := h
      exact ⟨_, course.afterResume perform id input⟩

theorem onCourse_afterJobs (h : OnCourse new engine) (jobs : List (Job X)) :
    OnCourse new (engine.afterJobs perform jobs) := by
  induction jobs generalizing engine with
  | nil => exact h
  | cons job rest ih => exact ih (onCourse_afterJob hperform h job)

end Sessions

/-- After any course of starts and replies, whether they succeed or fail, the conversations at hand
are those that were started and are not completed, together with the last ones of those that were
completed, as many as are kept. One that is not completed is never dropped, and a completed one goes
when so many others were completed after it. Every session is such a course, whatever else is done
in it, as long as handlers of the user's own start and reply in the same way. -/
theorem kept_in_course (settings : Settings) (store : Store) :
    let new : Engine X := ofSettings settings store
    let limit := max 1 settings.finishedLimit.toNat
    (∀ roster engine, Course new roster engine →
      (engine.table.conversations.map Conversation.id = roster.started.filter fun id =>
        id ∉ roster.completed ∨ id ∈ roster.completed.rtake limit) ∧
      (∀ c ∈ engine.table.conversations, c.state = .completed ↔ c.id ∈ roster.completed) ∧
      roster.started.Nodup ∧ roster.completed.Nodup ∧ roster.completed ⊆ roster.started ∧
      ∀ id ∈ roster.started, engine.table.find? id = none ↔
        ∃ earlier later, roster.completed = earlier ++ id :: later ∧ limit ≤ later.length) ∧
    ∀ perform : X → Context → Fields → Activity (Engine X) Returned,
      (∀ x context config, Holds (fun _ : Unit => OnCourse new) (perform x context config)) →
      ∀ jobs, OnCourse new (new.afterJobs perform jobs) := by
  intro new limit
  refine ⟨fun roster engine course => ?_, fun perform hperform jobs => ?_⟩
  · have hpositive : 0 < limit := Nat.lt_of_lt_of_le Nat.one_pos (Nat.le_max_left _ _)
    have h := course.describes (.new new.made hpositive)
    refine ⟨h.ids, h.states, h.distinct, h.once, h.subset, fun id hid => ?_⟩
    have hgone : engine.table.find? id = none ↔
        id ∉ engine.table.conversations.map Conversation.id := by
      simp [ConversationTable.find?, Keyed.find?_eq_none_iff]
    rw [hgone, h.mem_ids_iff, ← List.not_mem_rtake_iff h.once]
    simp only [hid, true_and, not_or, not_not]
    rfl
  · exact onCourse_afterJobs hperform ⟨{}, .new⟩ jobs

/-- Three conversations start. The second one is completed, then the first one; since one completed
conversation is kept, the second one is gone, and the third one goes on waiting. -/
theorem kept_in_course_of_three :
    let new : Engine Empty := ofSettings { finishedLimit := 1 } .inMemory
    let routine := Identifier.ofNumber 1
    let first := Identifier.ofNumber 2
    let second := Identifier.ofNumber 5
    let third := Identifier.ofNumber 8
    let made := ((instantiate askingTemplate "s" [] "" "").perform new).2
    let after := made.afterJobs performNone
      [.start routine [], .start routine [], .start routine [], .resume second (.text "yes"),
        .resume first (.text "yes")]
    Course new ⟨[first, second, third], [second, first]⟩ after ∧
      after.table.conversations.map Conversation.id = [first, third] ∧
      after.table.find? second = none := by
  intro new routine first second third made after
  have hmade := plain_instantiate askingTemplate "s" [] "" "" new
  have hbegun : Course new {} made := Course.new.aside hmade.table hmade.made
  obtain ⟨roster, hroster, hcourse⟩ : ∃ roster : Roster,
      roster = ⟨[first, second, third], [second, first]⟩ ∧ Course new roster after := by
    have hthree := ((hbegun.afterStart performNone routine []).afterStart performNone routine
      []).afterStart performNone routine []
    have hboth :=
      (hthree.afterResume performNone second (.text "yes")).afterResume performNone first
        (.text "yes")
    exact ⟨_, by decide +kernel, hboth⟩
  rw [hroster] at hcourse
  obtain ⟨hids, -, -, -, -, hgone⟩ :=
    (kept_in_course { finishedLimit := 1 } .inMemory).1 _ after hcourse
  refine ⟨hcourse, hids.trans (by decide +kernel), (hgone second (by decide +kernel)).mpr ?_⟩
  exact ⟨[], [first], rfl, Nat.le_refl 1⟩

end Engine

end Workflow
