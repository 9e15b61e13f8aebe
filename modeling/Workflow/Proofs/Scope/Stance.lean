import Workflow.Proofs.Scope.Turnover

/-!
# Engines between two calls

Between two calls the conversations at hand belong to routines that are there, and as long as no
more conversations are completed than the table keeps, none is dropped. `Engine.Stance` says so of
one engine. `Engine.Alike` relates two engines that look alike to a scope: a call of the scope on
both leaves them alike, and so does a call of another scope on the first of them alone.
-/

namespace Workflow

namespace Keyed

variable {κ α : Type} [DecidableEq κ] {keyOf : α → κ} {record : α} {records : List α}
variable {keep : α → Bool}

theorem filter_put (hkeep : ∀ other ∈ records, keyOf other = keyOf record → keep other = keep record) :
    (put keyOf record records).filter keep =
      if keep record then put keyOf record (records.filter keep) else records.filter keep := by
  induction records with
  | nil => cases h : keep record <;> simp [put, h]
  | cons other rest ih =>
      obtain ⟨hother, hrest⟩ := List.forall_mem_cons.mp hkeep
      rw [put]
      by_cases h : keyOf other = keyOf record
      · cases hrecord : keep record <;> simp [put, h, hrecord, hother h]
      · rw [if_neg h, List.filter_cons, List.filter_cons, ih hrest]
        cases hother : keep other <;> cases hrecord : keep record <;> simp [put, h]

end Keyed

namespace ConversationTable

variable {table : ConversationTable} {c : Conversation} {made made' : Nat}
variable {records after : Memory} {done : List String}

/-- The conversations have names of their own that were given before and belong to routines that are
there. All that were completed are among the given ones, and the table keeps as many. -/
structure Orderly (made : Nat) (records : Memory) (done : List String)
    (table : ConversationTable) : Prop where
  named : ∀ c ∈ table.conversations, ∃ n < made, c.id = Identifier.ofNumber n
  distinct : (table.conversations.map Conversation.id).Nodup
  placed : ∀ c ∈ table.conversations, ∃ r ∈ records.routines, r.id = c.routine
  finished : table.finished.Nodup
  counted : table.finished ⊆ done
  room : done.length ≤ table.limit

/-- Every conversation that is completed is among the given ones. -/
def Counts (table : ConversationTable) (done : List String) : Prop :=
  ∀ c ∈ table.conversations, c.state = .completed → c.id ∈ done

theorem track_of_new (h : c.state = .completed ∧ c.id ∉ table.finished) :
    table.track c =
      { (table.put c).makeRoom with finished := (table.put c).makeRoom.finished ++ [c.id] } :=
  if_pos h

theorem track_of_not (h : ¬ (c.state = .completed ∧ c.id ∉ table.finished)) :
    table.track c = table.put c := if_neg h

theorem mem_track_self (table : ConversationTable) (c : Conversation) :
    c ∈ (table.track c).conversations := by
  have hput : c ∈ (table.put c).conversations := Keyed.mem_put_self _ c _
  by_cases hnew : c.state = .completed ∧ c.id ∉ table.finished
  · rw [track_of_new hnew]
    change c ∈ (table.put c).makeRoom.conversations
    unfold makeRoom
    split
    · rename_i oldest rest hfinished
      split
      · refine List.mem_filter.mpr ⟨hput, decide_eq_true fun heq => hnew.2 ?_⟩
        change c.id ∈ (table.put c).finished
        rw [hfinished, heq]
        exact List.mem_cons_self
      · exact hput
    · exact hput
  · rwa [track_of_not hnew]

namespace Orderly

/-- A table with room for everything that is completed drops nothing. -/
theorem track_eq (h : table.Orderly made records done) (hdone : c.state = .completed → c.id ∈ done) :
    table.track c = table.put c ∨
      c.id ∉ table.finished ∧ c.id ∈ done ∧
        table.track c = { table.put c with finished := table.finished ++ [c.id] } := by
  by_cases hnew : c.state = .completed ∧ c.id ∉ table.finished
  · obtain ⟨hcompleted, hnot⟩ := hnew
    have hmem := hdone hcompleted
    have hlength : (c.id :: table.finished).length ≤ done.length :=
      (List.subperm_of_subset (List.nodup_cons.mpr ⟨hnot, h.finished⟩)
        (List.cons_subset.mpr ⟨hmem, h.counted⟩)).length_le
    have hroom : (table.put c).makeRoom = table.put c := by
      unfold makeRoom
      split
      · refine if_neg ?_
        have := h.room
        rw [List.length_cons] at hlength
        change ¬ table.limit ≤ table.finished.length
        omega
      · rfl
    refine .inr ⟨hnot, hmem, ?_⟩
    rw [track_of_new ⟨hcompleted, hnot⟩, hroom]
    rfl
  · exact .inl (track_of_not hnew)

theorem put (h : table.Orderly made records done) (hmade : made ≤ made')
    (hkept : ∀ r ∈ records.routines, ∃ r' ∈ after.routines, r'.id = r.id)
    (hnamed : ∃ n < made', c.id = Identifier.ofNumber n)
    (hplaced : ∃ r ∈ after.routines, r.id = c.routine) :
    (table.put c).Orderly made' after done where
  named other hother := by
    rcases Keyed.mem_of_mem_put hother with rfl | hother
    · exact hnamed
    · obtain ⟨n, hn, hname⟩ := h.named other hother
      exact ⟨n, Nat.lt_of_lt_of_le hn hmade, hname⟩
  distinct := by
    rw [ConversationTable.put, Keyed.map_put]
    split
    · exact h.distinct
    · refine List.nodup_append.mpr ⟨h.distinct, List.nodup_singleton _, fun id hid other hother => ?_⟩
      rintro rfl
      exact ‹c.id ∉ _› (List.mem_singleton.mp hother ▸ hid)
  placed other hother := by
    rcases Keyed.mem_of_mem_put hother with rfl | hother
    · exact hplaced
    · obtain ⟨r, hr, hid⟩ := h.placed other hother
      obtain ⟨r', hr', hid'⟩ := hkept r hr
      exact ⟨r', hr', hid'.trans hid⟩
  finished := h.finished
  counted := h.counted
  room := h.room

theorem of_after (h : table.Orderly made records done) (hmade : made ≤ made')
    (hkept : ∀ r ∈ records.routines, ∃ r' ∈ after.routines, r'.id = r.id) :
    table.Orderly made' after done where
  named c hc := by
    obtain ⟨n, hn, hname⟩ := h.named c hc
    exact ⟨n, Nat.lt_of_lt_of_le hn hmade, hname⟩
  distinct := h.distinct
  placed c hc := by
    obtain ⟨r, hr, hid⟩ := h.placed c hc
    obtain ⟨r', hr', hid'⟩ := hkept r hr
    exact ⟨r', hr', hid'.trans hid⟩
  finished := h.finished
  counted := h.counted
  room := h.room

/-- What a call does to an orderly table: it writes at most one conversation, and the table stays
orderly. -/
theorem on (h : table.Orderly made records done) {change : Turnover} (hmade : made ≤ made')
    (hkept : ∀ r ∈ records.routines, ∃ r' ∈ after.routines, r'.id = r.id)
    (hnamed : ∀ c, change.conversation? = some c → ∃ n < made', c.id = Identifier.ofNumber n)
    (hplaced : ∀ c, change.conversation? = some c → ∃ r ∈ after.routines, r.id = c.routine)
    (hdone : ∀ c, change = .track c → c.state = .completed → c.id ∈ done) :
    (change.on table).Orderly made' after done ∧ (change.on table).conversations =
      match change.conversation? with
      | none => table.conversations
      | some c => Keyed.put Conversation.id c table.conversations := by
  cases change with
  | nothing => exact ⟨h.of_after hmade hkept, rfl⟩
  | put c => exact ⟨h.put hmade hkept (hnamed c rfl) (hplaced c rfl), rfl⟩
  | track c =>
      have hput := h.put hmade hkept (hnamed c rfl) (hplaced c rfl)
      change (table.track c).Orderly made' after done ∧ (table.track c).conversations = _
      rcases h.track_eq (hdone c rfl) with htrack | ⟨hnot, hmem, htrack⟩
      · rw [htrack]
        exact ⟨hput, rfl⟩
      · rw [htrack]
        refine ⟨⟨hput.named, hput.distinct, hput.placed, ?_, ?_, hput.room⟩, rfl⟩
        · refine List.nodup_append.mpr
            ⟨h.finished, List.nodup_singleton _, fun id hid other hother => ?_⟩
          rintro rfl
          exact hnot (List.mem_singleton.mp hother ▸ hid)
        · exact List.append_subset.mpr ⟨h.counted, List.cons_subset.mpr ⟨hmem, List.nil_subset _⟩⟩

/-- Every conversation under the name of one that is new or known belongs to the same routine. -/
theorem routine_eq (h : table.Orderly made records done) {n : Nat}
    (hknown : made ≤ n ∧ c.id = Identifier.ofNumber n ∨ table.Knows c) {other : Conversation}
    (hother : other ∈ table.conversations) (hid : other.id = c.id) : other.routine = c.routine := by
  rcases hknown with ⟨hn, hname⟩ | ⟨old, hold, hid', hroutine⟩
  · obtain ⟨k, hk, hname'⟩ := h.named other hother
    have := Identifier.ofNumber_injective (hname'.symm.trans (hid.trans hname))
    omega
  · rw [List.inj_on_of_nodup_map h.distinct hother hold (hid.trans hid'.symm), hroutine]

end Orderly

end ConversationTable

namespace Memory

variable {records after : Memory} {scope : String} {mine mine' : String → Bool}

/-- Routines that are there stay with the scope they belong to when the records of other scopes stay
as they are. -/
theorem kept_of_only (hbelongs : after.belongs scope = mine')
    (hle : ∀ id, mine id = true → mine' id = true)
    (hothers : (after.only fun id => !mine' id) = records.only fun id => !mine id) {r : Routine}
    (hr : r ∈ records.routines) :
    (∃ r' ∈ after.routines, r'.id = r.id) ∧ mine' r.id = mine r.id := by
  cases hmine : mine r.id with
  | true => exact ⟨exists_of_mine hbelongs (hle _ hmine), hle _ hmine⟩
  | false =>
      have hmem : r ∈ (after.only fun id => !mine' id).routines := by
        rw [hothers]
        exact List.mem_filter.mpr ⟨hr, congrArg not hmine⟩
      obtain ⟨hafter, hnot⟩ := List.mem_filter.mp hmem
      exact ⟨⟨r, hafter, rfl⟩, by simpa using hnot⟩

end Memory

namespace Engine

variable {X : Type} {kind : StoreKind} {scope other : String} {done : List String}
variable {records records' after : Memory} {s t s' t' : Engine X}

/-- The engine as it is between two calls. It has no graphs at hand. -/
structure Stance (kind : StoreKind) (done : List String) (records : Memory) (engine : Engine X) :
    Prop where
  store : engine.store = kind.hold records
  tidy : records.Tidy engine.made
  graphs : engine.graphs = { limit := 0 }
  unwritable : engine.unwritable = []
  orderly : engine.table.Orderly engine.made records done

/-- How a scope looks at two engines between two calls. -/
def outlook (kind : StoreKind) (scope : String) (records records' : Memory) (s t : Engine X) :
    Outlook X :=
  { kind, scope, mine := records.belongs scope,
    left := ⟨records.only fun id => !records.belongs scope id, s.table⟩
    right := ⟨records'.only fun id => !records.belongs scope id, t.table⟩
    settings := s.settings, registry := s.registry, since := s.made }

/-- The records and the conversations that the scope has are the same in both engines, of which the
second one has made no more things. -/
structure Resembles (scope : String) (records records' : Memory) (s t : Engine X) : Prop where
  share : records.share scope = records'.share scope
  conversations : (s.table.conversations.filter fun c => records.belongs scope c.routine) =
    t.table.conversations.filter fun c => records'.belongs scope c.routine
  settings : s.settings = t.settings
  registry : s.registry = t.registry
  made : t.made ≤ s.made

/-- The engines look alike to the scope between two calls. -/
def Alike (kind : StoreKind) (scope : String) (done : List String) (s t : Engine X) : Prop :=
  ∃ records records', s.Stance kind done records ∧ t.Stance kind done records' ∧
    Resembles scope records records' s t

theorem Resembles.refl (scope : String) (records : Memory) (s : Engine X) :
    Resembles scope records records s s := ⟨rfl, rfl, rfl, rfl, Nat.le_refl _⟩

theorem Resembles.belongs (h : Resembles scope records records' s t) :
    records'.belongs scope = records.belongs scope := by
  rw [← Memory.belongs_share, ← h.share, Memory.belongs_share]

theorem Resembles.sees (h : Resembles scope records records' s t) (hs : s.Stance kind done records)
    (ht : t.Stance kind done records') (hmade : s.made = t.made) :
    Sees (outlook kind scope records records' s t) s t := by
  refine ⟨records.share scope, records, records', ?_, ?_, hmade⟩
  · exact ⟨hs.store, hs.tidy, rfl, rfl, rfl, rfl, hs.graphs, hs.unwritable, rfl, rfl, Nat.le_refl _⟩
  · refine ⟨ht.store, ht.tidy, h.belongs, ?_, rfl, rfl, ht.graphs, ht.unwritable, h.settings.symm,
      h.registry.symm, Nat.le_of_eq hmade⟩
    change records'.only (records.belongs scope) = _
    rw [← h.belongs, h.share]
    rfl

/-- An engine after a call of the scope, seen from one of its sides. -/
theorem Stance.after_call (h : s.Stance kind done records) {o : Outlook X} {behind : Backdrop}
    {mine : String → Bool} {change : Turnover} {share : Memory}
    (hkind : o.kind = kind) (hle : ∀ id, o.mine id = true → mine id = true) (hsince : s.made ≤ o.since)
    (hothers : behind.others = records.only fun id => !o.mine id) (htable : behind.table = s.table)
    (hshows : Shows ({ o with mine }.turned change) { behind with table := change.on behind.table }
      share after s')
    (hmine : ∀ c, change.conversation? = some c → o.mine c.routine = true)
    (hknown : ∀ c, change.conversation? = some c →
      (∃ n, o.since ≤ n ∧ n < s'.made ∧ c.id = Identifier.ofNumber n) ∨ s.table.Knows c)
    (hdone : ∀ c, change = .track c → c.state = .completed → c.id ∈ done) :
    s'.Stance kind done after ∧
      (s'.table.conversations = match change.conversation? with
        | none => s.table.conversations
        | some c => Keyed.put Conversation.id c s.table.conversations) ∧
      (∀ c ∈ s.table.conversations, mine c.routine = o.mine c.routine) ∧
      ∀ c, change.conversation? = some c →
        ∀ other ∈ s.table.conversations, other.id = c.id → other.routine = c.routine := by
  have hmade : s.made ≤ s'.made := Nat.le_trans hsince hshows.since
  have hkept {r : Routine} (hr : r ∈ records.routines) :=
    Memory.kept_of_only hshows.belongs hle (hshows.others.trans hothers) hr
  have hnamed (c : Conversation) (hc : change.conversation? = some c) :
      ∃ n < s'.made, c.id = Identifier.ofNumber n := by
    rcases hknown c hc with ⟨n, -, hn, hid⟩ | ⟨old, hold, hid, -⟩
    · exact ⟨n, hn, hid⟩
    · obtain ⟨n, hn, hname⟩ := h.orderly.named old hold
      exact ⟨n, Nat.lt_of_lt_of_le hn hmade, hid.symm.trans hname⟩
  obtain ⟨horderly, hconversations⟩ := h.orderly.on hmade (fun r hr => (hkept hr).1) hnamed
    (fun c hc => Memory.exists_of_mine hshows.belongs (hle _ (hmine c hc))) hdone
  have hafter : s'.table = change.on s.table := by
    rw [hshows.table, htable]
  rw [← hafter] at horderly hconversations
  refine ⟨⟨hkind ▸ hshows.store, hshows.tidy, hshows.graphs, hshows.unwritable, horderly⟩,
    hconversations, fun c hc => ?_, fun c hc other hother => ?_⟩
  · obtain ⟨r, hr, hid⟩ := h.orderly.placed c hc
    rw [← hid]
    exact (hkept hr).2
  · rcases hknown c hc with ⟨n, hn, -, hid⟩ | hknows
    · exact h.orderly.routine_eq (.inl ⟨Nat.le_trans hsince hn, hid⟩) hother
    · exact h.orderly.routine_eq (n := 0) (.inr hknows) hother

/-- The conversations of the scope after a call of the scope. -/
theorem filter_after_call {mine mine' : String → Bool} {change : Turnover}
    {conversations conversations' : List Conversation}
    (hconversations : conversations' = match change.conversation? with
      | none => conversations
      | some c => Keyed.put Conversation.id c conversations)
    (hsame : ∀ c ∈ conversations, mine' c.routine = mine c.routine)
    (hroutine : ∀ c, change.conversation? = some c →
      ∀ other ∈ conversations, other.id = c.id → other.routine = c.routine) :
    (conversations'.filter fun c => mine' c.routine) = match change.conversation? with
      | none => conversations.filter fun c => mine c.routine
      | some c =>
        if mine' c.routine then
          Keyed.put Conversation.id c (conversations.filter fun c => mine c.routine)
        else conversations.filter fun c => mine c.routine := by
  rw [hconversations, ← List.filter_congr hsame]
  cases hchange : change.conversation? with
  | none => rfl
  | some c =>
      exact Keyed.filter_put fun other hother hid => congrArg mine' (hroutine c hchange other hother hid)

/-- The conversation that is taken in after a call stands in the table. -/
theorem mem_of_track {table : ConversationTable} {change : Turnover} {c : Conversation}
    (h : change = .track c) : c ∈ (change.on table).conversations := by
  rw [h]
  exact ConversationTable.mem_track_self table c

/-- A call of the scope leaves the engines alike. -/
theorem Resembles.after_own (h : Resembles scope records records' s t)
    (hs : s.Stance kind done records) (ht : t.Stance kind done records') (hmade : s.made = t.made)
    (hsettled : Settled (outlook kind scope records records' s t) s' t')
    (hcounts : s'.table.Counts done) : Alike kind scope done s' t' := by
  obtain ⟨mine, change, hle, hfair, share, after, after', hshows, hshows', hmade'⟩ := hsettled
  have hdone (c : Conversation) (hc : change = .track c) : c.state = .completed → c.id ∈ done := by
    refine hcounts c ?_
    rw [hshows.table]
    exact mem_of_track hc
  obtain ⟨hstance, hconversations, hsame, hroutine⟩ := hs.after_call rfl hle (Nat.le_refl _)
    rfl rfl hshows (fun c hc => (hfair c hc).mine)
    (fun c hc => (hfair c hc).known.imp_right And.left) hdone
  obtain ⟨hstance', hconversations', hsame', hroutine'⟩ := ht.after_call rfl hle
    (Nat.le_of_eq hmade.symm) rfl rfl hshows' (fun c hc => (hfair c hc).mine)
    (fun c hc => (hfair c hc).known.imp (fun ⟨n, hn, hlt, hid⟩ => ⟨n, hn, hmade' ▸ hlt, hid⟩)
      And.right) hdone
  have hmine : after.belongs scope = mine := hshows.belongs
  have hmine' : after'.belongs scope = mine := hshows'.belongs
  refine ⟨after, after', hstance, hstance', ?_, ?_, hshows.settings.trans hshows'.settings.symm,
    hshows.registry.trans hshows'.registry.symm, Nat.le_of_eq hmade'.symm⟩
  · rw [Memory.share, Memory.share, hmine, hmine']
    exact hshows.share.trans hshows'.share.symm
  · rw [hmine, hmine', filter_after_call hconversations hsame hroutine,
      filter_after_call hconversations' hsame' hroutine']
    have hown : (s.table.conversations.filter fun c =>
          (outlook kind scope records records' s t).mine c.routine) =
        t.table.conversations.filter fun c =>
          (outlook kind scope records records' s t).mine c.routine := by
      rw [show (outlook kind scope records records' s t).mine = records.belongs scope from rfl,
        h.conversations, h.belongs]
    rw [hown]

/-- A call of another scope on the first engine leaves the engines alike. -/
theorem Resembles.after_other (h : Resembles scope records records' s t)
    (hs : s.Stance kind done records) (ht : t.Stance kind done records') (hne : scope ≠ other)
    (hsettled : Settled (outlook kind other records records s s) s' s')
    (hcounts : s'.table.Counts done) : Alike kind scope done s' t := by
  obtain ⟨mine, change, hle, hfair, share, after, -, hshows, -, -⟩ := hsettled
  have hdone (c : Conversation) (hc : change = .track c) : c.state = .completed → c.id ∈ done := by
    refine hcounts c ?_
    rw [hshows.table]
    exact mem_of_track hc
  obtain ⟨hstance, hconversations, -, hroutine⟩ := hs.after_call rfl hle (Nat.le_refl _)
    rfl rfl hshows (fun c hc => (hfair c hc).mine)
    (fun c hc => (hfair c hc).known.imp_right And.left) hdone
  have hothers : (after.only fun id => !after.belongs other id) =
      records.only fun id => !records.belongs other id := by
    rw [show after.belongs other = mine from hshows.belongs]
    exact hshows.others
  have hbelongs : after.belongs scope = records.belongs scope := by
    rw [← hshows.tidy.belongs_only hne, hothers, hs.tidy.belongs_only hne]
  refine ⟨after, records', hstance, ht, ?_, ?_, hshows.settings.trans h.settings,
    hshows.registry.trans h.registry, ?_⟩
  · rw [← hshows.tidy.share_only hne, hothers, hs.tidy.share_only hne, h.share]
  · have hsame : ∀ c ∈ s.table.conversations,
        after.belongs scope c.routine = records.belongs scope c.routine :=
      fun c _ => congrFun hbelongs c.routine
    rw [filter_after_call hconversations hsame hroutine, ← h.conversations]
    cases hchange : change.conversation? with
    | none => rfl
    | some c =>
        have hother : after.belongs other c.routine = true := by
          rw [show after.belongs other = mine from hshows.belongs]
          exact hle _ (hfair c hchange).mine
        exact if_neg (Bool.eq_false_iff.mp (hshows.tidy.belongs_apart hne.symm hother))
  · exact Nat.le_trans h.made hshows.since

end Engine

end Workflow
