import Workflow.Engine.Catalog
import Workflow.Proofs.Engine
import Workflow.Proofs.Identifier
import Workflow.Proofs.Store.Holding

/-!
# Templates once they are published

The catalogue refuses a key that is taken, and tables refuse an identifier that is taken. A store in
memory does not: a template with the identifier of another one takes its place, under whatever key.
So a template on tables is there for good, and one in memory is there until another one is published
under its identifier.
-/

namespace Workflow

namespace Keyed

variable {κ α : Type} [DecidableEq κ] {keyOf : α → κ} {record : α} {records : List α}

/-- Where each key is taken once, a record is found by its key. -/
theorem find?_eq_some_iff (hdistinct : (records.map keyOf).Nodup) :
    find? keyOf (keyOf record) records = some record ↔ record ∈ records := by
  constructor
  · exact List.mem_of_find?_eq_some
  · intro hmem
    cases hfind : find? keyOf (keyOf record) records with
    | none => exact absurd (decide_eq_true rfl) (List.find?_eq_none.mp hfind record hmem)
    | some found =>
        have hkey : keyOf found = keyOf record := by simpa using List.find?_some hfind
        rw [List.inj_on_of_nodup_map hdistinct (List.mem_of_find?_eq_some hfind) hmem hkey]

theorem find?_eq_none_iff {key : κ} :
    find? keyOf key records = none ↔ ∀ other ∈ records, keyOf other ≠ key := by
  simp [find?]

theorem nodup_map_put (h : (records.map keyOf).Nodup) (record : α) :
    ((put keyOf record records).map keyOf).Nodup := by
  rw [map_put]
  split
  · exact h
  · rename_i hnot
    exact List.nodup_append.mpr ⟨h, List.nodup_singleton _, by
      rintro key hkey _ hrecord rfl
      exact hnot (List.mem_singleton.mp hrecord ▸ hkey)⟩

/-- Names of another kind stay apart when the record that is put has a name of its own. -/
theorem nodup_map_put_of_new {β : Type} {nameOf : α → β} (h : (records.map nameOf).Nodup)
    (hnew : ∀ other ∈ records, nameOf other ≠ nameOf record) :
    ((put keyOf record records).map nameOf).Nodup := by
  induction records with
  | nil => exact List.nodup_singleton _
  | cons other rest ih =>
      obtain ⟨hother, hrest⟩ := List.nodup_cons.mp h
      obtain ⟨hne, hnewRest⟩ := List.forall_mem_cons.mp hnew
      rw [put]
      split
      · refine List.nodup_cons.mpr ⟨fun hmem => ?_, hrest⟩
        obtain ⟨taken, htaken, heq⟩ := List.mem_map.mp hmem
        exact hnewRest taken htaken heq
      · refine List.nodup_cons.mpr ⟨fun hmem => ?_, ih hrest hnewRest⟩
        obtain ⟨taken, htaken, heq⟩ := List.mem_map.mp hmem
        rcases mem_of_mem_put htaken with rfl | htaken
        · exact hne heq.symm
        · exact hother (List.mem_map.mpr ⟨taken, htaken, heq⟩)

end Keyed

/-- A template under an identifier that is not taken leaves the others where they are. -/
theorem Memory.mem_insertTemplate {records : Memory} {kept t : Template}
    (hmem : kept ∈ records.templates) (hnew : records.template? t.id = none) :
    kept ∈ (records.insertTemplate t).templates := by
  rw [insertTemplate, Keyed.put_of_forall_ne (Keyed.find?_eq_none_iff.mp hnew)]
  exact List.mem_append_left _ hmem

namespace Store

/-- A template under a key that is not taken is stored, unless tables have its identifier. -/
theorem insertTemplate_outcome (kind : StoreKind) {records : Memory} {t : Template}
    (hkey : records.templateByKey? t.key = none) :
    (insertTemplate t).perform (kind.hold records) = (.error .duplicateRow, kind.hold records) ∨
      (kind = .tables → records.template? t.id = none) ∧
        (insertTemplate t).perform (kind.hold records) =
          (.ok (), kind.hold (records.insertTemplate t)) := by
  cases kind with
  | memory => exact .inr ⟨by rintro ⟨⟩, rfl⟩
  | tables =>
      cases hid : records.template? t.id with
      | none =>
          have hnew := Keyed.find?_eq_none_iff.mp hid
          refine .inr ⟨fun _ => rfl, ?_⟩
          rw [perform_insertTemplate hnew (Keyed.find?_eq_none_iff.mp hkey), Memory.insertTemplate,
            Keyed.put_of_forall_ne hnew]
      | some taken =>
          left
          refine perform_change_error (by rintro ⟨⟩) fun _ => if_pos ?_
          rw [Tables.templates_ofRecords, List.any_map, List.any_eq_true]
          have hsame : taken.id = t.id := by simpa using List.find?_some hid
          exact ⟨taken, List.mem_of_find?_eq_some hid, by simp [TemplateRow.ofTemplate, hsame]⟩

end Store

/-- What may be asked of the catalogue that writes to it. The templates that are seeded get
identifiers of their own. -/
inductive Publication where
  /-- Publish a template under the identifier it has. -/
  | publish (template : Template)
  /-- Publish those of the templates whose keys are not taken. -/
  | seed (templates : List Template)
  deriving DecidableEq, Repr

namespace Engine

variable {X : Type} {engine : Engine X} {kind : StoreKind} {records : Memory}

/-- The engine after a publication, however it ended. -/
def afterPublication (engine : Engine X) : Publication → Engine X
  | .publish template => ((publish template).perform engine).2
  | .seed templates => ((seedFrom templates).perform engine).2

/-- The engine after publications in a row. -/
def afterPublications (engine : Engine X) (publications : List Publication) : Engine X :=
  publications.foldl afterPublication engine

/-- The template that a publication stored under an identifier of the caller's choice. -/
def accepted (engine : Engine X) : Publication → List Template
  | .publish template =>
    match ((publish template).perform engine).1 with
    | .ok _ => [template]
    | .error _ => []
  | .seed _ => []

/-- The templates that publications in a row stored under identifiers of the caller's choice, in
order. -/
def allAccepted (engine : Engine X) : List Publication → List Template
  | [] => []
  | publication :: rest =>
    engine.accepted publication ++ (engine.afterPublication publication).allAccepted rest

/-- The last one of templates under an identifier. -/
def latest (id : String) (templates : List Template) : Option Template :=
  (templates.filter fun template => template.id = id).getLast?

theorem latest_append (id : String) (earlier later : List Template) :
    latest id (earlier ++ later) = (latest id later).or (latest id earlier) := by
  rw [latest, List.filter_append, List.getLast?_append]
  rfl

/-- The template is in the catalogue. -/
def Offers (engine : Engine X) (template : Template) : Prop :=
  ∃ catalogue, templates.perform engine = (.ok catalogue, engine) ∧ template ∈ catalogue

/-- The engine keeps templates of which no two have one identifier or one key. -/
structure Catalogues (engine : Engine X) (kind : StoreKind) (records : Memory) : Prop where
  store : engine.store = kind.hold records
  ids : (records.templates.map Template.id).Nodup
  keys : (records.templates.map Template.key).Nodup

namespace Catalogues

theorem offers_iff (h : engine.Catalogues kind records) {t : Template} :
    engine.Offers t ↔ ∃ kept ∈ records.templates, kind.returned kept = t := by
  have hlist : (templates : Work X (List Template)).perform engine =
      (.ok (records.listTemplates.map kind.returned), engine) :=
    perform_stored_same h.store (Store.perform_listTemplates_returned kind records)
  have hmem : t ∈ records.listTemplates.map kind.returned ↔
      ∃ kept ∈ records.templates, kind.returned kept = t := by
    simp only [List.mem_map, Memory.listTemplates, Template.sorted, List.mem_mergeSort]
  rw [Offers, hlist, ← hmem]
  simp

/-- What is kept in memory is given back as it is, and its identifier leads to it. -/
theorem offers_iff_template? (h : engine.Catalogues .memory records) {t : Template} :
    engine.Offers t ↔ records.template? t.id = some t := by
  rw [h.offers_iff, Memory.template?, Keyed.find?_eq_some_iff h.ids]
  constructor
  · rintro ⟨kept, hkept, rfl⟩
    exact hkept
  · exact fun hmem => ⟨t, hmem, rfl⟩

/-- A template is in the catalogue just when its key leads to it. -/
theorem template_iff (h : engine.Catalogues kind records) {t : Template} :
    (template t.key).perform engine = (.ok t, engine) ↔ engine.Offers t := by
  have hbyKey := perform_stored_same h.store
    (Store.perform_templateByKey?_returned kind records t.key)
  rw [h.offers_iff, template, Operation.perform_bind_ok hbyKey]
  cases found : records.templateByKey? t.key with
  | some kept =>
      have hmem : kept ∈ records.templates := List.mem_of_find?_eq_some found
      have hkey : kept.key = t.key := by simpa using List.find?_some found
      constructor
      · intro hperform
        cases hperform
        exact ⟨kept, hmem, rfl⟩
      · rintro ⟨other, hother, rfl⟩
        have hsame : kept = other :=
          List.inj_on_of_nodup_map h.keys hmem hother (by rw [hkey, kind.returned_key])
        rw [hsame]
        rfl
  | none =>
      have hnone := Keyed.find?_eq_none_iff.mp found
      have hbyId := perform_stored_same h.store
        (Store.perform_template?_returned kind records t.key)
      constructor
      · intro hperform
        change (stored (Store.template? t.key) >>= _).perform engine = _ at hperform
        rw [Operation.perform_bind_ok hbyId] at hperform
        cases hfound : records.template? t.key with
        | none =>
            rw [hfound] at hperform
            cases hperform
        | some kept =>
            rw [hfound] at hperform
            cases hperform
            exact absurd (kind.returned_key kept).symm
              (hnone kept (List.mem_of_find?_eq_some hfound))
      · rintro ⟨kept, hkept, rfl⟩
        exact absurd (kind.returned_key kept).symm (hnone kept hkept)

theorem insertTemplate (h : engine.Catalogues kind records) {t : Template}
    (hkey : records.templateByKey? t.key = none) :
    Catalogues { engine with store := kind.hold (records.insertTemplate t) } kind
      (records.insertTemplate t) :=
  ⟨rfl, Keyed.nodup_map_put h.ids t,
    Keyed.nodup_map_put_of_new h.keys (Keyed.find?_eq_none_iff.mp hkey)⟩

/-- A template is stored and given back, or publishing it is refused. -/
theorem publish_outcome (h : engine.Catalogues kind records) (t : Template) :
    engine.Refuses (publish t) ∨
      (kind = .tables → records.template? t.id = none) ∧
        Catalogues { engine with store := kind.hold (records.insertTemplate t) } kind
          (records.insertTemplate t) ∧
        (publish t).perform engine =
          (.ok t, { engine with store := kind.hold (records.insertTemplate t) }) := by
  have hsettings : (MonadState.get : Work X (Engine X)).perform engine = (.ok engine, engine) := rfl
  cases hgraph : Graph.ofDefinition (templateRules engine.settings) t.definition with
  | error fault =>
      refine .inl (.of_bind hsettings (.bind ⟨fault, ?_⟩ _))
      rw [hgraph, Operation.perform_ofExcept]
  | ok graph =>
  have hchecked : (Operation.ofExcept (Graph.ofDefinition (templateRules engine.settings)
      t.definition)).perform engine = (.ok graph, engine) := by
    rw [hgraph, Operation.perform_ofExcept]
  have hbyKey := perform_stored_same h.store
    (Store.perform_templateByKey?_returned kind records t.key)
  cases hkey : records.templateByKey? t.key with
  | some taken =>
      refine .inl (.of_bind hsettings (.of_bind hchecked (.of_bind hbyKey ?_)))
      rw [hkey]
      exact ⟨_, rfl⟩
  | none =>
      rcases Store.insertTemplate_outcome kind hkey with hrefused | ⟨hid, hinserted⟩
      · refine .inl (.of_bind hsettings (.of_bind hchecked (.of_bind hbyKey ?_)))
        rw [hkey]
        exact .bind ⟨_, perform_stored_same h.store hrefused⟩ _
      · refine .inr ⟨hid, h.insertTemplate hkey, ?_⟩
        rw [publish, Operation.perform_bind_ok hsettings, Operation.perform_bind_ok hchecked,
          Operation.perform_bind_ok hbyKey, hkey]
        exact Operation.perform_bind_ok (perform_stored h.store hinserted)

end Catalogues

/-- The engine keeps templates of which something holds that may depend on what was made so far. -/
def Stocks (kind : StoreKind) (Q : Nat → Memory → Prop) (engine : Engine X) : Prop :=
  ∃ records, engine.Catalogues kind records ∧ Q engine.made records

/-- A template of the seed has an identifier that was never given before. -/
theorem retains_seedFrom {Q : Nat → Memory → Prop}
    (later : ∀ made records, Q made records → Q (made + 1) records)
    (insert : ∀ made records t, Q made records → t.id = Identifier.ofNumber made →
      (kind = .tables → records.template? t.id = none) → Q (made + 1) (records.insertTemplate t))
    (templates : List Template) :
    Operation.Respects (Operation.Retains (Stocks kind Q))
      (seedFrom templates : Work X (List Template)) := by
  refine .bind (.each (fun t engine => ?_) templates) fun published => .pure _
  rintro ⟨records, h, hQ⟩
  let named : Template := { t with id := Identifier.ofNumber engine.made }
  let counted : Engine X := { engine with made := engine.made + 1 }
  have hcounted : counted.Catalogues kind records := ⟨h.store, h.ids, h.keys⟩
  have hstocks : counted.Stocks kind Q := ⟨records, hcounted, later _ _ hQ⟩
  have hfresh : (fresh : Work X String).perform engine = (.ok named.id, counted) := rfl
  have hbyKey := perform_stored_same hcounted.store
    (Store.perform_templateByKey?_returned kind records t.key)
  rw [Operation.perform_bind_ok hfresh, publishNew, Operation.perform_bind_ok hbyKey]
  cases records.templateByKey? t.key with
  | some taken => exact hstocks
  | none =>
      change (Operation.perform (some <$> publish named) counted).2.Stocks kind Q
      rw [Operation.perform_map]
      rcases hcounted.publish_outcome named with ⟨_, refused⟩ | ⟨hid, hafter, published⟩
      · rw [refused]
        exact hstocks
      · rw [published]
        exact ⟨_, hafter, insert _ _ named hQ rfl hid⟩

/-- What a publication does to the templates, and which one it accepts. -/
theorem afterPublication_publish (h : engine.Catalogues kind records) (t : Template) :
    (engine.accepted (.publish t) = [] ∧ engine.afterPublication (.publish t) = engine) ∨
      engine.accepted (.publish t) = [t] ∧ (kind = .tables → records.template? t.id = none) ∧
        (engine.afterPublication (.publish t)).Catalogues kind (records.insertTemplate t) ∧
        (engine.afterPublication (.publish t)).made = engine.made := by
  rcases h.publish_outcome t with ⟨_, refused⟩ | ⟨hid, hafter, published⟩
  · exact .inl ⟨by rw [accepted, refused], by rw [afterPublication, refused]⟩
  · refine .inr ⟨by rw [accepted, published], hid, ?_⟩
    rw [afterPublication, published]
    exact ⟨hafter, rfl⟩

namespace Catalogues

/-- Under an identifier that is not still to be given there is the template that was accepted last,
and otherwise the one that was there before. -/
theorem afterPublication (h : engine.Catalogues kind records) {id : String}
    (old : ∀ n, engine.made ≤ n → id ≠ Identifier.ofNumber n) (publication : Publication) :
    let after := engine.afterPublication publication
    engine.made ≤ after.made ∧ ∃ records', after.Catalogues kind records' ∧
      records'.template? id =
        (latest id (engine.accepted publication)).or (records.template? id) := by
  intro after
  cases publication with
  | publish t =>
      rcases afterPublication_publish h t with
        ⟨haccepted, hsame⟩ | ⟨haccepted, -, hafter, hmade⟩
      · rw [haccepted]
        have heq : after = engine := hsame
        rw [heq]
        exact ⟨Nat.le_refl _, records, h, rfl⟩
      · refine ⟨Nat.le_of_eq hmade.symm, _, hafter, ?_⟩
        rw [haccepted, Memory.template?, Memory.insertTemplate]
        by_cases heq : t.id = id
        · subst heq
          rw [Keyed.find?_put_self]
          simp [latest]
        · rw [Keyed.find?_put_of_ne _ _ heq]
          simp [latest, heq, Memory.template?]
  | seed templates =>
      let Q (made : Nat) (after : Memory) : Prop :=
        engine.made ≤ made ∧ after.template? id = records.template? id
      have hinsert (made : Nat) (after : Memory) (t : Template) (hQ : Q made after)
          (named : t.id = Identifier.ofNumber made)
          (_ : kind = .tables → after.template? t.id = none) :
          Q (made + 1) (after.insertTemplate t) := by
        refine ⟨Nat.le_succ_of_le hQ.1, ?_⟩
        rw [← hQ.2]
        exact Keyed.find?_put_of_ne _ _ (fun heq => old made hQ.1 (heq.symm.trans named)) _
      obtain ⟨records', hafter, hmade, hsame⟩ :=
        retains_seedFrom (fun _ _ hQ => ⟨Nat.le_succ_of_le hQ.1, hQ.2⟩) hinsert templates engine
          ⟨records, h, Nat.le_refl _, rfl⟩
      exact ⟨hmade, records', hafter, hsame⟩

theorem afterPublications (h : engine.Catalogues kind records) {id : String}
    (old : ∀ n, engine.made ≤ n → id ≠ Identifier.ofNumber n) (publications : List Publication) :
    ∃ records', (engine.afterPublications publications).Catalogues kind records' ∧
      records'.template? id =
        (latest id (engine.allAccepted publications)).or (records.template? id) := by
  induction publications generalizing engine records with
  | nil => exact ⟨records, h, rfl⟩
  | cons publication rest ih =>
      obtain ⟨hmade, between, hbetween, hfirst⟩ := h.afterPublication old publication
      obtain ⟨records', hafter, hrest⟩ := ih hbetween fun n hn => old n (Nat.le_trans hmade hn)
      refine ⟨records', hafter, ?_⟩
      rw [allAccepted, latest_append, Option.or_assoc, ← hfirst, hrest]

end Catalogues

/-- What every template that is stored leaves true holds after any publications. -/
theorem Stocks.afterPublications {Q : Memory → Prop}
    (insert : ∀ records t, Q records → (kind = .tables → records.template? t.id = none) →
      Q (records.insertTemplate t))
    (h : engine.Stocks kind fun _ => Q) (publications : List Publication) :
    (engine.afterPublications publications).Stocks kind fun _ => Q := by
  induction publications generalizing engine with
  | nil => exact h
  | cons publication rest ih =>
      refine ih ?_
      cases publication with
      | publish t =>
          obtain ⟨records, hcatalogues, hQ⟩ := h
          rcases afterPublication_publish hcatalogues t with
            ⟨-, hsame⟩ | ⟨-, hid, hafter, -⟩
          · rw [hsame]
            exact ⟨records, hcatalogues, hQ⟩
          · exact ⟨_, hafter, insert records t hQ hid⟩
      | seed templates =>
          exact retains_seedFrom (fun _ _ hQ => hQ)
            (fun _ records t hQ _ hid => insert records t hQ hid) templates engine h

/-- Whatever was published before: publishing a template that is accepted gives it back and puts it
into the catalogue, where its key leads to it. On tables it stays there whatever is published later.
In memory it stays there just as long as no other template is published under its identifier. -/
theorem offered_until_replaced (kind : StoreKind) (engine : Engine X)
    (earlier later : List Publication) :
    let before := ({ engine with store := kind.hold {} } : Engine X).afterPublications earlier
    let after := before.afterPublications later
    (∀ t t' engine', (publish t).perform before = (.ok t', engine') →
      t' = t ∧ engine'.Offers (kind.returned t)) ∧
    (∀ t, (template t.key).perform after = (.ok t, after) ↔ after.Offers t) ∧
    (kind = .tables → ∀ t, before.Offers t → after.Offers t) ∧
    (kind = .memory → ∀ t, before.Offers t →
      (∀ n, before.made ≤ n → t.id ≠ Identifier.ofNumber n) →
      (after.Offers t ↔ ∀ t', latest t.id (before.allAccepted later) = some t' → t' = t)) := by
  intro before after
  have hstart : ({ engine with store := kind.hold {} } : Engine X).Stocks kind fun _ _ => True :=
    ⟨{}, ⟨rfl, List.nodup_nil, List.nodup_nil⟩, trivial⟩
  have hbefore : before.Stocks kind fun _ _ => True :=
    hstart.afterPublications (fun _ _ _ _ => trivial) earlier
  obtain ⟨records, h, -⟩ := hbefore
  refine ⟨?published, ?byKey, ?onTables, ?inMemory⟩
  case published =>
    intro t t' engine' hperform
    rcases h.publish_outcome t with ⟨_, refused⟩ | ⟨-, hafter, published⟩
    · cases refused.symm.trans hperform
    · cases published.symm.trans hperform
      exact ⟨rfl, hafter.offers_iff.mpr ⟨t, Keyed.mem_put_self _ t records.templates, rfl⟩⟩
  case byKey =>
    intro t
    obtain ⟨records', h', -⟩ := Stocks.afterPublications (Q := fun _ => True)
      (fun _ _ _ _ => trivial) ⟨records, h, trivial⟩ later
    exact h'.template_iff
  case onTables =>
    rintro rfl t offered
    obtain ⟨kept, hkept, heq⟩ := h.offers_iff.mp offered
    obtain ⟨records', h', hkept'⟩ := Stocks.afterPublications
      (fun _ _ hmem hnew => Memory.mem_insertTemplate hmem (hnew rfl)) ⟨records, h, hkept⟩ later
    exact h'.offers_iff.mpr ⟨kept, hkept', heq⟩
  case inMemory =>
    rintro rfl t offered old
    obtain ⟨records', h', hlatest⟩ := h.afterPublications old later
    rw [h'.offers_iff_template?, hlatest, h.offers_iff_template?.mp offered]
    cases latest t.id (before.allAccepted later) <;> simp

/-- A template with an identifier that others have too. -/
def twin (key : String) : Template where
  id := "twin"
  key
  name := key
  definition :=
    { steps := [{ id := "t", type := "trigger" }, { id := "a", type := "tag" }]
      edges := [{ source := "t", target := "a" }] }

/-- Both templates are published, and the first one is not there any more. -/
theorem twin_replaced :
    let once := (ofSettings {} .inMemory : Engine Empty).afterPublication (.publish (twin "a"))
    let twice := once.afterPublication (.publish (twin "b"))
    ((publish (twin "a")).perform (ofSettings {} .inMemory : Engine Empty)).1 = .ok (twin "a") ∧
      ((publish (twin "b")).perform once).1 = .ok (twin "b") ∧
      ((template "a").perform once).1 = .ok (twin "a") ∧
      ((template "a").perform twice).1 = .error (.noTemplate "a") ∧
      (templates.perform twice).1 = .ok [twin "b"] := by
  decide +kernel

end Engine

end Workflow
