import Workflow.Placeholder

/-!
# When placeholders can be filled

Filling the placeholders of a text ends with a fault in two cases only: on its way through a list a
path names an item by figures that are no number, or it leads to a value with an integer that has too
many digits to be turned into text. `Trips` says the first of a path, and a text is `Fillable` when
none of its paths trips and what they lead to is writable. Such a text is filled: each placeholder is
replaced by its `replacement`, and one that leads nowhere, for whatever reason, stays as it is. The
same holds of the texts inside a value, which keeps its shape.
-/

namespace Workflow

/-- The fault comes from a number: figures that are none, or one that cannot be turned into text. -/
def Fault.ofNumber : Fault → Bool
  | .unreadableNumber _ | .oversizeNumber _ => true
  | _ => false

/-- The outcome is a result as long as something holds, and otherwise a fault that comes from a
number. -/
structure Hinges {α : Type} (fine : Prop) (outcome : Except Fault α) (a : α) : Prop where
  ok : fine → outcome = .ok a
  error : ¬ fine → ∃ fault, outcome = .error fault ∧ fault.ofNumber = true

namespace Hinges

variable {α β γ : Type} {fine fine' : Prop}

theorem pure (a : α) : Hinges True (.ok a) a :=
  ⟨fun _ => rfl, fun h => absurd trivial h⟩

theorem congr {outcome : Except Fault α} {a : α} (h : Hinges fine outcome a)
    (hfine : fine ↔ fine') : Hinges fine' outcome a :=
  ⟨fun h' => h.ok (hfine.mpr h'), fun h' => h.error fun hfine' => h' (hfine.mp hfine')⟩

theorem ok_iff {outcome : Except Fault α} {a b : α} (h : Hinges fine outcome a) :
    outcome = .ok b ↔ fine ∧ b = a := by
  by_cases hfine : fine
  · rw [h.ok hfine, Except.ok.injEq, eq_comm]
    exact (and_iff_right hfine).symm
  · obtain ⟨fault, rfl, -⟩ := h.error hfine
    simp [hfine]

theorem map {outcome : Except Fault α} {a : α} (f : α → β) (h : Hinges fine outcome a) :
    Hinges fine (outcome.map f) (f a) := by
  constructor
  · intro hfine
    rw [h.ok hfine]
    rfl
  · intro hfine
    obtain ⟨fault, rfl, hfault⟩ := h.error hfine
    exact ⟨fault, rfl, hfault⟩

/-- Of two outcomes in a row the first fault counts. -/
theorem andThen {first : Except Fault α} {a : α} {second : Except Fault β} {b : β}
    {outcome : Except Fault γ} (h : Hinges fine first a) (h' : Hinges fine' second b)
    (f : α → β → γ) (herror : ∀ fault, first = .error fault → outcome = .error fault)
    (hok : first = .ok a → outcome = second.map (f a)) :
    Hinges (fine ∧ fine') outcome (f a b) := by
  constructor
  · rintro ⟨hfine, hfine'⟩
    rw [hok (h.ok hfine), h'.ok hfine']
    rfl
  · intro hboth
    by_cases hfine : fine
    · rw [hok (h.ok hfine)]
      exact (h'.map (f a)).error fun hfine' => hboth ⟨hfine, hfine'⟩
    · obtain ⟨fault, hfault, hkind⟩ := h.error hfine
      exact ⟨fault, herror fault hfault, hkind⟩

/-- One outcome for each item of a list, up to the first fault. -/
theorem mapM {f : α → Except Fault β} {g : α → β} {good : α → Prop}
    (h : ∀ a, Hinges (good a) (f a) (g a)) (as : List α) :
    Hinges (∀ a ∈ as, good a) (as.mapM f) (as.map g) := by
  induction as with
  | nil => exact (pure []).congr (by simp)
  | cons a rest ih =>
      refine Hinges.congr ?_ List.forall_mem_cons.symm
      refine (h a).andThen ih List.cons (fun fault hfault => ?_) fun hok => ?_
      · rw [List.mapM_cons, hfault]
        rfl
      · rw [List.mapM_cons, hok]
        cases rest.mapM f <;> rfl

end Hinges

namespace Number

theorem digitRun?_cons (c : Char) {d : Char} (rest : List Char) (h : d ≠ '_') :
    digitRun? (c :: d :: rest) =
      match Text.digitValue? c, digitRun? (d :: rest) with
      | some first, some more => some (first :: more)
      | _, _ => none :=
  digitRun?.eq_4 c (d :: rest) (by simp) (by rintro _ ⟨⟩; exact h rfl)

/-- Without underscores a run is no number exactly if one of its characters has no value. -/
theorem digitRun?_eq_none_iff {cs : List Char} (hne : cs ≠ []) (hplain : '_' ∉ cs) :
    digitRun? cs = none ↔ ∃ c ∈ cs, Text.digitValue? c = none := by
  induction cs with
  | nil => exact absurd rfl hne
  | cons c rest ih =>
      cases rest with
      | nil => simp [digitRun?]
      | cons d rest =>
          rw [List.mem_cons, not_or] at hplain
          have hd : d ≠ '_' := by
            rintro rfl
            exact hplain.2 List.mem_cons_self
          have hvalues : (∃ x ∈ c :: d :: rest, Text.digitValue? x = none) ↔
              Text.digitValue? c = none ∨ digitRun? (d :: rest) = none := by
            rw [ih (by simp) hplain.2]
            simp
          rw [digitRun?_cons c rest hd, hvalues]
          cases Text.digitValue? c <;> cases digitRun? (d :: rest) <;> simp

theorem length_of_digitRun? {cs : List Char} {ds : List Nat} (hplain : '_' ∉ cs)
    (h : digitRun? cs = some ds) : ds.length = cs.length := by
  induction cs generalizing ds with
  | nil => cases h
  | cons c rest ih =>
      cases rest with
      | nil =>
          obtain ⟨d, -, rfl⟩ := Option.map_eq_some_iff.mp h
          rfl
      | cons d rest =>
          rw [List.mem_cons, not_or] at hplain
          have hd : d ≠ '_' := by
            rintro rfl
            exact hplain.2 List.mem_cons_self
          rw [digitRun?_cons c rest hd] at h
          split at h
          · rename_i first more _ hmore
            cases h
            simp [ih hplain.2 hmore]
          · cases h

end Number

namespace Placeholder

variable {context v : Value} {part : String} {path : List String} {inner : List Char}
variable {text : String}

section Path

/-- A part of a path that is made of figures and yet is no number: one of the figures has no value,
or there are more of them than are read. -/
def Unusable (part : String) : Prop :=
  Text.isFigures part = true ∧
    ((∃ c ∈ part.toList, Text.digitValue? c = none) ∨ digitLimit < part.toList.length)

theorem index_hinges (h : Text.isFigures part = true) :
    ∃ n, Hinges (¬ Unusable part) (index part) n := by
  obtain ⟨hne, hall⟩ : part.toList ≠ [] ∧ ∀ c ∈ part.toList, Text.isFigure c = true := by
    simpa [Text.isFigures] using h
  have hplain : '_' ∉ part.toList := by
    intro hmem
    exact absurd (hall '_' hmem) (by decide)
  unfold index
  cases hrun : Number.digitRun? part.toList with
  | none =>
      have hunusable : Unusable part :=
        ⟨h, .inl ((Number.digitRun?_eq_none_iff hne hplain).mp hrun)⟩
      exact ⟨0, fun husable => absurd hunusable husable, fun _ => ⟨_, rfl, rfl⟩⟩
  | some ds =>
      have hlength := Number.length_of_digitRun? hplain hrun
      have hvalues : ¬ ∃ c ∈ part.toList, Text.digitValue? c = none := by
        rw [← Number.digitRun?_eq_none_iff hne hplain, hrun]
        simp
      by_cases hlong : digitLimit < ds.length
      · have hunusable : Unusable part := ⟨h, .inr (hlength ▸ hlong)⟩
        refine ⟨0, fun husable => absurd hunusable husable, fun _ => ?_⟩
        exact ⟨.oversizeNumber (.read ds.length), if_pos hlong, rfl⟩
      · refine ⟨Number.ofDigits ds, fun _ => if_neg hlong, fun husable => ?_⟩
        rcases (Classical.not_not.mp husable).2 with hvalueless | hlong'
        · exact absurd hvalueless hvalues
        · exact absurd (hlength ▸ hlong') hlong

/-- The front of a path leads to a list, and the part after it is made of figures that are no
number. -/
def Trips (v : Value) (path : List String) : Prop :=
  ∃ front part back items, path = front ++ part :: back ∧
    walk v front = .ok (some (.list items)) ∧ Unusable part

theorem ne_empty_of_unusable (h : Unusable part) : part ≠ "" := by
  rintro rfl
  exact absurd h.1 (by decide)

/-- Going into a part ends with a fault only in a list whose item is named by such figures. -/
theorem stepInto_hinges (v : Value) (part : String) :
    ∃ found, Hinges (¬ ((∃ items, v = .list items) ∧ Unusable part)) (stepInto v part) found := by
  cases v with
  | list items =>
      rw [stepInto]
      by_cases hfigures : Text.isFigures part = true
      · obtain ⟨n, hindex⟩ := index_hinges hfigures
        rw [if_pos hfigures]
        exact ⟨items[n]?, (hindex.map (items[·]?)).congr (by simp)⟩
      · rw [if_neg hfigures]
        refine ⟨none, fun _ => rfl, fun husable => ?_⟩
        exact absurd (Classical.not_not.mp husable).2.1 hfigures
  | object fields => exact ⟨Dict.get? fields part, (Hinges.pure _).congr (by simp)⟩
  | null | bool _ | int _ | float _ | text _ => exact ⟨none, (Hinges.pure _).congr (by simp)⟩

theorem trips_nil : ¬ Trips v [] := by
  rintro ⟨front, part, back, items, hpath, -⟩
  simp at hpath

theorem walk_cons (v : Value) (h : part ≠ "") (rest : List String) :
    walk v (part :: rest) =
      match stepInto v part with
      | .error fault => .error fault
      | .ok none => .ok none
      | .ok (some next) => walk next rest :=
  if_neg h

theorem trips_cons (h : part ≠ "") (rest : List String) :
    Trips v (part :: rest) ↔
      ((∃ items, v = .list items) ∧ Unusable part) ∨
        ∃ next, stepInto v part = .ok (some next) ∧ Trips next rest := by
  constructor
  · rintro ⟨front, other, back, items, hpath, hwalk, hother⟩
    cases front with
    | nil =>
        cases hpath
        cases hwalk
        exact .inl ⟨⟨items, rfl⟩, hother⟩
    | cons first front =>
        cases hpath
        rw [walk_cons v h] at hwalk
        split at hwalk
        · cases hwalk
        · cases hwalk
        · rename_i next hnext
          exact .inr ⟨next, hnext, front, other, back, items, rfl, hwalk, hother⟩
  · rintro (⟨⟨items, rfl⟩, hunusable⟩ | ⟨next, hnext, htrips⟩)
    · exact ⟨[], part, rest, items, rfl, rfl, hunusable⟩
    · obtain ⟨front, other, back, items, rfl, hwalk, hother⟩ := htrips
      refine ⟨part :: front, other, back, items, rfl, ?_, hother⟩
      rw [walk_cons v h, hnext]
      exact hwalk

/-- Following a path ends with a fault exactly if it trips. -/
theorem walk_hinges (v : Value) (path : List String) :
    ∃ found, Hinges (¬ Trips v path) (walk v path) found := by
  induction path generalizing v with
  | nil => exact ⟨some v, (Hinges.pure _).congr (by simp [trips_nil])⟩
  | cons part rest ih =>
      by_cases hempty : part = ""
      · subst hempty
        have hstays : ¬ Trips v ("" :: rest) := by
          rintro ⟨front, other, back, items, hpath, hwalk, hother⟩
          cases front with
          | nil =>
              cases hpath
              exact ne_empty_of_unusable hother rfl
          | cons first front =>
              cases hpath
              rw [walk, if_pos rfl] at hwalk
              cases hwalk
        exact ⟨none, fun _ => by rw [walk, if_pos rfl], fun h => absurd hstays h⟩
      · obtain ⟨found, hinto⟩ := stepInto_hinges v part
        have htrips := trips_cons (v := v) hempty rest
        by_cases hunusable : (∃ items, v = .list items) ∧ Unusable part
        · refine ⟨none, fun h => absurd (htrips.mpr (.inl hunusable)) h, fun _ => ?_⟩
          obtain ⟨fault, hfault, hkind⟩ := hinto.error (Classical.not_not.mpr hunusable)
          exact ⟨fault, by rw [walk_cons v hempty, hfault], hkind⟩
        · have hok := hinto.ok hunusable
          rw [walk_cons v hempty, hok]
          cases found with
          | none =>
              refine ⟨none, (Hinges.pure _).congr ?_⟩
              simp [htrips, hunusable, hok]
          | some next =>
              obtain ⟨found, hnext⟩ := ih next
              refine ⟨found, hnext.congr ?_⟩
              simp [htrips, hunusable, hok]

theorem trips_iff : Trips v path ↔ ∃ fault, walk v path = .error fault := by
  obtain ⟨found, hwalk⟩ := walk_hinges v path
  constructor
  · intro htrips
    obtain ⟨fault, hfault, -⟩ := hwalk.error (Classical.not_not.mpr htrips)
    exact ⟨fault, hfault⟩
  · rintro ⟨fault, hfault⟩
    refine Classical.byContradiction fun htrips => ?_
    cases (hwalk.ok htrips).symm.trans hfault

theorem ofNumber_of_walk {fault : Fault} (h : walk v path = .error fault) :
    fault.ofNumber = true := by
  obtain ⟨found, hwalk⟩ := walk_hinges v path
  obtain ⟨fault', hfault, hkind⟩ := hwalk.error (Classical.not_not.mpr (trips_iff.mpr ⟨fault, h⟩))
  cases h.symm.trans hfault
  exact hkind

end Path

section Filling

/-- The path that stands between the braces of a placeholder. -/
def pathIn (inner : List Char) : List String := parts (String.ofList (Text.trimChars inner))

/-- What the path of a placeholder leads to, if it leads to something. An empty path leads nowhere.
-/
def found? (context : Value) (inner : List Char) : Option Value :=
  match walk context (pathIn inner) with
  | .ok (some .null) => none
  | .ok found => found
  | .error _ => none

theorem found?_eq_some_iff :
    found? context inner = some v ↔ walk context (pathIn inner) = .ok (some v) ∧ v ≠ .null := by
  rw [found?]
  rcases walk context (pathIn inner) with fault | _ | found
  · simp
  · simp
  · cases found <;> simp <;> rintro rfl <;> simp

/-- The text of what a placeholder finds, and otherwise the placeholder as it is written. -/
def replacement (context : Value) (inner : List Char) : List Char :=
  match found? context inner with
  | some v => v.display.toList
  | none => (Piece.hole inner).source

/-- The characters of a piece with something else in the place of a placeholder. -/
def Piece.write (f : List Char → List Char) : Piece → List Char
  | .plain c => [c]
  | .hole inner => f inner

/-- A placeholder can be filled: its path does not trip, and what it leads to is writable. -/
def Fills (context : Value) (inner : List Char) : Prop :=
  ¬ Trips context (pathIn inner) ∧ ∀ v, found? context inner = some v → v.writable = true

theorem fills_iff : Fills context inner ↔
    ∃ found, walk context (pathIn inner) = .ok found ∧ found.all Value.writable = true := by
  rw [Fills, trips_iff]
  simp only [found?_eq_some_iff]
  rcases walk context (pathIn inner) with fault | _ | v
  · simp
  · simp
  · cases v <;> simp [Value.writable]

/-- The placeholders among the pieces can be filled. -/
def Sound (context : Value) (ps : List Piece) : Prop := ∀ inner, .hole inner ∈ ps → Fills context inner

theorem wording_hinges (v : Value) : Hinges (v.writable = true) v.wording v.display := by
  unfold Value.wording
  exact ⟨fun h => if_pos h, fun h => ⟨_, if_neg h, rfl⟩⟩

theorem fill_hinges (context : Value) (inner : List Char) :
    Hinges (Fills context inner) (fill context (.hole inner)) (replacement context inner) := by
  rw [Fills, trips_iff]
  cases hpath : Text.trimChars inner with
  | nil =>
      have hwalk : walk context (pathIn inner) = .ok none := by rw [pathIn, hpath]; rfl
      refine ⟨fun _ => ?_, fun h => absurd (by simp [hwalk, found?]) h⟩
      simp [fill, replacement, found?, hpath, hwalk]
  | cons c rest =>
      have hresolve :
          resolve context (String.ofList (c :: rest)) = walk context (pathIn inner) := by
        rw [pathIn, hpath]
        rfl
      simp only [fill, hpath, List.isEmpty_cons, Bool.false_eq_true, if_false, hresolve,
        replacement, found?]
      cases hwalk : walk context (pathIn inner) with
      | error fault =>
          exact ⟨fun h => absurd ⟨fault, rfl⟩ h.1, fun _ => ⟨fault, rfl, ofNumber_of_walk hwalk⟩⟩
      | ok found =>
          rcases found with _ | v
          · exact (Hinges.pure _).congr (by simp)
          · -- Only a null is left as it is; of any other value the text is asked for.
            cases v with
            | null => exact (Hinges.pure _).congr (by simp)
            | bool _ | int _ | float _ | text _ | list _ | object _ =>
                exact ((wording_hinges _).map String.toList).congr (by simp)

theorem fillAll_hinges (context : Value) (ps : List Piece) :
    Hinges (Sound context ps) (fillAll context ps)
      (ps.flatMap (Piece.write (replacement context))) := by
  induction ps with
  | nil => exact (Hinges.pure []).congr (by simp [Sound])
  | cons piece rest ih =>
      have hpiece : Hinges (∀ inner, piece = .hole inner → Fills context inner)
          (fill context piece) (piece.write (replacement context)) := by
        cases piece with
        | plain c => exact (Hinges.pure [c]).congr (by simp)
        | hole inner => exact (fill_hinges context inner).congr (by simp)
      have hsound : (∀ inner, piece = .hole inner → Fills context inner) ∧
          Sound context rest ↔ Sound context (piece :: rest) := by
        simp only [Sound, List.mem_cons]
        grind
      refine Hinges.congr ?_ hsound
      refine hpiece.andThen ih (· ++ ·) (fun fault hfault => ?_) fun hok => ?_
      · rw [fillAll, hfault]
      · rw [fillAll, hok]

end Filling

end Placeholder

namespace Value

mutual

/-- The texts inside a value. -/
def texts : Value → List String
  | .text s => [s]
  | .list items => textsOfItems items
  | .object fields => textsOfFields fields
  | _ => []

/-- The texts inside the items of a list. -/
def textsOfItems : List Value → List String
  | [] => []
  | item :: rest => texts item ++ textsOfItems rest

/-- The texts inside the fields of an object, names apart. -/
def textsOfFields : List (String × Value) → List String
  | [] => []
  | (_, v) :: rest => texts v ++ textsOfFields rest

end

mutual

/-- A value of the same shape with other texts inside. -/
def mapTexts (f : String → String) : Value → Value
  | .text s => .text (f s)
  | .list items => .list (mapItems f items)
  | .object fields => .object (mapFields f fields)
  | v => v

/-- The items of a list with other texts inside. -/
def mapItems (f : String → String) : List Value → List Value
  | [] => []
  | item :: rest => mapTexts f item :: mapItems f rest

/-- The fields of an object with other texts inside. -/
def mapFields (f : String → String) : List (String × Value) → List (String × Value)
  | [] => []
  | (name, v) :: rest => (name, mapTexts f v) :: mapFields f rest

end

/-- A value that is a text with another text in its place. -/
def mapText (f : String → String) : Value → Value
  | .text s => .text (f s)
  | v => v

/-- The texts at the top of a value. -/
def topTexts : Value → List String
  | .list items => items.filterMap text?
  | .object fields => fields.filterMap fun field => field.2.text?
  | v => v.text?.toList

/-- A value with other texts at its top. -/
def mapTopTexts (f : String → String) : Value → Value
  | .list items => .list (items.map (mapText f))
  | .object fields => .object (fields.map fun field => (field.1, mapText f field.2))
  | v => mapText f v

end Value

/-- The texts at the top of a step's configuration. -/
def Step.configTexts (step : Step) : List String := (Value.object step.config).topTexts

/-- The step with other texts at the top of its configuration. -/
def Step.mapConfigTexts (f : String → String) (step : Step) : Step :=
  { step with config := step.config.map fun field => (field.1, field.2.mapText f) }

/-- The definition with other texts at the top of its configurations. -/
def Definition.mapConfigTexts (f : String → String) (d : Definition) : Definition :=
  { d with steps := d.steps.map (Step.mapConfigTexts f) }

open Placeholder

variable {context : Value} {text : String}

/-- The placeholders of the text can be filled: none of their paths trips, and what they lead to is
writable. -/
def Fillable (context : Value) (text : String) : Prop := Sound context (pieces text.toList)

/-- The text with each placeholder replaced by what it finds. -/
def filled (context : Value) (text : String) : String :=
  String.ofList ((pieces text.toList).flatMap (Piece.write (replacement context)))

theorem interpolate_hinges (context : Value) (text : String) :
    Hinges (Fillable context text) (interpolate text context) (filled context text) :=
  (fillAll_hinges context (pieces text.toList)).map String.ofList

theorem interpolateText_hinges (context v : Value) :
    Hinges (∀ text ∈ v.text?.toList, Fillable context text) (interpolateText context v)
      (v.mapText (filled context)) := by
  cases v with
  | text s => exact ((interpolate_hinges context s).map Value.text).congr (by simp [Value.text?])
  | null | bool _ | int _ | float _ | list _ | object _ =>
      exact (Hinges.pure _).congr (by simp [Value.text?])

mutual

/-- The texts inside a value are filled as long as they can be. -/
theorem interpolateDeep_hinges (context : Value) :
    (v : Value) → Hinges (∀ text ∈ v.texts, Fillable context text) (interpolateDeep context v)
      (v.mapTexts (filled context))
  | .text s => by
      rw [interpolateDeep, Value.mapTexts, Value.texts]
      exact ((interpolate_hinges context s).map Value.text).congr (by simp)
  | .list items => by
      rw [interpolateDeep, Value.mapTexts, Value.texts]
      exact (interpolateItems_hinges context items).map Value.list
  | .object fields => by
      rw [interpolateDeep, Value.mapTexts, Value.texts]
      exact (interpolateFields_hinges context fields).map Value.object
  | .null | .bool _ | .int _ | .float _ => by
      simp only [interpolateDeep, Value.mapTexts, Value.texts]
      exact (Hinges.pure _).congr (by simp)

theorem interpolateItems_hinges (context : Value) :
    (items : List Value) → Hinges (∀ text ∈ Value.textsOfItems items, Fillable context text)
      (interpolateItems context items) (Value.mapItems (filled context) items)
  | [] => (Hinges.pure []).congr (by simp [Value.textsOfItems])
  | item :: rest => by
      refine Hinges.congr ?_ List.forall_mem_append.symm
      refine (interpolateDeep_hinges context item).andThen (interpolateItems_hinges context rest)
        List.cons (fun fault hfault => ?_) fun hok => ?_
      · rw [interpolateItems, hfault]
      · rw [interpolateItems, hok]

theorem interpolateFields_hinges (context : Value) :
    (fields : List (String × Value)) →
      Hinges (∀ text ∈ Value.textsOfFields fields, Fillable context text)
        (interpolateFields context fields) (Value.mapFields (filled context) fields)
  | [] => (Hinges.pure []).congr (by simp [Value.textsOfFields])
  | (name, v) :: rest => by
      refine Hinges.congr ?_ List.forall_mem_append.symm
      refine (interpolateDeep_hinges context v).andThen (interpolateFields_hinges context rest)
        (fun filled more => (name, filled) :: more) (fun fault hfault => ?_) fun hok => ?_
      · rw [interpolateFields, hfault]
      · rw [interpolateFields, hok]

end

theorem interpolateTopFields_hinges (context : Value) (fields : Fields) :
    Hinges (∀ text ∈ (Value.object fields).topTexts, Fillable context text)
      (interpolateTopFields context fields)
      (fields.map fun field => (field.1, field.2.mapText (filled context))) := by
  induction fields with
  | nil => exact (Hinges.pure []).congr (by simp [Value.topTexts])
  | cons field rest ih =>
      obtain ⟨name, v⟩ := field
      have htexts : (Value.object ((name, v) :: rest)).topTexts =
          v.text?.toList ++ (Value.object rest).topTexts := by
        cases v <;> rfl
      rw [htexts]
      refine Hinges.congr ?_ List.forall_mem_append.symm
      refine (interpolateText_hinges context v).andThen ih
        (fun filled more => (name, filled) :: more) (fun fault hfault => ?_) fun hok => ?_
      · rw [interpolateTopFields, hfault]
      · rw [interpolateTopFields, hok]

/-- The texts at the top of a value are filled as long as they can be. -/
theorem interpolateShallow_hinges (context v : Value) :
    Hinges (∀ text ∈ v.topTexts, Fillable context text) (interpolateShallow context v)
      (v.mapTopTexts (filled context)) := by
  cases v with
  | list items =>
      refine ((Hinges.mapM (interpolateText_hinges context) items).map Value.list).congr ?_
      simp only [Value.topTexts, List.mem_filterMap, Option.mem_toList]
      grind
  | object fields => exact (interpolateTopFields_hinges context fields).map Value.object
  | null => exact interpolateText_hinges context .null
  | bool b => exact interpolateText_hinges context (.bool b)
  | int n => exact interpolateText_hinges context (.int n)
  | float x => exact interpolateText_hinges context (.float x)
  | text s => exact interpolateText_hinges context (.text s)

/-- What the placeholders of a definition see when a routine is made from it: the configuration,
also under a name of its own. -/
def hydration (configuration : Fields) : Value :=
  .object (Dict.set configuration "config" (.object configuration))

/-- The texts at the top of the configurations of a definition are filled as long as they can be. -/
theorem hydrate_hinges (d : Definition) (configuration : Fields) :
    Hinges
      (∀ step ∈ d.steps, ∀ text ∈ step.configTexts, Fillable (hydration configuration) text)
      (d.hydrate configuration) (d.mapConfigTexts (filled (hydration configuration))) := by
  have hsteps := Hinges.mapM
    (fun step => (interpolateTopFields_hinges (hydration configuration) step.config).map
      fun config => { step with config }) d.steps
  have hhydrate : d.hydrate configuration =
      (d.steps.mapM fun step => (interpolateTopFields (hydration configuration) step.config).map
        fun config => { step with config }).map fun steps => { d with steps } := by
    rw [Definition.hydrate, hydration]
    cases d.steps.mapM fun step =>
      (interpolateTopFields (hydration configuration) step.config).map
        fun config => { step with config } <;> rfl
  rw [hhydrate]
  exact hsteps.map fun steps => { d with steps }

/-- Nothing but a number can go wrong where placeholders are filled. A text, the texts inside a value
or at its top, and those of the configurations of a definition are filled exactly if none of their
paths trips over figures that are no number and what they lead to has no integer with too many digits
to be turned into text, and what they stand in keeps its shape. A placeholder whose path leads to
nothing or to a null stays as it is. -/
theorem filled_unless_trips (context : Value) (text : String) (v : Value) (d : Definition)
    (configuration : Fields) :
    Hinges (Fillable context text) (interpolate text context) (filled context text) ∧
    Hinges (∀ text ∈ v.texts, Fillable context text) (interpolateDeep context v)
      (v.mapTexts (filled context)) ∧
    Hinges (∀ text ∈ v.topTexts, Fillable context text) (interpolateShallow context v)
      (v.mapTopTexts (filled context)) ∧
    Hinges (∀ step ∈ d.steps, ∀ text ∈ step.configTexts, Fillable (hydration configuration) text)
      (d.hydrate configuration) (d.mapConfigTexts (filled (hydration configuration))) ∧
    ∀ inner, (∀ v, walk context (pathIn inner) = .ok (some v) → v = .null) →
      replacement context inner = (Piece.hole inner).source := by
  refine ⟨interpolate_hinges context text, interpolateDeep_hinges context v,
    interpolateShallow_hinges context v, hydrate_hinges d configuration, ?_⟩
  intro inner hnothing
  have hfound : found? context inner = none := by
    cases h : found? context inner with
    | none => rfl
    | some v =>
        obtain ⟨hwalk, hnull⟩ := found?_eq_some_iff.mp h
        exact absurd (hnothing v hwalk) hnull
  rw [replacement, hfound]

/-- A raised two is a figure, and yet no number, so the placeholder is not left as it is. -/
theorem interpolate_at_raised_two :
    interpolate "\x7b\x7bitems.²\x7d\x7d" (.object [("items", .list [.int 1])]) =
      .error (.unreadableNumber "²") := by
  have hpieces : pieces "\x7b\x7bitems.²\x7d\x7d".toList =
      [.hole ['i', 't', 'e', 'm', 's', '.', '²']] := by decide +kernel
  rw [interpolate, hpieces]
  rfl

end Workflow
