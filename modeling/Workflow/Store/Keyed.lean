/-!
# Lists of records with keys

Records are kept in the order in which they were added. A record with the key of an earlier one
takes its place.
-/

namespace Workflow.Keyed

variable {κ α : Type} [DecidableEq κ]

/-- The record with a key. -/
def find? (keyOf : α → κ) (key : κ) (records : List α) : Option α :=
  records.find? fun record => keyOf record = key

/-- A record with the key is there. -/
def has (keyOf : α → κ) (key : κ) (records : List α) : Bool :=
  records.any fun record => keyOf record = key

/-- Put a record in the place of the one with its key, or at the end. -/
def put (keyOf : α → κ) (record : α) : List α → List α
  | [] => [record]
  | other :: rest =>
    if keyOf other = keyOf record then record :: rest else other :: put keyOf record rest

/-- Change the record with a key. -/
def update (keyOf : α → κ) (key : κ) (f : α → α) (records : List α) : List α :=
  records.map fun record => if keyOf record = key then f record else record

@[simp] theorem find?_put_self (keyOf : α → κ) (record : α) (records : List α) :
    find? keyOf (keyOf record) (put keyOf record records) = some record := by
  induction records with
  | nil => simp [find?, put]
  | cons other rest ih =>
      by_cases h : keyOf other = keyOf record
      · simp [find?, put, h]
      · simpa [find?, put, h] using ih

theorem find?_put_of_ne (keyOf : α → κ) (record : α) {key : κ} (h : keyOf record ≠ key)
    (records : List α) : find? keyOf key (put keyOf record records) = find? keyOf key records := by
  induction records with
  | nil => simp [find?, put, h]
  | cons other rest ih =>
      by_cases ho : keyOf other = keyOf record
      · simp [find?, put, ho, h]
      · simp only [find?] at ih
        simp [find?, put, ho, List.find?_cons, ih]

theorem put_of_forall_ne {keyOf : α → κ} {record : α} {records : List α}
    (h : ∀ other ∈ records, keyOf other ≠ keyOf record) :
    put keyOf record records = records ++ [record] := by
  induction records with
  | nil => rfl
  | cons other rest ih =>
      rw [put, if_neg (h other List.mem_cons_self),
        ih fun o ho => h o (List.mem_cons_of_mem _ ho)]
      rfl

/-- Putting what is found there already changes nothing. -/
theorem put_of_find? {keyOf : α → κ} {record : α} {records : List α}
    (h : find? keyOf (keyOf record) records = some record) :
    put keyOf record records = records := by
  induction records with
  | nil => cases h
  | cons other rest ih =>
      rw [find?, List.find?_cons] at h
      rw [put]
      split at h
      · obtain rfl := Option.some.inj h
        exact if_pos rfl
      · rename_i hother
        rw [if_neg (of_decide_eq_false hother), ih h]

/-- Where one record has the key, putting another one with it changes that one record. -/
theorem put_eq_update {keyOf : α → κ} {record : α} {records : List α}
    (hdistinct : (records.map keyOf).Nodup) (h : ∃ other ∈ records, keyOf other = keyOf record) :
    put keyOf record records = update keyOf (keyOf record) (fun _ => record) records := by
  induction records with
  | nil => simp at h
  | cons other rest ih =>
      obtain ⟨hnot, hrest⟩ := List.nodup_cons.mp hdistinct
      rw [put, update, List.map_cons]
      by_cases hkey : keyOf other = keyOf record
      · have hsame : rest.map (fun r => if keyOf r = keyOf record then record else r) = rest :=
          (List.map_congr_left fun r hr => if_neg fun heq =>
            hnot (List.mem_map.mpr ⟨r, hr, heq.trans hkey.symm⟩)).trans (List.map_id _)
        rw [if_pos hkey, if_pos hkey, hsame]
      · obtain ⟨found, hfound, heq⟩ := h
        have hmem := (List.mem_cons.mp hfound).resolve_left fun hf => hkey (hf ▸ heq)
        rw [if_neg hkey, if_neg hkey, ih hrest ⟨found, hmem, heq⟩]
        rfl

theorem mem_put_self (keyOf : α → κ) (record : α) (records : List α) :
    record ∈ put keyOf record records := by
  induction records with
  | nil => exact List.mem_singleton_self _
  | cons other rest ih =>
      rw [put]
      split
      · exact List.mem_cons_self
      · exact List.mem_cons_of_mem _ ih

theorem mem_of_mem_put {keyOf : α → κ} {record other : α} {records : List α}
    (h : other ∈ put keyOf record records) : other = record ∨ other ∈ records := by
  induction records with
  | nil => exact .inl (List.mem_singleton.mp h)
  | cons first rest ih =>
      rw [put] at h
      split at h
      · exact (List.mem_cons.mp h).imp_right (List.mem_cons_of_mem _)
      · rcases List.mem_cons.mp h with rfl | h
        · exact .inr List.mem_cons_self
        · exact (ih h).imp_right (List.mem_cons_of_mem _)

/-- Putting a record adds at most its key. -/
theorem map_put (keyOf : α → κ) (record : α) (records : List α) :
    (put keyOf record records).map keyOf =
      if keyOf record ∈ records.map keyOf then records.map keyOf
      else records.map keyOf ++ [keyOf record] := by
  induction records with
  | nil => rfl
  | cons other rest ih =>
      rw [put]
      by_cases h : keyOf other = keyOf record
      · simp [h]
      · rw [if_neg h, List.map_cons, ih, List.map_cons]
        by_cases hmem : keyOf record ∈ rest.map keyOf
        · rw [if_pos hmem, if_pos (List.mem_cons_of_mem _ hmem)]
        · rw [if_neg hmem, if_neg, List.cons_append]
          exact fun hcons => (List.mem_cons.mp hcons).elim (Ne.symm h) hmem

theorem find?_update_self {keyOf : α → κ} {f : α → α}
    (hf : ∀ record, keyOf (f record) = keyOf record)
    (key : κ) (records : List α) :
    find? keyOf key (update keyOf key f records) = (find? keyOf key records).map f := by
  induction records with
  | nil => rfl
  | cons other rest ih =>
      simp only [find?, update] at ih
      by_cases h : keyOf other = key
      · simp [find?, update, h, hf]
      · simp [find?, update, h, ih]

theorem find?_update_of_ne {keyOf : α → κ} {f : α → α}
    (hf : ∀ record, keyOf (f record) = keyOf record) {key other : κ} (h : key ≠ other)
    (records : List α) :
    find? keyOf other (update keyOf key f records) = find? keyOf other records := by
  induction records with
  | nil => rfl
  | cons record rest ih =>
      simp only [find?, update] at ih
      by_cases hk : keyOf record = key
      · simp [find?, update, hk, hf, h, ih]
      · simp [find?, update, List.find?_cons, hk, ih]

end Workflow.Keyed
