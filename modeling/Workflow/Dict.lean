/-!
# Ordered dictionaries

A dictionary is a list of keys and values in the order in which the keys were first set. Setting a
key again changes its value and leaves its place. Looking a key up finds its first entry.
-/

namespace Workflow

universe u

/-- Keys with their values, in insertion order. -/
abbrev Dict (α : Type u) := List (String × α)

namespace Dict

variable {α : Type u}

/-- The value under a key. -/
def get? : Dict α → String → Option α
  | [], _ => none
  | (k, v) :: rest, key => if k = key then some v else get? rest key

/-- The key has a value. -/
def has (d : Dict α) (key : String) : Bool := (d.get? key).isSome

/-- Set a key: in place when it is there, at the end when it is new. -/
def set : Dict α → String → α → Dict α
  | [], key, value => [(key, value)]
  | (k, v) :: rest, key, value =>
    if k = key then (k, value) :: rest else (k, v) :: set rest key value

/-- Change the value under a key that is there. -/
def modify : Dict α → String → (α → α) → Dict α
  | [], _, _ => []
  | (k, v) :: rest, key, f => if k = key then (k, f v) :: rest else (k, v) :: modify rest key f

/-- Drop a key. -/
def erase (d : Dict α) (key : String) : Dict α := d.filter fun entry => entry.1 ≠ key

/-- The entries of the second dictionary set over those of the first, in order. -/
def merge (d e : Dict α) : Dict α := e.foldl (fun d entry => d.set entry.1 entry.2) d

/-- The dictionary of a list of entries in which a later entry wins. -/
def ofEntries (entries : List (String × α)) : Dict α := merge [] entries

/-- The keys, in order. -/
def keys (d : Dict α) : List String := d.map (·.1)

/-- The values, in the order of their keys. -/
def values (d : Dict α) : List α := d.map (·.2)

@[simp] theorem get?_nil (key : String) : get? ([] : Dict α) key = none := rfl

theorem get?_cons (k key : String) (v : α) (d : Dict α) :
    get? ((k, v) :: d) key = if k = key then some v else get? d key := rfl

@[simp] theorem get?_set_self (d : Dict α) (key : String) (value : α) :
    (d.set key value).get? key = some value := by
  induction d with
  | nil => simp [set, get?]
  | cons entry rest ih =>
      obtain ⟨k, v⟩ := entry
      by_cases h : k = key <;> simp [set, get?, h, ih]

theorem get?_set_of_ne (d : Dict α) {key other : String} (value : α) (h : key ≠ other) :
    (d.set key value).get? other = d.get? other := by
  induction d with
  | nil => simp [set, get?, h]
  | cons entry rest ih =>
      obtain ⟨k, v⟩ := entry
      by_cases hk : k = key
      · subst hk
        simp [set, get?, h]
      · by_cases ho : k = other
        · subst ho
          simp [set, get?, hk]
        · simp [set, get?, hk, ho, ih]

theorem get?_modify_self (d : Dict α) (key : String) (f : α → α) :
    (d.modify key f).get? key = (d.get? key).map f := by
  induction d with
  | nil => rfl
  | cons entry rest ih =>
      obtain ⟨k, v⟩ := entry
      by_cases h : k = key <;> simp [modify, get?, h, ih]

theorem get?_modify_of_ne (d : Dict α) {key other : String} (f : α → α) (h : key ≠ other) :
    (d.modify key f).get? other = d.get? other := by
  induction d with
  | nil => rfl
  | cons entry rest ih =>
      obtain ⟨k, v⟩ := entry
      by_cases hk : k = key
      · subst hk
        simp [modify, get?, h]
      · simp [modify, get?, hk, ih]

theorem modify_eq_self {d : Dict α} {key : String} {f : α → α} (h : d.get? key = none) :
    d.modify key f = d := by
  induction d with
  | nil => rfl
  | cons entry rest ih =>
      obtain ⟨k, v⟩ := entry
      by_cases hk : k = key
      · simp [get?, hk] at h
      · simp only [get?, hk, if_false] at h
        simp [modify, hk, ih h]

@[simp] theorem keys_modify (d : Dict α) (key : String) (f : α → α) :
    (d.modify key f).keys = d.keys := by
  unfold keys
  induction d with
  | nil => rfl
  | cons entry rest ih =>
      obtain ⟨k, v⟩ := entry
      by_cases h : k = key <;> simp [modify, h, ih]

theorem set_of_not_mem_keys {d : Dict α} {key : String} (value : α) (h : key ∉ d.keys) :
    d.set key value = d ++ [(key, value)] := by
  induction d with
  | nil => rfl
  | cons entry rest ih =>
      obtain ⟨k, v⟩ := entry
      simp only [keys, List.map_cons, List.mem_cons, not_or] at h
      rw [set, if_neg (Ne.symm h.1), ih h.2, List.cons_append]

theorem merge_of_nodup {d e : Dict α} (h : (d.keys ++ e.keys).Nodup) : merge d e = d ++ e := by
  induction e generalizing d with
  | nil => exact (List.append_nil d).symm
  | cons entry rest ih =>
      obtain ⟨k, v⟩ := entry
      have hkey : k ∉ d.keys := fun hk =>
        (List.nodup_append.mp h).2.2 k hk k List.mem_cons_self rfl
      have hset := set_of_not_mem_keys v hkey
      have hrest : ((d.set k v).keys ++ keys rest).Nodup := by
        rw [hset]
        simpa [keys] using h
      calc merge d ((k, v) :: rest) = merge (d.set k v) rest := rfl
        _ = d ++ (k, v) :: rest := by rw [ih hrest, hset, List.append_assoc, List.singleton_append]

/-- Entries whose keys differ make a dictionary as they are. -/
theorem ofEntries_of_nodup {entries : Dict α} (h : entries.keys.Nodup) :
    ofEntries entries = entries := merge_of_nodup h

theorem get?_of_mem {d : Dict α} {key : String} {value : α} (hkeys : d.keys.Nodup)
    (h : (key, value) ∈ d) : d.get? key = some value := by
  induction d with
  | nil => simp at h
  | cons entry rest ih =>
      obtain ⟨k, v⟩ := entry
      obtain ⟨hk, hrest⟩ := List.nodup_cons.mp hkeys
      obtain heq | h := List.mem_cons.mp h
      · obtain ⟨rfl, rfl⟩ := Prod.mk.injEq .. ▸ heq
        simp [get?]
      · have hmem : key ∈ keys rest := List.mem_map.mpr ⟨_, h, rfl⟩
        have hne : k ≠ key := fun e => hk (e ▸ hmem)
        rw [get?_cons, if_neg hne, ih hrest h]

theorem mem_of_get? {d : Dict α} {key : String} {value : α} (h : d.get? key = some value) :
    (key, value) ∈ d := by
  induction d with
  | nil => simp at h
  | cons entry rest ih =>
      obtain ⟨k, v⟩ := entry
      by_cases hk : k = key
      · simp only [get?, hk, if_true, Option.some.injEq] at h
        simp [hk, h]
      · simp only [get?, hk, if_false] at h
        exact List.mem_cons_of_mem _ (ih h)

theorem get?_append (d e : Dict α) (key : String) :
    get? (d ++ e) key = (d.get? key).or (get? e key) := by
  induction d with
  | nil => rfl
  | cons entry rest ih =>
      obtain ⟨k, v⟩ := entry
      rw [List.cons_append, get?_cons, get?_cons, ih]
      split <;> rfl

theorem get?_map {β : Type u} (f : α → β) (d : Dict α) (key : String) :
    get? (d.map fun entry => (entry.1, f entry.2)) key = (d.get? key).map f := by
  induction d with
  | nil => rfl
  | cons entry rest ih =>
      obtain ⟨k, v⟩ := entry
      rw [List.map_cons, get?_cons, get?_cons, ih]
      split <;> rfl

/-- Of the entries that are set, the last one under a key counts. -/
theorem get?_merge (d e : Dict α) (key : String) :
    (merge d e).get? key = (get? e.reverse key).or (d.get? key) := by
  induction e generalizing d with
  | nil => rfl
  | cons entry rest ih =>
      obtain ⟨k, v⟩ := entry
      have hrest : merge d ((k, v) :: rest) = merge (d.set k v) rest := rfl
      rw [hrest, ih, List.reverse_cons, get?_append, Option.or_assoc, get?_cons, get?_nil]
      by_cases h : k = key
      · subst h
        rw [get?_set_self, if_pos rfl]
        rfl
      · rw [get?_set_of_ne d v h, if_neg h]
        rfl

end Dict

end Workflow
