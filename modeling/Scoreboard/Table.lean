namespace Scoreboard

structure Table (κ α : Type) where
  entries : List (κ × α)
  deriving Repr, DecidableEq

namespace Table

variable {κ α β : Type} [DecidableEq κ]

def empty : Table κ α :=
  ⟨[]⟩

instance : Inhabited (Table κ α) :=
  ⟨empty⟩

def keys (t : Table κ α) : List κ :=
  t.entries.map Prod.fst

def values (t : Table κ α) : List α :=
  t.entries.map Prod.snd

def size (t : Table κ α) : Nat :=
  t.entries.length

def isEmpty (t : Table κ α) : Bool :=
  t.entries.isEmpty

def find (key : κ) : List (κ × α) → Option α
  | [] => none
  | entry :: rest => if entry.1 = key then some entry.2 else find key rest

def get? (t : Table κ α) (key : κ) : Option α :=
  find key t.entries

def contains (t : Table κ α) (key : κ) : Bool :=
  (t.get? key).isSome

/-- Entries with a key's value replaced where the key stands, or added at the end. -/
def put (key : κ) (value : α) : List (κ × α) → List (κ × α)
  | [] => [(key, value)]
  | entry :: rest =>
    if entry.1 = key then (key, value) :: rest else entry :: put key value rest

def set (t : Table κ α) (key : κ) (value : α) : Table κ α :=
  ⟨put key value t.entries⟩

def drop (key : κ) : List (κ × α) → List (κ × α)
  | [] => []
  | entry :: rest => if entry.1 = key then rest else entry :: drop key rest

def erase (t : Table κ α) (key : κ) : Table κ α :=
  ⟨drop key t.entries⟩

def mapValues (f : α → β) (t : Table κ α) : Table κ β :=
  ⟨t.entries.map fun entry => (entry.1, f entry.2)⟩

def Distinct (t : Table κ α) : Prop :=
  t.keys.Nodup

@[simp] theorem get?_empty (key : κ) : (empty : Table κ α).get? key = none := rfl

theorem find_put_self (key : κ) (value : α) (entries : List (κ × α)) :
    find key (put key value entries) = some value := by
  induction entries with
  | nil => simp [put, find]
  | cons entry rest ih => by_cases h : entry.1 = key <;> simp [put, find, h, ih]

theorem find_put_of_ne {key other : κ} (hne : other ≠ key) (value : α) (entries : List (κ × α)) :
    find other (put key value entries) = find other entries := by
  induction entries with
  | nil => simp [put, find, hne.symm]
  | cons entry rest ih =>
    by_cases h : entry.1 = key
    · simp [put, find, h, hne.symm]
    · simp [put, find, h, ih]

theorem find_drop_of_ne {key other : κ} (hne : other ≠ key) (entries : List (κ × α)) :
    find other (drop key entries) = find other entries := by
  induction entries with
  | nil => rfl
  | cons entry rest ih =>
    by_cases h : entry.1 = key
    · simp [drop, find, h, hne.symm]
    · simp [drop, find, h, ih]

theorem find_eq_none_iff {key : κ} {entries : List (κ × α)} :
    find key entries = none ↔ key ∉ entries.map Prod.fst := by
  induction entries with
  | nil => simp [find]
  | cons entry rest ih =>
    by_cases h : entry.1 = key
    · simp [find, h]
    · simp only [find, if_neg h, ih, List.map_cons, List.mem_cons, not_or]
      exact ⟨fun hk => ⟨fun he => h he.symm, hk⟩, And.right⟩

@[simp] theorem get?_set_self (t : Table κ α) (key : κ) (value : α) :
    (t.set key value).get? key = some value :=
  find_put_self key value t.entries

theorem get?_set_of_ne (t : Table κ α) {key other : κ} (hne : other ≠ key) (value : α) :
    (t.set key value).get? other = t.get? other :=
  find_put_of_ne hne value t.entries

theorem get?_erase_of_ne (t : Table κ α) {key other : κ} (hne : other ≠ key) :
    (t.erase key).get? other = t.get? other :=
  find_drop_of_ne hne t.entries

theorem get?_eq_none_iff {t : Table κ α} {key : κ} : t.get? key = none ↔ key ∉ t.keys :=
  find_eq_none_iff

theorem keys_set_of_mem {t : Table κ α} {key : κ} (h : key ∈ t.keys) (value : α) :
    (t.set key value).keys = t.keys := by
  obtain ⟨entries⟩ := t
  simp only [keys, set] at h ⊢
  induction entries with
  | nil => simp at h
  | cons entry rest ih =>
    by_cases he : entry.1 = key
    · simp [put, he]
    · have hr : key ∈ rest.map Prod.fst := by simpa [Ne.symm he] using h
      simp [put, he, ih hr]

theorem keys_set_of_not_mem {t : Table κ α} {key : κ} (h : key ∉ t.keys) (value : α) :
    (t.set key value).keys = t.keys ++ [key] := by
  obtain ⟨entries⟩ := t
  simp only [keys, set] at h ⊢
  induction entries with
  | nil => simp [put]
  | cons entry rest ih =>
    have he : entry.1 ≠ key := fun he => h (by simp [he])
    have hr : key ∉ rest.map Prod.fst := fun hr => h (by simp [hr])
    simp [put, he, ih hr]

theorem keys_erase (t : Table κ α) (key : κ) : (t.erase key).keys = t.keys.erase key := by
  obtain ⟨entries⟩ := t
  simp only [keys, erase]
  induction entries with
  | nil => rfl
  | cons entry rest ih =>
    by_cases he : entry.1 = key
    · simp [drop, he]
    · simp [drop, he, ih, List.erase_cons_tail]

omit [DecidableEq κ] in
theorem distinct_empty : (empty : Table κ α).Distinct := by
  simp [Distinct, keys, empty]

theorem Distinct.set {t : Table κ α} (h : t.Distinct) (key : κ) (value : α) :
    (t.set key value).Distinct := by
  by_cases hk : key ∈ t.keys
  · rw [Distinct, keys_set_of_mem hk]; exact h
  · rw [Distinct, keys_set_of_not_mem hk, List.nodup_append]
    exact ⟨h, by simp, fun a ha b hb hab => hk (by simp_all)⟩

theorem Distinct.erase {t : Table κ α} (h : t.Distinct) (key : κ) : (t.erase key).Distinct := by
  rw [Distinct, keys_erase]
  exact List.Nodup.erase key h

theorem get?_erase_self {t : Table κ α} (h : t.Distinct) (key : κ) :
    (t.erase key).get? key = none := by
  rw [get?_eq_none_iff, keys_erase]
  exact fun hm => (List.Nodup.mem_erase_iff h).1 hm |>.1 rfl

end Table

end Scoreboard
