import Mathlib.Data.List.Forall2
import Scoreboard.Table

namespace Scoreboard.Table

variable {κ α β : Type}

def All (P : κ → α → Prop) (t : Table κ α) : Prop :=
  ∀ entry ∈ t.entries, P entry.1 entry.2

/-- The same keys in the same order, with values that `R` relates. -/
def Related (R : α → β → Prop) (t : Table κ α) (t' : Table κ β) : Prop :=
  List.Forall₂ (fun entry entry' => entry.1 = entry'.1 ∧ R entry.2 entry'.2) t.entries t'.entries

theorem all_empty (P : κ → α → Prop) : (empty : Table κ α).All P := by
  simp [All, empty]

theorem All.imp {P Q : κ → α → Prop} {t : Table κ α} (h : t.All P)
    (hpq : ∀ key ∈ t.keys, ∀ value, P key value → Q key value) : t.All Q :=
  fun entry he => hpq entry.1 (List.mem_map_of_mem he) entry.2 (h entry he)

theorem keys_mapValues (f : α → β) (t : Table κ α) : (t.mapValues f).keys = t.keys := by
  simp [keys, mapValues]

theorem Distinct.mapValues {t : Table κ α} (h : t.Distinct) (f : α → β) :
    (t.mapValues f).Distinct := by
  rw [Distinct, keys_mapValues]
  exact h

theorem all_mapValues_iff {P : κ → β → Prop} {f : α → β} {t : Table κ α} :
    (t.mapValues f).All P ↔ t.All fun key value => P key (f value) :=
  List.forall_mem_map

variable [DecidableEq κ]

theorem All.set {P : κ → α → Prop} {t : Table κ α} (h : t.All P) {key : κ} {value : α}
    (hv : P key value) : (t.set key value).All P := by
  obtain ⟨entries⟩ := t
  simp only [All, Table.set] at h ⊢
  induction entries with
  | nil => simpa [put] using hv
  | cons entry rest ih =>
    rw [List.forall_mem_cons] at h
    rw [put]
    split
    · exact List.forall_mem_cons.2 ⟨hv, h.2⟩
    · exact List.forall_mem_cons.2 ⟨h.1, ih h.2⟩

theorem drop_sublist (key : κ) (entries : List (κ × α)) : (drop key entries).Sublist entries := by
  induction entries with
  | nil => exact .slnil
  | cons entry rest ih =>
    rw [drop]
    split
    · exact List.sublist_cons_self entry rest
    · exact ih.cons_cons entry

theorem All.erase {P : κ → α → Prop} {t : Table κ α} (h : t.All P) (key : κ) :
    (t.erase key).All P :=
  fun entry he => h entry ((drop_sublist key t.entries).subset he)

theorem mem_of_find {key : κ} {value : α} {entries : List (κ × α)}
    (h : find key entries = some value) : (key, value) ∈ entries := by
  induction entries with
  | nil => cases h
  | cons entry rest ih =>
    rw [find] at h
    split at h
    · next he =>
      cases h
      rw [← he]
      exact List.mem_cons_self
    · exact List.mem_cons_of_mem entry (ih h)

theorem mem_put {key : κ} {value : α} {entries : List (κ × α)} {entry : κ × α}
    (h : entry ∈ put key value entries) : entry = (key, value) ∨ entry ∈ entries := by
  induction entries with
  | nil => exact .inl (List.mem_singleton.1 h)
  | cons first rest ih =>
    rw [put] at h
    split at h
    · exact (List.mem_cons.1 h).imp_right (List.mem_cons_of_mem first)
    · rcases List.mem_cons.1 h with rfl | hrest
      · exact .inr List.mem_cons_self
      · exact (ih hrest).imp_right (List.mem_cons_of_mem first)

theorem All.of_get? {P : κ → α → Prop} {t : Table κ α} (h : t.All P) {key : κ} {value : α}
    (hg : t.get? key = some value) : P key value :=
  h (key, value) (mem_of_find hg)

theorem Distinct.get?_of_mem {t : Table κ α} (h : t.Distinct) {key : κ} {value : α}
    (hm : (key, value) ∈ t.entries) : t.get? key = some value := by
  obtain ⟨entries⟩ := t
  simp only [Distinct, keys, get?] at h hm ⊢
  induction entries with
  | nil => cases hm
  | cons entry rest ih =>
    rw [List.map_cons, List.nodup_cons] at h
    rcases List.mem_cons.1 hm with rfl | hm
    · rw [find, if_pos rfl]
    · have hne : entry.1 ≠ key := fun he => h.1 (he ▸ List.mem_map_of_mem hm)
      rw [find, if_neg hne, ih h.2 hm]

theorem mem_keys_of_get? {t : Table κ α} {key : κ} {value : α} (h : t.get? key = some value) :
    key ∈ t.keys :=
  List.mem_map_of_mem (mem_of_find h)

theorem mem_keys_set {t : Table κ α} {key other : κ} {value : α} :
    other ∈ (t.set key value).keys ↔ other ∈ t.keys ∨ other = key := by
  by_cases hk : key ∈ t.keys
  · rw [keys_set_of_mem hk]
    constructor
    · exact .inl
    · rintro (h | rfl)
      · exact h
      · exact hk
  · simp [keys_set_of_not_mem hk]

theorem get?_mapValues (f : α → β) (t : Table κ α) (key : κ) :
    (t.mapValues f).get? key = (t.get? key).map f := by
  obtain ⟨entries⟩ := t
  simp only [get?, mapValues]
  induction entries with
  | nil => rfl
  | cons entry rest ih => by_cases h : entry.1 = key <;> simp [find, h, ih]

theorem mapValues_set (f : α → β) (t : Table κ α) (key : κ) (value : α) :
    (t.set key value).mapValues f = (t.mapValues f).set key (f value) := by
  obtain ⟨entries⟩ := t
  simp only [set, mapValues, Table.mk.injEq]
  induction entries with
  | nil => rfl
  | cons entry rest ih => by_cases h : entry.1 = key <;> simp [put, h, ih]

theorem mapValues_erase (f : α → β) (t : Table κ α) (key : κ) :
    (t.erase key).mapValues f = (t.mapValues f).erase key := by
  obtain ⟨entries⟩ := t
  simp only [erase, mapValues, Table.mk.injEq]
  induction entries with
  | nil => rfl
  | cons entry rest ih => by_cases h : entry.1 = key <;> simp [drop, h, ih]

theorem set_eq_self {t : Table κ α} {key : κ} {value : α} (h : t.get? key = some value) :
    t.set key value = t := by
  obtain ⟨entries⟩ := t
  simp only [get?, set, Table.mk.injEq] at h ⊢
  induction entries with
  | nil => cases h
  | cons entry rest ih =>
    rw [find] at h
    rw [put]
    split at h
    · next he =>
      rw [if_pos he, ← he, ← Option.some.inj h]
    · next he => rw [if_neg he, ih h]

theorem mapValues_set_of_get? {f : α → β} {t : Table κ α} {key : κ} {old value : α}
    (h : t.get? key = some old) (hf : f value = f old) :
    (t.set key value).mapValues f = t.mapValues f := by
  rw [mapValues_set, hf]
  apply set_eq_self
  rw [get?_mapValues, h, Option.map_some]

/-- The values of all entries of a key: one at most, where keys are distinct. -/
def valuesOf (t : Table κ α) (key : κ) : List α :=
  (t.entries.filter fun entry => entry.1 = key).map Prod.snd

theorem get?_eq_head?_valuesOf (t : Table κ α) (key : κ) : t.get? key = (t.valuesOf key).head? := by
  obtain ⟨entries⟩ := t
  simp only [get?, valuesOf]
  induction entries with
  | nil => rfl
  | cons entry rest ih => by_cases h : entry.1 = key <;> simp [find, h, ih]

theorem valuesOf_set_self (t : Table κ α) (key : κ) (value : α) :
    (t.set key value).valuesOf key = value :: (t.valuesOf key).tail := by
  obtain ⟨entries⟩ := t
  simp only [set, valuesOf]
  induction entries with
  | nil => simp [put]
  | cons entry rest ih => by_cases h : entry.1 = key <;> simp [put, h, ih]

theorem valuesOf_set_of_ne (t : Table κ α) {key other : κ} (hne : other ≠ key) (value : α) :
    (t.set key value).valuesOf other = t.valuesOf other := by
  obtain ⟨entries⟩ := t
  simp only [set, valuesOf]
  induction entries with
  | nil => simp [put, hne.symm]
  | cons entry rest ih =>
    by_cases h : entry.1 = key
    · simp [put, h, hne.symm]
    · simp [put, h, List.filter_cons, apply_ite (List.map Prod.snd), ih]

theorem valuesOf_erase_self (t : Table κ α) (key : κ) :
    (t.erase key).valuesOf key = (t.valuesOf key).tail := by
  obtain ⟨entries⟩ := t
  simp only [erase, valuesOf]
  induction entries with
  | nil => rfl
  | cons entry rest ih => by_cases h : entry.1 = key <;> simp [drop, h, ih]

theorem valuesOf_erase_of_ne (t : Table κ α) {key other : κ} (hne : other ≠ key) :
    (t.erase key).valuesOf other = t.valuesOf other := by
  obtain ⟨entries⟩ := t
  simp only [erase, valuesOf]
  induction entries with
  | nil => rfl
  | cons entry rest ih =>
    by_cases h : entry.1 = key
    · simp [drop, h, hne.symm]
    · simp [drop, h, List.filter_cons, apply_ite (List.map Prod.snd), ih]

variable {R : α → β → Prop} {t : Table κ α} {t' : Table κ β}

theorem Related.get? (h : t.Related R t') (key : κ) :
    t.get? key = none ∧ t'.get? key = none ∨
      ∃ value value', t.get? key = some value ∧ t'.get? key = some value' ∧ R value value' := by
  obtain ⟨entries⟩ := t
  obtain ⟨entries'⟩ := t'
  simp only [Related, Table.get?] at h ⊢
  induction h with
  | nil => exact .inl ⟨rfl, rfl⟩
  | @cons entry entry' rest rest' hentry hrest ih =>
    rw [find, find, ← hentry.1]
    split
    · exact .inr ⟨_, _, rfl, rfl, hentry.2⟩
    · exact ih

theorem Related.set (h : t.Related R t') (key : κ) {value : α} {value' : β} (hv : R value value') :
    (t.set key value).Related R (t'.set key value') := by
  obtain ⟨entries⟩ := t
  obtain ⟨entries'⟩ := t'
  simp only [Related, Table.set] at h ⊢
  induction h with
  | nil => exact .cons ⟨rfl, hv⟩ .nil
  | @cons entry entry' rest rest' hentry hrest ih =>
    rw [put, put, ← hentry.1]
    split
    · exact .cons ⟨rfl, hv⟩ hrest
    · exact .cons hentry ih

theorem Related.erase (h : t.Related R t') (key : κ) :
    (t.erase key).Related R (t'.erase key) := by
  obtain ⟨entries⟩ := t
  obtain ⟨entries'⟩ := t'
  simp only [Related, Table.erase] at h ⊢
  induction h with
  | nil => exact .nil
  | @cons entry entry' rest rest' hentry hrest ih =>
    rw [drop, drop, ← hentry.1]
    split
    · exact hrest
    · exact .cons hentry ih

/-- The same values for the same keys, in whatever order these came in. -/
structure SameMap (t t' : Table κ α) : Prop where
  distinct_left : t.Distinct
  distinct_right : t'.Distinct
  get? : ∀ key, t.get? key = t'.get? key

theorem SameMap.set {t t' : Table κ α} (h : t.SameMap t') (key : κ) (value : α) :
    (t.set key value).SameMap (t'.set key value) := by
  refine ⟨h.distinct_left.set key value, h.distinct_right.set key value, fun other => ?_⟩
  by_cases he : other = key
  · rw [he, get?_set_self, get?_set_self]
  · rw [get?_set_of_ne t he, get?_set_of_ne t' he, h.get?]

theorem SameMap.erase {t t' : Table κ α} (h : t.SameMap t') (key : κ) :
    (t.erase key).SameMap (t'.erase key) := by
  refine ⟨h.distinct_left.erase key, h.distinct_right.erase key, fun other => ?_⟩
  by_cases he : other = key
  · rw [he, get?_erase_self h.distinct_left, get?_erase_self h.distinct_right]
  · rw [get?_erase_of_ne t he, get?_erase_of_ne t' he, h.get?]

end Scoreboard.Table
