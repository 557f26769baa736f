import Scoreboard.Proofs.Table

namespace Scoreboard.Table

variable {κ α : Type} {t t' t'' : Table κ α} {key : κ}

section Order

variable (touched : κ → Prop) [DecidablePred touched]

def untouched (t : Table κ α) : List (κ × α) :=
  t.entries.filter fun entry => ¬ touched entry.1

/-- `t'` is `t` changed at touched keys only. The keys that remain are in the order in which they
were, and new ones come last. -/
structure Revised (t t' : Table κ α) : Prop where
  untouched : t'.untouched touched = t.untouched touched
  order : ∃ kept new, t'.keys = kept ++ new ∧ kept.Sublist t.keys ∧ ∀ key ∈ new, key ∉ t.keys

/-- `t'` is `t` changed at touched keys only, and no key is gone. -/
structure Extended (t t' : Table κ α) : Prop where
  untouched : t'.untouched touched = t.untouched touched
  order : ∃ new, t'.keys = t.keys ++ new ∧ ∀ key ∈ new, key ∉ t.keys

variable {touched}

theorem untouched_eq_of_imp {touched' : κ → Prop} [DecidablePred touched']
    (h : t'.untouched touched = t.untouched touched) (himp : ∀ key, touched key → touched' key) :
    t'.untouched touched' = t.untouched touched' := by
  have hfilter (t : Table κ α) :
      t.untouched touched' = (t.untouched touched).filter fun entry => ¬ touched' entry.1 := by
    simp only [untouched, List.filter_filter]
    refine List.filter_congr fun entry _ => ?_
    by_cases hentry : touched entry.1
    · simp [himp entry.1 hentry]
    · simp [hentry]
  rw [hfilter, h, hfilter]

theorem Revised.refl (t : Table κ α) : t.Revised touched t :=
  ⟨rfl, t.keys, [], by simp, .refl _, by simp⟩

theorem Extended.refl (t : Table κ α) : t.Extended touched t :=
  ⟨rfl, [], by simp, by simp⟩

theorem Extended.mem_keys (h : t.Extended touched t') (hk : key ∈ t.keys) : key ∈ t'.keys := by
  obtain ⟨new, hkeys, -⟩ := h.order
  rw [hkeys]
  exact List.mem_append_left new hk

/-- Of what is only added to, what was added last comes last. -/
theorem Extended.trans (h : t.Extended touched t') (h' : t'.Extended touched t'') :
    t.Extended touched t'' := by
  obtain ⟨new, hkeys, hnew⟩ := h.order
  obtain ⟨new', hkeys', hnew'⟩ := h'.order
  refine ⟨h'.untouched.trans h.untouched, new ++ new', by rw [hkeys', hkeys, List.append_assoc], ?_⟩
  rw [List.forall_mem_append]
  exact ⟨hnew, fun key hk hmem => hnew' key hk (h.mem_keys hmem)⟩

theorem Extended.revised (h : t.Extended touched t') : t.Revised touched t' := by
  obtain ⟨new, hkeys, hnew⟩ := h.order
  exact ⟨h.untouched, t.keys, new, hkeys, .refl _, hnew⟩

variable [DecidableEq κ]

theorem untouched_set (h : touched key) (t : Table κ α) (value : α) :
    (t.set key value).untouched touched = t.untouched touched := by
  obtain ⟨entries⟩ := t
  simp only [untouched, set]
  induction entries with
  | nil => simp [put, h]
  | cons entry rest ih =>
    rw [put]
    split
    · next he => simp [he, h]
    · rw [List.filter_cons, List.filter_cons, ih]

theorem untouched_erase (h : touched key) (t : Table κ α) :
    (t.erase key).untouched touched = t.untouched touched := by
  obtain ⟨entries⟩ := t
  simp only [untouched, erase]
  induction entries with
  | nil => rfl
  | cons entry rest ih =>
    rw [drop]
    split
    · next he => simp [he, h]
    · rw [List.filter_cons, List.filter_cons, ih]

theorem Extended.set (h : touched key) (t : Table κ α) (value : α) :
    t.Extended touched (t.set key value) := by
  refine ⟨untouched_set h t value, ?_⟩
  by_cases hk : key ∈ t.keys
  · exact ⟨[], by rw [keys_set_of_mem hk, List.append_nil], by simp⟩
  · exact ⟨[key], keys_set_of_not_mem hk value, by simpa using hk⟩

theorem Revised.erase (h : touched key) (t : Table κ α) : t.Revised touched (t.erase key) := by
  refine ⟨untouched_erase h t, (t.erase key).keys, [], by simp, ?_, by simp⟩
  rw [keys_erase]
  exact List.erase_sublist

end Order

/-- What a key that remains has in the new table, `R` relates to what it had in the old one. -/
def Survivors (R : κ → α → α → Prop) (t t' : Table κ α) : Prop :=
  ∀ key ∈ t.keys, ∀ value', (key, value') ∈ t'.entries →
    ∃ value, (key, value) ∈ t.entries ∧ R key value value'

namespace Survivors

variable {R R' : κ → α → α → Prop}

theorem of_subset (hrefl : ∀ key value, R key value value) (h : t'.entries ⊆ t.entries) :
    t.Survivors R t' :=
  fun key _ value hv => ⟨value, h hv, hrefl key value⟩

theorem imp (h : t.Survivors R t')
    (himp : ∀ key value value', R key value value' → R' key value value') : t.Survivors R' t' := by
  intro key hk value' hv
  obtain ⟨value, hmem, hr⟩ := h key hk value' hv
  exact ⟨value, hmem, himp key value value' hr⟩

theorem trans (htrans : ∀ key a b c, R key a b → R key b c → R key a c)
    (hkeys : ∀ key ∈ t.keys, key ∈ t'.keys) (h : t.Survivors R t') (h' : t'.Survivors R t'') :
    t.Survivors R t'' := by
  intro key hk value'' hv
  obtain ⟨value', hmem', hr'⟩ := h' key (hkeys key hk) value'' hv
  obtain ⟨value, hmem, hr⟩ := h key hk value' hmem'
  exact ⟨value, hmem, htrans key value value' value'' hr hr'⟩

theorem set [DecidableEq κ] (hrefl : ∀ key value, R key value value) {value : α}
    (hr : ∀ old, t.get? key = some old → R key old value) : t.Survivors R (t.set key value) := by
  intro other hk value' hv
  rcases mem_put hv with heq | hmem
  · cases heq
    cases hold : t.get? key with
    | none => exact absurd hk (get?_eq_none_iff.1 hold)
    | some old => exact ⟨old, mem_of_find hold, hr old hold⟩
  · exact ⟨value', hmem, hrefl other value'⟩

end Survivors

end Scoreboard.Table
