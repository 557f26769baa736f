import Scoreboard.Proofs.Command.Parts

namespace Scoreboard

open Text Parse

namespace Reader

variable {α β γ : Type} {F : List Char → Prop} {layout : List Token → List Char}

/-- Accepts, in front of a remainder that satisfies `F`, exactly the phrases that `V` allows, laid
out in the given way: `spaced`, or `led` with a space before the first token as well. -/
def Reads (layout : List Token → List Char) (F : List Char → Prop) (p : Reader α)
    (V : α → List Token → Prop) : Prop :=
  ∀ ⦃s rest : List Char⦄ ⦃a : α⦄, F rest →
    (p s = .ok (a, rest) ↔ ∃ ts, V a ts ∧ s = layout ts ++ rest)

abbrev AtEnd (rest : List Char) : Prop :=
  rest = []

abbrev AtGap (rest : List Char) : Prop :=
  atGap rest = true

theorem atGap_of_atEnd (rest : List Char) (h : AtEnd rest) : AtGap rest := by
  rw [h]
  rfl

theorem Reads.congr {p : Reader α} {V W : α → List Token → Prop} (hp : Reads layout F p V)
    (h : ∀ a ts, V a ts ↔ W a ts) : Reads layout F p W := by
  intro s rest a hrest
  simp only [hp hrest, h]

theorem Reads.atEnd {p : Reader α} {V : α → List Token → Prop} (hp : Reads layout AtGap p V) :
    Reads layout AtEnd p V :=
  fun _ _ _ hrest => hp (atGap_of_atEnd _ hrest)

theorem Reads.map {p : Reader α} {V : α → List Token → Prop} (hp : Reads layout F p V)
    (f : α → β) : Reads layout F (f <$> p) fun b ts => ∃ a, V a ts ∧ f a = b := by
  intro s rest b hrest
  simp only [map_eq_ok_iff, hp hrest]
  constructor
  · rintro ⟨a, ⟨ts, hv, hs⟩, hb⟩
    exact ⟨ts, ⟨a, hv, hb⟩, hs⟩
  · rintro ⟨ts, ⟨a, hv, hb⟩, hs⟩
    exact ⟨a, ⟨ts, hv, hs⟩, hb⟩

theorem reads_pure (a : α) : Reads led F (pure a) fun b ts => b = a ∧ ts = [] := by
  intro s rest b _
  simp only [pure_apply, Except.ok.injEq, Prod.mk.injEq]
  constructor
  · rintro ⟨rfl, rfl⟩
    exact ⟨[], ⟨rfl, rfl⟩, rfl⟩
  · rintro ⟨ts, ⟨rfl, rfl⟩, rfl⟩
    exact ⟨rfl, rfl⟩

/-- One phrase after another. What follows the first begins with a space or is all that is left. -/
theorem Reads.bind {p : Reader α} {f : α → Reader β} {U : α → List Token → Prop}
    {V : α → β → List Token → Prop} (hF : ∀ rest, F rest → AtGap rest)
    (hp : Reads led AtGap p U) (hf : ∀ a, Reads led F (f a) (V a)) :
    Reads led F (p >>= f) fun b ts => ∃ a us vs, U a us ∧ V a b vs ∧ ts = us ++ vs := by
  intro s rest b hrest
  rw [bind_eq_ok_iff]
  constructor
  · rintro ⟨a, mid, h₁, h₂⟩
    -- what the second reader accepted begins with a gap, so it tells where the first one stopped
    obtain ⟨vs, hv, rfl⟩ := (hf a hrest).1 h₂
    obtain ⟨us, hu, rfl⟩ := (hp (atGap_led_append vs (hF rest hrest))).1 h₁
    exact ⟨us ++ vs, ⟨a, us, vs, hu, hv, rfl⟩, by rw [led_append, List.append_assoc]⟩
  · rintro ⟨ts, ⟨a, us, vs, hu, hv, rfl⟩, rfl⟩
    refine ⟨a, led vs ++ rest, ?_, (hf a hrest).2 ⟨vs, hv, rfl⟩⟩
    exact (hp (atGap_led_append vs (hF rest hrest))).2
      ⟨us, hu, by rw [led_append, List.append_assoc]⟩

theorem ReadsToken.bind {p : Reader α} {f : α → Reader β} {W : α → Token → Prop}
    {V : α → β → List Token → Prop} (hF : ∀ rest, F rest → AtGap rest)
    (hp : ReadsToken p W) (hf : ∀ a, Reads led F (f a) (V a)) :
    Reads spaced F (p >>= f) fun b ts => ∃ a t us, W a t ∧ V a b us ∧ ts = t :: us := by
  intro s rest b hrest
  rw [bind_eq_ok_iff]
  constructor
  · rintro ⟨a, mid, h₁, h₂⟩
    obtain ⟨us, hv, rfl⟩ := (hf a hrest).1 h₂
    obtain ⟨t, ht, rfl⟩ := (hp (atGap_led_append us (hF rest hrest))).1 h₁
    exact ⟨t :: us, ⟨a, t, us, ht, hv, rfl⟩, by rw [spaced_cons, List.append_assoc]⟩
  · rintro ⟨ts, ⟨a, t, us, ht, hv, rfl⟩, rfl⟩
    refine ⟨a, led us ++ rest, ?_, (hf a hrest).2 ⟨us, hv, rfl⟩⟩
    exact (hp (atGap_led_append us (hF rest hrest))).2
      ⟨t, ht, by rw [spaced_cons, List.append_assoc]⟩

theorem Reads.afterSpace {q : Reader α} {V : α → List Token → Prop} (hq : Reads spaced F q V)
    (hhead : ∀ a ts, V a ts → ∃ t us, ts = t :: us ∧ atGap t = false) :
    Reads led F (space >>= fun _ => q) V := by
  intro s rest a hrest
  simp only [bind_eq_ok_iff, space_eq_ok_iff]
  constructor
  · rintro ⟨u, mid, ⟨rfl, -⟩, h⟩
    obtain ⟨ts, hv, rfl⟩ := (hq hrest).1 h
    obtain ⟨t, us, rfl, -⟩ := hhead a ts hv
    exact ⟨t :: us, hv, by rw [led_cons, spaced_cons, List.cons_append]⟩
  · rintro ⟨ts, hv, rfl⟩
    obtain ⟨t, us, rfl, ht⟩ := hhead a ts hv
    refine ⟨(), spaced (t :: us) ++ rest, ⟨?_, ?_⟩, (hq hrest).2 ⟨_, hv, rfl⟩⟩
    · rw [led_cons, spaced_cons, List.cons_append]
    · rw [spaced_cons, List.append_assoc]
      exact atGap_append ht _

theorem Reads.mapAfterSpace {q : Reader α} {V : α → List Token → Prop} (hq : Reads spaced F q V)
    (hhead : ∀ a ts, V a ts → ∃ t us, ts = t :: us ∧ atGap t = false) (f : α → β) :
    Reads led F (space >>= fun _ => q >>= fun a => pure (f a)) fun b ts =>
      ∃ a, V a ts ∧ f a = b := by
  refine (hq.map f).afterSpace ?_
  rintro b ts ⟨a, hv, -⟩
  exact hhead a ts hv

theorem ReadsToken.afterSpace {p : Reader α} {f : α → Reader β} {W : α → Token → Prop}
    {V : α → β → List Token → Prop} (hF : ∀ rest, F rest → AtGap rest)
    (hp : ReadsToken p W) (hhead : ∀ a t, W a t → atGap t = false)
    (hf : ∀ a, Reads led F (f a) (V a)) :
    Reads led F (space >>= fun _ => p >>= f) fun b ts =>
      ∃ a t us, W a t ∧ V a b us ∧ ts = t :: us := by
  refine (hp.bind hF hf).afterSpace ?_
  rintro b ts ⟨a, t, us, ht, -, rfl⟩
  exact ⟨t, us, rfl, hhead a t ht⟩

theorem ReadsToken.last {p : Reader α} {W : α → Token → Prop}
    (hF : ∀ rest, F rest → AtGap rest) (hp : ReadsToken p W)
    (hhead : ∀ a t, W a t → atGap t = false) (g : α → β) :
    Reads led F (space >>= fun _ => p >>= fun a => pure (g a)) fun b ts =>
      ∃ a t, W a t ∧ b = g a ∧ ts = [t] := by
  refine (hp.afterSpace hF hhead fun a => reads_pure (g a)).congr fun b ts => ?_
  constructor
  · rintro ⟨a, t, us, ht, ⟨hb, rfl⟩, hts⟩
    exact ⟨a, t, ht, hb, hts⟩
  · rintro ⟨a, t, ht, hb, hts⟩
    exact ⟨a, t, [], ht, ⟨hb, rfl⟩, hts⟩

theorem ReadsToken.endOr {p : Reader α} {W : α → Token → Prop} (hp : ReadsToken p W)
    (hhead : ∀ a t, W a t → atGap t = false) :
    Reads led AtEnd (endOr p) fun o ts =>
      (o = none ∧ ts = []) ∨ ∃ a t, W a t ∧ o = some a ∧ ts = [t] := by
  rintro s rest o rfl
  unfold Reader.endOr
  -- at the end of the text nothing is read, and anywhere else the token is a must
  split
  · constructor
    · intro h
      cases h
      exact ⟨[], .inl ⟨rfl, rfl⟩, rfl⟩
    · rintro ⟨ts, ⟨rfl, rfl⟩ | ⟨a, t, -, -, rfl⟩, hs⟩
      · rfl
      · cases hs
  · next hne =>
    rw [hp.last atGap_of_atEnd hhead some rfl]
    constructor
    · rintro ⟨ts, h, hs⟩
      exact ⟨ts, .inr h, hs⟩
    · rintro ⟨ts, ⟨-, rfl⟩ | h, hs⟩
      · exact absurd hs hne
      · exact ⟨ts, h, hs⟩

def BeginsWith (keys : List String) (W : α → List Token → Prop) : Prop :=
  ∀ a ts, W a ts → ∃ key ∈ keys, ∃ us, ts = plain key :: us

theorem BeginsWith.head {keys : List String} {W : α → List Token → Prop} (h : BeginsWith keys W)
    (hkeys : ∀ key ∈ keys, Unbroken (plain key)) (a : α) (ts : List Token) (hw : W a ts) :
    ∃ t us, ts = t :: us ∧ atGap t = false := by
  obtain ⟨key, hk, us, rfl⟩ := h a ts hw
  exact ⟨plain key, us, rfl, (hkeys key hk).atGap⟩

theorem reads_choice {p : Reader γ} {g : γ → Reader α} {options : List (String × γ)}
    {W : α → List Token → Prop} (hF : ∀ rest, F rest → AtGap rest)
    (hp : ReadsToken p fun r t => ∃ key, (key, r) ∈ options ∧ t = plain key)
    (hmem : ∀ s mid r, p s = .ok (r, mid) → ∃ key, (key, r) ∈ options)
    (hoptions : ∀ option ∈ options, Reads led F (g option.2) fun a us => W a (plain option.1 :: us))
    (hW : BeginsWith (options.map Prod.fst) W) : Reads spaced F (p >>= g) W := by
  intro s rest a hrest
  have hgap := fun us => atGap_led_append us (hF rest hrest)
  rw [bind_eq_ok_iff]
  constructor
  · rintro ⟨r, mid, h₁, h₂⟩
    -- a first key of `r` tells how the text goes on, and then which word is in front of it
    obtain ⟨key, hm⟩ := hmem s mid r h₁
    obtain ⟨us, -, rfl⟩ := (hoptions _ hm hrest).1 h₂
    obtain ⟨t, ⟨word, hword, rfl⟩, rfl⟩ := (hp (hgap us)).1 h₁
    obtain ⟨us', hw, he⟩ := (hoptions _ hword hrest).1 h₂
    exact ⟨plain word :: us', hw, by rw [spaced_cons, List.append_assoc, ← he]⟩
  · rintro ⟨ts, hw, rfl⟩
    obtain ⟨key, hk, us, rfl⟩ := hW a ts hw
    obtain ⟨⟨name, r⟩, hm, rfl⟩ := List.mem_map.1 hk
    refine ⟨r, led us ++ rest, (hp (hgap us)).2 ⟨plain name, ⟨name, hm, rfl⟩, ?_⟩,
      (hoptions _ hm hrest).2 ⟨us, hw, rfl⟩⟩
    rw [spaced_cons, List.append_assoc]

theorem mem_of_choose_eq_ok {what : String} {options : List (String × γ)} {reader : Reader String}
    (s mid : List Char) (r : γ) (h : choose what options reader s = .ok (r, mid)) :
    ∃ key, (key, r) ∈ options := by
  obtain ⟨key, -, hl⟩ := choose_eq_ok h
  exact ⟨key, mem_of_lookup_eq_some hl⟩

theorem reads_branch {label : String} {options : List (String × Reader α)}
    {W : α → List Token → Prop} (hF : ∀ rest, F rest → AtGap rest)
    (hkeys : (options.map Prod.fst).Nodup) (hnames : ∀ key ∈ options.map Prod.fst, IsName key)
    (hW : BeginsWith (options.map Prod.fst) W)
    (hoptions : ∀ option ∈ options, Reads led F option.2 fun a us => W a (plain option.1 :: us)) :
    Reads spaced F (branch label options) W :=
  reads_choice hF (readsToken_keyword hkeys hnames) mem_of_choose_eq_ok hoptions hW

end Reader

end Scoreboard
