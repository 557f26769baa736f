import Scoreboard.Proofs.Command.Mistakes
import Scoreboard.Proofs.Command.Phrases

namespace Scoreboard

open Text Reader Parse

namespace Reader

variable {α β γ : Type} {gap : Bool}

theorem bind_assoc (p : Reader α) (f : α → Reader β) (g : β → Reader γ) :
    p >>= f >>= g = p >>= fun a => f a >>= g := by
  funext s
  rw [bind_apply, bind_apply, bind_apply]
  cases p s <;> rfl

def EndsAtGap (p : Reader α) : Prop :=
  ∀ ⦃s rest : List Char⦄ ⦃a : α⦄, p s = .ok (a, []) → atGap rest = true →
    p (s ++ rest) = .ok (a, rest)

/-- A stop with a remainder of a text locates a mistake for a reader: the mistake is there, and what
comes before it can be completed to something that is read. Behind a gap, or if the reader begins
with one, a token that is the mistake does not begin further to the left. -/
structure Locates (gap : Bool) (p : Reader α) (s rest : List Char) (cause : Cause) : Prop where
  describes : cause.Describes rest
  completed : ∃ done more a, s = done ++ rest ∧ p (done ++ more) = .ok (a, []) ∧
    ∀ before, (gap || atGap before.reverse) = true → cause.Follows (before ++ done)

/-- The end of a reader can be relied on. `gap` tells whether what it reads begins with a gap. -/
structure Reliable (gap : Bool) (p : Reader α) : Prop where
  possible : ∃ s a, p s = .ok (a, [])
  begins : ∀ {s : List Char} {a : α}, p s = .ok (a, []) → atGap s = gap
  passed : ∀ {s rest : List Char} {a : α}, p s = .ok (a, rest) →
    ∃ done, s = done ++ rest ∧ p done = .ok (a, [])
  stopped : ∀ {s rest : List Char} {cause : Cause}, p s = .error (.failed cause rest) →
    Locates gap p s rest cause
  blanks : ∀ {s tail : List Char} {a : α}, p s = .ok (a, []) → Blanks tail →
    p (s ++ tail) = .ok (a, tail) ∨
      ∃ rest, p (s ++ tail) = .error (.failed .trailingWhitespace rest)

theorem ReadsToken.endsAtGap {p : Reader α} {W : α → Token → Prop} (hp : ReadsToken p W) :
    EndsAtGap p := by
  intro s rest a h hrest
  obtain ⟨t, ht, hs⟩ := (hp rfl).1 h
  rw [List.append_nil] at hs
  subst hs
  exact (hp hrest).2 ⟨s, ht, rfl⟩

theorem Reads.endsAtGap {layout : List Token → List Char} {p : Reader α}
    {V : α → List Token → Prop} (hp : Reads layout AtGap p V) : EndsAtGap p := by
  intro s rest a h hrest
  obtain ⟨ts, hv, hs⟩ := (hp rfl).1 h
  rw [List.append_nil] at hs
  subst hs
  exact (hp hrest).2 ⟨ts, hv, rfl⟩

theorem EndsAtGap.map {p : Reader α} (hp : EndsAtGap p) (f : α → β) : EndsAtGap (f <$> p) := by
  intro s rest b h hrest
  obtain ⟨a, ha, rfl⟩ := map_eq_ok_iff.1 h
  exact map_eq_ok_iff.2 ⟨a, hp ha hrest, rfl⟩

/-- A reader of single tokens whose stops leave the beginning of a token in front of them. -/
theorem ReadsToken.reliable_of_stopped {p : Reader α} {W : α → Token → Prop} (hp : ReadsToken p W)
    (hsome : ∃ a t, W a t) (hhead : ∀ a t, W a t → atGap t = false)
    (hpassed : ∀ {s rest a}, p s = .ok (a, rest) → ∃ t, W a t ∧ s = t ++ rest)
    (hstopped : ∀ {s rest cause}, p s = .error (.failed cause rest) → cause.Describes rest ∧
      ∃ done more a, s = done ++ rest ∧ W a (done ++ more) ∧
        ∀ before, atGap before.reverse = true → cause.Follows (before ++ done)) :
    Reliable false p := by
  have hwhole : ∀ {a t}, p t = .ok (a, []) ↔ W a t := by
    intro a t
    have ht := @hp t [] a rfl
    simp only [List.append_nil, exists_eq_right'] at ht
    exact ht
  refine ⟨?_, fun h => hhead _ _ (hwhole.1 h), fun h => ?_, fun h => ?_, fun h ht => ?_⟩
  · obtain ⟨a, t, ht⟩ := hsome
    exact ⟨t, a, hwhole.2 ht⟩
  · obtain ⟨t, ht, hs⟩ := hpassed h
    exact ⟨t, hs, hwhole.2 ht⟩
  · obtain ⟨hd, done, more, a, hs, hw, hleft⟩ := hstopped h
    exact ⟨hd, done, more, a, hs, hwhole.2 hw, hleft⟩
  · exact .inl (hp.endsAtGap h ht.atGap)

theorem ReadsToken.reliable {p : Reader α} {W : α → Token → Prop} (hp : ReadsToken p W)
    (hsome : ∃ a t, W a t) (hhead : ∀ a t, W a t → atGap t = false)
    (hpassed : ∀ {s rest a}, p s = .ok (a, rest) → ∃ t, W a t ∧ s = t ++ rest)
    (hstart : StopsAtStart p) : Reliable false p := by
  refine hp.reliable_of_stopped hsome hhead hpassed fun h => ?_
  obtain ⟨rfl, hd⟩ := hstart h
  obtain ⟨a, t, ht⟩ := hsome
  refine ⟨hd, [], t, a, rfl, ht, fun before hgap => ?_⟩
  rw [List.append_nil]
  exact Cause.follows_of_atGap _ hgap

theorem reliable_pure (a : α) : Reliable true (pure a : Reader α) where
  possible := ⟨[], a, rfl⟩
  begins h := by
    cases h
    rfl
  passed h := by
    cases h
    exact ⟨[], rfl, rfl⟩
  stopped h := by cases h
  blanks h _ := by
    cases h
    exact .inl rfl

namespace Reliable

theorem map {p : Reader α} (hp : Reliable gap p) (f : α → β) : Reliable gap (f <$> p) where
  possible := by
    obtain ⟨s, a, h⟩ := hp.possible
    exact ⟨s, f a, map_eq_ok_iff.2 ⟨a, h, rfl⟩⟩
  begins h := by
    obtain ⟨a, ha, -⟩ := map_eq_ok_iff.1 h
    exact hp.begins ha
  passed h := by
    obtain ⟨a, ha, hb⟩ := map_eq_ok_iff.1 h
    obtain ⟨done, hs, hdone⟩ := hp.passed ha
    exact ⟨done, hs, map_eq_ok_iff.2 ⟨a, hdone, hb⟩⟩
  stopped h := by
    obtain ⟨hd, done, more, a, hs, ha, hleft⟩ := hp.stopped (map_eq_error_iff.1 h)
    exact ⟨hd, done, more, f a, hs, map_eq_ok_iff.2 ⟨a, ha, rfl⟩, hleft⟩
  blanks h ht := by
    obtain ⟨a, ha, hb⟩ := map_eq_ok_iff.1 h
    rcases hp.blanks ha ht with hok | ⟨rest, herror⟩
    · exact .inl (map_eq_ok_iff.2 ⟨a, hok, hb⟩)
    · exact .inr ⟨rest, map_eq_error_iff.2 herror⟩

/-- What two readers read one after another is parted where the second begins. -/
theorem split {p : Reader α} {f : α → Reader β} (hp : Reliable gap p) (he : EndsAtGap p)
    (hf : ∀ s a rest, p s = .ok (a, rest) → Reliable true (f a)) {s : List Char} {b : β}
    (h : (p >>= f) s = .ok (b, [])) :
    ∃ a done mid, s = done ++ mid ∧ p done = .ok (a, []) ∧ f a mid = .ok (b, []) ∧
      atGap mid = true ∧ ∀ rest, atGap rest = true → p (done ++ rest) = .ok (a, rest) := by
  obtain ⟨a, mid, h₁, h₂⟩ := bind_eq_ok h
  obtain ⟨done, hs, hdone⟩ := hp.passed h₁
  exact ⟨a, done, mid, hs, hdone, h₂, (hf _ a _ h₁).begins h₂, fun rest => he hdone⟩

theorem bind {p : Reader α} {f : α → Reader β} (hp : Reliable gap p) (he : EndsAtGap p)
    (hf : ∀ s a rest, p s = .ok (a, rest) → Reliable true (f a)) : Reliable gap (p >>= f) where
  possible := by
    obtain ⟨s, a, h₁⟩ := hp.possible
    obtain ⟨t, b, h₂⟩ := (hf s a [] h₁).possible
    have hgap := (hf s a [] h₁).begins h₂
    exact ⟨s ++ t, b, (bind_of_ok (he h₁ hgap) f).trans h₂⟩
  begins h := by
    obtain ⟨a, done, mid, rfl, hdone, -, hgap, -⟩ := hp.split he hf h
    have hbegins := hp.begins hdone
    cases done with
    | nil => exact hgap.trans hbegins
    | cons c done => exact hbegins
  passed h := by
    obtain ⟨a, mid, h₁, h₂⟩ := bind_eq_ok h
    obtain ⟨done, rfl, hdone⟩ := hp.passed h₁
    obtain ⟨done', rfl, hdone'⟩ := (hf _ a _ h₁).passed h₂
    have hgap := (hf _ a _ h₁).begins hdone'
    exact ⟨done ++ done', by simp, (bind_of_ok (he hdone hgap) f).trans hdone'⟩
  stopped h := by
    rcases bind_eq_error_iff.1 h with h₁ | ⟨a, mid, h₁, h₂⟩
    · -- the first reader is completed, and anything that the second one reads follows
      obtain ⟨hd, done, more, a, rfl, hok, hleft⟩ := hp.stopped h₁
      obtain ⟨t, b, ht⟩ := (hf _ a _ hok).possible
      have hgap := (hf _ a _ hok).begins ht
      refine ⟨hd, done, more ++ t, b, rfl, ?_, hleft⟩
      rw [← List.append_assoc]
      exact (bind_of_ok (he hok hgap) f).trans ht
    · obtain ⟨done, rfl, hdone⟩ := hp.passed h₁
      obtain ⟨hd, done', more, b, rfl, hok, hleft⟩ := (hf _ a _ h₁).stopped h₂
      have hgap := (hf _ a _ h₁).begins hok
      refine ⟨hd, done ++ done', more, b, by simp, ?_, fun before _ => ?_⟩
      · rw [List.append_assoc]
        exact (bind_of_ok (he hdone hgap) f).trans hok
      · rw [← List.append_assoc]
        exact hleft (before ++ done) rfl
  blanks h ht := by
    obtain ⟨a, done, mid, rfl, hdone, h₂, hgap, hfront⟩ := hp.split he hf h
    have hp' := hfront _ (atGap_append_of_atGap hgap ht.atGap)
    rw [List.append_assoc, bind_of_ok hp' f]
    exact (hf done a [] hdone).blanks h₂ ht

theorem afterSpace {q : Reader α} (hq : Reliable false q) :
    Reliable true (Reader.space >>= fun _ => q) := by
  have hspace : ∀ {s rest a}, q s = .ok (a, rest) → atGap s = false →
      (Reader.space >>= fun _ => q) (' ' :: s) = .ok (a, rest) := by
    intro s rest a h hs
    exact bind_eq_ok_iff.2 ⟨(), s, space_eq_ok_iff.2 ⟨rfl, hs⟩, h⟩
  obtain ⟨t, b, ht⟩ := hq.possible
  refine ⟨⟨' ' :: t, b, hspace ht (hq.begins ht)⟩, fun h => ?_, fun h => ?_, fun h => ?_,
    @fun s tail a h htail => ?_⟩
  · obtain ⟨u, mid, h₁, -⟩ := bind_eq_ok h
    rw [(space_eq_ok_iff.1 h₁).1]
    rfl
  · obtain ⟨u, mid, h₁, h₂⟩ := bind_eq_ok h
    obtain ⟨rfl, -⟩ := space_eq_ok_iff.1 h₁
    obtain ⟨done, rfl, hdone⟩ := hq.passed h₂
    exact ⟨' ' :: done, rfl, hspace hdone (hq.begins hdone)⟩
  · rcases bind_eq_error_iff.1 h with h₁ | ⟨u, mid, h₁, h₂⟩
    · have hleft := space_follows h₁
      obtain ⟨rfl | rfl, hd⟩ := space_eq_failed h₁
      · exact ⟨hd, [], ' ' :: t, b, rfl, hspace ht (hq.begins ht), fun _ _ => hleft _⟩
      · exact ⟨hd, [' '], t, b, rfl, hspace ht (hq.begins ht), fun _ _ => hleft _⟩
    · obtain ⟨rfl, -⟩ := space_eq_ok_iff.1 h₁
      obtain ⟨hd, done, more, a, rfl, hok, hleft⟩ := hq.stopped h₂
      refine ⟨hd, ' ' :: done, more, a, rfl, hspace hok (hq.begins hok), fun before _ => ?_⟩
      have hgap : atGap (before ++ [' ']).reverse = true := by
        rw [List.reverse_append]
        rfl
      rw [List.append_cons]
      exact hleft _ hgap
  · obtain ⟨u, mid, h₁, h₂⟩ := bind_eq_ok h
    obtain ⟨rfl, hmid⟩ := space_eq_ok_iff.1 h₁
    have hfront : Reader.space (' ' :: (mid ++ tail)) = .ok ((), mid ++ tail) :=
      space_eq_ok_iff.2 ⟨rfl, atGap_append hmid tail⟩
    rw [List.cons_append, bind_of_ok hfront]
    exact hq.blanks h₂ htail

theorem endOr {q : Reader α} (hq : Reliable false q) : Reliable true (endOr q) := by
  have hspaced := (hq.map some).afterSpace
  have hcons : ∀ c s, Reader.endOr q (c :: s) = (Reader.space >>= fun _ => some <$> q) (c :: s) :=
    fun _ _ => rfl
  have hnil : ∀ {r}, (Reader.space >>= fun _ => some <$> q) [] ≠ .ok r := nofun
  refine ⟨⟨[], none, rfl⟩, @fun s a h => ?_, @fun s rest a h => ?_, @fun s rest cause h => ?_,
    @fun s tail a h ht => ?_⟩
  · cases s with
    | nil => rfl
    | cons c s => exact hspaced.begins (hcons c s ▸ h)
  · cases s with
    | nil =>
      cases h
      exact ⟨[], rfl, rfl⟩
    | cons c s =>
      obtain ⟨done, hs, hdone⟩ := hspaced.passed (hcons c s ▸ h)
      cases done with
      | nil => exact absurd hdone hnil
      | cons d done => exact ⟨d :: done, hs, hdone⟩
  · cases s with
    | nil => cases h
    | cons c s =>
      obtain ⟨hd, done, more, a, hs, hok, hleft⟩ := hspaced.stopped (hcons c s ▸ h)
      refine ⟨hd, done, more, a, hs, ?_, hleft⟩
      cases hdone : done ++ more with
      | nil => exact absurd (hdone ▸ hok) hnil
      | cons d tail =>
        rw [hdone] at hok
        exact hok
  · cases s with
    | nil =>
      -- the text has ended, and the blanks promise a last part that does not come
      obtain ⟨c, tail, rfl⟩ := List.exists_cons_of_ne_nil ht.1
      obtain ⟨rest, hspace⟩ := space_of_blanks ht
      exact .inr ⟨rest, bind_of_error hspace _⟩
    | cons c s => exact hspaced.blanks (hcons c s ▸ h) ht

end Reliable

theorem EndsAtGap.bind {p : Reader α} {f : α → Reader β} (hp : Reliable gap p) (he : EndsAtGap p)
    (hf : ∀ s a rest, p s = .ok (a, rest) → Reliable true (f a)) (hg : ∀ a, EndsAtGap (f a)) :
    EndsAtGap (p >>= f) := by
  intro s rest b h hrest
  obtain ⟨a, done, mid, rfl, -, h₂, hgap, hfront⟩ := hp.split he hf h
  rw [List.append_assoc]
  exact (bind_of_ok (hfront _ (atGap_append_of_atGap hgap hrest)) f).trans (hg a h₂ hrest)

theorem EndsAtGap.afterSpace {q : Reader α} (hq : EndsAtGap q) :
    EndsAtGap (space >>= fun _ => q) := by
  intro s rest a h hrest
  obtain ⟨u, mid, h₁, h₂⟩ := bind_eq_ok h
  obtain ⟨rfl, hmid⟩ := space_eq_ok_iff.1 h₁
  exact bind_eq_ok_iff.2
    ⟨(), mid ++ rest, space_eq_ok_iff.2 ⟨rfl, atGap_append hmid rest⟩, hq h₂ hrest⟩

theorem reliable_keyword {label : String} {options : List (String × α)} (hne : options ≠ [])
    (hlabel : label ∉ symbolLabels) (hkeys : (options.map Prod.fst).Nodup)
    (hnames : ∀ key ∈ options.map Prod.fst, IsName key) :
    Reliable false (keyword label options) := by
  refine (readsToken_keyword hkeys hnames).reliable ?_ ?_ ?_ (stopsAtStart_keyword hlabel options)
  · obtain ⟨⟨key, a⟩, tail, rfl⟩ := List.exists_cons_of_ne_nil hne
    exact ⟨a, _, key, List.mem_cons_self, rfl⟩
  · rintro a _ ⟨key, hm, rfl⟩
    exact (unbroken_of_isName (hnames key (List.mem_map_of_mem hm))).atGap
  · intro s rest a h
    obtain ⟨found, hr, hl⟩ := choose_eq_ok h
    exact ⟨_, ⟨found, mem_of_lookup_eq_some hl, rfl⟩, (word_eq_ok_iff.1 hr).2.1⟩

theorem reliable_symbol {expected what : String} {options : List (String × α)}
    (hne : options ≠ []) (hwhat : what ∈ symbolLabels) (hkeys : (options.map Prod.fst).Nodup)
    (hsymbols : ∀ key ∈ options.map Prod.fst, Unbroken (plain key)) :
    Reliable false (symbol expected what options) := by
  refine (readsToken_symbol hkeys hsymbols).reliable ?_ ?_ ?_ (stopsAtStart_symbol hwhat options)
  · obtain ⟨⟨key, a⟩, tail, rfl⟩ := List.exists_cons_of_ne_nil hne
    exact ⟨a, _, key, List.mem_cons_self, rfl⟩
  · rintro a _ ⟨key, hm, rfl⟩
    exact (hsymbols key (List.mem_map_of_mem hm)).atGap
  · intro s rest a h
    obtain ⟨found, hr, hl⟩ := choose_eq_ok h
    exact ⟨_, ⟨found, mem_of_lookup_eq_some hl, rfl⟩, (run_eq_ok_iff.1 hr).1⟩

theorem reliable_branch {label : String} {options : List (String × Reader α)} (hne : options ≠ [])
    (hlabel : label ∉ symbolLabels) (hkeys : (options.map Prod.fst).Nodup)
    (hnames : ∀ key ∈ options.map Prod.fst, IsName key)
    (hoptions : ∀ option ∈ options, Reliable true option.2) :
    Reliable false (branch label options) := by
  refine (reliable_keyword hne hlabel hkeys hnames).bind
    (readsToken_keyword hkeys hnames).endsAtGap fun s r rest h => ?_
  obtain ⟨key, hm⟩ := mem_of_choose_eq_ok s rest r h
  exact hoptions _ hm

end Reader

end Scoreboard
