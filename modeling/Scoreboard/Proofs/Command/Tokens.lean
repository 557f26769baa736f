import Scoreboard.Command.Grammar
import Scoreboard.Command.Parse
import Scoreboard.Proofs.Text.Classes

namespace Scoreboard

open Text Reader Parse

def Unbroken (t : Token) : Prop :=
  t ≠ [] ∧ ∀ c ∈ t, isBlank c = false

instance : DecidablePred Unbroken := fun t =>
  decidable_of_iff (t ≠ [] ∧ t.all (!isBlank ·) = true) (by simp [Unbroken])

def led (ts : List Token) : List Char :=
  ts.flatMap fun t => ' ' :: t

@[simp] theorem led_nil : led [] = [] := rfl

@[simp] theorem led_cons (t : Token) (ts : List Token) : led (t :: ts) = ' ' :: (t ++ led ts) := by
  simp [led]

theorem led_append (ts us : List Token) : led (ts ++ us) = led ts ++ led us := by
  simp [led]

theorem spaced_cons (t : Token) (ts : List Token) : spaced (t :: ts) = t ++ led ts := by
  induction ts generalizing t with
  | nil => simp [spaced]
  | cons u us ih =>
    have h : spaced (t :: u :: us) = t ++ ' ' :: spaced (u :: us) := by
      simp [spaced, List.intercalate]
    rw [h, ih, led_cons]

theorem led_eq_space_spaced {ts : List Token} (h : ts ≠ []) : led ts = ' ' :: spaced ts := by
  cases ts with
  | nil => exact absurd rfl h
  | cons t ts => rw [led_cons, spaced_cons]

theorem atGap_iff {s : List Char} : atGap s = true ↔ ∀ c ∈ s.head?, isBlank c = true := by
  cases s <;> simp [atGap]

theorem head_of_atGap {p : Char → Bool} (hp : ∀ c, isBlank c = true → p c = false)
    {s : List Char} (h : atGap s = true) : ∀ c ∈ s.head?, p c = false :=
  fun c hc => hp c (atGap_iff.1 h c hc)

theorem atGap_append {t : List Char} (h : atGap t = false) (s : List Char) :
    atGap (t ++ s) = false := by
  cases t with
  | nil => cases h
  | cons c t => exact h

theorem Unbroken.atGap {t : Token} (h : Unbroken t) : atGap t = false := by
  obtain ⟨c, tail, rfl⟩ := List.exists_cons_of_ne_nil h.1
  exact h.2 c List.mem_cons_self

theorem Unbroken.append {t u : Token} (ht : Unbroken t) (hu : ∀ c ∈ u, isBlank c = false) :
    Unbroken (t ++ u) := by
  refine ⟨by simp [ht.1], fun c hc => ?_⟩
  rcases List.mem_append.1 hc with hc | hc
  · exact ht.2 c hc
  · exact hu c hc

theorem Unbroken.cons {c : Char} {t : Token} (hc : isBlank c = false) (ht : Unbroken t) :
    Unbroken (c :: t) :=
  ⟨by simp, List.forall_mem_cons.2 ⟨hc, ht.2⟩⟩

theorem unbroken_of_isName {name : String} (h : IsName name) : Unbroken (plain name) :=
  ⟨h.1, fun c hc => isBlank_of_isWord (h.2 c hc)⟩

@[simp, grind =] theorem plain_inj {a b : String} : plain a = plain b ↔ a = b :=
  String.toList_inj

theorem atGap_led_append (ts : List Token) {rest : List Char} (h : atGap rest = true) :
    atGap (led ts ++ rest) = true := by
  cases ts with
  | nil => exact h
  | cons t ts => rfl

namespace Reader

variable {α β : Type}

theorem bind_eq_ok_iff {p : Reader α} {f : α → Reader β} {s rest : List Char} {b : β} :
    (p >>= f) s = .ok (b, rest) ↔ ∃ a mid, p s = .ok (a, mid) ∧ f a mid = .ok (b, rest) := by
  constructor
  · exact bind_eq_ok
  · rintro ⟨a, mid, h₁, h₂⟩
    rw [bind_of_ok h₁, h₂]

theorem map_eq_ok_iff {p : Reader α} {f : α → β} {s rest : List Char} {b : β} :
    (f <$> p) s = .ok (b, rest) ↔ ∃ a, p s = .ok (a, rest) ∧ f a = b := by
  change (p >>= fun a => pure (f a)) s = .ok (b, rest) ↔ _
  rw [bind_eq_ok_iff]
  simp only [pure_apply, Except.ok.injEq, Prod.mk.injEq]
  constructor
  · rintro ⟨a, mid, h, rfl, rfl⟩
    exact ⟨a, h, rfl⟩
  · rintro ⟨a, h, rfl⟩
    exact ⟨a, rest, h, rfl, rfl⟩

theorem space_eq_ok_iff {s rest : List Char} {u : Unit} :
    space s = .ok (u, rest) ↔ s = ' ' :: rest ∧ atGap rest = false := by
  constructor
  · intro h
    have hs := space_eq_ok h
    subst hs
    refine ⟨rfl, ?_⟩
    cases rest with
    | nil => cases h
    | cons c tail =>
      simp only [space] at h
      split at h
      · cases h
      · next hc => simpa [atGap] using hc
  · rintro ⟨rfl, h⟩
    cases rest with
    | nil => cases h
    | cons c tail =>
      have hc : isBlank c = false := h
      simp [space, hc]

theorem takeWhile_append_of_head {p : Char → Bool} {a rest : List Char}
    (ha : ∀ c ∈ a, p c = true) (hr : ∀ c ∈ rest.head?, p c = false) :
    (a ++ rest).takeWhile p = a := by
  rw [List.takeWhile_append_of_pos ha]
  cases rest with
  | nil => simp
  | cons c tail => simp [hr c rfl]

theorem dropWhile_append_of_head {p : Char → Bool} {a rest : List Char}
    (ha : ∀ c ∈ a, p c = true) (hr : ∀ c ∈ rest.head?, p c = false) :
    (a ++ rest).dropWhile p = rest := by
  rw [List.dropWhile_append_of_pos ha]
  cases rest with
  | nil => simp
  | cons c tail => simp [hr c rfl]

theorem head_dropWhile {p : Char → Bool} (s : List Char) :
    ∀ c ∈ (s.dropWhile p).head?, p c = false := by
  induction s with
  | nil => simp
  | cons d s ih =>
    by_cases hd : p d = true
    · simpa [hd] using ih
    · simp [hd]

theorem run_eq_ok_iff {p : Char → Bool} {expected : String} {s rest : List Char} {a : String} :
    run p expected s = .ok (a, rest) ↔
      s = a.toList ++ rest ∧ a.toList ≠ [] ∧ (∀ c ∈ a.toList, p c = true) ∧
        ∀ c ∈ rest.head?, p c = false := by
  constructor
  · intro h
    obtain ⟨hs, hne, htake, hdrop⟩ := run_eq_ok h
    refine ⟨hs, hne, ?_, ?_⟩
    · rw [← htake]
      exact fun c hc => List.all_eq_true.1 List.all_takeWhile c hc
    · rw [← hdrop]
      exact head_dropWhile s
  · rintro ⟨rfl, hne, ha, hr⟩
    have htake := takeWhile_append_of_head ha hr
    have hdrop := dropWhile_append_of_head ha hr
    unfold run
    split
    · next he => exact absurd (htake.symm.trans he) hne
    · rw [htake, hdrop, String.ofList_toList]

theorem choose_eq_ok_iff {what : String} {options : List (String × α)} {reader : Reader String}
    {s rest : List Char} {a : α} :
    choose what options reader s = .ok (a, rest) ↔
      ∃ found, reader s = .ok (found, rest) ∧ options.lookup found = some a := by
  constructor
  · exact choose_eq_ok
  · rintro ⟨found, hr, hl⟩
    simp [choose, hr, hl]

/-- A reader of single tokens: what it accepts in front of a gap are the spellings that `W` allows.
-/
def ReadsToken (p : Reader α) (W : α → Token → Prop) : Prop :=
  ∀ ⦃s rest : List Char⦄ ⦃a : α⦄, atGap rest = true →
    (p s = .ok (a, rest) ↔ ∃ t, W a t ∧ s = t ++ rest)

theorem ReadsToken.map {p : Reader α} {W : α → Token → Prop} (hp : ReadsToken p W) (f : α → β) :
    ReadsToken (f <$> p) fun b t => ∃ a, W a t ∧ f a = b := by
  intro s rest b hrest
  simp only [map_eq_ok_iff, hp hrest]
  constructor
  · rintro ⟨a, ⟨t, ht, hs⟩, hb⟩
    exact ⟨t, ⟨a, ht, hb⟩, hs⟩
  · rintro ⟨t, ⟨a, ht, hb⟩, hs⟩
    exact ⟨a, ⟨t, ht, hs⟩, hb⟩

theorem ReadsToken.congr {p : Reader α} {V W : α → Token → Prop} (hp : ReadsToken p V)
    (h : ∀ a t, V a t ↔ W a t) : ReadsToken p W := by
  intro s rest a hrest
  simp only [hp hrest, h]

theorem readsToken_word (expected : String) :
    ReadsToken (word expected) fun a t => IsName a ∧ t = plain a := by
  intro s rest a hrest
  have hstop := head_of_atGap (fun _ => isWord_of_isBlank) hrest
  simp only [word, run_eq_ok_iff, IsName, plain]
  constructor
  · rintro ⟨hs, hne, ha, -⟩
    exact ⟨a.toList, ⟨⟨hne, ha⟩, rfl⟩, hs⟩
  · rintro ⟨t, ⟨⟨hne, ha⟩, rfl⟩, hs⟩
    exact ⟨hs, hne, ha, hstop⟩

theorem readsToken_token (expected : String) :
    ReadsToken (token expected) fun a t =>
      Unbroken (plain a) ∧ t = plain a := by
  intro s rest a hrest
  have hstop := head_of_atGap (p := fun c => !isBlank c) (fun _ hc => by simp [hc]) hrest
  simp only [token, run_eq_ok_iff, Unbroken, plain, Bool.not_eq_true']
  constructor
  · rintro ⟨hs, hne, ha, -⟩
    exact ⟨a.toList, ⟨⟨hne, ha⟩, rfl⟩, hs⟩
  · rintro ⟨t, ⟨⟨hne, ha⟩, rfl⟩, hs⟩
    exact ⟨hs, hne, ha, hstop⟩

theorem lookup_eq_some_iff {options : List (String × α)} (hkeys : (options.map Prod.fst).Nodup)
    {key : String} {a : α} : options.lookup key = some a ↔ (key, a) ∈ options := by
  induction options with
  | nil => simp
  | cons option options ih =>
    obtain ⟨name, value⟩ := option
    rw [List.map_cons, List.nodup_cons] at hkeys
    rw [List.lookup_cons, List.mem_cons, Prod.mk.injEq]
    by_cases he : key = name
    · subst he
      have hout : (key, a) ∉ options := fun hm => hkeys.1 (List.mem_map.2 ⟨_, hm, rfl⟩)
      simp [hout, eq_comm]
    · have hb : (key == name) = false := beq_eq_false_iff_ne.2 he
      simp [hb, he, ih hkeys.2]

theorem readsToken_keyword {label : String} {options : List (String × α)}
    (hkeys : (options.map Prod.fst).Nodup) (hnames : ∀ key ∈ options.map Prod.fst, IsName key) :
    ReadsToken (keyword label options) fun a t => ∃ key, (key, a) ∈ options ∧ t = plain key := by
  intro s rest a hrest
  simp only [keyword, choose_eq_ok_iff, readsToken_word _ hrest, lookup_eq_some_iff hkeys]
  constructor
  · rintro ⟨key, ⟨t, ⟨-, rfl⟩, hs⟩, hm⟩
    exact ⟨_, ⟨key, hm, rfl⟩, hs⟩
  · rintro ⟨t, ⟨key, hm, rfl⟩, hs⟩
    exact ⟨key, ⟨_, ⟨hnames key (List.mem_map_of_mem hm), rfl⟩, hs⟩, hm⟩

theorem readsToken_symbol {expected what : String} {options : List (String × α)}
    (hkeys : (options.map Prod.fst).Nodup)
    (hsymbols : ∀ key ∈ options.map Prod.fst, Unbroken (plain key)) :
    ReadsToken (symbol expected what options) fun a t =>
      ∃ key, (key, a) ∈ options ∧ t = plain key := by
  intro s rest a hrest
  simp only [symbol, choose_eq_ok_iff, readsToken_token _ hrest, lookup_eq_some_iff hkeys]
  constructor
  · rintro ⟨key, ⟨t, ⟨-, rfl⟩, hs⟩, hm⟩
    exact ⟨_, ⟨key, hm, rfl⟩, hs⟩
  · rintro ⟨t, ⟨key, hm, rfl⟩, hs⟩
    exact ⟨key, ⟨_, ⟨hsymbols key (List.mem_map_of_mem hm), rfl⟩, hs⟩, hm⟩

/-- A quoted string ends at its closing mark, whatever follows. -/
theorem quotedString_eq_ok_iff {s rest : List Char} {a : String} :
    quotedString s = .ok (a, rest) ↔ IsMessage a ∧ s = quotedToken a ++ rest := by
  constructor
  · intro h
    unfold quotedString at h
    split at h
    · next body =>
      split at h
      · cases h
      · next d after hd =>
        cases h
        have hfree : '"' ∉ body.takeWhile (· != '"') := by
          intro hm
          simpa using List.all_eq_true.1 List.all_takeWhile _ hm
        -- the run of other characters can only have stopped at a mark
        have hquote : d = '"' := by
          have hh := head_dropWhile (p := (· != '"')) body d (by rw [hd]; rfl)
          simpa using hh
        refine ⟨by simpa [IsMessage] using hfree, ?_⟩
        subst hquote
        have hbody := List.takeWhile_append_dropWhile (p := (· != '"')) (l := body)
        rw [hd] at hbody
        simp only [quotedToken, String.toList_ofList, List.cons_append, List.append_assoc,
          List.nil_append, hbody]
    · cases h
  · rintro ⟨hm, rfl⟩
    have hall : ∀ c ∈ a.toList, (c != '"') = true := by
      intro c hc
      have hne : c ≠ '"' := fun he => hm (he ▸ hc)
      simpa using hne
    have hr : ∀ c ∈ ('"' :: rest).head?, (c != '"') = false := by simp
    have htake := takeWhile_append_of_head hall hr
    have hdrop := dropWhile_append_of_head hall hr
    simp [quotedString, quotedToken, htake, hdrop]

theorem readsToken_quotedString :
    ReadsToken quotedString fun a t => IsMessage a ∧ t = quotedToken a := by
  intro s rest a _
  rw [quotedString_eq_ok_iff]
  constructor
  · rintro ⟨hm, hs⟩
    exact ⟨_, ⟨hm, rfl⟩, hs⟩
  · rintro ⟨t, ⟨hm, rfl⟩, hs⟩
    exact ⟨hm, hs⟩

end Reader

end Scoreboard
