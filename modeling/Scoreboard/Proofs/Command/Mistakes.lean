import Mathlib.Data.List.TakeWhile
import Scoreboard.Proofs.Command.Lines

namespace Scoreboard

open Text Reader Parse

def Blanks (s : List Char) : Prop :=
  s ≠ [] ∧ ∀ c ∈ s, isBlank c = true

theorem atGap_of_forall {s : List Char} (h : ∀ c ∈ s, isBlank c = true) : atGap s = true := by
  cases s with
  | nil => rfl
  | cons c s => exact h c List.mem_cons_self

theorem Blanks.atGap {s : List Char} (h : Blanks s) : atGap s = true :=
  atGap_of_forall h.2

theorem atGap_append_of_atGap {s t : List Char} (hs : atGap s = true) (ht : atGap t = true) :
    atGap (s ++ t) = true := by
  cases s with
  | nil => exact ht
  | cons c s => exact hs

/-- The labels of the places where a token is all that stands before the next blank. At other places
it is a name. -/
def symbolLabels : List String :=
  ["selector", "operation", "comparison"]

/-- What was found at a place of the given label, in front of the given text, is a token, and no
longer one stands there. -/
def IsWholeToken (label found : String) (after : List Char) : Prop :=
  if label ∈ symbolLabels then Unbroken (plain found) ∧ atGap after = true
  else IsName found ∧ ∀ c ∈ after.head?, isWord c = false

/-- What a mistake in a part of a command says about the text from its place on. Characters behind a
command are no mistake in any of its parts. -/
def Cause.Describes : Cause → List Char → Prop
  | extraWhitespace token, rest => ∃ blanks after, rest = blanks ++ plain token ++ after ∧
      Blanks blanks ∧ Unbroken (plain token) ∧ atGap after = true
  | trailingWhitespace, rest => Blanks rest
  | unexpectedSymbol _ found, rest => isBlank found = false ∧ ∃ after, rest = found :: after
  | unexpectedEnd _, rest => rest = []
  | unknownCommand found, rest => found ∉ commands.map Prod.fst ∧
      ∃ after, rest = plain found ++ after ∧ IsWholeToken "command" found after
  | unknownKeyword label found options, rest => found ∉ options ∧
      ∃ after, rest = plain found ++ after ∧ IsWholeToken label found after
  | integerOutOfRange literal minimum maximum, rest => ∃ negative digits after,
      rest = plain literal ++ after ∧ plain literal = withSign negative digits ∧ digits ≠ [] ∧
      (∀ c ∈ digits, isDigit c = true) ∧ (∀ c ∈ after.head?, isDigit c = false) ∧
      ¬(minimum ≤ signedValue negative digits ∧ signedValue negative digits ≤ maximum)
  | unclosedString, rest => ∃ after, rest = '"' :: after ∧ '"' ∉ after
  | invalidInterval, rest => ∃ after, rest = '.' :: '.' :: after ∧ atGap after = true
  | trailingCharacters _, _ => False

def BreaksNumeral (before : List Char) : Prop :=
  ∀ c ∈ before.reverse.head?, isDigit c = false ∧ c ≠ '-'

theorem breaksNumeral_of_atGap {before : List Char} (h : atGap before.reverse = true) :
    BreaksNumeral before := by
  intro c hc
  cases hrev : before.reverse with
  | nil => simp [hrev] at hc
  | cons d tail =>
    rw [hrev] at h hc
    cases hc
    refine ⟨isDigit_of_isBlank h, ?_⟩
    rintro rfl
    cases h

/-- What a mistake in a part of a command says about the text in front of its place: if the mistake
is a token, that token begins there. -/
def Cause.Follows : Cause → List Char → Prop
  | unknownCommand _, before => atGap before.reverse = true
  | unknownKeyword _ _ _, before => atGap before.reverse = true
  | integerOutOfRange _ _ _, before => BreaksNumeral before
  | _, _ => True

theorem Cause.follows_of_atGap (cause : Cause) {before : List Char}
    (h : atGap before.reverse = true) :
    cause.Follows before := by
  cases cause with
  | unknownCommand => exact h
  | unknownKeyword => exact h
  | integerOutOfRange => exact breaksNumeral_of_atGap h
  | _ => trivial

namespace Reader

variable {α β : Type} {s rest : List Char} {cause : Cause}

theorem blanksAt_of_blanks (h : Blanks s) : blanksAt s = .failed .trailingWhitespace s := by
  have hdrop : s.dropWhile isBlank = [] := List.dropWhile_eq_nil_iff.2 h.2
  simp [blanksAt, hdrop]

theorem exists_blanks {c : Char} (hc : isBlank c = true) (s : List Char) :
    ∃ blanks tail, c :: s = blanks ++ tail ∧ Blanks blanks ∧ ∀ d ∈ tail.head?, isBlank d = false :=
  ⟨(c :: s).takeWhile isBlank, (c :: s).dropWhile isBlank,
    List.takeWhile_append_dropWhile.symm, ⟨by simp [hc], List.all_eq_true.1 List.all_takeWhile⟩,
    head_dropWhile _⟩

theorem blanksAt_eq_failed {c : Char} (hc : isBlank c = true)
    (h : blanksAt (c :: s) = .failed cause rest) : rest = c :: s ∧ cause.Describes (c :: s) := by
  obtain ⟨blanks, tail, hs, hblanks, htail⟩ := exists_blanks hc s
  have hdrop : (c :: s).dropWhile isBlank = tail := by
    rw [hs]
    exact dropWhile_append_of_head hblanks.2 htail
  rw [blanksAt, hdrop] at h
  cases tail with
  | nil =>
    cases h
    rw [List.append_nil] at hs
    exact ⟨rfl, hs ▸ hblanks⟩
  | cons d tail =>
    have htoken : (d :: tail).takeWhile (fun x => !isBlank x) =
        d :: tail.takeWhile fun x => !isBlank x :=
      List.takeWhile_cons_of_pos (by simp [htail d rfl])
    rw [htoken] at h
    cases h
    refine ⟨rfl, blanks, tail.dropWhile fun x => !isBlank x, ?_, hblanks, ⟨?_, ?_⟩, ?_⟩
    · rw [hs, plain, String.toList_ofList, List.append_assoc, List.cons_append,
        List.takeWhile_append_dropWhile]
    · rw [plain, String.toList_ofList]
      exact List.cons_ne_nil _ _
    · rw [plain, String.toList_ofList, List.forall_mem_cons]
      exact ⟨htail d rfl, fun x hx => by simpa using List.all_eq_true.1 List.all_takeWhile x hx⟩
    · rw [atGap_iff]
      simpa using head_dropWhile (p := fun x => !isBlank x) tail

theorem blanksAt_follows (h : blanksAt s = .failed cause rest) (before : List Char) :
    cause.Follows before := by
  unfold blanksAt at h
  split at h <;> cases h <;> trivial

theorem unexpected_eq_failed {expected : String} (h : unexpected expected s = .failed cause rest) :
    rest = s ∧ cause.Describes s := by
  unfold unexpected at h
  split at h
  · cases h
    exact ⟨rfl, rfl⟩
  · next c tail =>
    split at h
    · next hc => exact blanksAt_eq_failed hc h
    · next hc =>
      cases h
      exact ⟨rfl, by simpa using hc, tail, rfl⟩

theorem unexpected_follows {expected : String} (h : unexpected expected s = .failed cause rest)
    (before : List Char) : cause.Follows before := by
  unfold unexpected at h
  split at h
  · cases h
    trivial
  · split at h
    · exact blanksAt_follows h before
    · cases h
      trivial

/-- A space that is missing is missed where it should stand; one that is followed by a further blank
has been read. -/
theorem space_eq_failed (h : space s = .error (.failed cause rest)) :
    (s = rest ∨ s = ' ' :: rest) ∧ cause.Describes rest := by
  unfold space at h
  split at h
  · next after =>
    split at h
    · cases h
      exact ⟨.inl rfl, by simp, by simp; decide⟩
    · next c tail =>
      split at h
      · next hc =>
        obtain ⟨rfl, hd⟩ := blanksAt_eq_failed hc (Except.error.inj h)
        exact ⟨.inr rfl, hd⟩
      · cases h
  · obtain ⟨rfl, hd⟩ := unexpected_eq_failed (Except.error.inj h)
    exact ⟨.inl rfl, hd⟩

theorem space_follows (h : space s = .error (.failed cause rest)) (before : List Char) :
    cause.Follows before := by
  unfold space at h
  split at h
  · split at h
    · cases h
      trivial
    · split at h
      · exact blanksAt_follows (Except.error.inj h) before
      · cases h
  · exact unexpected_follows (Except.error.inj h) before

theorem space_of_blanks (h : Blanks s) :
    ∃ rest, space s = .error (.failed .trailingWhitespace rest) := by
  obtain ⟨c, tail, rfl⟩ := List.exists_cons_of_ne_nil h.1
  have hc := h.2 c List.mem_cons_self
  unfold space
  split
  · next after he =>
    split
    · exact ⟨_, rfl⟩
    · next d after' =>
      cases he
      have hafter : Blanks (d :: after') :=
        ⟨List.cons_ne_nil d after', fun x hx => h.2 x (List.mem_cons_of_mem ' ' hx)⟩
      rw [if_pos (hafter.2 d List.mem_cons_self), blanksAt_of_blanks hafter]
      exact ⟨_, rfl⟩
  · rw [unexpected]
    simp only [hc, if_true]
    rw [blanksAt_of_blanks h]
    exact ⟨_, rfl⟩

/-- Wherever the reader stops, it stops at the beginning of its text, with a mistake that is there.
-/
def StopsAtStart (p : Reader α) : Prop :=
  ∀ ⦃s rest : List Char⦄ ⦃cause : Cause⦄, p s = .error (.failed cause rest) →
    rest = s ∧ cause.Describes s

theorem bind_eq_error_iff {p : Reader α} {f : α → Reader β} {stop : Stop} :
    (p >>= f) s = .error stop ↔
      p s = .error stop ∨ ∃ a mid, p s = .ok (a, mid) ∧ f a mid = .error stop := by
  rw [bind_apply]
  cases p s with
  | error stop' => simp
  | ok r =>
    obtain ⟨a, mid⟩ := r
    simp only [reduceCtorEq, Except.ok.injEq, Prod.mk.injEq, false_or]
    constructor
    · exact fun h => ⟨a, mid, ⟨rfl, rfl⟩, h⟩
    · rintro ⟨_, _, ⟨rfl, rfl⟩, h⟩
      exact h

theorem map_eq_error_iff {p : Reader α} {f : α → β} {stop : Stop} :
    (f <$> p) s = .error stop ↔ p s = .error stop := by
  change (p >>= fun a => pure (f a)) s = .error stop ↔ _
  rw [bind_eq_error_iff]
  simp

theorem StopsAtStart.map {p : Reader α} (hp : StopsAtStart p) (f : α → β) :
    StopsAtStart (f <$> p) :=
  fun _ _ _ h => hp (map_eq_error_iff.1 h)

theorem stopsAtStart_run (p : Char → Bool) (expected : String) :
    StopsAtStart (run p expected) := by
  intro s rest cause h
  unfold run at h
  split at h
  · exact unexpected_eq_failed (Except.error.inj h)
  · cases h

theorem run_follows {p : Char → Bool} {expected : String}
    (h : run p expected s = .error (.failed cause rest)) (before : List Char) :
    cause.Follows before := by
  unfold run at h
  split at h
  · exact unexpected_follows (Except.error.inj h) before
  · cases h

theorem not_mem_of_lookup_eq_none {options : List (String × α)} {key : String}
    (h : options.lookup key = none) : key ∉ options.map Prod.fst := by
  rw [List.lookup_eq_none_iff] at h
  simp only [List.mem_map, not_exists, not_and]
  rintro option hm rfl
  simpa using h option hm

theorem stopsAtStart_choose {what : String} {options : List (String × α)} {reader : Reader String}
    (hr : StopsAtStart reader)
    (htoken : ∀ s found rest, reader s = .ok (found, rest) →
      s = plain found ++ rest ∧ IsWholeToken what found rest) :
    StopsAtStart (choose what options reader) := by
  intro s rest cause h
  unfold choose at h
  split at h
  · next stop he =>
    cases h
    exact hr he
  · next found after he =>
    split at h
    · cases h
    · next hl =>
      cases h
      obtain ⟨hs, hwhole⟩ := htoken s found after he
      exact ⟨rfl, not_mem_of_lookup_eq_none hl, after, hs, hwhole⟩

theorem word_isWholeToken {label expected found : String} (hlabel : label ∉ symbolLabels)
    (h : word expected s = .ok (found, rest)) :
    s = plain found ++ rest ∧ IsWholeToken label found rest := by
  obtain ⟨hn, hs, hstop⟩ := word_eq_ok_iff.1 h
  rw [IsWholeToken, if_neg hlabel]
  exact ⟨hs, hn, hstop⟩

theorem token_isWholeToken {label expected found : String} (hlabel : label ∈ symbolLabels)
    (h : token expected s = .ok (found, rest)) :
    s = plain found ++ rest ∧ IsWholeToken label found rest := by
  obtain ⟨hs, hne, hall, hstop⟩ := run_eq_ok_iff.1 h
  rw [IsWholeToken, if_pos hlabel, atGap_iff]
  exact ⟨hs, ⟨hne, by simpa [plain] using hall⟩, by simpa using hstop⟩

theorem stopsAtStart_keyword {label : String} (hlabel : label ∉ symbolLabels)
    (options : List (String × α)) : StopsAtStart (keyword label options) :=
  stopsAtStart_choose (stopsAtStart_run _ _) fun _ _ _ => word_isWholeToken hlabel

theorem stopsAtStart_symbol {expected what : String} (hwhat : what ∈ symbolLabels)
    (options : List (String × α)) : StopsAtStart (symbol expected what options) :=
  stopsAtStart_choose (stopsAtStart_run _ _) fun _ _ _ => token_isWholeToken hwhat

theorem stopsAtStart_commandName : StopsAtStart commandName := by
  intro s rest cause h
  unfold commandName at h
  split at h
  · next stop he =>
    cases h
    exact stopsAtStart_run _ _ he
  · next name after he =>
    split at h
    · cases h
    · next hl =>
      cases h
      have hlabel : "command" ∉ symbolLabels := by decide
      obtain ⟨hs, hwhole⟩ := word_isWholeToken hlabel he
      exact ⟨rfl, not_mem_of_lookup_eq_none hl, after, hs, hwhole⟩

theorem stopsAtStart_target : StopsAtStart target := by
  intro s rest cause h
  unfold target at h
  split at h
  · exact ((stopsAtStart_symbol (by decide) _).map _) h
  · exact ((stopsAtStart_run _ _).map _) h

theorem stopsAtStart_quotedString : StopsAtStart quotedString := by
  intro s rest cause h
  unfold quotedString at h
  split at h
  · next after =>
    split at h
    · next hnil =>
      cases h
      refine ⟨rfl, after, rfl, fun hm => ?_⟩
      simpa using List.dropWhile_eq_nil_iff.1 hnil _ hm
    · cases h
  · exact unexpected_eq_failed (Except.error.inj h)

/-- Digits that count as out of range stand for an integer that is, also where they are so many that
their value is not looked at. -/
theorem numeral_eq_failed {minimum : Int} {literal digits start : List Char} {negative : Bool}
    (hmin : Score.least ≤ minimum) (hd : ∀ c ∈ digits, isDigit c = true)
    (h : numeral minimum literal negative digits start = .error (.failed cause rest)) :
    rest = start ∧ cause = .integerOutOfRange (String.ofList literal) minimum Score.greatest ∧
      ¬(minimum ≤ signedValue negative digits ∧
        signedValue negative digits ≤ Score.greatest) := by
  rw [numeral_eq] at h
  split at h
  · next hlong =>
    cases h
    refine ⟨rfl, rfl, fun hr => ?_⟩
    have hv : digitsValue digits ≤ 2147483648 := by
      rw [← natAbs_signedValue negative]
      simp only [Score.least, Score.greatest] at hmin hr
      omega
    have hsig := length_significant_le hd hv
    omega
  · split at h
    · cases h
    · split at h
      · cases h
      · next hr =>
        cases h
        exact ⟨rfl, rfl, hr⟩

theorem withSign_append (negative : Bool) (a b : List Char) :
    withSign negative a ++ b = withSign negative (a ++ b) := by
  cases negative <;> rfl

theorem describes_numeral (negative : Bool) {minimum : Int} {body : List Char}
    (hmin : Score.least ≤ minimum) (hne : body.takeWhile isDigit ≠ [])
    (h : numeral minimum (withSign negative (body.takeWhile isDigit)) negative
      (body.takeWhile isDigit) s = .error (.failed cause rest))
    (hs : s = withSign negative body) : rest = s ∧ cause.Describes s := by
  have hd : ∀ c ∈ body.takeWhile isDigit, isDigit c = true :=
    List.all_eq_true.1 List.all_takeWhile
  obtain ⟨rfl, rfl, hr⟩ := numeral_eq_failed hmin hd h
  refine ⟨rfl, negative, body.takeWhile isDigit, body.dropWhile isDigit, ?_, ?_, hne, hd,
    head_dropWhile body, hr⟩
  · rw [plain, String.toList_ofList, withSign_append, List.takeWhile_append_dropWhile, hs]
  · rw [plain, String.toList_ofList]

theorem stopsAtStart_naturalInteger : StopsAtStart naturalInteger := by
  intro s rest cause h
  simp only [naturalInteger] at h
  split at h
  · exact unexpected_eq_failed (Except.error.inj h)
  · next digits hne =>
    split at h
    · cases h
    · next stop hn =>
      cases h
      exact describes_numeral false (by decide) hne hn rfl

/-- Without digits a reader of signed integers stops behind the sign; else it stops in front of it.
-/
theorem signedInteger_eq_failed (h : signedInteger s = .error (.failed cause rest)) :
    (s = rest ∨ s = '-' :: rest) ∧ cause.Describes rest := by
  have hsplit := withSign_splitSign s
  simp only [signedInteger] at h
  split at h
  · obtain ⟨rfl, hd⟩ := unexpected_eq_failed (Except.error.inj h)
    refine ⟨?_, hd⟩
    cases hneg : (splitSign s).1 with
    | false =>
      rw [hneg] at hsplit
      exact .inl hsplit.symm
    | true =>
      rw [hneg] at hsplit
      exact .inr hsplit.symm
  · next digits hne =>
    split at h
    · cases h
    · next stop hn =>
      cases h
      obtain ⟨rfl, hd⟩ := describes_numeral _ (Int.le_refl _) hne hn hsplit.symm
      exact ⟨.inl rfl, hd⟩

theorem signedInteger_cases (h : signedInteger s = .error (.failed cause rest)) :
    (∀ before, cause.Follows before) ∨
      rest = s ∧ ∃ literal, cause = .integerOutOfRange literal Score.least Score.greatest := by
  simp only [signedInteger] at h
  split at h
  · exact .inl (unexpected_follows (Except.error.inj h))
  · split at h
    · cases h
    · next stop hn =>
      cases h
      obtain ⟨rfl, hcause, -⟩ :=
        numeral_eq_failed (Int.le_refl _) (List.all_eq_true.1 List.all_takeWhile) hn
      exact .inr ⟨rfl, _, hcause⟩

end Reader

end Scoreboard
