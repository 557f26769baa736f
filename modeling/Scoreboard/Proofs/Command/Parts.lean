import Scoreboard.Proofs.Command.Numerals

namespace Scoreboard

open Text Reader Parse

instance : DecidablePred IsName := fun name =>
  decidable_of_iff (name.toList ≠ [] ∧ name.toList.all isWord = true) (by simp [IsName])

namespace Parse

variable {α : Type}

theorem readsToken_keyword_map {label : String} {all : List α} {word : α → String}
    (hall : ∀ a, a ∈ all) (hkeys : (all.map word).Nodup)
    (hnames : ∀ key ∈ all.map word, IsName key) :
    ReadsToken (keyword label (all.map fun a => (word a, a))) fun a t => t = plain (word a) := by
  have hfst : (all.map fun a => (word a, a)).map Prod.fst = all.map word := by simp
  refine (readsToken_keyword (hfst ▸ hkeys) (hfst ▸ hnames)).congr fun a t => ?_
  simp [hall]

theorem readsToken_symbol_map {expected what : String} {all : List α} {word : α → String}
    (hall : ∀ a, a ∈ all) (hkeys : (all.map word).Nodup)
    (hsymbols : ∀ key ∈ all.map word, Unbroken (plain key)) :
    ReadsToken (symbol expected what (all.map fun a => (word a, a))) fun a t =>
      t = plain (word a) := by
  have hfst : (all.map fun a => (word a, a)).map Prod.fst = all.map word := by simp
  refine (readsToken_symbol (hfst ▸ hkeys) (hfst ▸ hsymbols)).congr fun a t => ?_
  simp [hall]

theorem readsToken_criteria :
    ReadsToken (keyword "criteria" (Criteria.all.map fun c => (c.word, c))) fun c t =>
      t = plain c.word :=
  readsToken_keyword_map (by rintro ⟨⟩; decide) (by decide) (by decide)

theorem readsToken_renderType :
    ReadsToken (keyword "render type" (RenderType.all.map fun type => (type.word, type)))
      fun type t => t = plain type.word :=
  readsToken_keyword_map (by rintro ⟨⟩ <;> decide) (by decide) (by decide)

theorem readsToken_slot :
    ReadsToken (keyword "display slot" (DisplaySlot.all.map fun slot => (slot.word, slot)))
      fun slot t => t = plain slot.word :=
  readsToken_keyword_map (by rintro ⟨⟩ <;> decide) (by decide) (by decide)

theorem readsToken_operation :
    ReadsToken (symbol "an operation" "operation" operations) fun op t => t = plain op.symbol :=
  readsToken_symbol_map (by rintro ⟨⟩ <;> decide) (by decide) (by decide)

theorem readsToken_selector :
    ReadsToken (symbol "a selector" "selector" selectors) fun v t => t = plain v.symbol :=
  readsToken_symbol_map (by rintro ⟨⟩ <;> decide) (by decide) (by decide)

theorem readsToken_objective : ReadsToken objective fun name t => IsName name ∧ t = plain name :=
  readsToken_word _

theorem head_plain_symbol (v : Selector) : ∃ tail, plain v.symbol = '@' :: tail := by
  cases v <;> exact ⟨_, rfl⟩

theorem head_of_isName {name : String} (h : IsName name) :
    ∃ c tail, plain name = c :: tail ∧ isWord c = true := by
  obtain ⟨c, tail, he⟩ := List.exists_cons_of_ne_nil h.1
  exact ⟨c, tail, he, h.2 c (he ▸ List.mem_cons_self)⟩

theorem readsToken_target : ReadsToken target Target.Written := by
  intro s rest a hrest
  unfold target
  -- names and selectors are told apart by their first character
  split
  · next tail =>
    rw [(readsToken_selector.map _) hrest]
    cases a with
    | selector v => simp [Target.Written]
    | stray v => simp [Target.Written]
    | player name =>
      simp only [Target.Written, reduceCtorEq, and_false, exists_false, false_and, false_iff]
      rintro ⟨t, ⟨hn, rfl⟩, hs⟩
      obtain ⟨c, u, hc, hw⟩ := head_of_isName hn
      rw [hc, List.cons_append, List.cons.injEq] at hs
      rw [← hs.1] at hw
      exact absurd hw (by decide)
  · next hat =>
    rw [((readsToken_word _).map _) hrest]
    cases a with
    | player name => simp [Target.Written]
    | stray v => simp [Target.Written]
    | selector v =>
      simp only [Target.Written, reduceCtorEq, and_false, exists_false, false_and, false_iff]
      rintro ⟨t, rfl, rfl⟩
      obtain ⟨tail, hv⟩ := head_plain_symbol v
      exact hat (tail ++ rest) (by rw [hv, List.cons_append])

theorem word_eq_ok_iff {expected : String} {s rest : List Char} {a : String} :
    word expected s = .ok (a, rest) ↔
      IsName a ∧ s = plain a ++ rest ∧ ∀ c ∈ rest.head?, isWord c = false := by
  simp only [word, run_eq_ok_iff, IsName, plain]
  constructor
  · rintro ⟨hs, hne, ha, hr⟩
    exact ⟨⟨hne, ha⟩, hs, hr⟩
  · rintro ⟨⟨hne, ha⟩, hs, hr⟩
    exact ⟨hs, hne, ha, hr⟩

theorem functionTail_eq_ok_iff {first : String} {s rest : List Char} {id : FunctionId}
    (hrest : atGap rest = true) :
    functionTail first s = .ok (id, rest) ↔
      (id = ⟨first, none⟩ ∧ s = rest) ∨
        ∃ name, IsName name ∧ id = ⟨name, some first⟩ ∧ s = ':' :: (plain name ++ rest) := by
  unfold functionTail
  split
  · next tail =>
    have hcolon : ':' :: tail ≠ rest := by
      rintro rfl
      cases hrest
    change ((FunctionId.mk · (some first)) <$> word "a function name") tail = _ ↔ _
    simp only [map_eq_ok_iff, readsToken_word _ hrest, hcolon, and_false, false_or,
      List.cons.injEq, true_and]
    constructor
    · rintro ⟨name, ⟨t, ⟨hn, rfl⟩, hs⟩, rfl⟩
      exact ⟨name, hn, rfl, hs⟩
    · rintro ⟨name, hn, rfl, hs⟩
      exact ⟨name, ⟨_, ⟨hn, rfl⟩, hs⟩, rfl⟩
  · next hcolon =>
    simp only [Except.ok.injEq, Prod.mk.injEq]
    constructor
    · rintro ⟨rfl, rfl⟩
      exact .inl ⟨rfl, rfl⟩
    · rintro (⟨rfl, rfl⟩ | ⟨name, -, -, rfl⟩)
      · exact ⟨rfl, rfl⟩
      · exact absurd rfl (hcolon _)

theorem plain_toText_scoped (name scope : String) :
    plain (FunctionId.mk name (some scope)).toText = plain scope ++ ':' :: plain name := by
  simp [plain, FunctionId.toText]

theorem readsToken_functionId : ReadsToken functionId FunctionId.Written := by
  intro s rest id hrest
  have hstop := head_of_atGap (fun _ => isWord_of_isBlank) hrest
  simp only [functionId, bind_eq_ok_iff, word_eq_ok_iff, functionTail_eq_ok_iff hrest]
  constructor
  · rintro ⟨first, mid, ⟨hf, rfl, -⟩, ⟨rfl, rfl⟩ | ⟨name, hn, rfl, rfl⟩⟩
    · exact ⟨_, ⟨⟨hf, by simp⟩, rfl⟩, rfl⟩
    · refine ⟨_, ⟨⟨hn, by simpa using hf⟩, rfl⟩, ?_⟩
      rw [plain_toText_scoped, List.append_assoc, List.cons_append]
  · rintro ⟨t, ⟨⟨hn, hscope⟩, rfl⟩, rfl⟩
    obtain ⟨name, scope⟩ := id
    cases scope with
    | none => exact ⟨name, rest, ⟨hn, rfl, hstop⟩, .inl ⟨rfl, rfl⟩⟩
    | some scope =>
      refine ⟨scope, ':' :: (plain name ++ rest), ⟨hscope scope rfl, ?_, ?_⟩,
        .inr ⟨name, hn, rfl, rfl⟩⟩
      · rw [plain_toText_scoped, List.append_assoc, List.cons_append]
      · simp only [List.head?_cons, Option.mem_some_iff, forall_eq']
        decide

theorem unbroken_of_isDigits {n : Nat} {t : Token} (h : IsDigits n t) : Unbroken t :=
  ⟨h.1, fun c hc => isBlank_of_isDigit (h.2.1 c hc)⟩

theorem unbroken_of_isSigned {n : Int} {t : Token} (h : IsSigned n t) : Unbroken t := by
  obtain ⟨-, digits, hd, ⟨-, rfl⟩ | ⟨-, rfl⟩⟩ := h
  · exact unbroken_of_isDigits hd
  · exact (unbroken_of_isDigits hd).cons (by decide)

theorem unbroken_of_isUnsigned {n : Int} {t : Token} (h : IsUnsigned n t) : Unbroken t :=
  unbroken_of_isDigits h.2

theorem unbroken_of_target {target : Target} {t : Token} (h : target.Written t) : Unbroken t := by
  cases target with
  | player name =>
    obtain ⟨hn, rfl⟩ := h
    exact unbroken_of_isName hn
  | selector v =>
    cases h
    cases v <;> decide
  | stray v => exact h.elim

theorem unbroken_of_functionId {id : FunctionId} {t : Token} (h : id.Written t) : Unbroken t := by
  obtain ⟨name, scope⟩ := id
  obtain ⟨⟨hn, hscope⟩, rfl⟩ := h
  cases scope with
  | none => exact unbroken_of_isName hn
  | some scope =>
    rw [plain_toText_scoped]
    exact (unbroken_of_isName (hscope scope rfl)).append
      ((unbroken_of_isName hn).cons (by decide)).2

theorem unbroken_of_interval {i : Interval} {t : Token} (h : i.Written t) : Unbroken t := by
  have hdots : ∀ {u : Token}, Unbroken u → Unbroken ('.' :: '.' :: u) :=
    fun hu => (hu.cons (by decide)).cons (by decide)
  cases i with
  | exactly score => exact unbroken_of_isSigned h
  | between minimum maximum =>
    obtain ⟨a, b, ha, hb, rfl⟩ := h
    exact (unbroken_of_isSigned ha).append (hdots (unbroken_of_isSigned hb)).2
  | atMost maximum =>
    obtain ⟨b, hb, rfl⟩ := h
    exact hdots (unbroken_of_isSigned hb)
  | atLeast minimum =>
    obtain ⟨a, ha, rfl⟩ := h
    exact (unbroken_of_isSigned ha).append (by decide : Unbroken ['.', '.']).2

theorem signedInteger_map_eq_ok_iff {f : Int → Interval} {s rest : List Char} {i : Interval}
    (hrest : atGap rest = true) :
    (f <$> signedInteger) s = .ok (i, rest) ↔ ∃ n t, IsSigned n t ∧ f n = i ∧ s = t ++ rest := by
  rw [map_eq_ok_iff]
  simp only [signedInteger_eq_ok_iff (head_of_atGap (fun _ => isDigit_of_isBlank) hrest)]
  constructor
  · rintro ⟨n, ⟨t, ht, hs⟩, hi⟩
    exact ⟨n, t, ht, hi, hs⟩
  · rintro ⟨n, t, ht, hi, hs⟩
    exact ⟨n, ⟨t, ht, hs⟩, hi⟩

theorem intervalTail_eq_ok_iff {minimum : Int} {s rest : List Char} {i : Interval}
    (hrest : atGap rest = true) :
    intervalTail minimum s = .ok (i, rest) ↔
      (i = .exactly minimum ∧ s = rest) ∨ (i = .atLeast minimum ∧ s = '.' :: '.' :: rest) ∨
        ∃ maximum t, IsSigned maximum t ∧ i = .between minimum maximum ∧
          s = '.' :: '.' :: (t ++ rest) := by
  unfold intervalTail
  split
  · next tail =>
    have hdots : '.' :: '.' :: tail ≠ rest := by
      rintro rfl
      cases hrest
    simp only [hdots, and_false, false_or, List.cons.injEq, true_and]
    -- behind the dots there is a gap or the upper bound
    split
    · next hgap =>
      simp only [Except.ok.injEq, Prod.mk.injEq]
      constructor
      · rintro ⟨rfl, rfl⟩
        exact .inl ⟨rfl, rfl⟩
      · rintro (⟨rfl, rfl⟩ | ⟨maximum, t, ht, -, rfl⟩)
        · exact ⟨rfl, rfl⟩
        · rw [atGap_append (unbroken_of_isSigned ht).atGap] at hgap
          cases hgap
    · next hgap =>
      rw [signedInteger_map_eq_ok_iff hrest]
      constructor
      · rintro ⟨n, t, ht, rfl, hs⟩
        exact .inr ⟨n, t, ht, rfl, hs⟩
      · rintro (⟨-, rfl⟩ | ⟨n, t, ht, rfl, hs⟩)
        · exact absurd hrest hgap
        · exact ⟨n, t, ht, rfl, hs⟩
  · next hdots =>
    simp only [Except.ok.injEq, Prod.mk.injEq]
    constructor
    · rintro ⟨rfl, rfl⟩
      exact .inl ⟨rfl, rfl⟩
    · rintro (⟨rfl, rfl⟩ | ⟨-, rfl⟩ | ⟨maximum, t, -, -, rfl⟩)
      · exact ⟨rfl, rfl⟩
      · exact absurd rfl (hdots _)
      · exact absurd rfl (hdots _)

theorem isSigned_append_ne_dots {n : Int} {t : Token} (h : IsSigned n t) (rest tail : List Char) :
    t ++ rest ≠ '.' :: tail := by
  obtain ⟨c, u, rfl, hc⟩ := head_of_isSigned h
  intro he
  rw [List.cons_append, List.cons.injEq] at he
  rw [he.1] at hc
  exact absurd hc (by decide)

theorem interval_of_numeral {minimum : Int} {t mid rest : List Char} {i : Interval}
    (ht : IsSigned minimum t) (hmid : ∀ c ∈ mid.head?, isDigit c = false)
    (h : intervalTail minimum mid = .ok (i, rest)) : interval (t ++ mid) = .ok (i, rest) := by
  unfold interval
  split
  · next heq => exact absurd heq (isSigned_append_ne_dots ht _ _)
  · exact bind_eq_ok_iff.2 ⟨minimum, mid, (signedInteger_eq_ok_iff hmid).2 ⟨t, ht, rfl⟩, h⟩

theorem isDigit_head_dot (tail : List Char) : ∀ c ∈ ('.' :: tail).head?, isDigit c = false := by
  intro c hc
  cases hc
  rfl

theorem written_of_interval_eq_ok {s rest : List Char} {i : Interval} (hrest : atGap rest = true)
    (h : interval s = .ok (i, rest)) : ∃ t, i.Written t ∧ s = t ++ rest := by
  have hstop := head_of_atGap (fun _ => isDigit_of_isBlank) hrest
  unfold interval at h
  split at h
  · next tail =>
    split at h
    · cases h
    · obtain ⟨n, t, ht, rfl, rfl⟩ := (signedInteger_map_eq_ok_iff hrest).1 h
      exact ⟨'.' :: '.' :: t, ⟨t, ht, rfl⟩, rfl⟩
  · obtain ⟨minimum, mid, h₁, h₂⟩ := bind_eq_ok_iff.1 h
    rcases (intervalTail_eq_ok_iff hrest).1 h₂ with
      ⟨rfl, rfl⟩ | ⟨rfl, rfl⟩ | ⟨maximum, u, hu, rfl, rfl⟩
    · exact (signedInteger_eq_ok_iff hstop).1 h₁
    · obtain ⟨t, ht, rfl⟩ := (signedInteger_eq_ok_iff (isDigit_head_dot _)).1 h₁
      exact ⟨t ++ ['.', '.'], ⟨t, ht, rfl⟩, by simp⟩
    · obtain ⟨t, ht, rfl⟩ := (signedInteger_eq_ok_iff (isDigit_head_dot _)).1 h₁
      exact ⟨t ++ '.' :: '.' :: u, ⟨t, u, ht, hu, rfl⟩, by simp⟩

theorem interval_eq_ok_of_written {t rest : List Char} {i : Interval} (hrest : atGap rest = true)
    (hw : i.Written t) : interval (t ++ rest) = .ok (i, rest) := by
  have hstop := head_of_atGap (fun _ => isDigit_of_isBlank) hrest
  cases i with
  | exactly score =>
    exact interval_of_numeral hw hstop ((intervalTail_eq_ok_iff hrest).2 (.inl ⟨rfl, rfl⟩))
  | between minimum maximum =>
    obtain ⟨a, b, ha, hb, rfl⟩ := hw
    rw [List.append_assoc]
    exact interval_of_numeral ha (isDigit_head_dot _)
      ((intervalTail_eq_ok_iff hrest).2 (.inr (.inr ⟨maximum, b, hb, rfl, rfl⟩)))
  | atMost maximum =>
    obtain ⟨b, hb, rfl⟩ := hw
    have hgap := atGap_append (unbroken_of_isSigned hb).atGap rest
    simp only [interval, List.cons_append, hgap, Bool.false_eq_true, if_false]
    exact (signedInteger_map_eq_ok_iff hrest).2 ⟨maximum, b, hb, rfl, rfl⟩
  | atLeast minimum =>
    obtain ⟨a, ha, rfl⟩ := hw
    rw [List.append_assoc]
    exact interval_of_numeral ha (isDigit_head_dot _)
      ((intervalTail_eq_ok_iff hrest).2 (.inr (.inl ⟨rfl, rfl⟩)))

theorem readsToken_interval : ReadsToken interval Interval.Written := by
  intro s rest i hrest
  constructor
  · exact written_of_interval_eq_ok hrest
  · rintro ⟨t, hw, rfl⟩
    exact interval_eq_ok_of_written hrest hw

theorem readsToken_signedInteger : ReadsToken signedInteger IsSigned := by
  intro s rest n hrest
  exact signedInteger_eq_ok_iff (head_of_atGap (fun _ => isDigit_of_isBlank) hrest)

theorem readsToken_naturalInteger : ReadsToken naturalInteger IsUnsigned := by
  intro s rest n hrest
  exact naturalInteger_eq_ok_iff (head_of_atGap (fun _ => isDigit_of_isBlank) hrest)

end Parse

end Scoreboard
