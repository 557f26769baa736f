import Scoreboard.Proofs.Command.Lines
import Scoreboard.Proofs.Command.Reliable

namespace Scoreboard

open Text Reader

namespace Parse

variable {α : Type} {s rest : List Char} {cause : Cause}

theorem reliable_word (expected : String) : Reliable false (word expected) :=
  (readsToken_word expected).reliable ⟨"f", plain "f", by decide, rfl⟩ name_head
    (fun h => ⟨_, ⟨(word_eq_ok_iff.1 h).1, rfl⟩, (word_eq_ok_iff.1 h).2.1⟩) (stopsAtStart_run _ _)

theorem reliable_quotedString : Reliable false quotedString :=
  readsToken_quotedString.reliable ⟨"", quotedToken "", List.not_mem_nil, rfl⟩ quoted_head
    (fun h => ⟨_, ⟨(quotedString_eq_ok_iff.1 h).1, rfl⟩, (quotedString_eq_ok_iff.1 h).2⟩)
    stopsAtStart_quotedString

theorem target_passed {who : Target} (h : target s = .ok (who, rest)) :
    ∃ t, who.Written t ∧ s = t ++ rest := by
  unfold target at h
  split at h
  · obtain ⟨v, hv, rfl⟩ := map_eq_ok_iff.1 h
    obtain ⟨found, hr, hl⟩ := choose_eq_ok hv
    obtain ⟨v', -, he⟩ := List.mem_map.1 (mem_of_lookup_eq_some hl)
    cases he
    exact ⟨plain v.symbol, rfl, (run_eq_ok_iff.1 hr).1⟩
  · obtain ⟨name, hn, rfl⟩ := map_eq_ok_iff.1 h
    obtain ⟨hname, hs, -⟩ := word_eq_ok_iff.1 hn
    exact ⟨plain name, ⟨hname, rfl⟩, hs⟩

theorem reliable_target : Reliable false target :=
  readsToken_target.reliable ⟨.player "f", plain "f", by decide, rfl⟩ target_head target_passed
    stopsAtStart_target

theorem isUnsigned_zero : IsUnsigned 0 ['0'] :=
  ⟨⟨by decide, by decide⟩, List.cons_ne_nil _ _, List.forall_mem_singleton.2 rfl, by decide, rfl⟩

theorem isSigned_zero (negative : Bool) : IsSigned 0 (withSign negative ['0']) := by
  refine isSigned_iff.2 ⟨negative, ['0'], rfl, List.cons_ne_nil _ _,
    List.forall_mem_singleton.2 rfl, by decide, ?_, ?_⟩
  · cases negative <;> rfl
  · decide

theorem naturalInteger_passed {n : Int} (h : naturalInteger s = .ok (n, rest)) :
    ∃ t, IsUnsigned n t ∧ s = t ++ rest := by
  refine (naturalInteger_eq_ok_iff ?_).1 h
  simp only [naturalInteger] at h
  split at h
  · cases h
  · split at h
    · cases h
      exact head_dropWhile s
    · cases h

theorem reliable_naturalInteger : Reliable false naturalInteger :=
  readsToken_naturalInteger.reliable ⟨0, _, isUnsigned_zero⟩ unsigned_head naturalInteger_passed
    stopsAtStart_naturalInteger

theorem signedInteger_passed {n : Int} (h : signedInteger s = .ok (n, rest)) :
    ∃ t, IsSigned n t ∧ s = t ++ rest := by
  refine (signedInteger_eq_ok_iff ?_).1 h
  simp only [signedInteger] at h
  split at h
  · cases h
  · split at h
    · cases h
      exact head_dropWhile (splitSign s).2
    · cases h

/-- Bounds of intervals are also read behind two dots, where no gap is. -/
theorem signedInteger_stopped (h : signedInteger s = .error (.failed cause rest)) :
    cause.Describes rest ∧ ∃ done more n, s = done ++ rest ∧ IsSigned n (done ++ more) ∧
      ∀ before, BreaksNumeral before → cause.Follows (before ++ done) := by
  obtain ⟨hs, hd⟩ := signedInteger_eq_failed h
  rcases signedInteger_cases h with hall | ⟨rfl, literal, rfl⟩
  · rcases hs with rfl | rfl
    · exact ⟨hd, [], ['0'], 0, rfl, isSigned_zero false, fun _ _ => hall _⟩
    · exact ⟨hd, ['-'], ['0'], 0, rfl, isSigned_zero true, fun _ _ => hall _⟩
  · refine ⟨hd, [], ['0'], 0, rfl, isSigned_zero false, fun before hb => ?_⟩
    rwa [List.append_nil]

theorem reliable_signedInteger : Reliable false signedInteger :=
  readsToken_signedInteger.reliable_of_stopped ⟨0, _, isSigned_zero false⟩ signed_head
    signedInteger_passed fun h => by
      obtain ⟨hd, done, more, n, hs, hn, hleft⟩ := signedInteger_stopped h
      exact ⟨hd, done, more, n, hs, hn, fun before hgap =>
        hleft before (breaksNumeral_of_atGap hgap)⟩

theorem breaksNumeral_dots (before : List Char) : BreaksNumeral (before ++ ['.', '.']) := by
  rw [BreaksNumeral, List.reverse_append]
  rintro c hc
  cases hc
  decide

theorem interval_passed {i : Interval} (h : interval s = .ok (i, rest)) :
    ∃ t, i.Written t ∧ s = t ++ rest := by
  unfold interval at h
  split at h
  · split at h
    · cases h
    · obtain ⟨n, hn, rfl⟩ := map_eq_ok_iff.1 h
      obtain ⟨t, ht, rfl⟩ := signedInteger_passed hn
      exact ⟨'.' :: '.' :: t, ⟨t, ht, rfl⟩, rfl⟩
  · obtain ⟨minimum, mid, h₁, h₂⟩ := bind_eq_ok h
    obtain ⟨t, ht, rfl⟩ := signedInteger_passed h₁
    unfold intervalTail at h₂
    split at h₂
    · split at h₂
      · cases h₂
        exact ⟨t ++ ['.', '.'], ⟨t, ht, rfl⟩, by simp⟩
      · obtain ⟨n, hn, rfl⟩ := map_eq_ok_iff.1 h₂
        obtain ⟨u, hu, rfl⟩ := signedInteger_passed hn
        exact ⟨t ++ '.' :: '.' :: u, ⟨t, u, ht, hu, rfl⟩, by simp⟩
    · cases h₂
      exact ⟨t, ht, rfl⟩

/-- Two dots without a bound stand where any interval could; other mistakes are those of a bound. -/
theorem interval_stopped (h : interval s = .error (.failed cause rest)) :
    cause.Describes rest ∧ ∃ done more i, s = done ++ rest ∧ Interval.Written i (done ++ more) ∧
      ∀ before, atGap before.reverse = true → cause.Follows (before ++ done) := by
  unfold interval at h
  split at h
  · next tail =>
    split at h
    · next hgap =>
      cases h
      exact ⟨⟨tail, rfl, hgap⟩, [], ['0'], .exactly 0, rfl, isSigned_zero false, fun _ _ => trivial⟩
    · obtain ⟨hd, done, more, n, rfl, hn, hleft⟩ := signedInteger_stopped (map_eq_error_iff.1 h)
      refine ⟨hd, '.' :: '.' :: done, more, .atMost n, rfl, ⟨_, hn, rfl⟩, fun before _ => ?_⟩
      simpa using hleft _ (breaksNumeral_dots before)
  · rcases bind_eq_error_iff.1 h with h₁ | ⟨minimum, mid, h₁, h₂⟩
    · obtain ⟨hd, done, more, n, hs, hn, hleft⟩ := signedInteger_stopped h₁
      exact ⟨hd, done, more, .exactly n, hs, hn,
        fun before hgap => hleft before (breaksNumeral_of_atGap hgap)⟩
    · obtain ⟨t, ht, rfl⟩ := signedInteger_passed h₁
      unfold intervalTail at h₂
      split at h₂
      · split at h₂
        · cases h₂
        · obtain ⟨hd, done, more, n, rfl, hn, hleft⟩ :=
            signedInteger_stopped (map_eq_error_iff.1 h₂)
          refine ⟨hd, t ++ '.' :: '.' :: done, more, .between minimum n, by simp,
            ⟨t, _, ht, hn, by simp⟩, fun before _ => ?_⟩
          simpa using hleft _ (breaksNumeral_dots (before ++ t))
      · cases h₂

theorem reliable_interval : Reliable false interval :=
  readsToken_interval.reliable_of_stopped ⟨.exactly 0, _, isSigned_zero false⟩
    (fun _ _ h => (unbroken_of_interval h).atGap) interval_passed interval_stopped

theorem functionId_passed {id : FunctionId} (h : functionId s = .ok (id, rest)) :
    ∃ t, id.Written t ∧ s = t ++ rest := by
  obtain ⟨first, mid, h₁, h₂⟩ := bind_eq_ok h
  obtain ⟨hf, rfl, -⟩ := word_eq_ok_iff.1 h₁
  unfold functionTail at h₂
  split at h₂
  · obtain ⟨name, hn, rfl⟩ := map_eq_ok_iff.1 h₂
    obtain ⟨hname, rfl, -⟩ := word_eq_ok_iff.1 hn
    refine ⟨_, ⟨⟨hname, by simpa using hf⟩, rfl⟩, ?_⟩
    rw [plain_toText_scoped, List.append_assoc, List.cons_append]
  · cases h₂
    exact ⟨plain first, ⟨⟨hf, by simp⟩, rfl⟩, rfl⟩

theorem functionId_stopped (h : functionId s = .error (.failed cause rest)) :
    cause.Describes rest ∧ ∃ done more id, s = done ++ rest ∧ FunctionId.Written id (done ++ more) ∧
      ∀ before, atGap before.reverse = true → cause.Follows (before ++ done) := by
  have hname : IsName "f" := by decide
  rcases bind_eq_error_iff.1 h with h₁ | ⟨first, mid, h₁, h₂⟩
  · obtain ⟨rfl, hd⟩ := stopsAtStart_run _ _ h₁
    exact ⟨hd, [], plain "f", ⟨"f", none⟩, rfl, ⟨⟨hname, by simp⟩, rfl⟩,
      fun _ _ => run_follows h₁ _⟩
  · obtain ⟨hf, rfl, -⟩ := word_eq_ok_iff.1 h₁
    unfold functionTail at h₂
    split at h₂
    · have hword := map_eq_error_iff.1 h₂
      obtain ⟨rfl, hd⟩ := stopsAtStart_run _ _ hword
      refine ⟨hd, plain first ++ [':'], plain "f", ⟨"f", some first⟩, by simp,
        ⟨⟨hname, by simpa using hf⟩, ?_⟩, fun _ _ => run_follows hword _⟩
      rw [plain_toText_scoped, List.append_assoc]
      rfl
    · cases h₂

theorem reliable_functionId : Reliable false functionId :=
  readsToken_functionId.reliable_of_stopped ⟨⟨"f", none⟩, plain "f", ⟨by decide, by simp⟩, rfl⟩
    (fun _ _ h => (unbroken_of_functionId h).atGap) functionId_passed functionId_stopped

theorem reliable_cell : Reliable true cell :=
  (reliable_target.bind readsToken_target.endsAtGap fun _ _ _ _ =>
    ((reliable_word _).map _).afterSpace).afterSpace

theorem reliable_named {f : String → Reader α} (hf : ∀ name, Reliable true (f name)) :
    Reliable true (space >>= fun _ => objective >>= f) :=
  ((reliable_word _).bind (readsToken_word _).endsAtGap fun _ name _ _ => hf name).afterSpace

theorem reliable_addObjective : Reliable true addObjective :=
  reliable_named fun _ => Reliable.afterSpace <|
    (reliable_keyword (by decide) (by decide) (by decide) (by decide)).bind
      readsToken_criteria.endsAtGap fun _ _ _ _ => reliable_quotedString.endOr.map _

theorem reliable_modification : Reliable false modification := by
  refine reliable_branch (by simp) (by decide) (by decide) (by decide) ?_
  simp only [List.forall_mem_cons]
  exact ⟨(reliable_quotedString.map _).afterSpace,
    ((reliable_keyword (by decide) (by decide) (by decide) (by decide)).map _).afterSpace,
    List.forall_mem_nil _⟩

theorem reliable_modifyObjective : Reliable true modifyObjective :=
  reliable_named fun _ => (reliable_modification.map _).afterSpace

theorem reliable_setDisplay : Reliable true setDisplay :=
  Reliable.afterSpace <|
    (reliable_keyword (by decide) (by decide) (by decide) (by decide)).bind
      readsToken_slot.endsAtGap fun _ _ _ _ => ((reliable_word _).map _).afterSpace

theorem reliable_objectivesCommand : Reliable false objectivesCommand := by
  refine reliable_branch (by simp) (by decide) (by decide) (by decide) ?_
  simp only [List.forall_mem_cons]
  exact ⟨reliable_addObjective, reliable_pure _, reliable_modifyObjective,
    ((reliable_word _).map _).afterSpace, reliable_setDisplay, List.forall_mem_nil _⟩

theorem reliable_cell_bind {f : Target × String → Reader α}
    (hf : ∀ place, Reliable true (f place)) :
    Reliable true (cell >>= f) :=
  reliable_cell.bind reads_cell.endsAtGap fun _ place _ _ => hf place

theorem reliable_operation : Reliable true operation :=
  reliable_cell_bind fun _ => Reliable.afterSpace <|
    (reliable_symbol (by decide) (by decide) (by decide) (by decide)).bind
      readsToken_operation.endsAtGap fun _ _ _ _ => reliable_cell.map _

theorem reliable_playersCommand : Reliable false playersCommand := by
  refine reliable_branch (by simp) (by decide) (by decide) (by decide) ?_
  simp only [List.forall_mem_cons]
  exact ⟨reliable_cell_bind fun _ => (reliable_naturalInteger.map _).afterSpace,
    reliable_cell.map _, reliable_cell.map _, reliable_target.endOr.map _, reliable_operation,
    reliable_cell_bind fun _ => (reliable_naturalInteger.map _).afterSpace, reliable_cell.map _,
    reliable_cell_bind fun _ => (reliable_signedInteger.map _).afterSpace, List.forall_mem_nil _⟩

theorem reliable_scoreboard : Reliable false scoreboard := by
  refine reliable_branch (by simp) (by decide) (by decide) (by decide) ?_
  simp only [List.forall_mem_cons]
  exact ⟨(reliable_objectivesCommand.map _).afterSpace, (reliable_playersCommand.map _).afterSpace,
    List.forall_mem_nil _⟩

theorem reliable_tellraw : Reliable false tellraw :=
  reliable_target.bind readsToken_target.endsAtGap fun _ _ _ _ =>
    (reliable_quotedString.map _).afterSpace

theorem reliable_test {place : Target × String} {test : String × Reader Condition}
    (hm : test ∈ tests place) : Reliable true test.2 := by
  rcases List.mem_append.1 hm with hm | hm
  · obtain ⟨relation, -, rfl⟩ := List.mem_map.1 hm
    exact reliable_cell.map _
  · cases List.mem_singleton.1 hm
    exact (reliable_interval.map _).afterSpace

theorem reliable_fixed {label key : String} (hlabel : label ∉ symbolLabels) (hkey : IsName key) :
    Reliable false (keyword label [(key, ())]) :=
  reliable_keyword (by simp) hlabel (by simp) (by simpa using hkey)

theorem reliable_tests (place : Target × String) :
    Reliable false (symbol "a comparison" "comparison" (tests place) >>= fun test => test) := by
  have hkeys : ((tests place).map Prod.fst).Nodup := tests_keys place ▸ by decide
  have hsymbols : ∀ key ∈ (tests place).map Prod.fst, Unbroken (plain key) :=
    tests_keys place ▸ by decide
  refine (reliable_symbol (by simp [tests]) (by decide) hkeys hsymbols).bind
    (readsToken_symbol hkeys hsymbols).endsAtGap fun s test rest h => ?_
  obtain ⟨key, hm⟩ := mem_of_choose_eq_ok s rest test h
  exact reliable_test hm

theorem reliable_condition : Reliable false condition :=
  (reliable_fixed (by decide) (by decide)).bind (readsToken_fixed (by decide)).endsAtGap
    fun _ _ _ _ => Reliable.afterSpace <|
      (reliable_fixed (by decide) (by decide)).bind (readsToken_fixed (by decide)).endsAtGap
        fun _ _ _ _ => reliable_cell_bind fun place => (reliable_tests place).afterSpace

def guardWords : Reader Condition := do
  space
  let c ← condition
  space
  keyword "keyword" [("run", ())]
  return c

theorem reliable_guardWords : Reliable true guardWords :=
  Reliable.afterSpace <| reliable_condition.bind reads_condition.endsAtGap fun _ _ _ _ =>
    ((reliable_fixed (by decide) (by decide)).map _).afterSpace

theorem endsAtGap_guardWords : EndsAtGap guardWords :=
  EndsAtGap.afterSpace <| EndsAtGap.bind reliable_condition reads_condition.endsAtGap
    (fun _ _ _ _ => ((reliable_fixed (by decide) (by decide)).map _).afterSpace)
    fun _ => ((readsToken_fixed (by decide)).endsAtGap.map _).afterSpace

theorem guarded_eq : (space >>= fun _ => Sum.inr <$> guard : Reader (Command ⊕ Condition)) =
    guardWords >>= fun c => space >>= fun _ => pure (Sum.inr c) := by
  have hmap : (Sum.inr <$> guard : Reader (Command ⊕ Condition)) =
      guard >>= fun c => pure (Sum.inr c) := rfl
  rw [hmap]
  simp only [guard, guardWords, bind_assoc]
  rfl

theorem opening_of_mem {name : String} {r : Reader (Command ⊕ Condition)}
    (hm : (name, r) ∈ commands) (hgap : atGap rest = true) :
    opening (plain name ++ rest) = (space >>= fun _ => r) rest :=
  bind_of_ok ((readsToken_commandName hgap).2 ⟨plain name, ⟨name, hm, rfl⟩, rfl⟩) _

theorem opening_cases (s : List Char) :
    (∃ stop, commandName s = .error stop ∧ opening s = .error stop) ∨
      ∃ name r mid, (name, r) ∈ commands ∧ s = plain name ++ mid ∧
        opening s = (space >>= fun _ => r) mid := by
  cases h : commandName s with
  | error stop => exact .inl ⟨stop, rfl, bind_of_error h _⟩
  | ok found =>
    obtain ⟨r, mid⟩ := found
    obtain ⟨name, hword, hl⟩ := commandName_eq_ok h
    exact .inr ⟨name, r, mid, mem_of_lookup_eq_some hl, (word_eq_ok_iff.1 hword).2.1,
      bind_of_ok h _⟩

theorem commands_cases {name : String} {r : Reader (Command ⊕ Condition)}
    (hm : (name, r) ∈ commands) :
    (Reliable true (space >>= fun _ => r) ∧ ∀ s c rest, r s ≠ .ok (.inr c, rest)) ∨
      name = "execute" ∧ r = Sum.inr <$> guard := by
  have hinl : ∀ {β : Type} (p : Reader β) (f : β → Command) (s : List Char) (c : Condition)
      (rest : List Char), ((fun b => Sum.inl (f b)) <$> p : Reader (Command ⊕ Condition)) s ≠
        .ok (.inr c, rest) := by
    intro β p f s c rest h
    obtain ⟨b, -, he⟩ := map_eq_ok_iff.1 h
    cases he
  simp only [commands, List.mem_cons, Prod.mk.injEq, List.not_mem_nil, or_false] at hm
  rcases hm with ⟨-, rfl⟩ | ⟨-, rfl⟩ | ⟨rfl, rfl⟩ | ⟨-, rfl⟩
  · exact .inl ⟨(reliable_scoreboard.map _).afterSpace, hinl scoreboard id⟩
  · exact .inl ⟨(reliable_functionId.map _).afterSpace, hinl functionId Command.function⟩
  · exact .inr ⟨rfl, rfl⟩
  · exact .inl ⟨(reliable_tellraw.map _).afterSpace, hinl tellraw id⟩

theorem opening_inl_cases {c : Command} (h : opening s = .ok (.inl c, rest)) :
    ∃ name r mid, (name, r) ∈ commands ∧ Reliable true (space >>= fun _ => r) ∧
      s = plain name ++ mid ∧ (space >>= fun _ => r) mid = .ok (.inl c, rest) := by
  rcases opening_cases s with ⟨stop, -, ho⟩ | ⟨name, r, mid, hm, hs, ho⟩
  · rw [ho] at h
    cases h
  · rw [ho] at h
    rcases commands_cases hm with ⟨hr, -⟩ | ⟨-, rfl⟩
    · exact ⟨name, r, mid, hm, hr, hs, h⟩
    · obtain ⟨u, mid', -, h₂⟩ := bind_eq_ok h
      obtain ⟨c', -, he⟩ := map_eq_ok_iff.1 h₂
      cases he

theorem opening_passed {c : Command} (h : opening s = .ok (.inl c, rest)) :
    ∃ done, s = done ++ rest ∧ opening done = .ok (.inl c, []) := by
  obtain ⟨name, r, mid, hm, hr, rfl, hmid⟩ := opening_inl_cases h
  obtain ⟨done, rfl, hdone⟩ := hr.passed hmid
  refine ⟨plain name ++ done, by simp, ?_⟩
  rw [opening_of_mem hm (hr.begins hdone), hdone]

theorem opening_blanks {c : Command} (h : opening s = .ok (.inl c, [])) (ht : Blanks rest) :
    opening (s ++ rest) = .ok (.inl c, rest) ∨
      ∃ left, opening (s ++ rest) = .error (.failed .trailingWhitespace left) := by
  obtain ⟨name, r, mid, hm, hr, rfl, hmid⟩ := opening_inl_cases h
  rw [List.append_assoc,
    opening_of_mem hm (atGap_append_of_atGap (hr.begins hmid) ht.atGap)]
  exact hr.blanks hmid ht

theorem opening_guarded {c : Condition} (h : guardWords s = .ok (c, []))
    (hrest : atGap rest = false) :
    opening (plain "execute" ++ s ++ ' ' :: rest) = .ok (.inr c, rest) := by
  have hm : ("execute", Sum.inr <$> guard) ∈ commands := by simp [commands]
  have hspace : atGap (' ' :: rest) = true := rfl
  rw [List.append_assoc,
    opening_of_mem hm (atGap_append_of_atGap (reliable_guardWords.begins h) hspace), guarded_eq,
    bind_of_ok (endsAtGap_guardWords h hspace)]
  exact bind_eq_ok_iff.2 ⟨(), rest, space_eq_ok_iff.2 ⟨rfl, hrest⟩, rfl⟩

/-- What a guard leaves is read as the guarded command, with the same end. -/
theorem command_of_guard {c : Condition} (h : opening s = .ok (.inr c, rest)) :
    command s = (Command.execute c <$> command : Reader Command) rest := by
  rw [command]
  split
  · next ho =>
    rw [h] at ho
    cases ho
  · next ho =>
    rw [h] at ho
    cases ho
  · next ho =>
    rw [h] at ho
    cases ho
    cases hc : command rest with
    | error stop => exact (map_eq_error_iff.2 hc).symm
    | ok r => exact (map_eq_ok_iff.2 ⟨r.1, hc, rfl⟩).symm

theorem command_of_error {stop : Stop} (h : opening s = .error stop) : command s = .error stop := by
  rw [command]
  split
  · next ho =>
    rw [h] at ho
    cases ho
    rfl
  · next ho =>
    rw [h] at ho
    cases ho
  · next ho =>
    rw [h] at ho
    cases ho

theorem exists_front_of_guard {c : Condition} (h : opening s = .ok (.inr c, rest)) :
    ∃ front, s = front ++ rest ∧ atGap front.reverse = true ∧ ∀ rest', atGap rest' = false →
      opening (front ++ rest') = .ok (.inr c, rest') := by
  obtain ⟨test, hw, -, rfl⟩ := opening_inr_eq_ok_iff.1 h
  refine ⟨spaced (guardTokens test) ++ [' '], by simp, ?_, fun rest' hgap => ?_⟩
  · rw [List.reverse_append]
    rfl
  · exact opening_inr_eq_ok_iff.2 ⟨test, hw, hgap, by simp⟩

theorem begins_of_command {c : Command} (h : command s = .ok (c, [])) : atGap s = false := by
  obtain ⟨ts, hw, rfl⟩ := (command_eq_ok_nil_iff c s).1 h
  exact atGap_spaced_of_written hw

theorem command_sample : command (spaced [plain "function", plain "f"]) =
    .ok (.function ⟨"f", none⟩, []) := by
  have hname : IsName "f" := by decide
  exact (command_eq_ok_nil_iff _ _).2 ⟨_, ⟨plain "f", ⟨⟨hname, by simp⟩, rfl⟩, rfl⟩, rfl⟩

/-- A guard that is all there can be followed by a command. -/
theorem exists_command_of_guardWords {c : Condition} (h : guardWords s = .ok (c, [])) :
    ∃ more run, command (plain "execute" ++ s ++ ' ' :: more) = .ok (run, []) := by
  have hopen := opening_guarded h (begins_of_command command_sample)
  exact ⟨_, _, (command_of_guard hopen).trans (map_eq_ok_iff.2 ⟨_, command_sample, rfl⟩)⟩

theorem guarded_stopped
    (h : (space >>= fun _ => Sum.inr <$> guard : Reader (Command ⊕ Condition)) s =
      .error (.failed cause rest)) :
    Locates false command (plain "execute" ++ s) rest cause := by
  rw [guarded_eq] at h
  rcases bind_eq_error_iff.1 h with h₁ | ⟨c, mid, h₁, h₂⟩
  · obtain ⟨hd, done, more, c, rfl, hok, hleft⟩ := reliable_guardWords.stopped h₁
    obtain ⟨more', run, hrun⟩ := exists_command_of_guardWords hok
    refine ⟨hd, plain "execute" ++ done, more ++ ' ' :: more', run, by simp, by simpa using hrun,
      fun before _ => ?_⟩
    rw [← List.append_assoc]
    exact hleft _ rfl
  · obtain ⟨done, rfl, hdone⟩ := reliable_guardWords.passed h₁
    obtain ⟨more, run, hrun⟩ := exists_command_of_guardWords hdone
    rcases bind_eq_error_iff.1 h₂ with h₃ | ⟨u, mid', -, h₃⟩
    · have hleft := space_follows h₃
      obtain ⟨rfl | rfl, hd⟩ := space_eq_failed h₃
      · exact ⟨hd, plain "execute" ++ done, _, run, by simp, hrun, fun _ _ => hleft _⟩
      · exact ⟨hd, plain "execute" ++ done ++ [' '], more, run, by simp, by simpa using hrun,
          fun _ _ => hleft _⟩
    · cases h₃

theorem opening_stopped (h : opening s = .error (.failed cause rest)) :
    Locates false command s rest cause := by
  rcases opening_cases s with ⟨stop, hname, ho⟩ | ⟨name, r, mid, hm, rfl, ho⟩
  · rw [ho] at h
    cases h
    obtain ⟨rfl, hd⟩ := stopsAtStart_commandName hname
    refine ⟨hd, [], _, _, rfl, command_sample, fun before hgap => ?_⟩
    rw [List.append_nil]
    exact Cause.follows_of_atGap _ hgap
  · rw [ho] at h
    rcases commands_cases hm with ⟨hr, hinl⟩ | ⟨rfl, rfl⟩
    · obtain ⟨hd, done, more, x, rfl, hok, hleft⟩ := hr.stopped h
      have hopen := (opening_of_mem hm (hr.begins hok)).trans hok
      cases x with
      | inl c =>
        refine ⟨hd, plain name ++ done, more, c, by simp, ?_, fun before _ => ?_⟩
        · rw [List.append_assoc]
          exact command_eq_ok_iff.2 (.inl hopen)
        · rw [← List.append_assoc]
          exact hleft _ rfl
      | inr c =>
        obtain ⟨u, mid', -, h₂⟩ := bind_eq_ok hok
        exact absurd h₂ (hinl mid' c [])
    · exact guarded_stopped h

theorem command_passed {c : Command} (h : command s = .ok (c, rest)) :
    ∃ done, s = done ++ rest ∧ command done = .ok (c, []) := by
  fun_induction command s generalizing c with
  | case1 s stop ho => cases h
  | case2 s c' after ho =>
    cases h
    obtain ⟨done, hs, hdone⟩ := opening_passed ho
    exact ⟨done, hs, command_eq_ok_iff.2 (.inl hdone)⟩
  | case3 s condition mid ho _ stop hc ih => cases h
  | case4 s condition mid ho _ run after hc ih =>
    cases h
    obtain ⟨front, rfl, -, hfront⟩ := exists_front_of_guard ho
    obtain ⟨done, rfl, hdone⟩ := ih hc
    have hopen := hfront done (begins_of_command hdone)
    exact ⟨front ++ done, by simp,
      command_eq_ok_iff.2 (.inr ⟨condition, run, done, hopen, hdone, rfl⟩)⟩

theorem command_stopped (h : command s = .error (.failed cause rest)) :
    Locates false command s rest cause := by
  fun_induction command s with
  | case1 s stop ho =>
    cases h
    exact opening_stopped ho
  | case2 s c after ho => cases h
  | case3 s condition mid ho _ stop hc ih =>
    cases h
    obtain ⟨front, rfl, hlast, hfront⟩ := exists_front_of_guard ho
    obtain ⟨hd, done, more, run, rfl, hrun, hleft⟩ := ih hc
    have hopen := hfront (done ++ more) (begins_of_command hrun)
    refine ⟨hd, front ++ done, more, .execute condition run, by simp, ?_, fun before hgap => ?_⟩
    · rw [List.append_assoc]
      exact command_eq_ok_iff.2 (.inr ⟨condition, run, _, hopen, hrun, rfl⟩)
    · rw [← List.append_assoc]
      refine hleft _ ?_
      rw [List.reverse_append]
      exact atGap_append_of_atGap hlast hgap
  | case4 s condition mid ho _ run after hc ih => cases h

theorem command_blanks {c : Command} {tail : List Char} (h : command s = .ok (c, []))
    (ht : Blanks tail) : command (s ++ tail) = .ok (c, tail) ∨
      ∃ left, command (s ++ tail) = .error (.failed .trailingWhitespace left) := by
  fun_induction command s generalizing c with
  | case1 s stop ho => cases h
  | case2 s c' after ho =>
    cases h
    rcases opening_blanks ho ht with hok | ⟨left, herror⟩
    · exact .inl (command_eq_ok_iff.2 (.inl hok))
    · exact .inr ⟨left, command_of_error herror⟩
  | case3 s condition mid ho _ stop hc ih => cases h
  | case4 s condition mid ho _ run after hc ih =>
    cases h
    obtain ⟨front, rfl, -, hfront⟩ := exists_front_of_guard ho
    have hopen := hfront (mid ++ tail) (atGap_append (begins_of_command hc) tail)
    rw [List.append_assoc, command_of_guard hopen]
    rcases ih hc with hok | ⟨left, herror⟩
    · exact .inl (map_eq_ok_iff.2 ⟨run, hok, rfl⟩)
    · exact .inr ⟨left, map_eq_error_iff.2 herror⟩

theorem reliable_command : Reliable false command where
  possible := ⟨_, _, command_sample⟩
  begins := begins_of_command
  passed := command_passed
  stopped := command_stopped
  blanks := command_blanks

end Parse

end Scoreboard
