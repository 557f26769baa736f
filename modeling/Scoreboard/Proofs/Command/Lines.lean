import Scoreboard.Proofs.Command.Conditions

namespace Scoreboard

open Text Reader

namespace Parse

theorem beginsWith_scoreboard :
    BeginsWith ["objectives", "players"] fun (c : Command) ts =>
      c.Written (plain "scoreboard" :: ts) := by
  rintro (_ | _ | _ | _ | _ | _) ts h <;> simp only [Command.Written] at h <;> grind

theorem reads_scoreboard :
    Reads spaced AtEnd scoreboard fun c ts => c.Written (plain "scoreboard" :: ts) := by
  refine reads_branch atGap_of_atEnd (by decide) (by decide) beginsWith_scoreboard ?_
  simp only [List.forall_mem_cons, List.not_mem_nil, false_imp_iff, implies_true, and_true]
  constructor
  · have hhead := beginsWith_objectivesCommand.head (by decide)
    refine (reads_objectivesCommand.mapAfterSpace hhead Command.objectives).congr ?_
    rintro ⟨⟩ us <;> simp only [Command.Written] <;> grind
  · have hhead := beginsWith_playersCommand.head (by decide)
    refine (reads_playersCommand.mapAfterSpace hhead Command.players).congr ?_
    rintro ⟨⟩ us <;> simp only [Command.Written] <;> grind

def PlainWritten (x : Command ⊕ Condition) (ts : List Token) : Prop :=
  match x with
  | .inl (.execute _ _) => False
  | .inl c => c.Written ts
  | .inr _ => False

theorem beginsWith_plain :
    BeginsWith ["scoreboard", "function", "execute", "tellraw"] PlainWritten := by
  rintro ((_ | _ | _ | _ | _ | _) | _) ts h <;>
    simp only [PlainWritten, Command.Written] at h <;> grind

theorem readsToken_commandName :
    ReadsToken commandName fun r t => ∃ key, (key, r) ∈ commands ∧ t = plain key := by
  have hkeys : (commands.map Prod.fst).Nodup := by decide
  have hnames : ∀ key ∈ commands.map Prod.fst, IsName key := by decide
  intro s rest r hrest
  constructor
  · intro h
    obtain ⟨name, hword, hl⟩ := commandName_eq_ok h
    obtain ⟨t, ⟨-, rfl⟩, hs⟩ := (readsToken_word _ hrest).1 hword
    exact ⟨_, ⟨name, mem_of_lookup_eq_some hl, rfl⟩, hs⟩
  · rintro ⟨t, ⟨name, hm, rfl⟩, hs⟩
    have hn := hnames name (List.mem_map_of_mem hm)
    have hword := (readsToken_word "a command" hrest).2 ⟨_, ⟨hn, rfl⟩, hs⟩
    simp [commandName, hword, (lookup_eq_some_iff hkeys).2 hm]

theorem mem_of_commandName_eq_ok (s mid : List Char) (r : Reader (Command ⊕ Condition))
    (h : commandName s = .ok (r, mid)) : ∃ key, (key, r) ∈ commands := by
  obtain ⟨key, -, hl⟩ := commandName_eq_ok h
  exact ⟨key, mem_of_lookup_eq_some hl⟩

theorem reads_tellraw :
    Reads spaced AtEnd tellraw fun c ts => c.Written (plain "tellraw" :: ts) := by
  refine (readsToken_target.bind atGap_of_atEnd fun who =>
    readsToken_quotedString.last atGap_of_atEnd quoted_head (Command.tellraw who)).congr ?_
  rintro ⟨⟩ us <;> simp only [Command.Written] <;> grind

theorem reads_function :
    Reads spaced AtEnd functionId fun id ts => ∃ t, id.Written t ∧ ts = [t] := by
  intro s rest id hrest
  rw [readsToken_functionId (atGap_of_atEnd rest hrest)]
  constructor
  · rintro ⟨t, ht, hs⟩
    exact ⟨[t], ⟨t, ht, rfl⟩, by simpa [spaced_cons] using hs⟩
  · rintro ⟨_, ⟨t, ht, rfl⟩, hs⟩
    exact ⟨t, ht, by simpa [spaced_cons] using hs⟩

theorem reads_guard (f : Condition → Command ⊕ Condition) :
    Reads spaced AtEnd (f <$> guard) fun _ _ => False := by
  rintro s rest x rfl
  simp only [map_eq_ok_iff, guard_eq_ok_iff]
  simp [atGap]

theorem reads_opening : Reads spaced AtEnd opening PlainWritten := by
  refine reads_choice atGap_of_atEnd readsToken_commandName mem_of_commandName_eq_ok ?_
    beginsWith_plain
  simp only [commands, List.forall_mem_cons, List.not_mem_nil, false_imp_iff, implies_true,
    and_true]
  refine ⟨?_, ?_, ?_, ?_⟩
  · refine (reads_scoreboard.mapAfterSpace
      (beginsWith_scoreboard.head (by decide)) Sum.inl).congr ?_
    rintro ((_ | _ | _ | _ | _ | _) | _) us <;> simp only [PlainWritten] <;>
      grind [Command.Written]
  · refine (reads_function.mapAfterSpace ?_ fun id => Sum.inl (Command.function id)).congr ?_
    · rintro id _ ⟨t, ht, rfl⟩
      exact ⟨t, [], rfl, (unbroken_of_functionId ht).atGap⟩
    · rintro ((_ | _ | _ | _ | _ | _) | _) us <;> simp only [PlainWritten] <;>
      grind [Command.Written]
  · refine ((reads_guard Sum.inr).afterSpace fun _ _ h => h.elim).congr ?_
    rintro ((_ | _ | _ | _ | _ | _) | _) us <;> simp only [PlainWritten] <;>
      grind [Command.Written]
  · refine (reads_tellraw.mapAfterSpace ?_ Sum.inl).congr ?_
    · rintro c us h
      cases c with
      | tellraw target message =>
        obtain ⟨-, who, hw, hts⟩ := h
        exact ⟨who, [quotedToken message], (List.cons.inj hts).2, target_head _ _ hw⟩
      | _ => grind [Command.Written]
    · rintro ((_ | _ | _ | _ | _ | _) | _) us <;> simp only [PlainWritten] <;>
      grind [Command.Written]

def guardTokens (test : List Token) : List Token :=
  plain "execute" :: plain "if" :: plain "score" :: test ++ [plain "run"]

theorem opening_inr_eq_ok_iff {s rest : List Char} {c : Condition} :
    opening s = .ok (.inr c, rest) ↔ ∃ test, c.Written test ∧ atGap rest = false ∧
      s = spaced (guardTokens test) ++ ' ' :: rest := by
  have hspaced : ∀ test, spaced (guardTokens test) =
      plain "execute" ++ ' ' :: (spaced (plain "if" :: plain "score" :: test) ++
        led [plain "run"]) := by
    intro test
    simp [guardTokens, spaced_cons, led_append]
  have hspace : ∀ s : List Char, AtGap (' ' :: s) := fun _ => rfl
  simp only [opening, bind_eq_ok_iff, space_eq_ok_iff]
  constructor
  · rintro ⟨r, _, h₁, _, mid, ⟨rfl, -⟩, h₃⟩
    obtain ⟨_, ⟨name, hm, rfl⟩, rfl⟩ := (readsToken_commandName rfl).1 h₁
    simp only [commands, List.mem_cons, Prod.mk.injEq, List.not_mem_nil, or_false] at hm
    rcases hm with ⟨rfl, rfl⟩ | ⟨rfl, rfl⟩ | ⟨rfl, rfl⟩ | ⟨rfl, rfl⟩ <;>
      obtain ⟨c', h, he⟩ := map_eq_ok_iff.1 h₃ <;> cases he
    obtain ⟨test, hw, hrest, rfl⟩ := guard_eq_ok_iff.1 h
    exact ⟨test, hw, hrest, by simp [hspaced]⟩
  · rintro ⟨test, hw, hrest, rfl⟩
    have hmem : ("execute", Sum.inr <$> guard) ∈ commands := by simp [commands]
    have hname := (readsToken_commandName (hspace (spaced (plain "if" :: plain "score" :: test) ++
      led [plain "run"] ++ ' ' :: rest))).2 ⟨plain "execute", ⟨"execute", hmem, rfl⟩, rfl⟩
    refine ⟨Sum.inr <$> guard, _, ?_, (), _, ⟨rfl, ?_⟩,
      map_eq_ok_iff.2 ⟨c, guard_eq_ok_iff.2 ⟨test, hw, hrest, rfl⟩, rfl⟩⟩
    · rw [← hname, hspaced]
      simp
    · simp only [spaced_cons, List.append_assoc]
      exact atGap_append (by decide) _

theorem command_eq_ok_iff {s rest : List Char} {c : Command} :
    command s = .ok (c, rest) ↔ opening s = .ok (.inl c, rest) ∨
      ∃ condition run mid, opening s = .ok (.inr condition, mid) ∧
        command mid = .ok (run, rest) ∧ c = .execute condition run := by
  rw [command]
  split
  · next stop h => simp [h]
  · next c' rest' h => simp [h]
  · next condition mid h =>
    simp only [h, reduceCtorEq, Except.ok.injEq, Prod.mk.injEq, false_and, false_or, Sum.inr.injEq]
    split
    · next stop hc =>
      simp only [reduceCtorEq, false_iff]
      rintro ⟨_, run, _, ⟨rfl, rfl⟩, hrun, -⟩
      rw [hc] at hrun
      cases hrun
    · next run after hc =>
      simp only [Except.ok.injEq, Prod.mk.injEq]
      constructor
      · rintro ⟨rfl, rfl⟩
        exact ⟨condition, run, mid, ⟨rfl, rfl⟩, hc, rfl⟩
      · rintro ⟨_, run', _, ⟨rfl, rfl⟩, hrun, rfl⟩
        rw [hc] at hrun
        cases hrun
        exact ⟨rfl, rfl⟩

theorem beginsWith_command :
    BeginsWith ["scoreboard", "function", "execute", "tellraw"] Command.Written := by
  rintro (_ | _ | _ | _ | _ | _) ts h <;> simp only [Command.Written] at h <;> grind

theorem atGap_spaced_of_written {c : Command} {ts : List Token} (h : c.Written ts) :
    atGap (spaced ts) = false := by
  obtain ⟨t, us, rfl, ht⟩ := beginsWith_command.head (by decide) c ts h
  rw [spaced_cons]
  exact atGap_append ht _

theorem execute_written_iff {condition : Condition} {run : Command} {ts : List Token} :
    (Command.execute condition run).Written ts ↔ ∃ test rest, condition.Written test ∧
      run.Written rest ∧ ts = guardTokens test ++ rest := by
  simp [Command.Written, guardTokens]

theorem spaced_guarded (test : List Token) {c : Command} {ts : List Token} (h : c.Written ts) :
    spaced (guardTokens test ++ ts) = spaced (guardTokens test) ++ ' ' :: spaced ts := by
  obtain ⟨t, us, rfl, -⟩ := beginsWith_command.head (by decide) c ts h
  simp [guardTokens, spaced_cons, led_append]

/-- A command that guards no other is read from a whole text at once. -/
theorem command_eq_ok_nil_of_plain {c : Command} (hc : ∀ condition run, c ≠ .execute condition run)
    (s : List Char) : command s = .ok (c, []) ↔ ∃ ts, c.Written ts ∧ s = spaced ts := by
  have hexecute : ¬∃ condition run mid, opening s = .ok (.inr condition, mid) ∧
      command mid = .ok (run, []) ∧ c = .execute condition run := by
    rintro ⟨condition, run, -, -, -, he⟩
    exact hc condition run he
  have hwritten : ∀ ts, PlainWritten (.inl c) ts ↔ c.Written ts := by
    intro ts
    cases c with
    | execute condition run => exact absurd rfl (hc condition run)
    | _ => rfl
  rw [command_eq_ok_iff, or_iff_left hexecute, reads_opening rfl]
  simp only [hwritten, List.append_nil]

/-- A whole text is read as a command just when it is written in the command's tokens. -/
theorem command_eq_ok_nil_iff (c : Command) (s : List Char) :
    command s = .ok (c, []) ↔ ∃ ts, c.Written ts ∧ s = spaced ts := by
  induction c generalizing s with
  | execute condition run ih =>
    have hplain : opening s ≠ .ok (.inl (.execute condition run), []) := by
      intro h
      obtain ⟨ts, hw, -⟩ := (reads_opening rfl).1 h
      exact hw
    -- the guard leaves the text of the guarded command, and that is what the induction is about
    rw [command_eq_ok_iff]
    simp only [hplain, false_or, Command.execute.injEq, execute_written_iff]
    constructor
    · rintro ⟨_, _, mid, h₁, h₂, rfl, rfl⟩
      obtain ⟨test, hc, -, rfl⟩ := opening_inr_eq_ok_iff.1 h₁
      obtain ⟨rest, hr, rfl⟩ := (ih mid).1 h₂
      exact ⟨_, ⟨test, rest, hc, hr, rfl⟩, (spaced_guarded test hr).symm⟩
    · rintro ⟨_, ⟨test, rest, hc, hr, rfl⟩, rfl⟩
      exact ⟨condition, run, spaced rest, opening_inr_eq_ok_iff.2
        ⟨test, hc, atGap_spaced_of_written hr, spaced_guarded test hr⟩, (ih _).2 ⟨rest, hr, rfl⟩,
        rfl, rfl⟩
  | objectives c => exact command_eq_ok_nil_of_plain (by simp) s
  | players c => exact command_eq_ok_nil_of_plain (by simp) s
  | function id => exact command_eq_ok_nil_of_plain (by simp) s
  | tellraw target message => exact command_eq_ok_nil_of_plain (by simp) s
  | foreign kind => exact command_eq_ok_nil_of_plain (by simp) s

theorem whole_eq_ok_iff {s : List Char} {c : Command} :
    whole s = .ok c ↔ ∃ ts, c.Written ts ∧ s = spaced ts := by
  rw [← command_eq_ok_nil_iff]
  unfold whole
  split
  · next h => simp [h]
  · next h => simp [h]
  · next c' rest hne h =>
    simp only [h, Except.ok.injEq, Prod.mk.injEq]
    split
    · simp only [reduceCtorEq, false_iff]
      rintro ⟨-, rfl⟩
      exact hne rfl
    · simp only [reduceCtorEq, false_iff]
      rintro ⟨-, rfl⟩
      exact hne rfl

end Parse

theorem parse_eq_ok_iff {text : String} {c : Command} :
    parse text = .ok c ↔
      ∃ ts, c.Written ts ∧ (chomp text.toList).dropWhile isBlank = spaced ts := by
  rw [← Parse.whole_eq_ok_iff, parse]
  cases Parse.whole ((chomp text.toList).dropWhile isBlank) with
  | error stop => exact ⟨nofun, nofun⟩
  | ok c' =>
    change Except.ok c' = Except.ok c ↔ Except.ok c' = Except.ok c
    rw [Except.ok.injEq, Except.ok.injEq]

end Scoreboard
