import Scoreboard.Proofs.Command.Sentences

namespace Scoreboard

open Text Reader

namespace Parse

def TestWritten (place : Target × String) (c : Condition) (us : List Token) : Prop :=
  match c with
  | .compare target name relation source name' => (target, name) = place ∧ IsName name' ∧
      ∃ whose, source.Written whose ∧ us = [plain relation.symbol, whose, plain name']
  | .inside target name interval => (target, name) = place ∧
      ∃ range, interval.Written range ∧ us = [plain "matches", range]

theorem written_iff_cell_and_test {c : Condition} {ts : List Token} :
    c.Written ts ↔ ∃ place us vs, CellWritten place us ∧ TestWritten place c vs ∧
      ts = us ++ vs := by
  constructor
  · intro h
    cases c with
    | compare target name relation source name' =>
      obtain ⟨hn, hn', who, whose, hw, hw', rfl⟩ := h
      exact ⟨(target, name), _, _, ⟨who, hw, hn, rfl⟩, ⟨rfl, hn', whose, hw', rfl⟩, rfl⟩
    | inside target name interval =>
      obtain ⟨hn, who, range, hw, hr, rfl⟩ := h
      exact ⟨(target, name), _, _, ⟨who, hw, hn, rfl⟩, ⟨rfl, range, hr, rfl⟩, rfl⟩
  · rintro ⟨place, us, vs, ⟨who, hw, hn, rfl⟩, htest, rfl⟩
    cases c with
    | compare target name relation source name' =>
      obtain ⟨rfl, hn', whose, hw', rfl⟩ := htest
      exact ⟨hn, hn', who, whose, hw, hw', rfl⟩
    | inside target name interval =>
      obtain ⟨rfl, range, hr, rfl⟩ := htest
      exact ⟨hn, who, range, hw, hr, rfl⟩

theorem tests_keys (place : Target × String) :
    (tests place).map Prod.fst = ["<", "<=", "=", ">", ">=", "matches"] :=
  rfl

theorem beginsWith_test (place : Target × String) :
    BeginsWith ["<", "<=", "=", ">", ">=", "matches"] (TestWritten place) := by
  intro c us h
  cases c with
  | compare target name relation source name' =>
    obtain ⟨-, -, whose, -, rfl⟩ := h
    exact ⟨relation.symbol, by cases relation <;> decide, _, rfl⟩
  | inside target name interval =>
    obtain ⟨-, range, -, rfl⟩ := h
    exact ⟨"matches", by decide, _, rfl⟩

theorem reads_compared (place : Target × String) (relation : Comparison) :
    Reads led AtGap (compared place relation) fun c us =>
      TestWritten place c (plain relation.symbol :: us) := by
  have hinj : ∀ r r' : Comparison, r.symbol = r'.symbol → r = r' := by
    rintro ⟨⟩ ⟨⟩ <;> decide
  have hmatches : ∀ r : Comparison, r.symbol ≠ "matches" := by
    rintro ⟨⟩ <;> decide
  refine (reads_cell.map fun right =>
    Condition.compare place.1 place.2 relation right.1 right.2).congr ?_
  rintro ⟨⟩ us <;> simp only [TestWritten, CellWritten, Prod.exists] <;> grind

theorem reads_inside (place : Target × String) :
    Reads led AtGap (inside place) fun c us => TestWritten place c (plain "matches" :: us) := by
  have hmatches : ∀ r : Comparison, r.symbol ≠ "matches" := by
    rintro ⟨⟩ <;> decide
  refine (readsToken_interval.last (fun _ => id) (fun _ _ h => (unbroken_of_interval h).atGap)
    (Condition.inside place.1 place.2)).congr ?_
  rintro ⟨⟩ us <;> simp only [TestWritten] <;> grind

theorem reads_tests (place : Target × String) :
    Reads spaced AtGap (symbol "a comparison" "comparison" (tests place) >>= fun test => test)
      (TestWritten place) := by
  have hsymbols : ∀ key ∈ ["<", "<=", "=", ">", ">=", "matches"], Unbroken (plain key) := by decide
  refine reads_choice (fun _ => id)
    (readsToken_symbol (tests_keys place ▸ by decide) (tests_keys place ▸ hsymbols))
    mem_of_choose_eq_ok ?_ (beginsWith_test place)
  intro test hm
  rcases List.mem_append.1 hm with hm | hm
  · obtain ⟨relation, -, rfl⟩ := List.mem_map.1 hm
    exact reads_compared place relation
  · cases List.mem_singleton.1 hm
    exact reads_inside place

theorem readsToken_fixed {label word : String} (hword : IsName word) :
    ReadsToken (keyword label [(word, ())]) fun _ t => t = plain word := by
  refine (readsToken_keyword (by simp) (by simpa using hword)).congr fun _ t => ?_
  simp

theorem reads_condition :
    Reads spaced AtGap condition fun c ts =>
      ∃ us, c.Written us ∧ ts = plain "if" :: plain "score" :: us := by
  have hscore : ∀ (u : Unit) (t : Token), t = plain "score" → atGap t = false := by
    rintro _ _ rfl
    decide
  refine ((readsToken_fixed (by decide)).bind (fun _ => id) fun _ =>
    (readsToken_fixed (by decide)).afterSpace (fun _ => id) hscore fun _ =>
    reads_cell.bind (fun _ => id) fun place =>
    (reads_tests place).afterSpace ((beginsWith_test place).head (by decide))).congr ?_
  intro c ts
  simp only [written_iff_cell_and_test]
  constructor
  · rintro ⟨_, _, _, rfl, ⟨_, _, _, rfl, ⟨place, us, vs, hcell, htest, rfl⟩, rfl⟩, rfl⟩
    exact ⟨_, ⟨place, us, vs, hcell, htest, rfl⟩, rfl⟩
  · rintro ⟨_, ⟨place, us, vs, hcell, htest, rfl⟩, rfl⟩
    exact ⟨(), _, _, rfl, ⟨(), _, _, rfl, ⟨place, us, vs, hcell, htest, rfl⟩, rfl⟩, rfl⟩

/-- A guard goes up to the space in front of the command that it guards. -/
theorem guard_eq_ok_iff {s rest : List Char} {c : Condition} :
    guard s = .ok (c, rest) ↔ ∃ test, c.Written test ∧ atGap rest = false ∧
      s = spaced (plain "if" :: plain "score" :: test) ++ led [plain "run"] ++ ' ' :: rest := by
  have hrun : ReadsToken (keyword "keyword" [("run", ())]) fun _ t => t = plain "run" :=
    readsToken_fixed (by decide)
  have hspace : ∀ s : List Char, AtGap (' ' :: s) := fun _ => rfl
  -- the last space belongs to the guard: it is read before anything is known about the command
  simp only [guard, bind_eq_ok_iff, space_eq_ok_iff, pure_apply, Except.ok.injEq, Prod.mk.injEq]
  constructor
  · rintro ⟨_, _, h₁, _, _, ⟨rfl, -⟩, _, _, h₂, _, _, ⟨rfl, hrest⟩, rfl, rfl⟩
    obtain ⟨_, rfl, rfl⟩ := (hrun (hspace _)).1 h₂
    obtain ⟨_, ⟨test, hw, rfl⟩, rfl⟩ := (reads_condition (hspace _)).1 h₁
    exact ⟨test, hw, hrest, by simp⟩
  · rintro ⟨test, hw, hrest, rfl⟩
    refine ⟨c, led [plain "run"] ++ ' ' :: rest,
      (reads_condition rfl).2 ⟨_, ⟨test, hw, rfl⟩, by simp⟩, (),
      plain "run" ++ ' ' :: rest, ⟨by simp, atGap_append (by decide) _⟩, (), ' ' :: rest,
      (hrun (hspace _)).2 ⟨_, rfl, rfl⟩, (), rest, ⟨rfl, hrest⟩, rfl, rfl⟩

end Parse

end Scoreboard
