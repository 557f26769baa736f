import Mathlib.Data.Int.ModEq
import Mathlib.Data.Rat.Floor
import Scoreboard.Game.Execute
import Scoreboard.Proofs.Game.Effects

namespace Scoreboard

namespace Score

/-- The score that stands for `n`: congruent modulo 2^32 and in range. -/
def Reduces (n r : Int) : Prop :=
  InRange r ∧ r ≡ n [ZMOD 2 ^ 32]

def towardZero (x : ℚ) : Int :=
  if 0 ≤ x then ⌊x⌋ else ⌈x⌉

def word (n : Int) : BitVec 32 :=
  BitVec.ofInt 32 n

theorem reduces_iff {n r : Int} : Reduces n r ↔ wrap n = r := by
  rw [Reduces, Int.modEq_comm, Int.modEq_iff_dvd, wrap, Int.bmod_eq_iff (by decide), InRange, least,
    greatest]
  omega

theorem towardZero_neg (x : ℚ) : towardZero (-x) = -towardZero x := by
  unfold towardZero
  rcases lt_trichotomy x 0 with h | rfl | h
  · rw [if_pos (by linarith), if_neg (by linarith), Int.floor_neg]
  · simp
  · rw [if_neg (by linarith), if_pos h.le, Int.ceil_neg]

theorem towardZero_natCast_div_natCast (t s : ℕ) : towardZero (t / s) = (t : Int).tdiv s := by
  rw [towardZero, if_pos (by positivity), Rat.floor_natCast_div_natCast, ← Int.natCast_div,
    Int.ofNat_tdiv]

/-- The quotient rounded toward zero: both sides change their sign with either number. -/
theorem towardZero_div (t s : Int) : towardZero (t / s) = t.tdiv s := by
  obtain ⟨m, rfl | rfl⟩ := t.eq_nat_or_neg <;> obtain ⟨n, rfl | rfl⟩ := s.eq_nat_or_neg <;>
    simp only [Int.cast_neg, Int.cast_natCast, neg_div, div_neg, towardZero_neg,
      towardZero_natCast_div_natCast, Int.neg_tdiv, Int.tdiv_neg]

theorem toInt_word {n : Int} (h : InRange n) : (word n).toInt = n := by
  rw [word, BitVec.toInt_ofInt]
  exact wrap_eq_self_of_inRange h

theorem toInt_inRange (w : BitVec 32) : InRange w.toInt := by
  have hl := w.le_toInt
  have hu := w.toInt_lt
  simp only [InRange, least, greatest]
  omega

/-- A remainder is nearer to zero than the divisor, and on the dividend's side of it. -/
theorem tmod_spec {s : Int} (hs : s ≠ 0) (t : Int) :
    |t.tmod s| < |s| ∧ (t.tmod s = 0 ∨ (t.tmod s).sign = t.sign) := by
  constructor
  · rw [Int.abs_eq_natAbs, Int.abs_eq_natAbs, Int.natAbs_tmod]
    exact_mod_cast Nat.mod_lt _ (Int.natAbs_pos.2 hs)
  · by_cases hd : s ∣ t
    · exact .inl (Int.tmod_eq_zero_of_dvd hd)
    · rw [Int.sign_tmod, if_neg hd]
      exact .inr rfl

end Score

namespace Operation

open Score

/-- The operations that have no result where the source's score is zero. -/
def Divides (op : Operation) : Prop :=
  op = divide ∨ op = remainder

instance (op : Operation) : Decidable op.Divides :=
  inferInstanceAs (Decidable (_ ∨ _))

/-- `r` is what the operation makes of a target's score `t` and a source's score `s`. -/
def Gives (op : Operation) (t s r : Int) : Prop :=
  match op with
  | add => Reduces (t + s) r
  | subtract => Reduces (t - s) r
  | multiply => Reduces (t * s) r
  | divide => Reduces (towardZero (t / s)) r
  | remainder => ∃ m, m = t - s * towardZero (t / s) ∧ |m| < |s| ∧ (m = 0 ∨ m.sign = t.sign) ∧
      Reduces m r
  | assign => r = s
  | minimum => r = min t s
  | maximum => r = max t s
  | swap => r = s

/-- The arithmetic of words of 32 bits, for the operations that are arithmetic. -/
def onWords : Operation → BitVec 32 → BitVec 32 → Option (BitVec 32)
  | add, x, y => some (x + y)
  | subtract, x, y => some (x - y)
  | multiply, x, y => some (x * y)
  | divide, x, y => some (x.sdiv y)
  | remainder, x, y => some (x.srem y)
  | assign, _, _ | minimum, _, _ | maximum, _, _ | swap, _, _ => none

variable {op : Operation} {t s t' s' : Int}

theorem apply_eq_none_iff : op.apply t s = none ↔ op.Divides ∧ s = 0 := by
  cases op <;> simp [apply, quotRem?, Divides]

theorem divide_apply_eq_some_iff :
    divide.apply t s = some (t', s') ↔ s ≠ 0 ∧ t' = wrap (t.tdiv s) ∧ s' = s := by
  rw [apply, quotRem?]
  split
  · next hs => simp [hs]
  · next hs => simp [hs, eq_comm]

theorem remainder_apply_eq_some_iff :
    remainder.apply t s = some (t', s') ↔ s ≠ 0 ∧ t' = wrap (t.tmod s) ∧ s' = s := by
  rw [apply, quotRem?]
  split
  · next hs => simp [hs]
  · next hs => simp [hs, eq_comm]

theorem newSource_of_apply (h : op.apply t s = some (t', s')) :
    s' = if op = swap then t else s := by
  cases op with
  | divide => exact (divide_apply_eq_some_iff.1 h).2.2
  | remainder => exact (remainder_apply_eq_some_iff.1 h).2.2
  | add | subtract | multiply | assign | minimum | maximum | swap =>
    cases h
    rfl

theorem gives_iff_of_apply (h : op.apply t s = some (t', s')) (r : Int) :
    op.Gives t s r ↔ r = t' := by
  cases op with
  | add | subtract | multiply =>
    cases h
    rw [Gives, reduces_iff, eq_comm]
  | divide =>
    obtain ⟨-, rfl, -⟩ := divide_apply_eq_some_iff.1 h
    rw [Gives, towardZero_div, reduces_iff, eq_comm]
  | remainder =>
    obtain ⟨hs, rfl, -⟩ := remainder_apply_eq_some_iff.1 h
    obtain ⟨hlt, hsign⟩ := tmod_spec hs t
    rw [Gives, towardZero_div, ← Int.tmod_def, exists_eq_left, and_iff_right hlt,
      and_iff_right hsign, reduces_iff, eq_comm]
  | assign | minimum | maximum | swap =>
    cases h
    rfl

/-- On scores in range the arithmetic is that of machine words. -/
theorem toInt_of_onWords (h : op.apply t s = some (t', s')) (ht : InRange t) (hs : InRange s)
    {w : BitVec 32} (hw : op.onWords (word t) (word s) = some w) : w.toInt = t' := by
  cases op with
  | add | subtract | multiply =>
    cases h
    cases hw
    simp only [BitVec.toInt_add, BitVec.toInt_sub, BitVec.toInt_mul, toInt_word ht, toInt_word hs]
    rfl
  | divide =>
    obtain ⟨-, rfl, -⟩ := divide_apply_eq_some_iff.1 h
    cases hw
    rw [BitVec.toInt_sdiv, toInt_word ht, toInt_word hs]
    rfl
  | remainder =>
    obtain ⟨-, rfl, -⟩ := remainder_apply_eq_some_iff.1 h
    cases hw
    -- the remainder of words is not wrapped, but it is a word
    have hrem : ((word t).srem (word s)).toInt = t.tmod s := by
      rw [BitVec.toInt_srem, toInt_word ht, toInt_word hs]
    rw [← hrem, wrap_eq_self_of_inRange (toInt_inRange _)]
  | assign | minimum | maximum | swap => cases hw

end Operation

namespace State

variable {s : State} {a b taker giver : String} {o o' : Objective} {op : Operation}

/-- Both scores are stored; where they are one, it is the target's that stays. -/
theorem score?_store (ha : s.objectives.get? a = some o) (hb : s.objectives.get? b = some o')
    (newTarget newSource : Int) (objective player : String) :
    ((s.setScore b giver newSource).setScore a taker newTarget).score? objective player =
      if objective = a ∧ player = taker then some newTarget
      else if objective = b ∧ player = giver then some newSource
      else s.score? objective player := by
  have hmid := get?_setScore hb giver newSource a
  split at hmid
  · rw [score?_setScore hmid, score?_setScore hb]
  · rw [score?_setScore (hmid.trans ha), score?_setScore hb]

/-- Between players, and with both objectives there, only a zero divisor stops an operation. -/
theorem operate_of_players (ha : s.objectives.get? a = some o)
    (hb : s.objectives.get? b = some o') :
    s.operate (.player taker) a op (.player giver) b =
      match op.apply ((s.score? a taker).getD 0) ((s.score? b giver).getD 0) with
      | none => s.divisionByZero
      | some new => s.exchange taker o a giver b new := by
  rw [operate, cells_eq_ok_iff.2 ⟨rfl, rfl, ha, hb⟩, score?_of_get? ha, score?_of_get? hb]
  rfl

theorem state_exchange (s : State) (o : Objective) (new : Int × Int) :
    (s.exchange taker o a giver b new).state =
      (s.setScore b giver new.2).setScore a taker new.1 :=
  Outcome.state_reports _ _ _

/-- The scores are stored also where the report of them cannot be written. -/
theorem fault_exchange (s : State) (o : Objective) (new : Int × Int) :
    (s.exchange taker o a giver b new).fault =
      if Text.Writable new.1 then none else some (.unwritable .info) := by
  rw [exchange, inform, Outcome.fault_reports]
  by_cases h : Text.Writable new.1
  · simp [h]
  · simp [h, Text.numeral?_eq_none_iff.2 h]

end State

/-- An operation between two scores gives exactly its arithmetic, for any integers; a player without
a score counts as having zero. It ends in no fault, unless the new score has too many digits to be
told. -/
theorem operation_computes (rules : Rules) (s : State) (op : Operation) (taker a giver b : String)
    (ha : s.objectives.contains a = true) (hb : s.objectives.contains b = true) :
    let t := (s.score? a taker).getD 0
    let u := (s.score? b giver).getD 0
    let o := (Command.players (.operation (.player taker) a op (.player giver) b)).run rules s
    (op.Divides ∧ u = 0 → o.state = s ∧ o.fault = none) ∧
    (¬ (op.Divides ∧ u = 0) →
      ∃ r, (∀ r', op.Gives t u r' ↔ r' = r) ∧
        o.state.score? a taker = some r ∧
        ((b, giver) ≠ (a, taker) →
          o.state.score? b giver = some (if op = .swap then t else u)) ∧
        (∀ objective player, (objective, player) ≠ (a, taker) → (objective, player) ≠ (b, giver) →
          o.state.score? objective player = s.score? objective player) ∧
        (Score.InRange t → Score.InRange u → ∀ w,
          op.onWords (Score.word t) (Score.word u) = some w → w.toInt = r) ∧
        o.fault = if Text.Writable r then none else some (.unwritable .info)) := by
  intro t u o
  obtain ⟨oa, hoa⟩ := Option.isSome_iff_exists.1 ha
  obtain ⟨ob, hob⟩ := Option.isSome_iff_exists.1 hb
  have ho : o = (s.operate (.player taker) a op (.player giver) b).preceded _ := rfl
  rw [State.operate_of_players hoa hob] at ho
  cases happly : op.apply t u with
  | none =>
    have hzero := Operation.apply_eq_none_iff.1 happly
    rw [happly] at ho
    rw [ho]
    exact ⟨fun _ => ⟨rfl, rfl⟩, fun h => absurd hzero h⟩
  | some new =>
    obtain ⟨r, v⟩ := new
    rw [happly] at ho
    have hstate : o.state = (s.setScore b giver v).setScore a taker r := by
      rw [ho]
      exact s.state_exchange oa (r, v)
    refine ⟨fun h => ?_, fun _ => ⟨r, Operation.gives_iff_of_apply happly, ?_,
      fun hne => ?_, fun objective player hta hsa => ?_,
      fun ht hu w => Operation.toInt_of_onWords happly ht hu, ?_⟩⟩
    · rw [Operation.apply_eq_none_iff.2 h] at happly
      cases happly
    · rw [hstate, State.score?_store hoa hob, if_pos ⟨rfl, rfl⟩]
    · rw [hstate, State.score?_store hoa hob, if_neg fun h => hne (Prod.ext h.1 h.2),
        if_pos ⟨rfl, rfl⟩, Operation.newSource_of_apply happly]
    · rw [hstate, State.score?_store hoa hob, if_neg fun h => hta (Prod.ext h.1 h.2),
        if_neg fun h => hsa (Prod.ext h.1 h.2)]
    · rw [ho]
      exact s.fault_exchange oa (r, v)

/-- Two scores of one objective, the first the least score there is. -/
def leastAndMinusOne : State :=
  { State.empty with
    objectives := ⟨[("o", ⟨"o", .integer, .dummy, ⟨[("x", Score.least), ("y", -1)]⟩⟩)]⟩ }

/-- The one quotient of scores that is out of range. -/
theorem operation_computes_leastAndMinusOne :
    let o :=
      (Command.players (.operation (.player "x") "o" .divide (.player "y") "o")).run ⟨none, 1⟩
      leastAndMinusOne
    o.fault = none ∧ o.state.score? "o" "x" = some Score.least ∧
      o.state.score? "o" "y" = some (-1) := by
  obtain ⟨-, hrest⟩ := operation_computes ⟨none, 1⟩ leastAndMinusOne .divide "x" "o" "y" "o"
    (by decide) (by decide)
  obtain ⟨r, -, htarget, hsource, -, hwords, hfault⟩ := hrest (by decide)
  have hr : Score.least = r := hwords (by decide) (by decide) _ rfl
  have hwritable : Text.Writable r := hr ▸ Score.InRange.writable (by decide)
  exact ⟨hfault.trans (if_pos hwritable), hr ▸ htarget, hsource (by decide)⟩

end Scoreboard
