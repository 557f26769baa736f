namespace Scoreboard

namespace Score

def least : Int := -2147483648

def greatest : Int := 2147483647

/-- The integer between `least` and `greatest` that differs from `n` by a multiple of 2^32. -/
def wrap (n : Int) : Int :=
  n.bmod 4294967296

def InRange (n : Int) : Prop :=
  least ≤ n ∧ n ≤ greatest

instance (n : Int) : Decidable (InRange n) :=
  inferInstanceAs (Decidable (_ ∧ _))

theorem wrap_inRange (n : Int) : InRange (wrap n) := by
  have hl := @Int.le_bmod n 4294967296 (by decide)
  have hu := @Int.bmod_lt n 4294967296 (by decide)
  constructor <;> simp only [wrap, least, greatest] <;> omega

theorem wrap_eq_self_of_inRange {n : Int} (h : InRange n) : wrap n = n := by
  obtain ⟨hl, hu⟩ := h
  simp only [least, greatest] at hl hu
  exact Int.bmod_eq_of_le (by omega) (by omega)

/-- Quotient rounded toward zero, and the remainder, which has the dividend's sign; nothing when
the divisor is zero. -/
def quotRem? (dividend divisor : Int) : Option (Int × Int) :=
  if divisor = 0 then none else some (dividend.tdiv divisor, dividend.tmod divisor)

end Score

inductive Operation
  | add | subtract | multiply | divide | remainder | assign | minimum | maximum | swap
  deriving Repr, DecidableEq

namespace Operation

def all : List Operation :=
  [add, subtract, multiply, divide, remainder, assign, minimum, maximum, swap]

def symbol : Operation → String
  | add => "+="
  | subtract => "-="
  | multiply => "*="
  | divide => "/="
  | remainder => "%="
  | assign => "="
  | minimum => "<"
  | maximum => ">"
  | swap => "><"

/-- The new scores of target and source, in this order; nothing when the operation divides and the
source's score is zero. -/
def apply (op : Operation) (target source : Int) : Option (Int × Int) :=
  match op with
  | add => some (Score.wrap (target + source), source)
  | subtract => some (Score.wrap (target - source), source)
  | multiply => some (Score.wrap (target * source), source)
  | divide => (Score.quotRem? target source).map fun qr => (Score.wrap qr.1, source)
  | remainder => (Score.quotRem? target source).map fun qr => (Score.wrap qr.2, source)
  | assign => some (source, source)
  | minimum => some (min target source, source)
  | maximum => some (max target source, source)
  | swap => some (source, target)

end Operation

inductive Comparison
  | less | lessEqual | equal | greater | greaterEqual
  deriving Repr, DecidableEq

namespace Comparison

def all : List Comparison :=
  [less, lessEqual, equal, greater, greaterEqual]

def symbol : Comparison → String
  | less => "<"
  | lessEqual => "<="
  | equal => "="
  | greater => ">"
  | greaterEqual => ">="

def holds (c : Comparison) (left right : Int) : Bool :=
  match c with
  | less => left < right
  | lessEqual => left ≤ right
  | equal => left = right
  | greater => left > right
  | greaterEqual => left ≥ right

end Comparison

/-- A range of scores with the bounds that it is written with, both included. -/
inductive Interval
  | exactly (score : Int)
  | between (minimum maximum : Int)
  | atMost (maximum : Int)
  | atLeast (minimum : Int)
  deriving Repr, DecidableEq

namespace Interval

def contains : Interval → Int → Bool
  | exactly score, n => n = score
  | between minimum maximum, n => minimum ≤ n && n ≤ maximum
  | atMost maximum, n => n ≤ maximum
  | atLeast minimum, n => minimum ≤ n

end Interval

end Scoreboard
