namespace Scoreboard.Text

/-- Numerals of more digits are neither read nor written. -/
def maxDigits : Nat := 4300

def Writable (n : Int) : Prop :=
  (Nat.toDigits 10 n.natAbs).length ≤ maxDigits

instance : DecidablePred Writable :=
  fun _ => inferInstanceAs (Decidable (_ ≤ _))

/-- The numeral of an integer, if it is not too long. -/
def numeral? (n : Int) : Option String :=
  if Writable n then some (toString n) else none

@[simp] theorem numeral?_of_writable {n : Int} (h : Writable n) : numeral? n = some (toString n) :=
  if_pos h

theorem numeral?_eq_none_iff {n : Int} : numeral? n = none ↔ ¬ Writable n := by
  simp [numeral?]

end Scoreboard.Text
