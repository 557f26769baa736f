import Scoreboard.Proofs.Command.Tokens

namespace Scoreboard

open Text Reader

namespace Text

theorem digitsValue_eq_ofDigitChars (s : List Char) : digitsValue s = Nat.ofDigitChars 10 s 0 :=
  rfl

theorem digitsValue_zero_cons (s : List Char) : digitsValue ('0' :: s) = digitsValue s := by
  simp [digitsValue_eq_ofDigitChars, Nat.ofDigitChars_cons]

theorem digitsValue_dropWhile_zero (s : List Char) :
    digitsValue (s.dropWhile (· == '0')) = digitsValue s := by
  induction s with
  | nil => rfl
  | cons c s ih =>
    by_cases hc : c = '0'
    · subst hc
      rw [digitsValue_zero_cons, ← ih]
      rfl
    · simp [hc]

theorem one_le_of_isDigit {c : Char} (h : isDigit c = true) (h0 : c ≠ '0') : 1 ≤ c.toNat - 48 := by
  have hl := (toNat_of_isDigit h).1
  have hne : c.toNat ≠ 48 := fun he => h0 (Char.toNat_inj.1 he)
  omega

theorem isDigit_value_lt {c : Char} (h : isDigit c = true) : c.toNat - 48 < 10 := by
  have hu := (toNat_of_isDigit h).2
  omega

theorem digitChar_of_isDigit {c : Char} (h : isDigit c = true) :
    Nat.digitChar (c.toNat - 48) = c := by
  have hl := (toNat_of_isDigit h).1
  apply Char.toNat_inj.1
  rw [Nat.toNat_digitChar_of_lt_ten (isDigit_value_lt h)]
  omega

theorem toDigits_append {acc : Nat} (hacc : 0 < acc) {s : List Char}
    (hs : ∀ c ∈ s, isDigit c = true) :
    Nat.toDigits 10 acc ++ s = Nat.toDigits 10 (Nat.ofDigitChars 10 s acc) := by
  induction s generalizing acc with
  | nil => simp
  | cons c s ih =>
    rw [List.forall_mem_cons] at hs
    have hlt := isDigit_value_lt hs.1
    calc Nat.toDigits 10 acc ++ c :: s
        = (Nat.toDigits 10 acc ++ [Nat.digitChar (c.toNat - 48)]) ++ s := by
          rw [digitChar_of_isDigit hs.1, List.append_assoc, List.singleton_append]
      _ = Nat.toDigits 10 (10 * acc + (c.toNat - 48)) ++ s := by
          rw [← Nat.toDigits_of_lt_base hlt, Nat.toDigits_append_toDigits (by omega) hacc hlt]
      _ = Nat.toDigits 10 (Nat.ofDigitChars 10 (c :: s) acc) := by
          rw [ih (by omega) hs.2, Nat.ofDigitChars_cons]
          rfl

/-- The digits of a number behind the zeros in front of them, none for zero. -/
def significant (n : Nat) : List Char :=
  if n = 0 then [] else Nat.toDigits 10 n

theorem dropWhile_zero_eq_significant {digits : List Char}
    (hd : ∀ c ∈ digits, isDigit c = true) :
    digits.dropWhile (· == '0') = significant (digitsValue digits) := by
  rw [← digitsValue_dropWhile_zero]
  have hhead := Reader.head_dropWhile (p := (· == '0')) digits
  have hsub := List.dropWhile_suffix (l := digits) (· == '0')
  generalize digits.dropWhile (· == '0') = rest at hhead hsub ⊢
  cases rest with
  | nil => rfl
  | cons c s =>
    -- the first digit that is left is not zero, so the others continue a positive number's numeral
    have h0 : c ≠ '0' := by simpa using hhead c rfl
    have hdc := hd c (hsub.subset List.mem_cons_self)
    have hds : ∀ x ∈ s, isDigit x = true :=
      fun x hx => hd x (hsub.subset (List.mem_cons_of_mem c hx))
    have hpos := one_le_of_isDigit hdc h0
    have hv : digitsValue (c :: s) = Nat.ofDigitChars 10 s (c.toNat - 48) := by
      rw [digitsValue_eq_ofDigitChars, Nat.ofDigitChars_cons, Nat.mul_zero, Nat.zero_add]
      rfl
    have happ : c :: s = Nat.toDigits 10 (digitsValue (c :: s)) := by
      rw [hv, ← toDigits_append hpos hds, Nat.toDigits_of_lt_base (isDigit_value_lt hdc),
        digitChar_of_isDigit hdc, List.singleton_append]
    have hne : digitsValue (c :: s) ≠ 0 := by
      intro hzero
      rw [hzero, Nat.toDigits_zero, List.cons.injEq] at happ
      exact h0 happ.1
    rw [significant, if_neg hne]
    exact happ

end Text

namespace Reader

/-- Only small values have few digits after the leading zeros. -/
theorem length_significant_le {digits : List Char} (hd : ∀ c ∈ digits, isDigit c = true)
    (hv : digitsValue digits ≤ 2147483648) :
    (digits.dropWhile (· == '0')).length ≤ maxSignificantDigits := by
  rw [dropWhile_zero_eq_significant hd, significant, maxSignificantDigits]
  split
  · exact Nat.zero_le _
  · exact (Nat.length_toDigits_le_iff (by omega) (by omega)).2 (by omega)

def signedValue (negative : Bool) (digits : List Char) : Int :=
  if negative then -(digitsValue digits : Int) else digitsValue digits

theorem numeral_eq (minimum : Int) (literal : List Char) (negative : Bool)
    (digits start : List Char) :
    numeral minimum literal negative digits start =
      if (digits.dropWhile (· == '0')).length > maxSignificantDigits then
        .error (.failed (.integerOutOfRange (String.ofList literal) minimum Score.greatest) start)
      else if digits.length > maxDigits then .error .numeralTooLong
      else if minimum ≤ signedValue negative digits ∧
          signedValue negative digits ≤ Score.greatest then
        .ok (signedValue negative digits)
      else
        .error
          (.failed (.integerOutOfRange (String.ofList literal) minimum Score.greatest) start) :=
  rfl

theorem natAbs_signedValue (negative : Bool) (digits : List Char) :
    (signedValue negative digits).natAbs = digitsValue digits := by
  cases negative <;> simp [signedValue]

theorem numeral_eq_ok_iff {minimum n : Int} {literal digits start : List Char} {negative : Bool}
    (hmin : Score.least ≤ minimum) (hd : ∀ c ∈ digits, isDigit c = true) :
    numeral minimum literal negative digits start = .ok n ↔
      digits.length ≤ maxDigits ∧ n = signedValue negative digits ∧ minimum ≤ n ∧
        n ≤ Score.greatest := by
  rw [numeral_eq]
  constructor
  · intro h
    split at h
    · cases h
    · split at h
      · cases h
      · split at h
        · next hlen hr =>
          cases h
          exact ⟨by omega, rfl, hr⟩
        · cases h
  · rintro ⟨hlen, rfl, hl, hu⟩
    have hv : digitsValue digits ≤ 2147483648 := by
      rw [← natAbs_signedValue negative]
      simp only [Score.least, Score.greatest] at hmin hu
      omega
    have hsig := length_significant_le hd hv
    rw [if_neg (by omega), if_neg (by omega), if_pos ⟨hl, hu⟩]

theorem span_digits {digits rest : List Char} (hd : ∀ c ∈ digits, isDigit c = true)
    (hr : ∀ c ∈ rest.head?, isDigit c = false) :
    (digits ++ rest).takeWhile isDigit = digits ∧ (digits ++ rest).dropWhile isDigit = rest :=
  ⟨takeWhile_append_of_head hd hr, dropWhile_append_of_head hd hr⟩

theorem naturalInteger_eq_ok_iff {s rest : List Char} {n : Int}
    (hr : ∀ c ∈ rest.head?, isDigit c = false) :
    naturalInteger s = .ok (n, rest) ↔ ∃ t, IsUnsigned n t ∧ s = t ++ rest := by
  constructor
  · intro h
    simp only [naturalInteger] at h
    split at h
    · cases h
    · next digits hne =>
      split at h
      · next value hv =>
        cases h
        have hd : ∀ c ∈ s.takeWhile isDigit, isDigit c = true :=
          List.all_eq_true.1 List.all_takeWhile
        obtain ⟨hlen, hn, hl, hu⟩ := (numeral_eq_ok_iff (by decide) hd).1 hv
        refine ⟨s.takeWhile isDigit, ⟨⟨hl, hu⟩, hne, hd, hlen, ?_⟩,
          (List.takeWhile_append_dropWhile ..).symm⟩
        simp [hn, signedValue]
      · cases h
  · rintro ⟨t, ⟨⟨hl, hu⟩, hne, hd, hlen, hv⟩, rfl⟩
    obtain ⟨htake, hdrop⟩ := span_digits hd hr
    have hnum : numeral 0 t false t (t ++ rest) = .ok n := by
      refine (numeral_eq_ok_iff (by decide) hd).2 ⟨hlen, ?_, hl, hu⟩
      simp only [signedValue, hv, Bool.false_eq_true, if_false]
      omega
    obtain ⟨c, digits, rfl⟩ := List.exists_cons_of_ne_nil hne
    simp only [naturalInteger, htake, hdrop, hnum]

def withSign (negative : Bool) (digits : List Char) : List Char :=
  if negative then '-' :: digits else digits

theorem withSign_splitSign (s : List Char) : withSign (splitSign s).1 (splitSign s).2 = s := by
  unfold splitSign
  split <;> rfl

theorem splitSign_withSign (negative : Bool) {digits : List Char} (rest : List Char)
    (hne : digits ≠ []) (hd : ∀ c ∈ digits, isDigit c = true) :
    splitSign (withSign negative digits ++ rest) = (negative, digits ++ rest) := by
  cases negative with
  | true => rfl
  | false =>
    obtain ⟨c, tail, rfl⟩ := List.exists_cons_of_ne_nil hne
    have hc : c ≠ '-' := by
      rintro rfl
      exact absurd (hd '-' List.mem_cons_self) (by decide)
    simp only [withSign, Bool.false_eq_true, if_false, List.cons_append]
    unfold splitSign
    split
    · next heq => exact absurd (List.cons.inj heq).1 hc
    · rfl

theorem isSigned_iff {n : Int} {t : Token} :
    IsSigned n t ↔ ∃ negative digits, t = withSign negative digits ∧ digits ≠ [] ∧
      (∀ c ∈ digits, isDigit c = true) ∧ digits.length ≤ maxDigits ∧
      n = signedValue negative digits ∧ Score.least ≤ n ∧ n ≤ Score.greatest := by
  constructor
  · rintro ⟨hr, digits, ⟨hne, hd, hlen, hv⟩, ⟨hn, rfl⟩ | ⟨hn, rfl⟩⟩
    · refine ⟨false, t, rfl, hne, hd, hlen, ?_, hr⟩
      simp only [signedValue, hv, Bool.false_eq_true, if_false]
      omega
    · refine ⟨true, digits, rfl, hne, hd, hlen, ?_, hr⟩
      simp only [signedValue, hv, if_true]
      omega
  · rintro ⟨negative, digits, rfl, hne, hd, hlen, rfl, hr⟩
    refine ⟨hr, digits, ⟨hne, hd, hlen, (natAbs_signedValue _ _).symm⟩, ?_⟩
    cases negative with
    | false => exact .inl ⟨Int.natCast_nonneg _, rfl⟩
    | true => exact .inr ⟨by simp [signedValue], rfl⟩

theorem signedInteger_eq_ok_iff {s rest : List Char} {n : Int}
    (hr : ∀ c ∈ rest.head?, isDigit c = false) :
    signedInteger s = .ok (n, rest) ↔ ∃ t, IsSigned n t ∧ s = t ++ rest := by
  constructor
  · intro h
    simp only [signedInteger] at h
    split at h
    · cases h
    · next digits hne =>
      split at h
      · next value hv =>
        cases h
        have hd : ∀ c ∈ (splitSign s).2.takeWhile isDigit, isDigit c = true :=
          List.all_eq_true.1 List.all_takeWhile
        obtain ⟨hlen, hn, hb⟩ := (numeral_eq_ok_iff (Int.le_refl _) hd).1 hv
        refine ⟨withSign (splitSign s).1 ((splitSign s).2.takeWhile isDigit),
          isSigned_iff.2 ⟨_, _, rfl, hne, hd, hlen, hn, hb⟩, ?_⟩
        have happ : ∀ negative (a b : List Char),
            withSign negative a ++ b = withSign negative (a ++ b) := by
          intro negative a b
          cases negative <;> rfl
        rw [happ, List.takeWhile_append_dropWhile, withSign_splitSign]
      · cases h
  · rintro ⟨t, ht, rfl⟩
    obtain ⟨negative, digits, rfl, hne, hd, hlen, hn, hb⟩ := isSigned_iff.1 ht
    have hnum : numeral Score.least (if negative then '-' :: digits else digits) negative digits
        (withSign negative digits ++ rest) = .ok n :=
      (numeral_eq_ok_iff (Int.le_refl _) hd).2 ⟨hlen, hn, hb⟩
    have hsplit := splitSign_withSign negative rest hne hd
    obtain ⟨htake, hdrop⟩ := span_digits hd hr
    obtain ⟨c, tail, rfl⟩ := List.exists_cons_of_ne_nil hne
    simp only [signedInteger, hsplit, htake, hdrop, hnum]

theorem head_of_isSigned {n : Int} {t : Token} (h : IsSigned n t) :
    ∃ c tail, t = c :: tail ∧ (c = '-' ∨ isDigit c = true) := by
  obtain ⟨negative, digits, rfl, hne, hd, -⟩ := isSigned_iff.1 h
  cases negative with
  | true => exact ⟨'-', digits, rfl, .inl rfl⟩
  | false =>
    obtain ⟨c, tail, rfl⟩ := List.exists_cons_of_ne_nil hne
    exact ⟨c, tail, rfl, .inr (hd c List.mem_cons_self)⟩

end Reader

end Scoreboard
