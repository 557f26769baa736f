import Scoreboard.Text.Word

namespace Scoreboard.Text

def points (ranges : List (Nat × Nat)) : List Nat :=
  ranges.flatMap fun range => List.range' range.1 (range.2 + 1 - range.1)

theorem mem_points_of_inRanges {ranges : List (Nat × Nat)} {n : Nat}
    (h : inRanges ranges n = true) : n ∈ points ranges := by
  simp only [inRanges, List.any_eq_true, Bool.and_eq_true, decide_eq_true_eq] at h
  obtain ⟨range, hm, hl, hu⟩ := h
  refine List.mem_flatMap.2 ⟨range, hm, ?_⟩
  rw [List.mem_range'_1]
  omega

theorem wordRanges_exclude_blanks :
    ∀ n ∈ points blankRanges, 0x80 ≤ n → inRanges wordRanges n = false := by
  decide +kernel

theorem ascii_blank_not_word :
    ∀ n ∈ points blankRanges, n < 0x80 →
      (Char.ofNat n).isAlphanum = false ∧ Char.ofNat n ≠ '_' := by
  decide +kernel

theorem isWord_of_isBlank {c : Char} (h : isBlank c = true) : isWord c = false := by
  have hm := mem_points_of_inRanges h
  unfold isWord
  split
  · next hc =>
    have hn := ascii_blank_not_word c.toNat hm hc
    rw [Char.ofNat_toNat] at hn
    simp [hn]
  · next hc => exact wordRanges_exclude_blanks c.toNat hm (by omega)

theorem isBlank_of_isWord {c : Char} (h : isWord c = true) : isBlank c = false := by
  cases hb : isBlank c with
  | false => rfl
  | true =>
    rw [isWord_of_isBlank hb] at h
    exact h.symm

theorem toNat_of_isDigit {c : Char} (h : isDigit c = true) : 48 ≤ c.toNat ∧ c.toNat ≤ 57 := by
  simpa [isDigit, Char.le_def, UInt32.le_iff_toNat_le] using h

theorem isWord_of_isDigit {c : Char} (h : isDigit c = true) : isWord c = true := by
  obtain ⟨hl, hu⟩ := toNat_of_isDigit h
  have hd : c.isDigit = true := by
    simpa [Char.isDigit, UInt32.le_iff_toNat_le] using And.intro hl hu
  have hc : c.toNat < 0x80 := by omega
  simp [isWord, hc, Char.isAlphanum, hd]

theorem isBlank_of_isDigit {c : Char} (h : isDigit c = true) : isBlank c = false :=
  isBlank_of_isWord (isWord_of_isDigit h)

theorem isDigit_of_isBlank {c : Char} (h : isBlank c = true) : isDigit c = false := by
  cases hd : isDigit c with
  | false => rfl
  | true =>
    rw [isBlank_of_isDigit hd] at h
    exact h.symm

theorem isBlank_of_isLineEnd {c : Char} (h : isLineEnd c = true) : isBlank c = true := by
  simp only [isLineEnd, Bool.or_eq_true, beq_iff_eq] at h
  rcases h with rfl | rfl <;> decide

end Scoreboard.Text
