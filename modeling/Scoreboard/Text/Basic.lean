namespace Scoreboard.Text

def inRanges (ranges : List (Nat × Nat)) (n : Nat) : Bool :=
  ranges.any fun range => range.1 ≤ n && n ≤ range.2

/-- The code points of the blanks: the separators of Unicode together with the control characters
that end a line, a paragraph or a field. -/
def blankRanges : List (Nat × Nat) := [
  (0x9, 0xd), (0x1c, 0x20), (0x85, 0x85), (0xa0, 0xa0), (0x1680, 0x1680), (0x2000, 0x200a),
  (0x2028, 0x2029), (0x202f, 0x202f), (0x205f, 0x205f), (0x3000, 0x3000)]

def isBlank (c : Char) : Bool :=
  inRanges blankRanges c.toNat

def isLineEnd (c : Char) : Bool :=
  c == '\r' || c == '\n'

/-- A text without the characters at its end that satisfy `p`. -/
def dropTail (p : Char → Bool) (s : List Char) : List Char :=
  (s.reverse.dropWhile p).reverse

def trim (s : List Char) : List Char :=
  dropTail isBlank (s.dropWhile isBlank)

/-- A text without the carriage returns and line feeds at its end. -/
def chomp (s : List Char) : List Char :=
  dropTail isLineEnd s

def trimmed (s : String) : String :=
  String.ofList (trim s.toList)

theorem dropTail_append_of_all {p : Char → Bool} {s t : List Char} (h : ∀ c ∈ t, p c = true) :
    dropTail p (s ++ t) = dropTail p s := by
  have : ∀ c ∈ t.reverse, p c = true := by simpa using h
  simp [dropTail, List.dropWhile_append_of_pos this]

theorem dropTail_isPrefix (p : Char → Bool) (s : List Char) : dropTail p s <+: s := by
  have h : s.reverse.dropWhile p <:+ s.reverse := List.dropWhile_suffix p
  rw [← List.reverse_prefix] at h
  simpa [dropTail] using h

end Scoreboard.Text
