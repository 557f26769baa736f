namespace Scoreboard

inductive Fragment
  | literal (c : Char)
  /-- Stands for a variable's value, or for `unset` if the variable is not set. -/
  | reference (name unset : String)
  deriving Repr, DecidableEq

namespace Fragment

def upToBrace? (s : List Char) : Option (List Char × List Char) :=
  match s.dropWhile (· != '\x7d') with
  | [] => none
  | _ :: rest => some (s.takeWhile (· != '\x7d'), rest)

/-- The reference that a text begins with, less its dollar sign and opening brace; and what follows
it. -/
def reference? (s : List Char) : Option (Fragment × List Char) :=
  let within (c : Char) : Bool := c != '\x7d' && c != ':'
  let name := String.ofList (s.takeWhile within)
  match s.dropWhile within with
  | ':' :: '-' :: s => (upToBrace? s).map fun (text, rest) =>
      (reference name (String.ofList text), rest)
  | '\x7d' :: rest => some (reference name "", rest)
  | _ => none

theorem length_lt_of_reference? {s rest : List Char} {fragment : Fragment}
    (h : reference? s = some (fragment, rest)) : rest.length < s.length := by
  have hs := (List.dropWhile_suffix (l := s) fun c => c != '\x7d' && c != ':').length_le
  simp only [reference?] at h
  split at h
  · rename_i t ht
    have hb := (List.dropWhile_suffix (l := t) (· != '\x7d')).length_le
    obtain ⟨⟨text, u⟩, hu, he⟩ := Option.map_eq_some_iff.1 h
    obtain ⟨-, rfl⟩ : _ ∧ _ := by simpa using he
    unfold upToBrace? at hu
    split at hu
    · simp at hu
    · rename_i hd
      obtain ⟨-, rfl⟩ : _ ∧ _ := by simpa using hu
      simp only [ht, hd, List.length_cons] at hs hb
      omega
  · rename_i u hu
    obtain ⟨-, rfl⟩ : _ ∧ _ := by simpa using h
    simp only [hu, List.length_cons] at hs
    omega
  · simp at h

def ofText (s : List Char) : List Fragment :=
  match s with
  | [] => []
  | '$' :: '\x7b' :: t =>
    match h : reference? t with
    | some (fragment, rest) =>
      have := length_lt_of_reference? h
      fragment :: ofText rest
    | none => literal '$' :: ofText ('\x7b' :: t)
  | c :: t => literal c :: ofText t
termination_by s.length
decreasing_by
  all_goals
    simp only [List.length_cons]
    omega

def text (value : String → Option String) : Fragment → String
  | literal c => String.singleton c
  | reference name unset => (value name).getD unset

def name? : Fragment → Option String
  | literal _ => none
  | reference name _ => some name

def expand (value : String → Option String) (s : String) : String :=
  String.join ((ofText s.toList).map (text value))

def names (s : String) : List String :=
  (ofText s.toList).filterMap name?

end Fragment

end Scoreboard
