import Scoreboard.Command.SyntaxError
import Scoreboard.Text.Numeral
import Scoreboard.Text.Word

namespace Scoreboard

open Text

/-- Why reading stops, and the text that is left where it does. -/
inductive Stop
  | failed (cause : Cause) (rest : List Char)
  | numeralTooLong
  deriving Repr, DecidableEq

def Reader (α : Type) : Type :=
  List Char → Except Stop (α × List Char)

namespace Reader

variable {α β : Type}

instance : Monad Reader where
  pure a := fun s => .ok (a, s)
  bind p f := fun s =>
    match p s with
    | .ok (a, rest) => f a rest
    | .error stop => .error stop

@[simp] theorem pure_apply (a : α) (s : List Char) : (pure a : Reader α) s = .ok (a, s) := rfl

theorem bind_apply (p : Reader α) (f : α → Reader β) (s : List Char) :
    (p >>= f) s = match p s with
      | .ok (a, rest) => f a rest
      | .error stop => .error stop := rfl

theorem bind_of_ok {p : Reader α} {s rest : List Char} {a : α} (h : p s = .ok (a, rest))
    (f : α → Reader β) : (p >>= f) s = f a rest := by
  rw [bind_apply, h]

theorem bind_of_error {p : Reader α} {s : List Char} {stop : Stop} (h : p s = .error stop)
    (f : α → Reader β) : (p >>= f) s = .error stop := by
  rw [bind_apply, h]

theorem bind_eq_ok {p : Reader α} {f : α → Reader β} {s rest : List Char} {b : β}
    (h : (p >>= f) s = .ok (b, rest)) :
    ∃ a mid, p s = .ok (a, mid) ∧ f a mid = .ok (b, rest) := by
  rw [bind_apply] at h
  split at h
  · exact ⟨_, _, by assumption, h⟩
  · cases h

def blanksAt (s : List Char) : Stop :=
  match (s.dropWhile isBlank).takeWhile fun c => !isBlank c with
  | [] => .failed .trailingWhitespace s
  | token => .failed (.extraWhitespace (String.ofList token)) s

def unexpected (expected : String) (s : List Char) : Stop :=
  match s with
  | [] => .failed (.unexpectedEnd expected) s
  | c :: _ => if isBlank c then blanksAt s else .failed (.unexpectedSymbol expected c) s

/-- One space with a character after it that is not blank. -/
def space : Reader Unit := fun s =>
  match s with
  | ' ' :: rest =>
    match rest with
    | [] => .error (.failed .trailingWhitespace s)
    | c :: _ => if isBlank c then .error (blanksAt rest) else .ok ((), rest)
  | _ => .error (unexpected "a space" s)

/-- The characters up to the first that does not satisfy `p`, at least one. -/
def run (p : Char → Bool) (expected : String) : Reader String := fun s =>
  match s.takeWhile p with
  | [] => .error (unexpected expected s)
  | taken => .ok (String.ofList taken, s.dropWhile p)

def word (expected : String) : Reader String :=
  run isWord expected

def token (expected : String) : Reader String :=
  run (fun c => !isBlank c) expected

def quotedString : Reader String := fun s =>
  match s with
  | '"' :: rest =>
    match rest.dropWhile (· != '"') with
    | [] => .error (.failed .unclosedString s)
    | _ :: after => .ok (String.ofList (rest.takeWhile (· != '"')), after)
  | _ => .error (unexpected "a quoted string" s)

/-- Numerals with more digits than this after the leading zeros are out of range. -/
def maxSignificantDigits : Nat := 10

def splitSign : List Char → Bool × List Char
  | '-' :: rest => (true, rest)
  | s => (false, s)

/-- A run of digits as an integer of at least `minimum`. `literal` is the numeral with its sign and
`start` the text that it begins. -/
def numeral (minimum : Int) (literal : List Char) (negative : Bool) (digits start : List Char) :
    Except Stop Int :=
  let outOfRange : Except Stop Int :=
    .error (.failed (.integerOutOfRange (String.ofList literal) minimum Score.greatest) start)
  if (digits.dropWhile (· == '0')).length > maxSignificantDigits then outOfRange
  else if digits.length > maxDigits then .error .numeralTooLong
  else
    let magnitude : Int := digitsValue digits
    let value := if negative then -magnitude else magnitude
    if minimum ≤ value ∧ value ≤ Score.greatest then .ok value else outOfRange

/-- An integer of the signed 32-bit range, with an optional minus sign. -/
def signedInteger : Reader Int := fun s =>
  let (negative, body) := splitSign s
  match body.takeWhile isDigit with
  | [] => .error (unexpected "an integer" body)
  | digits =>
    let literal := if negative then '-' :: digits else digits
    match numeral Score.least literal negative digits s with
    | .ok value => .ok (value, body.dropWhile isDigit)
    | .error stop => .error stop

def naturalInteger : Reader Int := fun s =>
  match s.takeWhile isDigit with
  | [] => .error (unexpected "a non-negative integer" s)
  | digits =>
    match numeral 0 digits false digits s with
    | .ok value => .ok (value, s.dropWhile isDigit)
    | .error stop => .error stop

def choose (what : String) (options : List (String × α)) (reader : Reader String) : Reader α :=
  fun s =>
    match reader s with
    | .error stop => .error stop
    | .ok (found, rest) =>
      match options.lookup found with
      | some a => .ok (a, rest)
      | none => .error (.failed (.unknownKeyword what found (options.map Prod.fst)) s)

def withArticle (label : String) : String :=
  match label.toList with
  | c :: _ => if ['a', 'e', 'i', 'o', 'u'].contains c then "an " ++ label else "a " ++ label
  | [] => "a " ++ label

def keyword (label : String) (options : List (String × α)) : Reader α :=
  choose label options (word (withArticle label))

def symbol (expected what : String) (options : List (String × α)) : Reader α :=
  choose what options (token expected)

/-- One of several words, each with what it begins. -/
def branch (label : String) (options : List (String × Reader α)) : Reader α := do
  let reader ← keyword label options
  reader

/-- Nothing at the end of the text; else a space and what follows it. -/
def endOr (reader : Reader α) : Reader (Option α) := fun s =>
  match s with
  | [] => .ok (none, s)
  | _ => (do space; return some (← reader) : Reader (Option α)) s

def LeavesSuffix (p : Reader α) : Prop :=
  ∀ ⦃s rest : List Char⦄ ⦃a : α⦄, p s = .ok (a, rest) → rest <:+ s

theorem leavesSuffix_pure (a : α) : LeavesSuffix (pure a : Reader α) := by
  intro s rest b h
  cases h
  exact List.suffix_refl s

theorem LeavesSuffix.bind {p : Reader α} {f : α → Reader β} (hp : LeavesSuffix p)
    (hf : ∀ a, LeavesSuffix (f a)) : LeavesSuffix (p >>= f) := by
  intro s rest b h
  obtain ⟨a, mid, h₁, h₂⟩ := bind_eq_ok h
  exact (hf a h₂).trans (hp h₁)

theorem LeavesSuffix.map {p : Reader α} (hp : LeavesSuffix p) (f : α → β) :
    LeavesSuffix (f <$> p) :=
  hp.bind fun a => leavesSuffix_pure (f a)

theorem space_eq_ok {s rest : List Char} {u : Unit} (h : space s = .ok (u, rest)) :
    s = ' ' :: rest := by
  unfold space at h
  split at h
  · split at h
    · cases h
    · split at h
      · cases h
      · cases h
        rfl
  · cases h

theorem leavesSuffix_space : LeavesSuffix space := by
  intro s rest a h
  rw [space_eq_ok h]
  exact List.suffix_cons _ _

theorem run_eq_ok {p : Char → Bool} {expected : String} {s rest : List Char} {a : String}
    (h : run p expected s = .ok (a, rest)) :
    s = a.toList ++ rest ∧ a.toList ≠ [] ∧ s.takeWhile p = a.toList ∧ s.dropWhile p = rest := by
  unfold run at h
  split at h
  · cases h
  · next taken hne =>
    cases h
    exact ⟨by simp, by simpa using hne, by simp, rfl⟩

theorem leavesSuffix_run (p : Char → Bool) (expected : String) :
    LeavesSuffix (run p expected) := by
  intro s rest a h
  rw [(run_eq_ok h).1]
  exact List.suffix_append _ _

theorem splitSign_suffix (s : List Char) : (splitSign s).2 <:+ s := by
  unfold splitSign
  split
  · exact List.suffix_cons _ _
  · exact List.suffix_refl _

theorem leavesSuffix_signedInteger : LeavesSuffix signedInteger := by
  intro s rest a h
  simp only [signedInteger] at h
  split at h
  · cases h
  · split at h
    · cases h
      exact (List.dropWhile_suffix _).trans (splitSign_suffix s)
    · cases h

theorem choose_eq_ok {what : String} {options : List (String × α)} {reader : Reader String}
    {s rest : List Char} {a : α} (h : choose what options reader s = .ok (a, rest)) :
    ∃ found, reader s = .ok (found, rest) ∧ options.lookup found = some a := by
  unfold choose at h
  split at h
  · cases h
  · split at h
    · cases h
      exact ⟨_, by assumption, by assumption⟩
    · cases h

theorem leavesSuffix_keyword (label : String) (options : List (String × α)) :
    LeavesSuffix (keyword label options) := by
  intro s rest a h
  obtain ⟨found, hr, _⟩ := choose_eq_ok h
  exact leavesSuffix_run _ _ hr

theorem leavesSuffix_symbol (expected what : String) (options : List (String × α)) :
    LeavesSuffix (symbol expected what options) := by
  intro s rest a h
  obtain ⟨found, hr, _⟩ := choose_eq_ok h
  exact leavesSuffix_run _ _ hr

theorem mem_of_lookup_eq_some {options : List (String × α)} {key : String} {a : α}
    (h : options.lookup key = some a) : (key, a) ∈ options := by
  induction options with
  | nil => cases h
  | cons option rest ih =>
    obtain ⟨name, value⟩ := option
    rw [List.lookup_cons] at h
    split at h
    · next he =>
      cases h
      rw [beq_iff_eq] at he
      simp [he]
    · exact List.mem_cons_of_mem _ (ih h)

end Reader

end Scoreboard
