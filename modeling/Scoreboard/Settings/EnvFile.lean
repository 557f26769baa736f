import Scoreboard.Settings.Reference
import Scoreboard.Table
import Scoreboard.Text.Lines

namespace Scoreboard

open Text

namespace EnvFile

/-- What a file says of a variable: its name, and its value if it has one. -/
abbrev Entry := String × Option String

def isSpacing (c : Char) : Bool :=
  isBlank c && c != '\n'

def afterLine (s : List Char) : List Char :=
  (s.dropWhile (· != '\n')).drop 1

def atLineEnd (s : List Char) : Bool :=
  match s.dropWhile isSpacing with
  | [] => true
  | c :: _ => c == '\n' || c == '#'

/-- A text without the word `export` and the blanks after that; the text itself if the word, or a
blank after it, is missing. -/
def withoutExport (s : List Char) : List Char :=
  let rest := s.drop 6
  if s.take 6 == "export".toList && rest.head?.any isSpacing then rest.dropWhile isSpacing else s

/-- The name at the start of a text, and what follows it. Between apostrophes any text is a name;
elsewhere a name has no blanks, no equals sign and no `#`. -/
def name? (s : List Char) : Option (List Char × List Char) :=
  match s with
  | '\'' :: s =>
    match s.takeWhile (· != '\''), s.dropWhile (· != '\'') with
    | c :: name, _ :: rest => some (c :: name, rest)
    | _, _ => none
  | s =>
    let within (c : Char) : Bool := c != '=' && c != '#' && !isBlank c
    match s.takeWhile within with
    | [] => none
    | c :: name => some (c :: name, s.dropWhile within)

/-- The text up to a mark, and what follows the mark. A backslash takes in the character after it,
so that a mark there does not count. -/
def upTo? (mark : Char) : List Char → Option (List Char × List Char)
  | [] => none
  | [c] => if c == mark then some ([], []) else none
  | c :: d :: s =>
    if c == mark then some ([], d :: s)
    else if c == '\\' then (upTo? mark s).map fun (text, rest) => (c :: d :: text, rest)
    else (upTo? mark (d :: s)).map fun (text, rest) => (c :: text, rest)

def escaped? (mark c : Char) : Option Char :=
  if c == '\\' || c == '\'' then some c
  else if mark == '\'' then none
  else
    match c with
    | '"' => some '"'
    | 'a' => some '\x07'
    | 'b' => some '\x08'
    | 'f' => some '\x0c'
    | 'n' => some '\n'
    | 'r' => some '\r'
    | 't' => some '\t'
    | 'v' => some '\x0b'
    | _ => none

def unescape (mark : Char) : List Char → List Char
  | [] => []
  | [c] => [c]
  | c :: d :: s =>
    if c == '\\' then
      match escaped? mark d with
      | some e => e :: unescape mark s
      | none => c :: unescape mark (d :: s)
    else c :: unescape mark (d :: s)

/-- A value without quotation marks, up to a `#` with a blank before it. -/
def plainValue : List Char → List Char
  | [] => []
  | c :: s =>
    if isBlank c && (s.dropWhile isBlank).head? == some '#' then [] else c :: plainValue s

/-- The value at the start of a text, after its equals sign, and what follows the value. There is
none if the second of two quotation marks is missing. -/
def written? (s : List Char) : Option (List Char × List Char) :=
  let plain := some (trim (plainValue (s.takeWhile (· != '\n'))), s.dropWhile (· != '\n'))
  match s.dropWhile isSpacing with
  | [] => plain
  | mark :: rest =>
    if mark == '\'' || mark == '"' then
      (upTo? mark rest).map fun (text, rest) => (unescape mark text, rest)
    else plain

def assignment? (s : List Char) : Option (Option String × List Char) :=
  match s.dropWhile isSpacing with
  | '=' :: s => (written? s).map fun (text, rest) => (some (String.ofList text), rest)
  | s => some (none, s)

def entry (s : List Char) : Option Entry × List Char :=
  match name? s with
  | none => (none, afterLine s)
  | some (name, s) =>
    match assignment? s with
    | none => (none, afterLine s)
    | some (value, s) =>
      (if atLineEnd s then some (String.ofList name, value) else none, afterLine s)

theorem length_dropWhile_le (p : Char → Bool) (s : List Char) :
    (s.dropWhile p).length ≤ s.length :=
  (List.dropWhile_suffix p).length_le

theorem length_afterLine_le (s : List Char) : (afterLine s).length ≤ s.length - 1 := by
  have := length_dropWhile_le (· != '\n') s
  simp only [afterLine, List.length_drop]
  omega

theorem length_withoutExport_le (s : List Char) : (withoutExport s).length ≤ s.length := by
  have := length_dropWhile_le isSpacing (s.drop 6)
  simp only [List.length_drop] at this
  simp only [withoutExport]
  split <;> omega

theorem length_le_of_name? {s name rest : List Char} (h : name? s = some (name, rest)) :
    rest.length ≤ s.length := by
  unfold name? at h
  split at h
  · rename_i s
    have := length_dropWhile_le (· != '\'') s
    split at h
    · rename_i hd
      obtain ⟨-, rfl⟩ : _ ∧ _ := by simpa using h
      simp only [hd, List.length_cons] at this ⊢
      omega
    · simp at h
  · have := length_dropWhile_le (fun c => c != '=' && c != '#' && !isBlank c) s
    simp only at h
    split at h
    · simp at h
    · obtain ⟨-, rfl⟩ : _ ∧ _ := by simpa using h
      exact this

theorem length_lt_of_upTo? {mark : Char} {s text rest : List Char}
    (h : upTo? mark s = some (text, rest)) : rest.length < s.length := by
  induction s using upTo?.induct mark generalizing text rest with
  | case1 => simp [upTo?] at h
  | case2 c hc =>
    obtain ⟨-, rfl⟩ : _ ∧ _ := by simpa [upTo?, hc, eq_comm] using h
    simp
  | case3 c hc => simp [upTo?, hc] at h
  | case4 c d s hc =>
    obtain ⟨-, rfl⟩ : _ ∧ _ := by simpa only [upTo?, hc, if_true, Option.some.injEq,
      Prod.mk.injEq] using h
    simp
  | case5 c d s hc hd ih =>
    simp only [upTo?, hc, hd, if_true, Bool.false_eq_true, if_false, Option.map_eq_some_iff] at h
    obtain ⟨⟨text', rest'⟩, hs, he⟩ := h
    obtain ⟨-, rfl⟩ : _ ∧ _ := by simpa only [Prod.mk.injEq] using he
    have := ih hs
    simp only [List.length_cons]
    omega
  | case6 c d s hc hd ih =>
    simp only [upTo?, hc, hd, Bool.false_eq_true, if_false, Option.map_eq_some_iff] at h
    obtain ⟨⟨text', rest'⟩, hs, he⟩ := h
    obtain ⟨-, rfl⟩ : _ ∧ _ := by simpa only [Prod.mk.injEq] using he
    have := ih hs
    simp only [List.length_cons] at this ⊢
    omega

theorem length_le_of_written? {s text rest : List Char} (h : written? s = some (text, rest)) :
    rest.length ≤ s.length := by
  have plain := length_dropWhile_le (· != '\n') s
  have hs := length_dropWhile_le isSpacing s
  unfold written? at h
  split at h
  · obtain ⟨-, rfl⟩ : _ ∧ _ := by simpa using h
    exact plain
  · rename_i mark t ht
    split at h
    · obtain ⟨⟨text, u⟩, hu, he⟩ := Option.map_eq_some_iff.1 h
      obtain ⟨-, rfl⟩ : _ ∧ _ := by simpa using he
      have := length_lt_of_upTo? hu
      simp only [ht, List.length_cons] at hs
      omega
    · obtain ⟨-, rfl⟩ : _ ∧ _ := by simpa using h
      exact plain

theorem length_le_of_assignment? {s rest : List Char} {value : Option String}
    (h : assignment? s = some (value, rest)) : rest.length ≤ s.length := by
  have hs := length_dropWhile_le isSpacing s
  unfold assignment? at h
  split at h
  · rename_i t ht
    obtain ⟨⟨text, u⟩, hv, he⟩ := Option.map_eq_some_iff.1 h
    obtain ⟨-, rfl⟩ : _ ∧ _ := by simpa using he
    have := length_le_of_written? hv
    simp only [ht, List.length_cons] at hs
    omega
  · obtain ⟨-, rfl⟩ : _ ∧ _ := by simpa using h
    exact hs

/-- Reading an entry makes the text shorter, whether or not there is one. -/
theorem length_entry_le (s : List Char) : (entry s).2.length ≤ s.length - 1 := by
  have line := length_afterLine_le
  unfold entry
  split
  · exact line s
  · rename_i name t hn
    have := length_le_of_name? hn
    split
    · exact Nat.le_trans (line t) (by omega)
    · rename_i value u hs
      have := length_le_of_assignment? hs
      exact Nat.le_trans (line u) (by omega)

def entries (s : List Char) : List Entry :=
  let t := s.dropWhile isBlank
  if t.isEmpty then []
  else
    let read := entry (withoutExport t)
    read.1.toList ++ entries read.2
termination_by s.length
decreasing_by
  rename_i h
  have := length_entry_le (withoutExport (s.dropWhile isBlank))
  have := length_withoutExport_le (s.dropWhile isBlank)
  have := length_dropWhile_le isBlank s
  have : 0 < (s.dropWhile isBlank).length := List.length_pos_iff.2 (by simpa [t] using h)
  omega

/-- The entries in the bytes of a file, less the byte order mark that they may begin with. -/
def read? (bytes : ByteArray) : Option (List Entry) :=
  (String.fromUTF8? bytes).map fun text =>
    match unifyLineEnds text.toList with
    | '\ufeff' :: s => entries s
    | s => entries s

def names (entries : List Entry) : List String :=
  entries.flatMap fun entry => (entry.2.map Fragment.names).getD []

/-- The value that a reference in a file stands for: what the file has set the variable to goes
before the environment. A variable that is set to nothing stands for the empty text. -/
def referent? (environment : List (String × String)) (assigned : Table String (Option String))
    (name : String) : Option String :=
  match assigned.get? name with
  | some value => some (value.getD "")
  | none => Table.find name environment

def assign (environment : List (String × String)) (entries : List Entry) :
    Table String (Option String) :=
  entries.foldl (fun assigned entry =>
    assigned.set entry.1 (entry.2.map (Fragment.expand (referent? environment assigned)))) .empty

end EnvFile

end Scoreboard
