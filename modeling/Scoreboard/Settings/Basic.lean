import Scoreboard.Files.Tree
import Scoreboard.Settings.EnvFile
import Scoreboard.Text.Numeral
import Scoreboard.Text.Word

namespace Scoreboard

open Text

structure Settings where
  appName : String
  logLevel : String
  datapackPath : Option String
  entryFunction : String
  maxFunctionDepth : Int
  coloredOutput : Bool
  prompt : String
  deriving Repr, DecidableEq

inductive SettingFault
  | notInteger
  | tooLong
  | tooSmall
  | notBoolean
  deriving Repr, DecidableEq

inductive SettingsError
  | badVariable
  | notText
  | faults (settings : List (String × SettingFault))
  deriving Repr, DecidableEq

namespace Settings

def variablePrefix : String := "MC_INTERPRETER_"

def default : Settings :=
  ⟨"mc-interpreter", "WARNING", none, "main:main", 64, true, "> "⟩

/-- A letter's small form, as far as the names of variables go: the Kelvin sign is a k. -/
def small (c : Char) : Char :=
  if c == '\u212a' then 'k' else c.toLower

def sameName (a b : String) : Bool :=
  a.toList.map small == b.toList.map small

def lookup? (assigned : List (String × Option String)) (setting : String) : Option String :=
  (assigned.reverse.find? fun v => sameName v.1 (variablePrefix ++ setting)).bind Prod.snd

/-- The blanks that may stand around an integer: not the separators of files, groups, records and
units. -/
def isPadding (c : Char) : Bool :=
  isBlank c && !inRanges [(0x1c, 0x1f)] c.toNat

/-- A numeral without the zeros in front, and the underscores among them. One character stays if no
digit or sign follows. -/
def withoutZeros (s : List Char) : List Char :=
  if s.head? == some '0' then
    let rest := s.dropWhile fun c => c == '0' || c == '_'
    if rest.isEmpty || rest.head? == some '.' then s.drop (s.length - rest.length - 1) else rest
  else s

def withoutFraction (s : List Char) : List Char :=
  let fraction := (s.dropWhile (· != '.')).drop 1
  if !fraction.isEmpty && fraction.all (· == '0') then s.takeWhile (· != '.') else s

def withoutUnderscores? (s : List Char) : Option (List Char) :=
  let groups := pieces '_' s
  if groups.any List.isEmpty then none else some groups.flatten

def cleaned? (s : List Char) : Option (List Char) :=
  withoutUnderscores? (withoutFraction (withoutZeros s))

def natural? (s : List Char) : Option Int :=
  let isPlain := s.head? != some '0' || s.length == 1
  if isPlain && !s.isEmpty && s.all isDigit && s.length ≤ maxDigits then some (digitsValue s)
  else none

def signed? : List Char → Option Int
  | '-' :: s => (natural? s).map (- ·)
  | s => natural? s

/-- An integer. Blanks around it, a plus sign, zeros in front, zeros after a point and single
underscores do not count. The minus sign of a negative number may stand behind the zeros. -/
def integer? (s : List Char) : Option Int :=
  match dropTail isPadding (s.dropWhile isPadding) with
  | '-' :: s => ((cleaned? s).bind natural?).map (- ·)
  | '+' :: '-' :: _ => none
  | '+' :: s => (cleaned? s).bind signed?
  | s => (cleaned? s).bind signed?

/-- Whether a text begins with more digits than are read, the first of which is no zero. A minus
sign may stand in front of them. -/
def isTooLong (s : List Char) : Bool :=
  let digits := (if s.head? == some '-' then s.drop 1 else s).takeWhile isDigit
  digits.head? != some '0' && maxDigits < digits.length

/-- An integer. Only a text that begins with its digits can be too long; of any other, too many
digits make no integer. -/
def integer (s : String) : Except SettingFault Int :=
  if isTooLong s.toList then .error .tooLong
  else
    match integer? s.toList with
    | none => .error .notInteger
    | some n => .ok n

def boolean? (s : String) : Option Bool :=
  let word := String.ofList (s.toList.map Char.toLower)
  if ["1", "true", "t", "yes", "y", "on"].contains word then some true
  else if ["0", "false", "f", "no", "n", "off"].contains word then some false
  else none

/-- At least one call must be possible. -/
def depth (s : String) : Except SettingFault Int := do
  let n ← integer s
  if n < 1 then .error .tooSmall else .ok n

def flag (s : String) : Except SettingFault Bool :=
  match boolean? s with
  | none => .error .notBoolean
  | some b => .ok b

def parsed {α : Type} (value : Option String) (read : String → Except SettingFault α) (unset : α)
    (setting : String) : α × List (String × SettingFault) :=
  match value with
  | none => (unset, [])
  | some s =>
    match read s with
    | .ok a => (a, [])
    | .error fault => (unset, [(setting, fault)])

/-- The settings that some variables make. Of two variables for one setting, the later counts; one
without a value leaves the setting as it is by default. -/
def ofVariables (assigned : List (String × Option String)) : Except SettingsError Settings :=
  let text (setting : String) (unset : String) : String :=
    (lookup? assigned setting).getD unset
  let colored := parsed (lookup? assigned "colored_output") flag default.coloredOutput
    "colored_output"
  let limit := parsed (lookup? assigned "max_function_depth") depth default.maxFunctionDepth
    "max_function_depth"
  match colored.2 ++ limit.2 with
  | [] => .ok {
      appName := text "app_name" default.appName
      logLevel := text "log_level" default.logLevel
      datapackPath := lookup? assigned "datapack_path"
      entryFunction := text "entry_function" default.entryFunction
      maxFunctionDepth := limit.1
      coloredOutput := colored.1
      prompt := text "prompt" default.prompt }
  | faults => .error (.faults faults)

/-- Whether the environment can hold a variable: a name has no equals sign in it, and neither a name
nor a value has a zero character. -/
def isVariable (v : String × String) : Bool :=
  v.1.toList.all (fun c => c != '=' && c != '\x00') && v.2.toList.all (· != '\x00')

def load (file : Except FileError ByteArray) (environment : List (String × String)) :
    Except SettingsError Settings :=
  if environment.all isVariable then
    let own := environment.map fun v => (v.1, some v.2)
    match file.map EnvFile.read? with
    | .error .notText | .ok none => .error .notText
    | .error _ => ofVariables own
    | .ok (some entries) => ofVariables ((EnvFile.assign environment entries).entries ++ own)
  else .error .badVariable

end Settings

end Scoreboard
