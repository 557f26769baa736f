namespace Scoreboard

structure Path where
  root : String
  parts : List String
  deriving Repr, DecidableEq

namespace Path

/-- One slash in front, or any number but two, is the root; two are a root of their own. -/
def rootOf : List Char → String
  | '/' :: '/' :: '/' :: _ => "/"
  | '/' :: '/' :: _ => "//"
  | '/' :: _ => "/"
  | _ => ""

def partsOf (s : List Char) : List String :=
  ((s.splitOn '/').map String.ofList).filter fun part => part ≠ "" && part ≠ "."

def ofText (s : String) : Path :=
  ⟨rootOf s.toList, partsOf s.toList⟩

def toText (p : Path) : String :=
  if p.root = "" ∧ p.parts = [] then "." else p.root ++ "/".intercalate p.parts

def name (p : Path) : String :=
  p.parts.getLast?.getD ""

/-- A file's name without its extension: all before the last dot, unless that dot is the first or
the last character. -/
def stemOf (name : List Char) : List Char :=
  let extension := (name.reverse.takeWhile (· != '.')).reverse
  let stem := name.take (name.length - extension.length - 1)
  if extension.length < name.length && !extension.isEmpty && !stem.isEmpty then stem else name

def stem (p : Path) : String :=
  String.ofList (stemOf p.name.toList)

/-- The path of a home directory. Slashes at its end do not count, but all slashes are the root. One
that begins with a tilde leads nowhere. -/
def ofHome? (home : String) : Option Path :=
  match (home.toList.reverse.dropWhile (· == '/')).reverse with
  | [] => some ⟨"/", []⟩
  | '~' :: _ => none
  | s => some (ofText (String.ofList s))

/-- A path whose first part is a tilde begins in the home directory. Other first parts with a tilde
in front name no place. -/
def expandHome? (home : Option String) (p : Path) : Option Path :=
  match p.root, p.parts with
  | "", first :: rest =>
    if first = "~" then
      (home.bind ofHome?).map fun base => ⟨base.root, base.parts ++ rest⟩
    else if first.toList.head? = some '~' then none
    else some p
  | _, _ => some p

def maxName : Nat := 255

def maxPath : Nat := 4095

def isLongName (name : String) : Bool :=
  maxName < name.utf8ByteSize

def hasZero (p : Path) : Bool :=
  p.parts.any fun part => part.toList.contains '\x00'

def isLong (p : Path) : Bool :=
  maxPath < p.toText.utf8ByteSize

end Path

end Scoreboard
