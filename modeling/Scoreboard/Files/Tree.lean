import Scoreboard.Files.Archive
import Scoreboard.Files.Path
import Scoreboard.Table

namespace Scoreboard

inductive Node
  | file (bytes : ByteArray)
  | archive (members : List (String × ByteArray))
  | directory

/-- Why there is nothing to read at a path. -/
inductive FileError
  | notFound
  | notDirectory
  | isDirectory
  | notText
  | noHome
  | tooLong
  | zeroWithin
  deriving Repr, DecidableEq

structure FileTree where
  /-- What the places hold, by their parts from the working directory on. -/
  nodes : Table (List String) Node

/-- A place: in the working directory or below it, or above it. -/
inductive Place
  | inside (parts : List String)
  | above

namespace FileTree

def empty : FileTree :=
  ⟨.empty⟩

def addAncestors (tree : FileTree) (base : List String) : List String → FileTree
  | [] => tree
  | [_] => tree
  | part :: rest =>
    let parts := base ++ [part]
    let made := if tree.nodes.contains parts then tree else ⟨tree.nodes.set parts .directory⟩
    made.addAncestors parts rest

def add (tree : FileTree) (path : String) (node : Node) : FileTree :=
  let parts := (Path.ofText path).parts
  ⟨(tree.addAncestors [] parts).nodes.set parts node⟩

/-- What is at a place, if anything is. -/
def node? (tree : FileTree) (parts : List String) : Option Node :=
  if parts.isEmpty then some .directory else tree.nodes.get? parts

def missing (part : String) : FileError :=
  if Path.isLongName part then .tooLong else .notFound

def step (tree : FileTree) (place : Place) (part : String) : Except FileError Place :=
  match place with
  | .above => if part = ".." then .ok .above else .error (missing part)
  | .inside parts =>
    match tree.node? parts with
    | none => .error .notFound
    | some .directory =>
      if part = ".." then
        .ok (if parts.isEmpty then .above else .inside parts.dropLast)
      else if (tree.node? (parts ++ [part])).isSome then .ok (.inside (parts ++ [part]))
      else .error (missing part)
    | some _ => .error .notDirectory

/-- The place that a path leads to. The root is above the working directory. -/
def find (tree : FileTree) (path : Path) : Except FileError Place :=
  if path.hasZero then .error .zeroWithin
  else if path.isLong then .error .tooLong
  else path.parts.foldlM tree.step (if path.root = "" then .inside [] else .above)

def below (tree : FileTree) (parts : List String) : List (String × Node) :=
  tree.nodes.entries.filterMap fun (key, node) =>
    (parts.isPrefixOf? key).bind fun rest =>
      if rest.isEmpty then none else some ("/".intercalate rest, node)

end FileTree

/-- The bytes that are read at a place. Those of an archive with members are not known, but they are
no text. -/
def Node.bytes : Node → Except FileError ByteArray
  | file bytes => .ok bytes
  | archive [] => .ok Archive.emptyBytes
  | archive _ => .error .notText
  | directory => .error .isDirectory

def FileTree.read (tree : FileTree) (path : Path) : Except FileError ByteArray := do
  match ← tree.find path with
  | .above => .error .isDirectory
  | .inside parts =>
    match tree.node? parts with
    | none => .error .notFound
    | some node => node.bytes

end Scoreboard
