import Scoreboard.Datapack.FunctionPath
import Scoreboard.Datapack.FunctionText
import Scoreboard.Files.Tree

namespace Scoreboard

inductive Storage
  | absent
  | directory (nodes : List (String × Node))
  | archive (members : List (String × ByteArray))
  | plain
  | unreachable

def FileTree.storage (tree : FileTree) (path : Path) : Storage :=
  match tree.find path with
  | .error .tooLong => .unreachable
  | .error _ => .absent
  | .ok .above => .directory []
  | .ok (.inside parts) =>
    match tree.node? parts with
    | none => .absent
    | some (.file _) => .plain
    | some (.archive members) => .archive members
    | some .directory => .directory (tree.below parts)

/-- A function's name and the text of its file. -/
abbrev Source : Type :=
  FunctionId × String

def decodeText (bytes : ByteArray) : Except LoadError String :=
  match String.fromUTF8? bytes with
  | some text => .ok text
  | none => .error .notText

/-- The files of a directory whose paths name functions. Their line ends are read as line feeds. -/
def sourcesOfNodes : List (String × Node) → Except LoadError (List Source)
  | [] => .ok []
  | (path, node) :: rest =>
    match if path.endsWith ".mcfunction" then FunctionId.ofPath? path else none with
    | none => sourcesOfNodes rest
    | some id => do
      let bytes ← match node.bytes with
        | .ok bytes => .ok bytes
        | .error .isDirectory => .error .isDirectory
        | .error _ => .error .notText
      let text ← decodeText bytes
      let others ← sourcesOfNodes rest
      return (id, String.ofList (Text.unifyLineEnds text.toList)) :: others

/-- The content of the last member of a name. -/
def memberContent (members : List (String × ByteArray)) (name : String) : ByteArray :=
  ((members.reverse.find? fun member => member.1 = name).map Prod.snd).getD .empty

/-- The members among `listed` whose names are paths of functions. Of members of one name, each is
listed, and the last has the content for all. -/
def sourcesOfMembers (members listed : List (String × ByteArray)) :
    Except LoadError (List Source) :=
  match listed with
  | [] => .ok []
  | (name, _) :: rest =>
    match FunctionId.ofPath? name with
    | none => sourcesOfMembers members rest
    | some id => do
      let text ← decodeText (memberContent members name)
      let others ← sourcesOfMembers members rest
      return (id, text) :: others

def Storage.sources (path : Path) : Storage → Except LoadError (List Source)
  | absent => .error (.notFound path.toText)
  | directory nodes => sourcesOfNodes nodes
  | archive members => sourcesOfMembers members members
  | plain => .error (.notAnArchive path.toText)
  | unreachable => .error .pathTooLong

def Source.le (a b : Source) : Bool :=
  a.1.toText ≤ b.1.toText

def functionsOfSources : List Source → Except LoadError (List Function)
  | [] => .ok []
  | (id, text) :: rest => do
    let f ← Function.ofText id text
    let others ← functionsOfSources rest
    return f :: others

/-- All sources are read before any of them is parsed. -/
def Datapack.load (path : Path) (storage : Storage) : Except LoadError Datapack := do
  let sources ← storage.sources path
  let functions ← functionsOfSources (sources.mergeSort Source.le)
  return ⟨path.stem, functions⟩

end Scoreboard
