import Mathlib.Data.List.Nodup
import Scoreboard.Datapack.Load
import Scoreboard.Proofs.Datapack.FunctionPath
import Scoreboard.Proofs.Datapack.FunctionText

namespace Scoreboard

theorem fromUTF8?_toUTF8 (text : String) : String.fromUTF8? text.toUTF8 = some text :=
  dif_pos text.isValidUTF8

theorem decodeText_toUTF8 (text : String) : decodeText text.toUTF8 = .ok text := by
  rw [decodeText, fromUTF8?_toUTF8]

namespace Source

def ofFile? (file : String × String) : Option Source :=
  (FunctionId.ofPath? file.1).map fun id => (id, file.2)

def unified (source : Source) : Source :=
  (source.1, String.ofList (Text.unifyLineEnds source.2.toList))

theorem le_trans (a b c : Source) (hab : Source.le a b) (hbc : Source.le b c) : Source.le a c := by
  simp only [Source.le, decide_eq_true_eq] at *
  exact String.le_trans hab hbc

theorem le_total (a b : Source) : Source.le a b || Source.le b a := by
  simpa [Source.le] using String.le_total a.1.toText b.1.toText

/-- Sources that are told apart by the texts of their names have one order. -/
theorem mergeSort_eq_of_perm {sources listed : List Source}
    (hkeys : (sources.map fun source => source.1.toText).Nodup) (h : listed.Perm sources) :
    listed.mergeSort Source.le = sources.mergeSort Source.le := by
  have hsorted : ∀ l : List Source, (l.mergeSort Source.le).Pairwise fun a b => Source.le a b :=
    List.pairwise_mergeSort le_trans le_total
  refine List.Perm.eq_of_pairwise ?_ (hsorted listed) (hsorted sources)
    ((List.mergeSort_perm _ _).trans (h.trans (List.mergeSort_perm _ _).symm))
  intro a b ha hb hab hba
  simp only [Source.le, decide_eq_true_eq] at hab hba
  exact List.inj_on_of_nodup_map hkeys (h.subset (List.mem_mergeSort.1 ha))
    (List.mem_mergeSort.1 hb)
    (String.le_antisymm hab hba)

theorem pairwise_lt_mergeSort {sources : List Source}
    (hkeys : (sources.map fun source => source.1.toText).Nodup) :
    (sources.mergeSort Source.le).Pairwise fun a b => a.1.toText < b.1.toText := by
  have hdistinct : (sources.mergeSort Source.le).Pairwise fun a b => a.1.toText ≠ b.1.toText :=
    List.pairwise_map.1 (((List.mergeSort_perm _ _).map _).nodup_iff.2 hkeys)
  refine ((List.pairwise_mergeSort le_trans le_total sources).and hdistinct).imp ?_
  rintro a b ⟨hle, hne⟩
  simp only [Source.le, decide_eq_true_eq] at hle
  exact Std.lt_iff_le_and_ne.2 ⟨hle, hne⟩

end Source

/-- What loading functions from sources in their order comes to: for each source, the function of
its name with the commands of its text; or what is reported of the first that cannot be read, all
before it being readable. Lines count from one. -/
def Loads (sources : List Source) : Except LoadError (List Function) → Prop
  | .ok functions =>
    List.Forall₂ (fun source f => f.id = source.1 ∧ LinesHold (Text.fileLines source.2) f.commands)
      sources functions
  | .error e =>
    ∃ before id text after, sources = before ++ (id, text) :: after ∧
      (∀ earlier ∈ before, ∃ commands, LinesHold (Text.fileLines earlier.2) commands) ∧
      ∃ place cause, FirstUnreadable (Text.fileLines text) place cause ∧
        e = .ofLine id (place + 1) cause

theorem loads_functionsOfSources (sources : List Source) :
    Loads sources (functionsOfSources sources) := by
  induction sources with
  | nil => exact .nil
  | cons source rest ih =>
    rcases source with ⟨id, text⟩
    rw [functionsOfSources]
    cases hf : Function.ofText id text with
    | error e => exact ⟨[], id, text, rest, rfl, by simp, Function.firstUnreadable_of_ofText hf⟩
    | ok f =>
      have hheld := Function.linesHold_of_ofText hf
      cases hothers : functionsOfSources rest with
      | error e =>
        rw [hothers] at ih
        obtain ⟨before, id', text', after, rfl, hbefore, hfirst⟩ := ih
        exact ⟨(id, text) :: before, id', text', after, rfl,
          List.forall_mem_cons.2 ⟨⟨f.commands, hheld.2⟩, hbefore⟩, hfirst⟩
      | ok others =>
        rw [hothers] at ih
        exact .cons hheld ih

theorem functionsOfSources_unified (sources : List Source) :
    functionsOfSources (sources.map Source.unified) = functionsOfSources sources := by
  induction sources with
  | nil => rfl
  | cons source rest ih =>
    rw [List.map_cons, Source.unified, functionsOfSources, functionsOfSources, ih,
      Function.ofText_congr_of_fileLines (Text.fileLines_unifyLineEnds source.2)]

theorem mergeSort_unified (sources : List Source) :
    (sources.map Source.unified).mergeSort Source.le =
      (sources.mergeSort Source.le).map Source.unified :=
  (List.map_mergeSort (f := Source.unified) fun _ _ _ _ => rfl).symm

theorem Datapack.functions_load_of_sources {path : Path} (storage : Storage) {sources : List Source}
    (h : storage.sources path = .ok sources) :
    (load path storage).map functions =
      functionsOfSources (sources.mergeSort Source.le) := by
  rw [load, h]
  simp only [bind, Except.bind]
  cases functionsOfSources (sources.mergeSort Source.le) <;> rfl

theorem memberContent_of_mem {members : List (String × ByteArray)} {path : String}
    {bytes : ByteArray} (hnodup : (members.map Prod.fst).Nodup) (h : (path, bytes) ∈ members) :
    memberContent members path = bytes := by
  have hsome : (members.reverse.find? fun member => member.1 = path).isSome := by
    rw [List.find?_isSome]
    exact ⟨(path, bytes), List.mem_reverse.2 h, by simp⟩
  obtain ⟨found, hfound⟩ := Option.isSome_iff_exists.1 hsome
  have hmem : found ∈ members := List.mem_reverse.1 (List.mem_of_find?_eq_some hfound)
  have hpath : found.1 = path := by simpa using List.find?_some hfound
  rw [memberContent, hfound, List.inj_on_of_nodup_map hnodup hmem h hpath]
  rfl

/-- The files of a datapack, by their paths in it. No two name the same function. -/
structure PackFiles where
  files : List (String × String)
  paths_nodup : (files.map Prod.fst).Nodup
  paths_unbroken : ∀ file ∈ files, file.1.toList.getLast? ≠ some '\n'
  ids_nodup : (files.filterMap fun file => FunctionId.ofPath? file.1).Nodup

namespace PackFiles

variable (pack : PackFiles)

def member (file : String × String) : String × ByteArray :=
  (file.1, file.2.toUTF8)

def node (file : String × String) : String × Node :=
  (file.1, .file file.2.toUTF8)

/-- The ways to store the files: as the members of an archive, or below a directory, among folders
that do not look like functions. The order in which they are listed is not determined. -/
inductive StoredIn : Storage → Prop
  | archive {members : List (String × ByteArray)} (h : members.Perm (pack.files.map member)) :
    StoredIn (.archive members)
  | directory {nodes : List (String × Node)} {folders : List String}
    (hfolders : ∀ folder ∈ folders, FunctionId.ofPath? folder = none)
    (h : nodes.Perm (pack.files.map node ++ folders.map fun folder => (folder, .directory))) :
    StoredIn (.directory nodes)

def sources : List Source :=
  pack.files.filterMap Source.ofFile?

theorem ids_sources :
    pack.sources.map Prod.fst = pack.files.filterMap fun file => FunctionId.ofPath? file.1 := by
  rw [sources, List.map_filterMap]
  congr
  funext file
  cases h : FunctionId.ofPath? file.1 <;> simp [Source.ofFile?, h]

theorem texts_nodup : (pack.sources.map fun source => source.1.toText).Nodup := by
  have hids : (pack.sources.map Prod.fst).Nodup := by
    rw [ids_sources]
    exact pack.ids_nodup
  have hpath : ∀ id ∈ pack.sources.map Prod.fst, ∃ path, FunctionId.ofPath? path = some id := by
    intro id hid
    rw [ids_sources, List.mem_filterMap] at hid
    obtain ⟨file, -, hfile⟩ := hid
    exact ⟨file.1, hfile⟩
  have hmap := hids.map_on (f := FunctionId.toText) (by
    intro id hid id' hid' htext
    obtain ⟨_, h⟩ := hpath id hid
    obtain ⟨_, h'⟩ := hpath id' hid'
    exact FunctionId.toText_injective_of_ofPath? h h' htext)
  rwa [List.map_map] at hmap

def memberSource? (entry : String × ByteArray) : Option Source :=
  (FunctionId.ofPath? entry.1).bind fun id => (String.fromUTF8? entry.2).map fun text => (id, text)

def nodeSource? : String × Node → Option Source
  | (path, .file bytes) => (memberSource? (path, bytes)).map Source.unified
  | _ => none

theorem memberSource?_member (file : String × String) :
    memberSource? (member file) = Source.ofFile? file := by
  rw [memberSource?, member, fromUTF8?_toUTF8, Source.ofFile?]
  cases FunctionId.ofPath? file.1 <;> rfl

theorem nodeSource?_node (file : String × String) :
    nodeSource? (node file) = (Source.ofFile? file).map Source.unified :=
  congrArg (Option.map Source.unified) (memberSource?_member file)

theorem nodeSource?_eq_none {path : String} (h : FunctionId.ofPath? path = none) (node : Node) :
    nodeSource? (path, node) = none := by
  cases node <;> simp [nodeSource?, memberSource?, h]

theorem sourcesOfMembers_eq {members listed : List (String × ByteArray)}
    (h : ∀ entry ∈ listed, ∃ file, entry = member file ∧ memberContent members file.1 = entry.2) :
    sourcesOfMembers members listed = .ok (listed.filterMap memberSource?) := by
  induction listed with
  | nil => rfl
  | cons entry rest ih =>
    rw [List.forall_mem_cons] at h
    obtain ⟨⟨⟨path, text⟩, rfl, hcontent⟩, hrest⟩ := h
    rw [List.filterMap_cons, memberSource?_member, Source.ofFile?, member, sourcesOfMembers]
    cases FunctionId.ofPath? path with
    | none => exact ih hrest
    | some id =>
      rw [hcontent, member, decodeText_toUTF8, ih hrest]
      rfl

theorem sourcesOfNodes_eq {nodes : List (String × Node)}
    (h : ∀ entry ∈ nodes, FunctionId.ofPath? entry.1 = none ∨
      ∃ file, entry = node file ∧ file.1.toList.getLast? ≠ some '\n') :
    sourcesOfNodes nodes = .ok (nodes.filterMap nodeSource?) := by
  induction nodes with
  | nil => rfl
  | cons entry rest ih =>
    rw [List.forall_mem_cons] at h
    obtain ⟨hentry, hrest⟩ := h
    rcases entry with ⟨path, content⟩
    rw [List.filterMap_cons, sourcesOfNodes]
    cases hid : FunctionId.ofPath? path with
    | none =>
      rw [nodeSource?_eq_none hid, ite_self]
      exact ih hrest
    | some id =>
      obtain ⟨⟨_, text⟩, hnode, hend⟩ := hentry.resolve_left (by simp [hid])
      obtain ⟨rfl, rfl⟩ := Prod.mk.inj hnode
      have hsource : nodeSource? (path, .file text.toUTF8) = some (Source.unified (id, text)) := by
        rw [hnode, nodeSource?_node, Source.ofFile?, hid]
        rfl
      rw [if_pos (FunctionId.endsWith_of_ofPath? hid hend), ih hrest]
      simp only [hsource, Node.bytes, bind, Except.bind, decodeText_toUTF8]
      rfl

variable {pack}

theorem exists_sourcesOfMembers {members : List (String × ByteArray)}
    (h : members.Perm (pack.files.map member)) :
    ∃ sources, sourcesOfMembers members members = .ok sources ∧ sources.Perm pack.sources := by
  have hnodup : (members.map Prod.fst).Nodup := by
    rw [(h.map Prod.fst).nodup_iff, List.map_map]
    exact pack.paths_nodup
  refine ⟨members.filterMap memberSource?, sourcesOfMembers_eq ?_, ?_⟩
  · intro entry hentry
    obtain ⟨file, -, rfl⟩ := List.mem_map.1 (h.subset hentry)
    exact ⟨file, rfl, memberContent_of_mem hnodup hentry⟩
  · have hperm := h.filterMap memberSource?
    rwa [List.filterMap_map, show memberSource? ∘ member = Source.ofFile? from
      funext memberSource?_member] at hperm

theorem exists_sourcesOfNodes {nodes : List (String × Node)} {folders : List String}
    (hfolders : ∀ folder ∈ folders, FunctionId.ofPath? folder = none)
    (h : nodes.Perm (pack.files.map node ++ folders.map fun folder => (folder, .directory))) :
    ∃ sources, sourcesOfNodes nodes = .ok sources ∧
      sources.Perm (pack.sources.map Source.unified) := by
  refine ⟨nodes.filterMap nodeSource?, sourcesOfNodes_eq ?_, ?_⟩
  · intro entry hentry
    rcases List.mem_append.1 (h.subset hentry) with hfile | hfolder
    · obtain ⟨file, hmem, rfl⟩ := List.mem_map.1 hfile
      exact .inr ⟨file, rfl, pack.paths_unbroken file hmem⟩
    · obtain ⟨folder, hmem, rfl⟩ := List.mem_map.1 hfolder
      exact .inl (hfolders folder hmem)
  · have hperm := h.filterMap nodeSource?
    have hnone :
        (folders.map fun folder => (folder, Node.directory)).filterMap nodeSource? = [] := by
      rw [List.filterMap_map, List.filterMap_eq_nil_iff]
      intro folder hfolder
      exact nodeSource?_eq_none (hfolders folder hfolder) .directory
    rw [List.filterMap_append, hnone, List.append_nil, List.filterMap_map] at hperm
    rwa [sources, List.map_filterMap, ← show nodeSource? ∘ node = _ from funext nodeSource?_node]

theorem functions_load_of_storedIn {storage : Storage} (h : pack.StoredIn storage) (path : Path) :
    (Datapack.load path storage).map Datapack.functions =
      functionsOfSources (pack.sources.mergeSort Source.le) := by
  cases h with
  | archive h =>
    obtain ⟨listed, hlisted, hperm⟩ := exists_sourcesOfMembers h
    rw [Datapack.functions_load_of_sources (.archive _) hlisted,
      Source.mergeSort_eq_of_perm pack.texts_nodup hperm]
  | directory hfolders h =>
    obtain ⟨listed, hlisted, hperm⟩ := exists_sourcesOfNodes hfolders h
    have htexts : ((pack.sources.map Source.unified).map fun source => source.1.toText).Nodup := by
      rw [List.map_map]
      exact pack.texts_nodup
    rw [Datapack.functions_load_of_sources (.directory _) hlisted,
      Source.mergeSort_eq_of_perm htexts hperm, mergeSort_unified, functionsOfSources_unified]

/-- However the files of a datapack are stored and listed, loading it gives the same: the functions
of the files whose paths name one, in the order of the texts of their names, or what is reported of
the first line that cannot be read of the first of them with such a line. -/
theorem load_ignores_storage (pack : PackFiles) :
    ∃ sources result, sources.Perm pack.sources ∧
      sources.Pairwise (fun a b => a.1.toText < b.1.toText) ∧ Loads sources result ∧
      ∀ path storage, pack.StoredIn storage →
        (Datapack.load path storage).map Datapack.functions = result :=
  ⟨pack.sources.mergeSort Source.le, functionsOfSources (pack.sources.mergeSort Source.le),
    List.mergeSort_perm _ _, Source.pairwise_lt_mergeSort pack.texts_nodup,
    loads_functionsOfSources _, fun path _ h => functions_load_of_storedIn h path⟩

/-- Two functions that call each other, one below each spelling of their folder. -/
def twoFunctions : PackFiles where
  files := [("pack.mcmeta", "{}"), ("data/p/functions/b.mcfunction", "# back\r\nfunction p:a\r"),
    ("data/p/function/a.mcfunction", "function p:b\n")]
  paths_nodup := by decide +kernel
  paths_unbroken := by decide +kernel
  ids_nodup := by decide +kernel

theorem load_ignores_storage_twoFunctions :
    let folders := ["data", "data/p", "data/p/functions", "data/p/function"]
    (Datapack.load ⟨"", ["two.zip"]⟩ (.archive (twoFunctions.files.reverse.map member))).map
        Datapack.functions =
      (Datapack.load ⟨"", ["two"]⟩ (.directory
        (folders.map (fun folder => (folder, .directory)) ++ twoFunctions.files.map node))).map
        Datapack.functions := by
  intro folders
  obtain ⟨_, _, -, -, -, hload⟩ := load_ignores_storage twoFunctions
  have harchive := hload ⟨"", ["two.zip"]⟩ _
    (.archive ((List.reverse_perm twoFunctions.files).map member))
  have hfolders : ∀ folder ∈ folders, FunctionId.ofPath? folder = none := by decide +kernel
  have hdirectory := hload ⟨"", ["two"]⟩ _ (.directory hfolders List.perm_append_comm)
  exact harchive.trans hdirectory.symm

end PackFiles

end Scoreboard
