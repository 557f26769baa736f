import Scoreboard.Datapack.FunctionName
import Scoreboard.Proofs.Command.RoundTrip
import Scoreboard.Proofs.Datapack.Storage
import Scoreboard.Proofs.Game.Effects

namespace Scoreboard

open Text Reader

namespace FunctionId

variable {path : String} {id : FunctionId}

theorem wellFormed_of_ofPath? (h : ofPath? path = some id) : id.WellFormed := by
  obtain ⟨scope, hscope, hs, hn, -⟩ := exists_of_ofPath? h
  refine ⟨hn, fun scope' hscope' => ?_⟩
  rw [hscope] at hscope'
  exact Option.some.inj hscope' ▸ hs

theorem parse_call (h : id.WellFormed) : parse ("function " ++ id.toText) = .ok (.function id) :=
  parse_of_render h rfl

theorem ofText_toText {scope : String} (hscope : id.scope = some scope) (hs : scope ≠ "")
    (hn : IsName id.name) : ofText id.toText = id := by
  obtain ⟨name, _⟩ := id
  cases hscope
  have hcolon : ∀ c ∈ name.toList.reverse, (c != ':') = true := by
    intro c hc
    have hne : c ≠ ':' := by
      rintro rfl
      exact colon_not_mem_of_isName hn (List.mem_reverse.1 hc)
    simpa using hne
  have hreversed : (toText ⟨name, some scope⟩).toList.reverse =
      name.toList.reverse ++ ':' :: scope.toList.reverse := by
    simp [toText]
  have hhead : ∀ c ∈ (':' :: scope.toList.reverse).head?, (c != ':') = false := by simp
  simp only [ofText, hreversed, takeWhile_append_of_head hcolon hhead,
    dropWhile_append_of_head hcolon hhead, List.reverse_reverse, String.ofList_toList,
    List.drop_succ_cons, List.drop_zero]
  simpa using hs

end FunctionId

namespace Source

/-- Sources of one name keep their order when all are sorted by the texts of their names. -/
theorem filter_mergeSort (sources : List Source) (id : FunctionId) :
    (sources.mergeSort Source.le).filter (fun source => source.1 = id) =
      sources.filter fun source => source.1 = id := by
  have hsorted : (sources.filter fun source => source.1 = id).Pairwise
      fun a b => Source.le a b = true := by
    refine List.pairwise_of_forall_mem_list fun a ha b hb => ?_
    have hid : a.1 = b.1 := by
      rw [of_decide_eq_true (List.mem_filter.1 ha).2, of_decide_eq_true (List.mem_filter.1 hb).2]
    rw [Source.le, hid]
    exact decide_eq_true (String.le_refl _)
  have hsub := (List.sublist_mergeSort le_trans le_total hsorted List.filter_sublist).filter
    fun source => decide (source.1 = id)
  rw [List.filter_filter] at hsub
  simp only [Bool.and_self] at hsub
  exact (hsub.eq_of_length ((List.mergeSort_perm _ _).filter _).length_eq.symm).symm

theorem find?_mergeSort (sources : List Source) (id : FunctionId) :
    (sources.mergeSort Source.le).find? (fun source => source.1 = id) =
      sources.find? fun source => source.1 = id := by
  rw [← List.head?_filter, filter_mergeSort, List.head?_filter]

end Source

theorem forall₂_of_functionsOfSources {sources : List Source} {functions : List Function}
    (h : functionsOfSources sources = .ok functions) :
    List.Forall₂ (fun source f => Function.ofText source.1 source.2 = .ok f) sources functions := by
  induction sources generalizing functions with
  | nil =>
    cases h
    exact .nil
  | cons source rest ih =>
    obtain ⟨id, text⟩ := source
    rw [functionsOfSources] at h
    cases hf : Function.ofText id text with
    | error e =>
      rw [hf] at h
      cases h
    | ok f =>
      cases hothers : functionsOfSources rest with
      | error e =>
        rw [hf, hothers] at h
        cases h
      | ok others =>
        rw [hf, hothers] at h
        cases h
        exact .cons hf (ih hothers)

section

variable {sources : List Source} {functions : List Function}

theorem find?_cases_of_forall₂ (h : List.Forall₂
    (fun source f => Function.ofText source.1 source.2 = .ok f) sources functions)
    (id : FunctionId) :
    sources.find? (fun source => source.1 = id) = none ∧
        functions.find? (fun f => f.id = id) = none ∨
      ∃ source f, sources.find? (fun source => source.1 = id) = some source ∧
        Function.ofText source.1 source.2 = .ok f ∧
          functions.find? (fun f => f.id = id) = some f := by
  induction h with
  | nil => exact .inl ⟨rfl, rfl⟩
  | @cons source f rest others hf hrest ih =>
    have hid : f.id = source.1 := (Function.ofText_eq_ok_iff.1 hf).1
    by_cases he : source.1 = id
    · exact .inr ⟨source, f, by simp [he], hf, by simp [hid, he]⟩
    · simpa [hid, he] using ih

theorem exists_source_of_forall₂ (h : List.Forall₂
    (fun source f => Function.ofText source.1 source.2 = .ok f) sources functions) :
    ∀ f ∈ functions, ∃ source ∈ sources, f.id = source.1 := by
  induction h with
  | nil => simp
  | @cons source f rest others hf hrest ih =>
    refine List.forall_mem_cons.2
      ⟨⟨source, List.mem_cons_self, (Function.ofText_eq_ok_iff.1 hf).1⟩, ?_⟩
    intro other ho
    obtain ⟨found, hfound, hid⟩ := ih other ho
    exact ⟨found, List.mem_cons_of_mem source hfound, hid⟩

end

theorem exists_path_of_sourcesOfNodes {nodes : List (String × Node)} {sources : List Source}
    (h : sourcesOfNodes nodes = .ok sources) :
    ∀ source ∈ sources, ∃ path, FunctionId.ofPath? path = some source.1 := by
  induction nodes generalizing sources with
  | nil =>
    cases h
    exact List.forall_mem_nil _
  | cons entry rest ih =>
    obtain ⟨path, node⟩ := entry
    rw [sourcesOfNodes] at h
    split at h
    · exact ih h
    · next id hid =>
      have hpath : FunctionId.ofPath? path = some id := by
        split at hid
        · exact hid
        · cases hid
      dsimp only at h
      split at h
      · obtain ⟨bytes, -, h⟩ := except_bind_eq_ok_iff.1 h
        obtain ⟨text, -, h⟩ := except_bind_eq_ok_iff.1 h
        obtain ⟨others, hothers, h⟩ := except_bind_eq_ok_iff.1 h
        cases h
        exact List.forall_mem_cons.2 ⟨⟨path, hpath⟩, ih hothers⟩
      · cases h
      · cases h

theorem exists_path_of_sourcesOfMembers {members listed : List (String × ByteArray)}
    {sources : List Source} (h : sourcesOfMembers members listed = .ok sources) :
    ∀ source ∈ sources, ∃ path, FunctionId.ofPath? path = some source.1 := by
  induction listed generalizing sources with
  | nil =>
    cases h
    exact List.forall_mem_nil _
  | cons entry rest ih =>
    obtain ⟨path, bytes⟩ := entry
    rw [sourcesOfMembers] at h
    split at h
    · exact ih h
    · next id hid =>
      obtain ⟨text, -, h⟩ := except_bind_eq_ok_iff.1 h
      obtain ⟨others, hothers, h⟩ := except_bind_eq_ok_iff.1 h
      cases h
      exact List.forall_mem_cons.2 ⟨⟨path, hid⟩, ih hothers⟩

theorem Storage.exists_path {storage : Storage} {path : Path} {sources : List Source}
    (h : storage.sources path = .ok sources) :
    ∀ source ∈ sources, ∃ path, FunctionId.ofPath? path = some source.1 := by
  cases storage with
  | directory nodes => exact exists_path_of_sourcesOfNodes h
  | archive members => exact exists_path_of_sourcesOfMembers h
  | absent | plain | unreachable => cases h

namespace Datapack

/-- A name leads to the function of the first source that has it, if there is one. -/
structure FindsFirst (pack : Datapack) (sources : List Source) (id : FunctionId) : Prop where
  found {before after : List Source} {text : String} : sources = before ++ (id, text) :: after →
    (∀ earlier ∈ before, earlier.1 ≠ id) →
      ∃ f, Function.ofText id text = .ok f ∧ pack.find? id = some f
  missing : (∀ source ∈ sources, source.1 ≠ id) → pack.find? id = none

theorem findsFirst_of_functionsOfSources {sources : List Source} {functions : List Function}
    (h : functionsOfSources (sources.mergeSort Source.le) = .ok functions) (name : String)
    (id : FunctionId) : FindsFirst ⟨name, functions⟩ sources id := by
  have hcases := find?_cases_of_forall₂ (forall₂_of_functionsOfSources h) id
  rw [Source.find?_mergeSort] at hcases
  constructor
  · intro before after text hsources hbefore
    have hfirst : sources.find? (fun source => source.1 = id) = some (id, text) := by
      refine List.find?_eq_some_iff_append.2 ⟨by simp, before, after, hsources, ?_⟩
      simpa using fun a b hab => hbefore (a, b) hab
    rcases hcases with ⟨hnone, -⟩ | ⟨source, f, hsource, hf, hfound⟩
    · rw [hfirst] at hnone
      cases hnone
    · rw [hfirst] at hsource
      cases hsource
      exact ⟨f, hf, hfound⟩
  · intro hmissing
    rcases hcases with ⟨-, hnone⟩ | ⟨source, f, hsource, -, -⟩
    · exact hnone
    · exact absurd (of_decide_eq_true (List.find?_some hsource :))
        (hmissing source (List.mem_of_find?_eq_some hsource))

theorem functionsOfSources_of_load {path : Path} {storage : Storage} {sources : List Source}
    {pack : Datapack} (hs : storage.sources path = .ok sources) (h : load path storage = .ok pack) :
    functionsOfSources (sources.mergeSort Source.le) = .ok pack.functions := by
  have hfunctions := functions_load_of_sources storage hs
  rw [h] at hfunctions
  exact hfunctions.symm

/-- The paths that name functions are known by their form, and each name that they give is read back
from its text, by a command and from a command line, so that no two have the same text. In a
datapack it leads to the function of the first source of that name, in the order in which the
sources are listed, and all functions of a stored datapack have such names. -/
theorem calls_reach_functions :
    (∀ path scope name, FunctionId.ofPath? path = some ⟨name, some scope⟩ ↔
      IsName scope ∧ IsName name ∧ ∃ folder ∈ ["/functions/", "/function/"],
        ∃ ending ∈ ["", "\n"],
          path = "data/" ++ scope ++ folder ++ name ++ ".mcfunction" ++ ending) ∧
    (∀ path id, FunctionId.ofPath? path = some id → (∃ scope, id.scope = some scope) ∧
      parse ("function " ++ id.toText) = .ok (.function id) ∧ FunctionId.ofText id.toText = id) ∧
    (∀ path path' id id', FunctionId.ofPath? path = some id → FunctionId.ofPath? path' = some id' →
      id ≠ id' → id.toText ≠ id'.toText) ∧
    (∀ sources functions, functionsOfSources (sources.mergeSort Source.le) = .ok functions →
      ∀ name id, FindsFirst ⟨name, functions⟩ sources id) ∧
    ∀ path storage sources pack, Storage.sources path storage = .ok sources →
      load path storage = .ok pack →
        (∀ id, pack.FindsFirst sources id) ∧
        ∀ f ∈ pack.functions, ∃ file, FunctionId.ofPath? file = some f.id := by
  refine ⟨fun _ _ _ => FunctionId.ofPath?_eq_some_iff, ?_, ?_, ?_, ?_⟩
  · intro path id h
    obtain ⟨scope, hscope, hs, hn, -⟩ := FunctionId.exists_of_ofPath? h
    have hne : scope ≠ "" := fun he => hs.1 (by rw [he]; rfl)
    exact ⟨⟨scope, hscope⟩, FunctionId.parse_call (FunctionId.wellFormed_of_ofPath? h),
      FunctionId.ofText_toText hscope hne hn⟩
  · intro path path' id id' h h' hid htext
    exact hid (FunctionId.toText_injective_of_ofPath? h h' htext)
  · exact fun sources functions h => findsFirst_of_functionsOfSources h
  · intro path storage sources pack hs h
    have hfunctions := functionsOfSources_of_load hs h
    refine ⟨findsFirst_of_functionsOfSources hfunctions pack.name, fun f hf => ?_⟩
    obtain ⟨source, hsource, hid⟩ :=
      exists_source_of_forall₂ (forall₂_of_functionsOfSources hfunctions) f hf
    rw [hid]
    exact storage.exists_path hs source (List.mem_mergeSort.1 hsource)

/-- The members of an archive with one function below each spelling of the folder. -/
def twoFolders : List (String × ByteArray) := [
  ("data/p/functions/a.mcfunction", "function p:b".toUTF8),
  ("data/p/function/a.mcfunction", "tellraw Ada \"a\"".toUTF8),
  ("data/p/function/b.mcfunction", "".toUTF8)]

/-- The function that is listed first is the one that its name leads to. -/
theorem calls_reach_functions_twoFolders :
    ∃ pack, load ⟨"", ["two.zip"]⟩ (.archive twoFolders) = .ok pack ∧
      pack.find? ⟨"a", some "p"⟩ = some ⟨⟨"a", some "p"⟩, [.function ⟨"b", some "p"⟩]⟩ := by
  let later : List Source :=
    [(⟨"a", some "p"⟩, "tellraw Ada \"a\""), (⟨"b", some "p"⟩, "")]
  let sources : List Source := (⟨"a", some "p"⟩, "function p:b") :: later
  have hsources : Storage.sources ⟨"", ["two.zip"]⟩ (.archive twoFolders) = .ok sources := by
    decide +kernel
  have hsorted : sources.mergeSort Source.le = sources :=
    List.mergeSort_of_pairwise (by decide +kernel)
  have hread : ∃ functions, functionsOfSources sources = .ok functions :=
    ⟨[⟨⟨"a", some "p"⟩, [.function ⟨"b", some "p"⟩]⟩,
      ⟨⟨"a", some "p"⟩, [.tellraw (.player "Ada") "a"]⟩, ⟨⟨"b", some "p"⟩, []⟩], by decide +kernel⟩
  obtain ⟨functions, hfunctions⟩ := hread
  have hload : load ⟨"", ["two.zip"]⟩ (.archive twoFolders) = .ok ⟨"two", functions⟩ := by
    have hstem : Path.stem ⟨"", ["two.zip"]⟩ = "two" := by decide +kernel
    rw [load, hsources, hstem]
    simp only [bind, Except.bind, hsorted, hfunctions]
    rfl
  obtain ⟨-, -, -, -, hstored⟩ := calls_reach_functions
  have hfirst : sources = [] ++ (⟨"a", some "p"⟩, "function p:b") :: later := rfl
  obtain ⟨f, hf, hfound⟩ := ((hstored _ _ _ _ hsources hload).1 ⟨"a", some "p"⟩).found hfirst
    (List.forall_mem_nil _)
  have hbody : Function.ofText ⟨"a", some "p"⟩ "function p:b" =
      .ok ⟨⟨"a", some "p"⟩, [.function ⟨"b", some "p"⟩]⟩ := by decide +kernel
  rw [hbody] at hf
  cases hf
  exact ⟨_, hload, hfound⟩

end Datapack

end Scoreboard
