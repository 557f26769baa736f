import Mathlib.Data.List.Basic
import Mathlib.Data.List.TakeWhile
import Scoreboard.Command.WellFormed
import Scoreboard.Datapack.FunctionPath
import Scoreboard.Proofs.Command.Tokens

namespace Scoreboard

open Text Reader

theorem leadingWord?_eq_some {s rest : List Char} {name : String}
    (h : leadingWord? s = some (name, rest)) : IsName name ∧ s = name.toList ++ rest := by
  unfold leadingWord? at h
  split at h
  · cases h
  · next hne =>
    obtain ⟨rfl, rfl⟩ := Prod.mk.inj (Option.some.inj h)
    rw [IsName, String.toList_ofList]
    refine ⟨⟨hne, ?_⟩, List.takeWhile_append_dropWhile.symm⟩
    intro c hc
    exact List.mem_takeWhile_imp hc

theorem leadingWord?_append {name : String} (h : IsName name) {rest : List Char}
    (hrest : ∀ c ∈ rest.head?, isWord c = false) :
    leadingWord? (name.toList ++ rest) = some (name, rest) := by
  unfold leadingWord?
  have htake := takeWhile_append_of_head h.2 hrest
  have hdrop := dropWhile_append_of_head h.2 hrest
  split
  · next hempty => exact absurd (htake.symm.trans hempty) h.1
  · rw [htake, hdrop, String.ofList_toList]

theorem afterLead?_append (lead rest : List Char) : afterLead? lead (lead ++ rest) = some rest :=
  List.isPrefixOf?_eq_some_iff_append_eq.2 rfl

theorem afterLead?_eq_some {lead s rest : List Char} (h : afterLead? lead s = some rest) :
    s = lead ++ rest :=
  (List.isPrefixOf?_eq_some_iff_append_eq.1 h).symm

theorem afterFolder?_eq_some {s rest : List Char} (h : afterFolder? s = some rest) :
    ∃ folder ∈ ["/functions/", "/function/"], s = folder.toList ++ rest := by
  unfold afterFolder? at h
  split at h
  · next hs =>
    rw [Option.some.inj h] at hs
    exact ⟨_, by simp, afterLead?_eq_some hs⟩
  · exact ⟨_, by simp, afterLead?_eq_some h⟩

theorem afterFolder?_append {folder : String} (h : folder ∈ ["/functions/", "/function/"])
    (rest : List Char) : afterFolder? (folder.toList ++ rest) = some rest := by
  rw [List.mem_pair] at h
  rcases h with rfl | rfl
  · rw [afterFolder?, afterLead?_append]
  · have hother : afterLead? "/functions/".toList ("/function/".toList ++ rest) = none := by
      simp [afterLead?, List.isPrefixOf?]
    rw [afterFolder?, hother, afterLead?_append]

namespace FunctionId

theorem exists_of_ofPath? {path : String} {id : FunctionId} (h : ofPath? path = some id) :
    ∃ scope, id.scope = some scope ∧ IsName scope ∧ IsName id.name ∧
      ∃ folder ∈ ["/functions/", "/function/"], ∃ ending ∈ ["", "\n"],
        path = "data/" ++ scope ++ folder ++ id.name ++ ".mcfunction" ++ ending := by
  simp only [ofPath?, Option.bind_eq_bind, Option.bind_eq_some_iff, Prod.exists] at h
  obtain ⟨s, hs, scope, s', hscope, t, ht, name, t', hname, ending, hending, h⟩ := h
  obtain ⟨hs', rfl⟩ := leadingWord?_eq_some hscope
  obtain ⟨folder, hfolder, rfl⟩ := afterFolder?_eq_some ht
  obtain ⟨hn', rfl⟩ := leadingWord?_eq_some hname
  rw [afterLead?_eq_some hending] at hs
  split at h
  · next hrest =>
    cases h
    refine ⟨scope, rfl, hs', hn', folder, hfolder, String.ofList ending, ?_, ?_⟩
    · rcases hrest with rfl | rfl <;> simp
    · rw [← String.toList_inj, afterLead?_eq_some hs]
      simp
  · cases h

theorem ofPath?_of_names {scope name folder ending : String} (hs : IsName scope) (hn : IsName name)
    (hfolder : folder ∈ ["/functions/", "/function/"]) (hending : ending ∈ ["", "\n"]) :
    ofPath? ("data/" ++ scope ++ folder ++ name ++ ".mcfunction" ++ ending) =
      some ⟨name, some scope⟩ := by
  -- each word ends where a slash or a dot stands
  have hslash : ∀ rest, ∀ c ∈ (folder.toList ++ rest).head?, isWord c = false := by
    rw [List.mem_pair] at hfolder
    rcases hfolder with rfl | rfl <;> simp <;> decide
  have hdot : ∀ rest, ∀ c ∈ (".mcfunction".toList ++ rest).head?, isWord c = false := by
    simp
    decide
  have hrest : ending.toList = [] ∨ ending.toList = ['\n'] := by
    rw [List.mem_pair] at hending
    rcases hending with rfl | rfl <;> simp
  simp only [ofPath?, String.toList_append, List.append_assoc, afterLead?_append,
    leadingWord?_append hs (hslash _), afterFolder?_append hfolder, leadingWord?_append hn (hdot _),
    Option.bind_eq_bind, Option.bind_some, if_pos hrest]

/-- The paths that name a function are written from its scope and its name in four ways. -/
theorem ofPath?_eq_some_iff {path scope name : String} :
    ofPath? path = some ⟨name, some scope⟩ ↔ IsName scope ∧ IsName name ∧
      ∃ folder ∈ ["/functions/", "/function/"], ∃ ending ∈ ["", "\n"],
        path = "data/" ++ scope ++ folder ++ name ++ ".mcfunction" ++ ending := by
  constructor
  · intro h
    obtain ⟨_, ⟨⟩, hs, hn, hpath⟩ := exists_of_ofPath? h
    exact ⟨hs, hn, hpath⟩
  · rintro ⟨hs, hn, folder, hfolder, ending, hending, rfl⟩
    exact ofPath?_of_names hs hn hfolder hending

theorem colon_not_mem_of_isName {name : String} (h : IsName name) : ':' ∉ name.toList := by
  intro hc
  exact absurd (h.2 ':' hc) (by decide)

/-- The colon stands once in the text of such a name, so that the text can be cut in one way only.
-/
theorem toText_injective_of_ofPath? {path path' : String} {id id' : FunctionId}
    (h : ofPath? path = some id) (h' : ofPath? path' = some id') (ht : id.toText = id'.toText) :
    id = id' := by
  obtain ⟨scope, hscope, hs, hn, -⟩ := exists_of_ofPath? h
  obtain ⟨scope', hscope', -⟩ := exists_of_ofPath? h'
  have hlist : scope.toList ++ ':' :: id.name.toList = scope'.toList ++ ':' :: id'.name.toList := by
    simpa [toText, hscope, hscope', ← String.toList_inj] using ht
  obtain ⟨hscopes, -, hnames⟩ := (List.append_cons_inj_of_notMem
    (colon_not_mem_of_isName hs) (colon_not_mem_of_isName hn)).1 hlist
  rcases id with ⟨name, _⟩
  rcases id' with ⟨name', _⟩
  cases hscope
  cases hscope'
  rw [mk.injEq, Option.some.injEq]
  exact ⟨String.toList_inj.1 hnames, String.toList_inj.1 hscopes⟩

theorem endsWith_of_ofPath? {path : String} {id : FunctionId} (h : ofPath? path = some id)
    (hend : path.toList.getLast? ≠ some '\n') : path.endsWith ".mcfunction" = true := by
  obtain ⟨scope, -, -, -, folder, -, ending, hending, rfl⟩ := exists_of_ofPath? h
  rw [List.mem_pair] at hending
  rcases hending with rfl | rfl
  · rw [String.endsWith_eq_endsWith_toSlice, String.Slice.endsWith_string_iff, String.append_empty,
      String.copy_toSlice, String.toList_append]
    exact List.suffix_append _ _
  · refine absurd ?_ hend
    rw [String.toList_append, List.getLast?_append]
    rfl

end FunctionId

end Scoreboard
