import Scoreboard.Proofs.Command.Phrases

namespace Scoreboard

open Text Reader Parse

namespace Parse

variable {β : Type}

theorem name_head (name : String) (t : Token) (h : IsName name ∧ t = plain name) :
    atGap t = false :=
  h.2 ▸ (unbroken_of_isName h.1).atGap

theorem quoted_head (message : String) (t : Token)
    (h : IsMessage message ∧ t = quotedToken message) : atGap t = false :=
  h.2 ▸ rfl

theorem symbol_head {word : β → String} (hword : ∀ b, Unbroken (plain (word b))) (b : β) (t : Token)
    (h : t = plain (word b)) : atGap t = false :=
  h ▸ (hword b).atGap

theorem target_head (target : Target) (t : Token) (h : target.Written t) : atGap t = false :=
  (unbroken_of_target h).atGap

theorem unbroken_criteria (c : Criteria) : Unbroken (plain c.word) := by
  cases c
  decide

theorem unbroken_renderType (type : RenderType) : Unbroken (plain type.word) := by
  cases type <;> decide

theorem unbroken_slot (slot : DisplaySlot) : Unbroken (plain slot.word) := by
  cases slot <;> decide

theorem unbroken_operation (op : Operation) : Unbroken (plain op.symbol) := by
  cases op <;> decide

theorem unbroken_comparison (relation : Comparison) : Unbroken (plain relation.symbol) := by
  cases relation <;> decide

theorem reads_addObjective :
    Reads led AtEnd addObjective fun c us => c.Written (plain "add" :: us) := by
  refine (readsToken_objective.afterSpace atGap_of_atEnd name_head fun name =>
    readsToken_criteria.afterSpace atGap_of_atEnd (symbol_head unbroken_criteria) fun criteria =>
    (readsToken_quotedString.endOr quoted_head).map (ObjectivesCommand.add name criteria)).congr ?_
  rintro (⟨_, _, _ | _⟩ | _ | _ | _ | _) us <;> simp only [ObjectivesCommand.Written] <;> grind

theorem beginsWith_modification :
    BeginsWith ["displayname", "rendertype"] Modification.Written := by
  intro change ts h
  cases change with
  | displayName name => exact ⟨_, by simp, _, h.2⟩
  | renderType type => exact ⟨"rendertype", by simp, _, h⟩

theorem reads_modification : Reads spaced AtEnd modification Modification.Written := by
  refine reads_branch atGap_of_atEnd (by decide) (by decide) beginsWith_modification ?_
  simp only [List.forall_mem_cons, List.not_mem_nil, false_imp_iff, implies_true, and_true]
  constructor
  · refine (readsToken_quotedString.last atGap_of_atEnd quoted_head
      Modification.displayName).congr ?_
    rintro ⟨⟩ us <;> simp only [Modification.Written] <;> grind
  · refine (readsToken_renderType.last atGap_of_atEnd (symbol_head unbroken_renderType)
      Modification.renderType).congr ?_
    rintro ⟨⟩ us <;> simp only [Modification.Written] <;> grind

theorem reads_modifyObjective :
    Reads led AtEnd modifyObjective fun c us => c.Written (plain "modify" :: us) := by
  have hhead := beginsWith_modification.head (by decide)
  refine (readsToken_objective.afterSpace atGap_of_atEnd name_head fun name =>
    reads_modification.mapAfterSpace hhead (ObjectivesCommand.modify name)).congr ?_
  rintro (⟨_, _, _ | _⟩ | _ | _ | _ | _) us <;> simp only [ObjectivesCommand.Written] <;> grind

theorem reads_removeObjective :
    Reads led AtEnd removeObjective fun c us => c.Written (plain "remove" :: us) := by
  refine (readsToken_objective.last atGap_of_atEnd name_head ObjectivesCommand.remove).congr ?_
  rintro (⟨_, _, _ | _⟩ | _ | _ | _ | _) us <;> simp only [ObjectivesCommand.Written] <;> grind

theorem reads_setDisplay :
    Reads led AtEnd setDisplay fun c us => c.Written (plain "setdisplay" :: us) := by
  refine (readsToken_slot.afterSpace atGap_of_atEnd (symbol_head unbroken_slot) fun slot =>
    readsToken_objective.last atGap_of_atEnd name_head (ObjectivesCommand.setDisplay slot)).congr ?_
  rintro (⟨_, _, _ | _⟩ | _ | _ | _ | _) us <;> simp only [ObjectivesCommand.Written] <;> grind

theorem beginsWith_objectivesCommand :
    BeginsWith ["add", "list", "modify", "remove", "setdisplay"] ObjectivesCommand.Written := by
  rintro (⟨_, _, _ | _⟩ | _ | _ | _ | _) ts h <;> simp only [ObjectivesCommand.Written] at h <;>
    grind

theorem reads_objectivesCommand :
    Reads spaced AtEnd objectivesCommand ObjectivesCommand.Written := by
  refine reads_branch atGap_of_atEnd (by decide) (by decide) beginsWith_objectivesCommand ?_
  simp only [List.forall_mem_cons, List.not_mem_nil, false_imp_iff, implies_true, and_true]
  refine ⟨reads_addObjective, ?_, reads_modifyObjective, reads_removeObjective, reads_setDisplay⟩
  refine (reads_pure ObjectivesCommand.list).congr ?_
  rintro (⟨_, _, _ | _⟩ | _ | _ | _ | _) us <;> simp only [ObjectivesCommand.Written] <;> grind

def CellWritten (place : Target × String) (us : List Token) : Prop :=
  ∃ who, place.1.Written who ∧ IsName place.2 ∧ us = [who, plain place.2]

theorem reads_cell : Reads led AtGap cell CellWritten := by
  refine (readsToken_target.afterSpace (fun _ => id) target_head fun who =>
    readsToken_objective.last (fun _ => id) name_head fun name => (who, name)).congr ?_
  rintro ⟨who, name⟩ us
  simp only [CellWritten]
  grind

theorem reads_cell_number {number : Reader Int} {W : Int → Token → Prop}
    (hnumber : ReadsToken number W) (hhead : ∀ n t, W n t → atGap t = false)
    (f : Target → String → Int → PlayersCommand) :
    Reads led AtEnd (cell >>= fun place => space >>= fun _ => number >>= fun n =>
        pure (f place.1 place.2 n)) fun c us =>
      ∃ target name n who t, target.Written who ∧ IsName name ∧ W n t ∧ c = f target name n ∧
        us = [who, plain name, t] := by
  refine (reads_cell.bind atGap_of_atEnd fun place =>
    hnumber.last atGap_of_atEnd hhead (f place.1 place.2)).congr ?_
  intro c us
  simp only [CellWritten, Prod.exists]
  constructor
  · rintro ⟨target, name, _, _, ⟨who, hw, hn, rfl⟩, ⟨n, t, ht, hc, rfl⟩, rfl⟩
    exact ⟨target, name, n, who, t, hw, hn, ht, hc, rfl⟩
  · rintro ⟨target, name, n, who, t, hw, hn, ht, hc, rfl⟩
    exact ⟨target, name, _, _, ⟨who, hw, hn, rfl⟩, ⟨n, t, ht, hc, rfl⟩, rfl⟩

theorem unsigned_head (n : Int) (t : Token) (h : IsUnsigned n t) : atGap t = false :=
  (unbroken_of_isUnsigned h).atGap

theorem signed_head (n : Int) (t : Token) (h : IsSigned n t) : atGap t = false :=
  (unbroken_of_isSigned h).atGap

theorem reads_addScore :
    Reads led AtEnd addScore fun c us => c.Written (plain "add" :: us) := by
  refine (reads_cell_number readsToken_naturalInteger unsigned_head .add).congr ?_
  rintro (_ | _ | _ | ⟨_ | _⟩ | _ | _ | _ | _) us <;> simp only [PlayersCommand.Written] <;> grind

theorem reads_removeScore :
    Reads led AtEnd removeScore fun c us => c.Written (plain "remove" :: us) := by
  refine (reads_cell_number readsToken_naturalInteger unsigned_head .remove).congr ?_
  rintro (_ | _ | _ | ⟨_ | _⟩ | _ | _ | _ | _) us <;> simp only [PlayersCommand.Written] <;> grind

theorem reads_setScore :
    Reads led AtEnd setScore fun c us => c.Written (plain "set" :: us) := by
  refine (reads_cell_number readsToken_signedInteger signed_head .set).congr ?_
  rintro (_ | _ | _ | ⟨_ | _⟩ | _ | _ | _ | _) us <;> simp only [PlayersCommand.Written] <;> grind

theorem reads_operation :
    Reads led AtEnd operation fun c us => c.Written (plain "operation" :: us) := by
  refine (reads_cell.bind atGap_of_atEnd fun left =>
    readsToken_operation.afterSpace atGap_of_atEnd (symbol_head unbroken_operation) fun op =>
    reads_cell.atEnd.map fun right =>
      PlayersCommand.operation left.1 left.2 op right.1 right.2).congr ?_
  intro c us
  simp only [CellWritten, Prod.exists]
  constructor
  · rintro ⟨target, name, _, _, ⟨who, hw, hn, rfl⟩,
      ⟨op, _, _, rfl, ⟨source, name', ⟨whose, hw', hn',
      rfl⟩, rfl⟩, rfl⟩, rfl⟩
    exact ⟨hn, hn', who, whose, hw, hw', rfl⟩
  · intro h
    -- no other command begins with the word that stands in front here
    cases c with
    | operation target name op source name' =>
      obtain ⟨hn, hn', who, whose, hw, hw', hts⟩ := h
      exact ⟨target, name, _, _, ⟨who, hw, hn, rfl⟩,
        ⟨op, _, _, rfl, ⟨source, name', ⟨whose, hw', hn',
        rfl⟩, rfl⟩, rfl⟩, by simpa using hts⟩
    | list target => cases target <;> simp only [PlayersCommand.Written] at h <;> grind
    | _ => simp only [PlayersCommand.Written] at h; grind

theorem beginsWith_playersCommand :
    BeginsWith ["add", "enable", "get", "list", "operation", "remove", "reset", "set"]
      PlayersCommand.Written := by
  intro c ts h
  cases c with
  | add target objective amount =>
    obtain ⟨-, who, n, -, -, rfl⟩ := h
    exact ⟨"add", by decide, _, rfl⟩
  | enable target objective =>
    obtain ⟨-, who, -, rfl⟩ := h
    exact ⟨"enable", by decide, _, rfl⟩
  | get target objective =>
    obtain ⟨-, who, -, rfl⟩ := h
    exact ⟨"get", by decide, _, rfl⟩
  | list target =>
    cases target with
    | none => exact ⟨"list", by decide, _, h⟩
    | some target =>
      obtain ⟨who, -, rfl⟩ := h
      exact ⟨"list", by decide, _, rfl⟩
  | operation target targetObjective op source sourceObjective =>
    obtain ⟨-, -, who, whose, -, -, rfl⟩ := h
    exact ⟨"operation", by decide, _, rfl⟩
  | remove target objective amount =>
    obtain ⟨-, who, n, -, -, rfl⟩ := h
    exact ⟨"remove", by decide, _, rfl⟩
  | reset target objective =>
    obtain ⟨-, who, -, rfl⟩ := h
    exact ⟨"reset", by decide, _, rfl⟩
  | set target objective score =>
    obtain ⟨-, who, n, -, -, rfl⟩ := h
    exact ⟨"set", by decide, _, rfl⟩

theorem reads_playersCommand : Reads spaced AtEnd playersCommand PlayersCommand.Written := by
  refine reads_branch atGap_of_atEnd (by decide) (by decide) beginsWith_playersCommand ?_
  simp only [List.forall_mem_cons, List.not_mem_nil, false_imp_iff, implies_true, and_true]
  refine ⟨reads_addScore, (reads_cell.atEnd.map _).congr ?_, (reads_cell.atEnd.map _).congr ?_,
    ((readsToken_target.endOr target_head).map _).congr ?_, reads_operation, reads_removeScore,
    (reads_cell.atEnd.map _).congr ?_, reads_setScore⟩ <;>
  · rintro (_ | _ | _ | ⟨_ | _⟩ | _ | _ | _ | _) us <;>
      simp only [PlayersCommand.Written, CellWritten, Prod.exists] <;> grind

end Parse

end Scoreboard
