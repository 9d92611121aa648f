import FlowScript.Proofs.Command.Shape
import FlowScript.Proofs.Dict
import FlowScript.Script.Assignment

/-!
# What is read as an argument

Whichever of its forms a run of tokens has, reading it marks a value as an argument only under the
name of a parameter that the command in scope declares (`readAssignments_declared`).
-/

namespace FlowScript

namespace Reading

/-- An entry that reading adds has a key that some text stands for, and the mark that was asked
for. -/
theorem mem_ofTriples {key? : String → Option String} {isArg : Bool} {env : Assignments}
    {pieces : List Piece} {e : String × Value}
    (h : e ∈ (ofTriples key? isArg env pieces).1.entries) :
    e ∈ env.entries ∨ (∃ key, key? key = some e.1) ∧ e.2.isArg = isArg := by
  fun_induction ofTriples key? isArg env pieces with
  | case1 env key value rest name hname ih =>
    rcases ih h with hput | hnew
    · rcases Dict.mem_entries_insert hput with rfl | hold
      · exact .inr ⟨⟨key, hname⟩, rfl⟩
      · exact .inl hold
    · exact .inr hnew
  | case2 => exact .inl h
  | case3 => exact .inl h

theorem mem_ofPairs {key? : String → Option String} {env : Assignments} {texts : List String}
    {e : String × Value} (h : e ∈ (ofPairs key? env texts).1.entries) :
    e ∈ env.entries ∨ ∃ key, key? key = some e.1 := by
  fun_induction ofPairs key? env texts with
  | case1 env key value rest name hname ih =>
    rcases ih h with hput | hnew
    · rcases Dict.mem_entries_insert hput with rfl | hold
      · exact .inr ⟨key, hname⟩
      · exact .inl hold
    · exact .inr hnew
  | case2 => exact .inl h
  | case3 => exact .inl h

theorem mem_ofPositions {names texts : List String} {e : String × Value}
    (h : e ∈ (ofPositions names texts).entries) : e.1 ∈ names := by
  obtain ⟨⟨name, value⟩, hmem, rfl⟩ := List.mem_map.1 (Dict.mem_entries_ofList h)
  exact (List.of_mem_zip hmem).1

theorem mem_ofEquations {key? : String → Option String} {isArg : Bool} {pieces : List Piece}
    {e : String × Value} (h : e ∈ (ofEquations key? isArg pieces).env.entries) :
    (∃ key, key? key = some e.1) ∧ e.2.isArg = isArg := by
  rcases mem_ofTriples h with hempty | hnew
  · exact absurd hempty (List.not_mem_nil)
  · exact hnew

variable {α : Type}

theorem mem_ofArguments {x : Executable α} {pieces : List Piece} {e : String × Value}
    (h : e ∈ (ofArguments x pieces).env.entries) : e.1 ∈ x.labels.map (·.name) := by
  have hdeclared : (∃ key, x.resolve key = some e.1) → e.1 ∈ x.labels.map (·.name) :=
    fun ⟨_, hkey⟩ => Label.mem_names_of_resolve hkey
  simp only [ofArguments] at h
  split at h
  · exact hdeclared (mem_ofEquations h).1
  · split at h
    · rcases mem_ofPairs h with hempty | hnew
      · exact absurd hempty (List.not_mem_nil)
      · exact hdeclared hnew
    · exact mem_ofPositions h

end Reading

namespace CommandTree

variable {α : Type} {t : CommandTree α}

/-- Values are marked as arguments under names of declared parameters only. -/
theorem readAssignments_declared {id : NodeId} {tokens : List String} {e : String × Value}
    (h : e ∈ (t.readAssignments id tokens).env.entries) (harg : e.2.isArg = true) :
    t.Declares id e.1 := by
  simp only [readAssignments] at h
  split at h
  · rename_i x hx
    exact ⟨x, (Option.filter_eq_some_iff.1 hx).1, Reading.mem_ofArguments h⟩
  · simp only [Reading.ofKeys] at h
    split at h
    · have hno := (Reading.mem_ofEquations h).2
      rw [harg] at hno
      simp at hno
    · exact absurd h (List.not_mem_nil)

end CommandTree

end FlowScript
