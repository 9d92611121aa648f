import FlowScript.Proofs.Script.Addressing
import FlowScript.Script.Flow

/-!
# The invocations of a flow

A script can be read if each of its sequences can (`readFlow_cases`). An invocation of its flow
names the commands of one of the sequences, though values for the whole script may have been taken
out of the first. So the path of an invocation is that of the command it is meant to run
(`Reads.displayPath`).
-/

namespace FlowScript

variable {α : Type} {t index : CommandTree α}

/-! ## One sequence after the other -/

namespace CommandTree

theorem readInvocations_cons (tokens : List String) (rest : List (List String)) :
    t.readInvocations (tokens :: rest) index =
      match t.readInvocation tokens index, t.readInvocations rest index with
      | .error e, _ => .error e
      | .ok _, .error e => .error e
      | .ok i, .ok is => .ok (i :: is) := by
  rw [readInvocations]
  cases t.readInvocation tokens index with
  | error e => rfl
  | ok i => cases t.readInvocations rest index <;> rfl

theorem readInvocations_eq_ok_iff {sequences : List (List String)} {is : List Invocation} :
    t.readInvocations sequences index = .ok is ↔
      sequences.map (t.readInvocation · index) = is.map .ok := by
  induction sequences generalizing is with
  | nil => cases is <;> simp [readInvocations]
  | cons tokens rest ih =>
    rw [readInvocations_cons, List.map_cons]
    cases htokens : t.readInvocation tokens index with
    | error e => cases is <;> simp
    | ok i =>
      cases hrest : t.readInvocations rest index with
      | error e => cases is <;> simp [← ih, hrest]
      | ok others => cases is <;> simp [← ih, hrest]

theorem readable_of_readInvocations {sequences : List (List String)} {is : List Invocation}
    (h : t.readInvocations sequences index = .ok is) :
    ∀ s ∈ sequences, ∃ i, t.readInvocation s index = .ok i := by
  intro s hs
  have hmem := List.mem_map_of_mem (f := (t.readInvocation · index)) hs
  rw [readInvocations_eq_ok_iff.1 h] at hmem
  obtain ⟨i, -, hi⟩ := List.mem_map.1 hmem
  exact ⟨i, hi.symm⟩

/-- The error of a list of sequences is that of one of them. -/
theorem exists_of_readInvocations_error {sequences : List (List String)} {e : ParseError}
    (h : t.readInvocations sequences index = .error e) :
    ∃ tokens ∈ sequences, t.readInvocation tokens index = .error e := by
  induction sequences with
  | nil => simp [readInvocations] at h
  | cons tokens rest ih =>
    rw [readInvocations_cons] at h
    cases htokens : t.readInvocation tokens index with
    | error e' =>
      simp only [htokens, Except.error.injEq] at h
      exact ⟨tokens, by simp, h ▸ htokens⟩
    | ok i =>
      cases hrest : t.readInvocations rest index with
      | error e' =>
        simp only [htokens, hrest, Except.error.injEq] at h
        obtain ⟨s, hs, hread⟩ := ih (h ▸ hrest)
        exact ⟨s, List.mem_cons_of_mem _ hs, hread⟩
      | ok others => simp [htokens, hrest] at h

/-! ## Flows -/

theorem readFlow_of_ok {b : Breaker} {tokens : List String} {is : List Invocation}
    (h : t.readInvocations (b.sequences tokens).groups index = .ok is) :
    t.readFlow b tokens index =
      .ok (if (b.sequences tokens).opensGlobal then .hoist is else .ofCommands is) := by
  rw [readFlow, h]
  rfl

/-- A script can be read if each of its sequences is read in a limited number of steps. -/
theorem readFlow_of_runWithin {b : Breaker} {tokens : List String} {n : Nat}
    {items : List (List PathItem)}
    (h : (b.sequences tokens).groups.map (fun s => (Walk.start s).runWithin t n) =
      items.map fun i => some (.ok i)) :
    t.readFlow b tokens = .ok (if (b.sequences tokens).opensGlobal
      then .hoist (items.map .ofItems) else .ofCommands (items.map .ofItems)) := by
  apply readFlow_of_ok
  rw [readInvocations_eq_ok_iff]
  generalize (b.sequences tokens).groups = groups at h
  induction groups generalizing items with
  | nil =>
    cases items with
    | nil => rfl
    | cons i is => simp at h
  | cons s rest ih =>
    cases items with
    | nil => simp at h
    | cons i is =>
      simp only [List.map_cons, List.cons.injEq] at h ⊢
      refine ⟨?_, ih h.2⟩
      rw [readInvocation, readItems, Walk.run_of_runWithin h.1]
      rfl

theorem readFlow_of_error {b : Breaker} {tokens : List String} {e : ParseError}
    (h : t.readInvocations (b.sequences tokens).groups index = .error e) :
    t.readFlow b tokens index = .error e := by
  rw [readFlow, h]
  rfl

/-- A script can be read unless one of its sequences cannot, and its error is that of a sequence. -/
theorem readFlow_cases (t index : CommandTree α) (b : Breaker) (tokens : List String) :
    (∃ flow, t.readFlow b tokens index = .ok flow ∧
      ∀ s ∈ (b.sequences tokens).groups, ∃ i, t.readInvocation s index = .ok i) ∨
    ∃ e, t.readFlow b tokens index = .error e ∧
      ∃ s ∈ (b.sequences tokens).groups, t.readInvocation s index = .error e := by
  cases his : t.readInvocations (b.sequences tokens).groups index with
  | error e => exact .inr ⟨e, readFlow_of_error his, exists_of_readInvocations_error his⟩
  | ok is => exact .inl ⟨_, readFlow_of_ok his, readable_of_readInvocations his⟩

end CommandTree

/-- Taking values for the whole script out of an invocation leaves its commands. -/
theorem Flow.mem_hoist {is : List Invocation} {i : Invocation} (h : i ∈ (hoist is).commands) :
    ∃ i' ∈ is, i'.commands = i.commands := by
  unfold hoist at h
  split at h
  · rename_i env segments rest
    rcases List.mem_cons.1 h with rfl | h
    · exact ⟨⟨⟨env, none⟩ :: segments⟩, by simp, by simp [Invocation.commands]⟩
    · exact ⟨i, List.mem_cons_of_mem _ h, rfl⟩
  · exact ⟨i, h, rfl⟩

namespace CommandTree

/-- An invocation that was read for a tree, on its own or in a script. -/
inductive Reads (t : CommandTree α) (i : Invocation) : Prop
  | sequence {tokens : List String} (h : t.readInvocation tokens = .ok i) : Reads t i
  | script {b : Breaker} {tokens : List String} {flow : Flow} (h : t.readFlow b tokens = .ok flow)
      (hi : i ∈ flow.commands) : Reads t i

/-- An invocation that was read names the commands of a sequence. -/
theorem Reads.commands {i : Invocation} (h : t.Reads i) :
    ∃ items id, t.Leads items id ∧ (Invocation.ofItems items).commands = i.commands := by
  have hsequence {tokens : List String} {i : Invocation} (hi : t.readInvocation tokens = .ok i) :
      ∃ items id, t.Leads items id ∧ (Invocation.ofItems items).commands = i.commands := by
    cases hitems : t.readItems tokens with
    | error e => simp [readInvocation, hitems, Except.map] at hi
    | ok items =>
      obtain ⟨id, hleads⟩ := leads_of_readItems hitems
      simp only [readInvocation, hitems, Except.map, Except.ok.injEq] at hi
      exact ⟨items, id, hleads, hi ▸ rfl⟩
  cases h with
  | sequence hi => exact hsequence hi
  | @script b tokens flow hflow hi =>
    cases his : t.readInvocations (b.sequences tokens).groups with
    | error e => simp [readFlow_of_error his] at hflow
    | ok is =>
      obtain ⟨i', hmem, hcommands⟩ : ∃ i' ∈ is, i'.commands = i.commands := by
        rw [readFlow_of_ok his, Except.ok.injEq] at hflow
        subst hflow
        split at hi
        · exact Flow.mem_hoist hi
        · exact ⟨i, hi, rfl⟩
      have hread := List.mem_map_of_mem (f := (Except.ok : Invocation → Except ParseError _)) hmem
      rw [← readInvocations_eq_ok_iff.1 his] at hread
      obtain ⟨s, -, hs⟩ := List.mem_map.1 hread
      rw [← hcommands]
      exact hsequence hs

theorem Leads.lt_size (hwf : t.WellFormed) {items : List PathItem} {id : NodeId}
    (h : t.Leads items id) : id.index < t.size := by
  induction h with
  | start => exact hwf.root_lt
  | take _ hmore ih =>
    cases hmore with
    | command hc => exact (mem_children.1 (mem_of_findChild hc)).1
    | _ => exact ih

/-- The path of an invocation is that of the command it is meant to run. -/
theorem Reads.displayPath (hwf : t.WellFormed) {i : Invocation} (h : t.Reads i) {n : Match}
    (hn : i.leaf? = some n) : n.node.index < t.size ∧ i.displayPath = t.displayPath n.node := by
  obtain ⟨items, id, hleads, hcommands⟩ := h.commands
  have hid : id = n.node := by
    rw [← hleads.isChain.2, ← Invocation.commands_ofItems, hcommands, lastFrom, List.getLast?_map]
    rw [Invocation.leaf?] at hn
    simp [hn]
  subst hid
  refine ⟨hleads.lt_size hwf, ?_⟩
  rw [Invocation.displayPath, Invocation.path, ← hcommands, Invocation.commands_ofItems,
    hleads.names hwf, CommandTree.displayPath]

end CommandTree

end FlowScript
