import FlowScript.Proofs.Command.Registration
import FlowScript.Proofs.Script.Flows
import FlowScript.Proofs.Script.Sequencing

/-!
# Scripts one after the other

Sequences are read each on its own and in order (`readInvocations_append`), and only the first
sequence of a script can hold values for all of it (`Flow.hoist_append`). So two scripts with a
separator between them are read as the first and then the second, the second as it is after a
separator (`readFlow_append`).
-/

namespace FlowScript

/-- The invocations of one flow and then those of another. The values for all of them are those of
the first. -/
def Flow.append (flow next : Flow) : Flow :=
  { flow with commands := flow.commands ++ next.commands }

/-- What follows the first invocation does not count for the values of a script. -/
theorem Flow.hoist_append {is : List Invocation} (hne : is ≠ []) (is' : List Invocation) :
    hoist (is ++ is') = (hoist is).append (ofCommands is') := by
  obtain ⟨⟨segments⟩, rest, rfl⟩ := List.exists_cons_of_ne_nil hne
  rcases segments with _ | ⟨⟨env, _ | command⟩, segments⟩ <;> rfl

namespace CommandTree

variable {α : Type} {t index : CommandTree α}

/-- The first error is the one of the whole. -/
theorem readInvocations_append (sequences sequences' : List (List String)) :
    t.readInvocations (sequences ++ sequences') index = (do
      let is ← t.readInvocations sequences index
      let is' ← t.readInvocations sequences' index
      .ok (is ++ is')) := by
  induction sequences with
  | nil =>
    rw [List.nil_append, readInvocations]
    cases t.readInvocations sequences' index <;> rfl
  | cons tokens rest ih =>
    rw [List.cons_append, readInvocations, readInvocations, ih]
    cases t.readInvocation tokens index with
    | error e => rfl
    | ok i =>
      cases t.readInvocations rest index with
      | error e => rfl
      | ok is => cases t.readInvocations sequences' index <;> rfl

/-- There are as many invocations as sequences. -/
theorem length_of_readInvocations {sequences : List (List String)} {is : List Invocation}
    (h : t.readInvocations sequences index = .ok is) : is.length = sequences.length := by
  simpa using (congrArg List.length (readInvocations_eq_ok_iff.1 h)).symm

/-- After a separator a script has no values for all of it. -/
theorem readFlow_sep_cons (t index : CommandTree α) {b : Breaker} (hsep : b.sep ≠ "")
    (tokens : List String) : t.readFlow b (b.sep :: tokens) index =
      (t.readInvocations (b.sequences tokens).groups index).map .ofCommands := by
  rw [readFlow, Breaker.sequences_sep_cons hsep]
  cases t.readInvocations (b.sequences tokens).groups index <;> rfl

/-- Two scripts with a separator between them, of which the first has a sequence, are read as the
first and then the second after a separator. The first error counts, the invocations follow each
other, and the values for the whole script are those of the first, as there are none in the
second. -/
theorem readFlow_append (t index : CommandTree α) {b : Breaker} (hsep : b.sep ≠ "")
    {tokens : List String} (h : (b.sequences tokens).groups ≠ []) (tokens' : List String) :
    t.readFlow b (tokens ++ [b.sep] ++ tokens') index = (do
      let flow ← t.readFlow b tokens index
      let next ← t.readFlow b ([b.sep] ++ tokens') index
      .ok (flow.append next)) ∧
    ∀ next, t.readFlow b ([b.sep] ++ tokens') index = .ok next →
      next.globalEnv = none ∧ next.globalIndex = none := by
  have hnext := t.readFlow_sep_cons index hsep tokens'
  rw [List.append_assoc, List.singleton_append]
  constructor
  · rw [hnext, readFlow, readFlow, Breaker.sequences_append hsep h, readInvocations_append]
    cases his : t.readInvocations (b.sequences tokens).groups index with
    | error e => rfl
    | ok is =>
      have hne : is ≠ [] := by
        rw [← List.length_pos_iff, length_of_readInvocations his]
        exact List.length_pos_iff.2 h
      cases t.readInvocations (b.sequences tokens').groups index with
      | error e => rfl
      | ok is' =>
        cases (b.sequences tokens).opensGlobal with
        | false => rfl
        | true => exact congrArg Except.ok (Flow.hoist_append hne is')
  · intro next hread
    rw [hnext] at hread
    cases his' : t.readInvocations (b.sequences tokens').groups index with
    | error e => simp [his', Except.map] at hread
    | ok is' =>
      simp only [his', Except.map, Except.ok.injEq] at hread
      subst hread
      exact ⟨rfl, rfl⟩

/-- Values for the whole script. -/
def sharedItems : List PathItem :=
  [.env (.ofList [("deploy.prod.region", ⟨"5", false⟩)])]

/-- Assignments without a command, and a command. -/
def strayItems : List (List PathItem) :=
  [[.env (.ofList [("token", ⟨"x", false⟩)])],
   [.command ⟨"deploy", ⟨1⟩⟩, .separator, .command ⟨"prod", ⟨2⟩⟩]]

/-- Assignments are values for all of a script only where they begin it. -/
theorem readFlow_append_stray :
    sampleTree.readFlow .standard ["\x7bd.p.r=5\x7d"] =
      .ok (.hoist [.ofItems sharedItems]) ∧
    sampleTree.readFlow .standard ([":"] ++ ["\x7btoken=x\x7d", ":", "d.p"]) =
      .ok (.ofCommands (strayItems.map .ofItems)) ∧
    sampleTree.readFlow .standard (["\x7bd.p.r=5\x7d"] ++ [":"] ++
        ["\x7btoken=x\x7d", ":", "d.p"]) =
      .ok ⟨⟨[]⟩ :: strayItems.map .ofItems,
        some (.ofList [("deploy.prod.region", ⟨"5", false⟩)]), some 0⟩ := by
  have hfirst : sampleTree.readFlow .standard ["\x7bd.p.r=5\x7d"] =
      .ok (.hoist [.ofItems sharedItems]) := by
    have hitems : (Breaker.standard.sequences ["\x7bd.p.r=5\x7d"]).groups.map
        (fun s => (Walk.start s).runWithin sampleTree 20) =
        [sharedItems].map fun i => some (.ok i) := by
      decide +kernel
    have hglobal : (Breaker.standard.sequences ["\x7bd.p.r=5\x7d"]).opensGlobal = true := by
      decide +kernel
    rw [readFlow_of_runWithin hitems, hglobal, if_pos rfl]
    rfl
  have hsecond : sampleTree.readFlow .standard ([":"] ++ ["\x7btoken=x\x7d", ":", "d.p"]) =
      .ok (.ofCommands (strayItems.map .ofItems)) := by
    have hitems : (Breaker.standard.sequences
        ([":"] ++ ["\x7btoken=x\x7d", ":", "d.p"])).groups.map
        (fun s => (Walk.start s).runWithin sampleTree 20) =
        strayItems.map fun i => some (.ok i) := by
      decide +kernel
    have hglobal : (Breaker.standard.sequences
        ([":"] ++ ["\x7btoken=x\x7d", ":", "d.p"])).opensGlobal = false := by
      decide +kernel
    rw [readFlow_of_runWithin hitems, hglobal]
    rfl
  have hsequence : (Breaker.standard.sequences ["\x7bd.p.r=5\x7d"]).groups ≠ [] := by
    decide +kernel
  have hwhole := (readFlow_append sampleTree sampleTree Breaker.standard_stable.sep_ne hsequence
    ["\x7btoken=x\x7d", ":", "d.p"]).1
  have hsep : Breaker.standard.sep = ":" := rfl
  rw [hsep, hfirst, hsecond] at hwhole
  exact ⟨hfirst, hsecond, hwhole⟩

end CommandTree

end FlowScript
