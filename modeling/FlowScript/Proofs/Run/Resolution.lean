import FlowScript.Proofs.Env.Layering
import FlowScript.Proofs.Run.Recording
import FlowScript.Proofs.Script.Flows

/-!
# The arguments that are passed

An executable is called with one argument for each of its parameters, in the order they were
declared. What is passed for a parameter follows from the assignments of the invocation, the session
and the default by one rule (`passed`), which speaks of assignments and layers and not of the env of
the call that they are written to (`getD_callEnv`).
-/

namespace FlowScript

variable {α σ : Type}

/-! ## One pair for each parameter -/

theorem ArgVals.putPair_of_not_mem {name value : String} {pairs : List (String × String)}
    (h : name ∉ pairs.map (·.1)) : putPair name value pairs = pairs ++ [(name, value)] := by
  induction pairs with
  | nil => rfl
  | cons pair rest ih =>
    obtain ⟨n, v⟩ := pair
    simp only [List.map_cons, List.mem_cons, not_or] at h
    rw [putPair, if_neg (Ne.symm h.1), ih h.2, List.cons_append]

namespace Engine

theorem pairs_foldl_insert (value : Param → String) {params : List Param} {vals : ArgVals}
    (h : (vals.pairs.map (·.1) ++ params.map (·.label.name)).Nodup) :
    (params.foldl (fun vals p => vals.insert p.label.name (value p)) vals).pairs =
      vals.pairs ++ params.map fun p => (p.label.name, value p) := by
  induction params generalizing vals with
  | nil => simp
  | cons p rest ih =>
    have hnew : p.label.name ∉ vals.pairs.map (·.1) := by
      intro hmem
      exact (List.nodup_append.1 h).2.2 _ hmem _ (by simp) rfl
    have hpairs : (vals.insert p.label.name (value p)).pairs =
        vals.pairs ++ [(p.label.name, value p)] := ArgVals.putPair_of_not_mem hnew
    rw [List.foldl_cons, ih, hpairs, List.append_assoc]
    · rfl
    · simpa [hpairs] using h

/-- Every parameter has its pair, in the order of declaration. -/
theorem pairs_resolveArgs {x : Executable α} (h : (x.labels.map (·.name)).Nodup) (path : String)
    (env : Env) :
    (resolveArgs x path env).pairs =
      x.params.map fun p =>
        (p.label.name, (env.get? (argKey path p.label.name)).getD p.default) := by
  refine (pairs_foldl_insert _ ?_).trans (List.nil_append _)
  simpa [Executable.labels, ArgVals.empty, Function.comp_def] using h

/-! ## One value for each key -/

/-- What is passed for a parameter with a key and a default. The last assignment to the key counts,
unless it is a mark. Then, or without any assignment, the session counts, unless some assignment
erased the key everywhere. Else it is the default. -/
def passed (session : Env) (fragments : List Assignments) (key default : String) : String :=
  match (Env.assigned fragments key).getLast?.bind Value.kept? with
  | some v => v.raw
  | none =>
    if (Env.assigned fragments key).any Value.isEverywhere then default
    else (session.get? key).getD default

/-- What the env of a call holds under a key, or else the default, is what is passed. -/
theorem getD_callEnv (session : Env) (i : Invocation) (key default : String) :
    ((callEnv session i).get? key).getD default = passed session i.fragments key default := by
  have henv : callEnv session i = (session.push .command).writeAll i.fragments := rfl
  have hown : ((session.push .command).writeAll i.fragments).own.get? key =
      (Env.assigned i.fragments key).getLast?.bind Value.kept? := by
    rw [Env.own_writeAll]
    cases (Env.assigned i.fragments key).getLast? <;> rfl
  have houter : (session.push .command).outerValue? key = session.value? key := rfl
  rw [Env.get?, henv, Env.value?_eq_or, hown, Env.outer_writeAll, houter, passed]
  cases (Env.assigned i.fragments key).getLast?.bind Value.kept? with
  | some v => rfl
  | none =>
    split
    · rfl
    · rw [Option.none_or, Env.get?]

/-- An invocation that was read hands its executable the declared arguments, each once and in order,
with the values that follow from its assignments, the session and the defaults. The tree may have
grown since the invocation was read. -/
theorem dispatch_passes_arguments {t : CommandTree α} (ht : t.Reachable) {i : Invocation}
    (hi : t.Reads i) (e : Engine α σ) {m : Machine α σ} (hm : t.Grows m.tree) {n : Match}
    (hn : i.leaf? = some n) {x : Executable α} (hx : m.tree.executable? n.node = some x)
    (pos : Position) :
    executable? m.tree i = some x ∧
    ∃ before call after,
      (e.recorded.dispatch x i pos (m.recording [])).2.2.world.2 =
        [.event before, .call call, .event after] ∧
      call.kind = x.kind ∧
      (call.args.pairs.map (·.1)).Nodup ∧
      call.args.pairs = x.params.map fun p =>
        (p.label.name, passed m.session i.fragments
          (argKey (m.tree.displayPath n.node) p.label.name) p.default) := by
  obtain ⟨hsize, hpath⟩ := hi.displayPath ht.wellFormed hn
  have hnames := ((hm.reachable ht).wellFormed.params _ _ hx).nodup_names
  let d := e.dispatched x i pos m
  have hpairs : d.call.args.pairs = x.params.map fun p =>
      (p.label.name, passed m.session i.fragments
        (argKey (m.tree.displayPath n.node) p.label.name) p.default) := by
    refine (pairs_resolveArgs hnames i.displayPath (callEnv m.session i)).trans ?_
    simp only [getD_callEnv, hpath, hm.keeps.displayPath hsize]
  refine ⟨by simp [executable?, hn, hx], d.before, d.call, d.after, ?_, rfl, ?_, hpairs⟩
  · rw [recorded_dispatch]
    rfl
  · rw [hpairs, List.map_map]
    simpa [Executable.labels, Function.comp_def] using hnames

/-- An engine whose executables succeed and leave everything as it is. -/
def sampleEngine : Engine Unit Unit where
  handlers :=
    { normal := fun _ _ s => (.ok true, s)
      power := fun _ _ s => (.ok true, s)
      setup := fun _ _ s => (.ok true, s)
      external := fun _ _ s => (.ok true, s)
      notify := fun _ w => w }
  bootstrap := ""
  stepLimit := 100

/-- A machine whose tree has a parameter that was declared late, and whose outer layers hold the key
of another. -/
def sampleMachine : Machine Unit Unit where
  tree := ((Registration.declare ⟨2⟩ "force" "no" ["f"]).perform CommandTree.sampleTree).2
  session := ((((Env.root .default).set "deploy.prod.region" "de").push .persisted).set
    "deploy.prod.region" "us").push .session
  inner := []
  world := ()

/-- The block after the command takes back what the block before it assigned, and the nearest layer
counts. -/
theorem dispatch_passes_arguments_deploy :
    ∃ i x before call after,
      CommandTree.sampleTree.readInvocation ["\x7bd.p.r=5\x7d", "d.p\x7br=--\x7d"] = .ok i ∧
      executable? sampleMachine.tree i = some x ∧
      (sampleEngine.recorded.dispatch x i ⟨[i], 0⟩ (sampleMachine.recording [])).2.2.world.2 =
        [.event before, .call call, .event after] ∧
      call.args.pairs = [("region", "us"), ("force", "no")] := by
  let items : List PathItem :=
    [.env (.ofList [("deploy.prod.region", ⟨"5", false⟩)]), .command ⟨"deploy", ⟨1⟩⟩, .separator,
      .command ⟨"prod", ⟨2⟩⟩, .env (.ofList [("region", ⟨"--", true⟩)])]
  have hrun : (Walk.start ["\x7bd.p.r=5\x7d", "d.p\x7br=--\x7d"]).runWithin
      CommandTree.sampleTree 20 = some (.ok items) := by
    decide +kernel
  have hi : CommandTree.sampleTree.readInvocation ["\x7bd.p.r=5\x7d", "d.p\x7br=--\x7d"] =
      .ok (.ofItems items) := by
    rw [CommandTree.readInvocation, CommandTree.readItems, Walk.run_of_runWithin hrun]
    rfl
  have hgrows : CommandTree.sampleTree.Grows sampleMachine.tree :=
    .single ⟨.declare ⟨2⟩ "force" "no" ["f"], by decide, rfl⟩
  obtain ⟨hx, before, call, after, hlog, -, -, hpairs⟩ :=
    dispatch_passes_arguments CommandTree.sampleTree_reachable (.sequence hi) sampleEngine hgrows
      (n := ⟨"prod", ⟨2⟩⟩) rfl (x := ⟨.external "make", "", [⟨⟨"region", ["r"]⟩, "eu"⟩,
        ⟨⟨"force", ["f"]⟩, "no"⟩], false⟩) rfl ⟨[.ofItems items], 0⟩
  refine ⟨_, _, before, call, after, hi, hx, hlog, hpairs.trans ?_⟩
  decide +kernel

end Engine

end FlowScript
