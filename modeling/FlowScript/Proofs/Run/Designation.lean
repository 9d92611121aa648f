import FlowScript.Proofs.Command.Appending
import FlowScript.Proofs.Command.Storage
import FlowScript.Proofs.Run.Isolation
import FlowScript.Proofs.Run.Steering

/-!
# Plans while commands are registered

A plan holds ids of nodes, and setup actions register commands while it is walked. As registering
only appends, the ids stay those of the commands that the script named. `walkChecked` is the walk
that gives up at an id which the tree does not have; it never does (`walkChecked_eq`).
-/

namespace FlowScript

variable {α σ : Type}

/-- Setup actions make calls on the tree that they get, and change no executable of an earlier
tree. -/
def Handlers.AppendTo (h : Handlers α σ) (t : CommandTree α) : Prop :=
  ∀ a args env (tree : CommandTree α) world, t.Appends tree →
    tree.Grows (h.setup a args (env, tree, world)).2.2.1 ∧
      t.Appends (h.setup a args (env, tree, world)).2.2.1

/-- The tree has the node of the command that an invocation is meant to run. -/
def CommandTree.Holds (t : CommandTree α) (i : Invocation) : Prop :=
  ∀ n, i.leaf? = some n → n.node.index < t.size

theorem CommandTree.Names.holds {t : CommandTree α} {i : Invocation} (h : t.Names i) :
    t.Holds i :=
  fun n hn => h.valid n (List.mem_of_getLast? hn)

theorem CommandTree.Holds.kept {t t' : CommandTree α} {i : Invocation} (h : t.Holds i)
    (hk : t.Keeps t') : t'.Holds i :=
  fun n hn => Nat.lt_of_lt_of_le (h n hn) hk.size

namespace Engine

variable (e : Engine α σ)

/-! ## Walks that check their look-ups -/

/-- What an invocation runs; nothing comes of it if the tree lacks the node. -/
def lookUp? (tree : CommandTree α) (i : Invocation) : Option (Option (Executable α)) :=
  match i.leaf? with
  | none => some none
  | some leaf => if leaf.node.index < tree.size then some (tree.executable? leaf.node) else none

/-- Walks a plan up to an invocation whose node the tree lacks. -/
def walkChecked : (fuel : Nat) → Position → Machine α σ → Option (Result α σ)
  | 0, _, m => some (.error .unfinished, m)
  | fuel + 1, pos, m =>
    match pos.plan[pos.cursor]? with
    | none => some (.ok (), m)
    | some i =>
      match lookUp? m.tree i with
      | none => none
      | some none => walkChecked fuel { pos with cursor := pos.cursor + 1 } m
      | some (some x) =>
        match e.dispatch x i pos m with
        | (.ok true, pos, m) =>
          match pos.next? with
          | some pos => walkChecked fuel pos m
          | none => some (.error .overflow, m)
        | (.ok false, _, m) => some (.error (.commandFailed i.displayPath), m)
        | (.error cause, _, m) => some (.error (.commandError i.displayPath cause), m)

/-- Runs a flow, unless the tree lacks the node of one of its invocations, at the start or when its
turn comes. -/
def runFlowChecked (flow : Flow) (m : Machine α σ) : Option (Result α σ) :=
  if flow.commands.all fun i => (lookUp? m.tree i).isSome then
    e.walkChecked e.stepLimit ⟨planOf flow m.tree, 0⟩ (withGlobals flow m)
  else none

theorem lookUp?_of_holds {tree : CommandTree α} {i : Invocation} (h : tree.Holds i) :
    lookUp? tree i = some (executable? tree i) := by
  rw [lookUp?, executable?]
  cases hleaf : i.leaf? with
  | none => rfl
  | some leaf => simp [h leaf hleaf]

variable {e}

/-- A walk whose plan stays within the tree finds every node. -/
theorem walkChecked_eq {fuel : Nat} {pos : Position} {m : Machine α σ}
    (hplan : ∀ i ∈ pos.plan, m.tree.Holds i)
    (hstep : ∀ v ∈ e.visits fuel pos m, ∀ i ∈ (e.dispatchAt v).2.1.plan,
      (e.dispatchAt v).2.2.tree.Holds i) :
    e.walkChecked fuel pos m = some (e.walk fuel pos m) := by
  induction fuel generalizing pos m with
  | zero => rfl
  | succ fuel ih =>
    simp only [walkChecked, walk, visits] at hstep ⊢
    cases hi : pos.plan[pos.cursor]? with
    | none => rfl
    | some i =>
      simp only [hi, lookUp?_of_holds (hplan i (List.mem_of_getElem? hi))] at hstep ⊢
      cases hx : executable? m.tree i with
      | none =>
        simp only [hx] at hstep ⊢
        exact ih hplan hstep
      | some x =>
        simp only [hx] at hstep ⊢
        have hheld := hstep ⟨x, i, pos, m⟩ List.mem_cons_self
        simp only [dispatchAt] at hstep hheld
        rcases hdispatch : e.dispatch x i pos m with ⟨cause | _ | _, pos', m'⟩ <;>
          simp only [hdispatch] at hstep hheld ⊢
        cases hnext : pos'.next? with
        | none => rfl
        | some next =>
          simp only [hnext] at hstep ⊢
          rw [← plan_of_next? hnext] at hheld
          exact ih hheld fun v hv => hstep v (List.mem_cons_of_mem _ hv)

/-! ## Registering on the way -/

variable (e)

/-- What an executable puts into the plan was there or names a node that the tree has by then. Only
power actions change a plan, and they know no other ids than those that a tree gave out. -/
def PlansHeld (v : Visit α σ) : Prop :=
  ∀ i ∈ (e.dispatchAt v).2.1.plan, i ∈ v.position.plan ∨ v.machine.tree.Holds i

variable {e}

/-- A dispatch makes calls on the tree and appends to the earlier one if setup actions do. -/
theorem dispatchAt_appends {t : CommandTree α} (ha : e.handlers.AppendTo t) {v : Visit α σ}
    (h : t.Appends v.machine.tree) :
    v.machine.tree.Grows (e.dispatchAt v).2.2.tree ∧ t.Appends (e.dispatchAt v).2.2.tree := by
  cases hkind : v.executable.kind with
  | setup a => simpa only [dispatchAt, dispatch, call, hkind] using ha a _ _ _ _ h
  | normal | power | external => simpa only [dispatchAt, dispatch, call, hkind] using ⟨.refl, h⟩

theorem PlansHeld.holds {v : Visit α σ} (h : e.PlansHeld v)
    (hk : v.machine.tree.Keeps (e.dispatchAt v).2.2.tree)
    (hplan : ∀ i ∈ v.position.plan, v.machine.tree.Holds i) :
    ∀ i ∈ (e.dispatchAt v).2.1.plan, (e.dispatchAt v).2.2.tree.Holds i := by
  intro i hi
  rcases h i hi with hold | hnew
  · exact (hplan i hold).kept hk
  · exact hnew.kept hk

/-- A walk during which commands are registered finds every node, and at each visit the tree comes
from the earlier one by appending. -/
theorem walk_appends {t : CommandTree α} (ha : e.handlers.AppendTo t) {fuel : Nat} {pos : Position}
    {m : Machine α σ} (hm : t.Appends m.tree) (hplan : ∀ i ∈ pos.plan, m.tree.Holds i)
    (hheld : ∀ v ∈ e.visits fuel pos m, e.PlansHeld v) :
    e.walkChecked fuel pos m = some (e.walk fuel pos m) ∧
    t.Appends (e.walk fuel pos m).2.tree ∧
    ∀ v ∈ e.visits fuel pos m, v.IsDue ∧ t.Appends v.machine.tree := by
  let Inv (plan : Plan) (m : Machine α σ) : Prop :=
    t.Appends m.tree ∧ ∀ i ∈ plan, m.tree.Holds i
  have hstep : ∀ v ∈ e.visits fuel pos m, v.IsDue → Inv v.position.plan v.machine →
      Inv (e.dispatchAt v).2.1.plan (e.dispatchAt v).2.2 := by
    rintro v hv - ⟨hv', hholds⟩
    obtain ⟨hgrows, happends⟩ := dispatchAt_appends ha hv'
    exact ⟨happends, (hheld v hv).holds hgrows.keeps hholds⟩
  obtain ⟨⟨_, hend, -⟩, hvisits⟩ := e.walk_invariant Inv ⟨hm, hplan⟩ hstep
  refine ⟨walkChecked_eq hplan fun v hv => (hstep v hv (hvisits v hv).1 (hvisits v hv).2).2,
    hend, fun v hv => ⟨(hvisits v hv).1, (hvisits v hv).2.1⟩⟩

theorem runFlow_appends {t : CommandTree α} (ha : e.handlers.AppendTo t) {flow : Flow}
    {m : Machine α σ} (hm : t.Appends m.tree) (hflow : ∀ i ∈ flow.commands, m.tree.Holds i)
    (hheld : ∀ v ∈ e.flowVisits flow m, e.PlansHeld v) :
    e.runFlowChecked flow m = some (e.runFlow flow m) ∧
    t.Appends (e.runFlow flow m).2.tree ∧
    ∀ v ∈ e.flowVisits flow m, v.IsDue ∧ t.Appends v.machine.tree := by
  have hall : (flow.commands.all fun i => (lookUp? m.tree i).isSome) = true := by
    rw [List.all_eq_true]
    intro i hi
    rw [lookUp?_of_holds (hflow i hi)]
    rfl
  rw [runFlowChecked, if_pos hall]
  exact walk_appends ha (m := withGlobals flow m) hm
    (fun i hi => hflow i (List.mem_filter.1 hi).1) hheld

end Engine

/-! ## The builtin commands -/

namespace Builtin

theorem defineLine_appends {t : CommandTree α} (ht : t.Reachable) (name line : String)
    (abbrs : List String) : t.Appends ((defineLine name line abbrs).run.run t).2 := by
  have hadded := Registration.perform_addSub CommandTree.root name abbrs t
  rw [run_defineLine]
  cases haccept : Label.accept .command (t.displayPath CommandTree.root)
      (t.labelsBelow CommandTree.root) name abbrs with
  | error e => exact .refl
  | ok label =>
    rw [haccept] at hadded
    have hattached := Registration.perform_attach_push t label (some CommandTree.root)
      s!"Runs `{line}`." (.external line)
    have hu : t.Appends ⟨t.nodes ++ [⟨label, some CommandTree.root, none⟩]⟩ := by
      have hcall : t.Appends ((Registration.addSub CommandTree.root name abbrs).perform t).2 :=
        .call .refl ht.wellFormed.root_lt (by simp [Registration.changed?])
      rwa [hadded] at hcall
    have hcall := hu.call (r := .attach ⟨t.size⟩ s!"Runs `{line}`." (.external line))
      (by simp [Registration.Addresses, CommandTree.size]) (by simp [Registration.changed?])
    rwa [hattached] at hcall

/-- Defining a command appends to the tree, whether it is refused or not. -/
theorem define_appends {t : CommandTree α} (ht : t.Reachable) (b : Builtin) (args : ArgVals) :
    t.Appends (b.define args t).2 := by
  unfold define
  split
  · split
    · exact .refl
    · rename_i line _
      have happends := defineLine_appends ht (args.get "name") line (abbrsOf (args.get "abbr"))
      simp only
      split <;> simp_all
  · exact .refl

/-- Skipping and stopping put nothing into the plan. -/
theorem mem_of_steer {b : Builtin} {args : ArgVals} {pos : Position} {i : Invocation}
    (hi : i ∈ (b.steer args pos).2.plan) : i ∈ pos.plan := by
  unfold steer at hi
  split at hi
  · split at hi
    · exact hi
    · split at hi
      · exact hi
      · rcases List.mem_append.1 hi with hi | hi
        · exact List.mem_of_mem_take hi
        · exact List.mem_of_mem_drop hi
  · exact hi
  · exact hi

theorem handlers_appendTo (external : String → ArgVals → Env × World → Verdict × Env × World)
    (notify : Event → World → World) {t : CommandTree Builtin} (ht : t.Reachable) :
    (handlers external notify).AppendTo t := by
  intro b args env tree world h
  have hdefine := define_appends (h.reachable ht) b args
  exact ⟨hdefine.grows, h.trans hdefine⟩

theorem plansHeld_of_handlers {e : Engine Builtin World}
    {external : String → ArgVals → Env × World → Verdict × Env × World}
    {notify : Event → World → World} (he : e.handlers = handlers external notify)
    (v : Visit Builtin World) : e.PlansHeld v := by
  intro i hi
  refine .inl ?_
  cases hkind : v.executable.kind with
  | power b =>
    simp only [Engine.dispatchAt, Engine.dispatch, Engine.call, hkind, he] at hi
    exact mem_of_steer hi
  | normal | setup | external =>
    simpa only [Engine.dispatchAt, Engine.dispatch, Engine.call, hkind] using hi

end Builtin

namespace CommandTree

/-- Registering appends. Whatever is registered on a tree, and a command that is defined while a
script runs is no exception, what the tree held before stands; an invocation that was read before
names the commands it did and runs the same executable; running a script that was read before looks
up no id that the tree does not have; and the arenas that store the two trees find the same. -/
theorem Reachable.registration_appends {t : CommandTree α} (ht : t.Reachable) :
    (∀ t', t.Appends t' → t.Stands t' ∧ ∀ b args, t.Appends (Builtin.define b args t').2) ∧
    (∀ i, t.Reads i → ∀ t', t.Appends t' → t'.Names i ∧
      ∀ x, Engine.executable? t i = some x → Engine.executable? t' i = some x) ∧
    (∀ (σ : Type) (e : Engine α σ) (b : Breaker) (tokens : List String) (flow : Flow)
      (m : Machine α σ), t.readFlow b tokens = .ok flow → t.Appends m.tree →
      e.handlers.AppendTo t → (∀ v ∈ e.flowVisits flow m, e.PlansHeld v) →
      e.runFlowChecked flow m = some (e.runFlow flow m) ∧
      t.Appends (e.runFlow flow m).2.tree ∧
      ∀ v ∈ e.flowVisits flow m, v.IsDue ∧ t.Appends v.machine.tree) ∧
    ∀ t' (a a' : Arena α), t.Appends t' → a.Represents t → a'.Represents t' →
      a.StillFinds a' := by
  have hwf := ht.wellFormed
  have hnames {i : Invocation} (hi : t.Reads i) {t' : CommandTree α} (h : t.Appends t') :
      t'.Names i := (hi.names hwf).of_stands hwf.root_lt h.stands
  refine ⟨fun t' h => ⟨h.stands, fun b args => ?_⟩, fun i hi t' h => ⟨hnames hi h, ?_⟩, ?_,
    fun t' a a' h ha ha' => ?_⟩
  · exact h.trans (Builtin.define_appends (h.reachable ht) b args)
  · intro x hx
    obtain ⟨leaf, hleaf, hexec⟩ := Option.bind_eq_some_iff.1 hx
    exact Option.bind_eq_some_iff.2 ⟨leaf, hleaf, h.executable hexec⟩
  · intro σ e b tokens flow m hflow hm ha hheld
    exact Engine.runFlow_appends ha hm (fun i hi => (hnames (.script hflow hi) hm).holds) hheld
  · exact ha.stillFinds hwf ha' (h.reachable ht).wellFormed h.keeps

/-- Calls that register a command which defines others and one that shows a line. -/
def definingCalls : List (Registration Builtin) :=
  [.addSub root "flow" ["f"], .addSub ⟨1⟩ "def" [], .attach ⟨2⟩ "" (.setup .flowDefine),
   .declare ⟨2⟩ "name" "" ["n"], .declare ⟨2⟩ "script" "" [], .declare ⟨2⟩ "abbr" "" [],
   .addSub root "echo" ["say"], .attach ⟨3⟩ "" (.normal .echo)]

/-- The tree that the calls lead to. -/
def definingTree : CommandTree Builtin :=
  (Registration.performAll definingCalls .empty).2

/-- The tree after two more calls, of which the second is refused: the spelling is taken. -/
def laterTree : CommandTree Builtin :=
  (Registration.perform (.addSub root "say" [])
    (Registration.perform (.addSub root "late" ["l"]) definingTree).2).2

/-- A script that defines a command and goes on with one of the old ones. -/
def definingScript : List String := ["f.def", "n=hi", "script=ls", ":", "say"]

/-- The items of its sequences. -/
def definingItems : List (List PathItem) :=
  [[.command ⟨"flow", ⟨1⟩⟩, .separator, .command ⟨"def", ⟨2⟩⟩,
    .env (.ofList [("name", ⟨"hi", true⟩), ("script", ⟨"ls", true⟩)])],
   [.command ⟨"echo", ⟨3⟩⟩]]

/-- What the script is read as. -/
def definingFlow : Flow := .ofCommands (definingItems.map .ofItems)

theorem readFlow_defining : definingTree.readFlow .standard definingScript = .ok definingFlow := by
  have hitems : (Breaker.standard.sequences definingScript).groups.map
      (fun s => (Walk.start s).runWithin definingTree 20) =
      definingItems.map fun i => some (.ok i) := by
    decide +kernel
  rw [readFlow_of_runWithin hitems]
  decide +kernel

theorem laterTree_appends : definingTree.Appends laterTree :=
  .call (.call .refl (by decide +kernel) (by simp [Registration.changed?])) (by decide +kernel)
    (by simp [Registration.changed?])

/-- The script is read before the two calls and run after them. It adds a sixth command to the tree
and then still finds the fourth. -/
theorem Reachable.registration_appends_defining :
    let m := { Builtin.sampleMachine with tree := laterTree }
    definingTree.readFlow .standard definingScript = .ok definingFlow ∧
    Builtin.sampleEngine.runFlowChecked definingFlow m =
      some (Builtin.sampleEngine.runFlow definingFlow m) ∧
    (Builtin.sampleEngine.flowVisits definingFlow m).map (·.machine.tree.size) = [5, 6] ∧
    definingTree.Stands (Builtin.sampleEngine.runFlow definingFlow m).2.tree ∧
    (Builtin.sampleEngine.runFlow definingFlow m).2.tree.findPath "hi" = some ⟨5⟩ := by
  intro m
  have ht : definingTree.Reachable := ⟨_, BuiltBy.start.performAll definingCalls⟩
  obtain ⟨hstands, -, hrun, -⟩ := ht.registration_appends
  obtain ⟨hchecked, hend, -⟩ := hrun World Builtin.sampleEngine .standard _ definingFlow m
    readFlow_defining laterTree_appends (Builtin.handlers_appendTo _ _ ht)
    fun v _ => Builtin.plansHeld_of_handlers rfl v
  exact ⟨readFlow_defining, hchecked, by decide +kernel, (hstands _ hend).1, by decide +kernel⟩

end CommandTree

end FlowScript
