import FlowScript.Proofs.Command.Growth
import FlowScript.Run.Engine

/-!
# Recording a run

What a run does is what it does to its handlers: the events it sends and the executables it calls.
Any handlers can be made to write both down beside their world (`Handlers.recorded`). A run with
recording handlers is the run without, and what it writes down are dispatches one after the other,
each an event, a call and an event (`recorded_walk`). A dispatch leaves the position to power actions
and the tree to setup actions, so the plan that a script was given stays runnable (`Runnable.kept`).
-/

namespace FlowScript

variable {α σ : Type}

/-- A call of an executable: what was called, with which arguments in which env, and the answer. -/
structure Call (α : Type) where
  kind : ExecutableKind α
  args : ArgVals
  env : Env
  verdict : Verdict

/-- What handlers are asked to do. -/
inductive Occurrence (α : Type) where
  | event (e : Event)
  | call (c : Call α)

/-- Handlers that write down what they are asked to do, the latest last. -/
def Handlers.recorded (h : Handlers α σ) : Handlers α (σ × List (Occurrence α)) where
  normal a args s :=
    let (env, world, log) := s
    let (verdict, env', world) := h.normal a args (env, world)
    (verdict, env', world, log ++ [.call ⟨.normal a, args, env, verdict⟩])
  power a args s :=
    let (env, pos, world, log) := s
    let (verdict, env', pos, world) := h.power a args (env, pos, world)
    (verdict, env', pos, world, log ++ [.call ⟨.power a, args, env, verdict⟩])
  setup a args s :=
    let (env, tree, world, log) := s
    let (verdict, env', tree, world) := h.setup a args (env, tree, world)
    (verdict, env', tree, world, log ++ [.call ⟨.setup a, args, env, verdict⟩])
  external line args s :=
    let (env, world, log) := s
    let (verdict, env', world) := h.external line args (env, world)
    (verdict, env', world, log ++ [.call ⟨.external line, args, env, verdict⟩])
  notify ev s := (h.notify ev s.1, s.2 ++ [.event ev])

/-- Setup actions take nothing away from the tree. Handlers may give back any tree; that setup actions
only register, which never takes anything away (`CommandTree.Grows.keeps`), is their contract. -/
def Handlers.KeepCommands (h : Handlers α σ) : Prop :=
  ∀ a args env (tree : CommandTree α) world, tree.Keeps (h.setup a args (env, tree, world)).2.2.1

/-- The machine with a log beside its world. -/
def Machine.recording (m : Machine α σ) (log : List (Occurrence α)) :
    Machine α (σ × List (Occurrence α)) :=
  ⟨m.tree, m.session, m.inner, m.world, log⟩

/-- What one invocation did: the event before, the call and the event after. -/
structure Dispatch (α : Type) where
  invocation : Invocation
  before : Event
  call : Call α
  after : Event

/-- A dispatch as its handlers see it. -/
def Dispatch.occurrences (d : Dispatch α) : List (Occurrence α) :=
  [.event d.before, .call d.call, .event d.after]

namespace Engine

variable (e : Engine α σ)

/-- The engine with recording handlers. -/
def recorded : Engine α (σ × List (Occurrence α)) :=
  ⟨e.handlers.recorded, e.bootstrap, e.stepLimit⟩

/-! ## One dispatch -/

/-- What dispatching an invocation does. -/
def dispatched (x : Executable α) (i : Invocation) (pos : Position) (m : Machine α σ) :
    Dispatch α :=
  let env := callEnv m.session i
  let args := resolveArgs x i.displayPath env
  let before : Event := ⟨.before, i.displayPath, x.quiet, env, pos⟩
  let (verdict, env', _, pos', _) := e.call x args env m.tree pos (e.handlers.notify before m.world)
  { invocation := i
    before := before
    call := ⟨x.kind, args, env, verdict⟩
    after := ⟨.after verdict.succeeded, i.displayPath, x.quiet, env', pos'⟩ }

theorem recorded_call (x : Executable α) (args : ArgVals) (env : Env) (tree : CommandTree α)
    (pos : Position) (world : σ) (log : List (Occurrence α)) :
    e.recorded.call x args env tree pos (world, log) =
      let (verdict, env', tree, pos, world) := e.call x args env tree pos world
      (verdict, env', tree, pos, world, log ++ [.call ⟨x.kind, args, env, verdict⟩]) := by
  cases hkind : x.kind <;> simp only [call, hkind, recorded, Handlers.recorded]

theorem recorded_dispatch (x : Executable α) (i : Invocation) (pos : Position) (m : Machine α σ)
    (log : List (Occurrence α)) :
    e.recorded.dispatch x i pos (m.recording log) =
      let (verdict, pos', m') := e.dispatch x i pos m
      (verdict, pos', m'.recording (log ++ (e.dispatched x i pos m).occurrences)) := by
  have hnotify (ev : Event) (world : σ) (log : List (Occurrence α)) :
      e.recorded.handlers.notify ev (world, log) =
        (e.handlers.notify ev world, log ++ [.event ev]) := rfl
  simp only [dispatch, dispatched, Machine.recording, hnotify, recorded_call,
    Dispatch.occurrences, List.append_assoc, List.cons_append, List.nil_append]

@[simp] theorem dispatched_invocation (x : Executable α) (i : Invocation) (pos : Position)
    (m : Machine α σ) : (e.dispatched x i pos m).invocation = i := rfl

@[simp] theorem dispatched_verdict (x : Executable α) (i : Invocation) (pos : Position)
    (m : Machine α σ) : (e.dispatched x i pos m).call.verdict = (e.dispatch x i pos m).1 := rfl

/-! ## What a dispatch leaves as it is -/

/-- The tree keeps its commands if setup actions keep them. -/
theorem dispatch_keeps (hk : e.handlers.KeepCommands) (x : Executable α) (i : Invocation)
    (pos : Position) (m : Machine α σ) : m.tree.Keeps (e.dispatch x i pos m).2.2.tree := by
  cases hkind : x.kind with
  | setup a => simpa only [dispatch, call, hkind] using hk a _ _ m.tree _
  | normal | power | external => simpa only [dispatch, call, hkind] using .refl m.tree

/-- Only power actions move in a plan or change it. -/
theorem dispatch_position {x : Executable α} (hx : x.isPower = false) (i : Invocation)
    (pos : Position) (m : Machine α σ) : (e.dispatch x i pos m).2.1 = pos := by
  cases hkind : x.kind with
  | power a => simp [Executable.isPower, hkind] at hx
  | normal | setup | external => simp only [dispatch, call, hkind]

/-- From an invocation of a plan the cursor moves on to the next one. -/
theorem next?_at (passed rest : Plan) (i : Invocation) :
    Position.next? ⟨passed ++ i :: rest, passed.length⟩ =
      some ⟨passed ++ [i] ++ rest, (passed ++ [i]).length⟩ := by
  have hcursor : ¬ passed.length + (rest.length + 1) < passed.length := by omega
  simp [Position.next?, hcursor]

/-- An invocation keeps the kind of what it runs. -/
theorem executable?_kept {t t' : CommandTree α} (h : t.Keeps t') {i : Invocation}
    {x : Executable α} (hx : executable? t i = some x) :
    ∃ x', executable? t' i = some x' ∧ x'.kind = x.kind := by
  obtain ⟨leaf, hleaf, hexec⟩ := Option.bind_eq_some_iff.1 hx
  obtain ⟨x', hexec', hkind⟩ := h.kind leaf.node x hexec
  exact ⟨x', Option.bind_eq_some_iff.2 ⟨leaf, hleaf, hexec'⟩, hkind⟩

/-- Every invocation of a plan has an executable, of a kind that is allowed. -/
def Runnable (allowed : ExecutableKind α → Bool) (t : CommandTree α) (plan : Plan) : Prop :=
  ∀ i ∈ plan, (executable? t i).any (allowed ·.kind) = true

instance (allowed : ExecutableKind α → Bool) (t : CommandTree α) (plan : Plan) :
    Decidable (Runnable allowed t plan) :=
  inferInstanceAs (Decidable (∀ i ∈ plan, _))

namespace Runnable

variable {allowed : ExecutableKind α → Bool} {t t' : CommandTree α} {plan left : Plan}

theorem executable (h : Runnable allowed t plan) {i : Invocation} (hi : i ∈ plan) :
    ∃ x, executable? t i = some x ∧ allowed x.kind = true :=
  (Option.any_eq_true _ _).1 (h i hi)

theorem allowed_kind (h : Runnable allowed t plan) {i : Invocation} (hi : i ∈ plan)
    {x : Executable α} (hx : executable? t i = some x) : allowed x.kind = true := by
  simpa [hx] using h i hi

theorem kept (h : Runnable allowed t plan) (ht : t.Keeps t') (hleft : left.Sublist plan) :
    Runnable allowed t' left := by
  intro i hi
  obtain ⟨x, hx, hallowed⟩ := h.executable (hleft.mem hi)
  obtain ⟨x', hx', hkind⟩ := executable?_kept ht hx
  exact (Option.any_eq_true _ _).2 ⟨x', hx', by rw [hkind, hallowed]⟩

end Runnable

/-! ## A walk -/

/-- The dispatches of a walk, in order. -/
def dispatches : (fuel : Nat) → Position → Machine α σ → List (Dispatch α)
  | 0, _, _ => []
  | fuel + 1, pos, m =>
    match pos.plan[pos.cursor]? with
    | none => []
    | some i =>
      match executable? m.tree i with
      | none => dispatches fuel { pos with cursor := pos.cursor + 1 } m
      | some x =>
        e.dispatched x i pos m ::
          match e.dispatch x i pos m with
          | (.ok true, pos, m) =>
            match pos.next? with
            | some pos => dispatches fuel pos m
            | none => []
          | _ => []

/-- A recorded walk is the walk, and the log grows by its dispatches. -/
theorem recorded_walk (fuel : Nat) (pos : Position) (m : Machine α σ)
    (log : List (Occurrence α)) :
    e.recorded.walk fuel pos (m.recording log) =
      ((e.walk fuel pos m).1, (e.walk fuel pos m).2.recording
        (log ++ (e.dispatches fuel pos m).flatMap Dispatch.occurrences)) := by
  induction fuel generalizing pos m log with
  | zero => simp [walk, dispatches]
  | succ fuel ih =>
    simp only [walk, dispatches]
    cases pos.plan[pos.cursor]? with
    | none => simp
    | some i =>
      have htree : executable? (m.recording log).tree i = executable? m.tree i := rfl
      simp only [htree]
      cases hx : executable? m.tree i with
      | none => exact ih _ m log
      | some x =>
        simp only [recorded_dispatch]
        rcases e.dispatch x i pos m with ⟨cause | _ | _, pos', m'⟩
        · simp
        · simp
        · simp only
          cases pos'.next? with
          | none => simp
          | some next => simp [ih]

end Engine

end FlowScript
