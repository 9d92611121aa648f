import FlowScript.Proofs.Run.Recording

/-!
# Where a walk dispatches

The visits of a walk are the places where it dispatches, each with the machine as it was then. What
is dispatched follows from the visits (`dispatches_eq_map`). What holds of the plan and the machine
at the start and is kept by every dispatch holds at every visit and at the end (`walk_invariant`).
-/

namespace FlowScript

variable {α σ : Type}

/-- What is dispatched, where in the plan, and the machine before. -/
structure Visit (α σ : Type) where
  executable : Executable α
  invocation : Invocation
  position : Position
  machine : Machine α σ

namespace Visit

/-- The env that the executable is called with. -/
def env (v : Visit α σ) : Env :=
  Engine.callEnv v.machine.session v.invocation

/-- The arguments that the executable is called with. -/
def args (v : Visit α σ) : ArgVals :=
  Engine.resolveArgs v.executable v.invocation.displayPath v.env

/-- The invocation stands where the visit is, and the executable is the one that it runs. -/
structure IsDue (v : Visit α σ) : Prop where
  invocation : v.position.plan[v.position.cursor]? = some v.invocation
  executable : Engine.executable? v.machine.tree v.invocation = some v.executable

theorem IsDue.mem {v : Visit α σ} (h : v.IsDue) : v.invocation ∈ v.position.plan :=
  List.mem_of_getElem? h.invocation

end Visit

namespace Engine

variable (e : Engine α σ)

/-! ## One visit -/

/-- The verdict of the executable, and the position and the machine after it. -/
def dispatchAt (v : Visit α σ) : Verdict × Position × Machine α σ :=
  e.dispatch v.executable v.invocation v.position v.machine

/-- What the dispatch at a visit does. -/
def dispatchedAt (v : Visit α σ) : Dispatch α :=
  e.dispatched v.executable v.invocation v.position v.machine

/-- What the executable answers, and what it leaves of the env, the tree, the position and the
world. -/
def answer (v : Visit α σ) : Verdict × Env × CommandTree α × Position × σ :=
  e.call v.executable v.args v.env v.machine.tree v.position
    (e.handlers.notify
      ⟨.before, v.invocation.displayPath, v.executable.quiet, v.env, v.position⟩ v.machine.world)

section Visit

variable (v : Visit α σ)

@[simp] theorem dispatchAt_session :
    (e.dispatchAt v).2.2.session = (e.answer v).2.1.parent?.getD v.machine.session := rfl

@[simp] theorem dispatchedAt_invocation : (e.dispatchedAt v).invocation = v.invocation := rfl

@[simp] theorem dispatchedAt_args : (e.dispatchedAt v).call.args = v.args := rfl

@[simp] theorem dispatchedAt_env : (e.dispatchedAt v).call.env = v.env := rfl

end Visit

/-! ## A walk -/

/-- The visits of a walk, in order. -/
def visits : (fuel : Nat) → Position → Machine α σ → List (Visit α σ)
  | 0, _, _ => []
  | fuel + 1, pos, m =>
    match pos.plan[pos.cursor]? with
    | none => []
    | some i =>
      match executable? m.tree i with
      | none => visits fuel { pos with cursor := pos.cursor + 1 } m
      | some x =>
        ⟨x, i, pos, m⟩ ::
          match e.dispatchAt ⟨x, i, pos, m⟩ with
          | (.ok true, pos, m) =>
            match pos.next? with
            | some pos => visits fuel pos m
            | none => []
          | _ => []

theorem dispatches_eq_map (fuel : Nat) (pos : Position) (m : Machine α σ) :
    e.dispatches fuel pos m = (e.visits fuel pos m).map e.dispatchedAt := by
  induction fuel generalizing pos m with
  | zero => rfl
  | succ fuel ih =>
    simp only [dispatches, visits]
    cases pos.plan[pos.cursor]? with
    | none => rfl
    | some i =>
      cases hx : executable? m.tree i with
      | none => simp only [hx, ih]
      | some x =>
        simp only [hx, dispatchAt, List.map_cons]
        rcases hdispatch : e.dispatch x i pos m with ⟨cause | _ | _, pos', m'⟩
        · rfl
        · rfl
        · cases hnext : pos'.next? with
          | none => simp [hnext, dispatchedAt]
          | some next => simp [hnext, ih, dispatchedAt]

theorem plan_of_next? {pos next : Position} (h : pos.next? = some next) :
    next.plan = pos.plan := by
  rw [Position.next?] at h
  split at h
  · cases h
  · cases h
    rfl

/-- What every dispatch keeps holds at every visit and at the end. -/
theorem walk_invariant (Inv : Plan → Machine α σ → Prop) {fuel : Nat} {pos : Position}
    {m : Machine α σ} (hstart : Inv pos.plan m)
    (hstep : ∀ v ∈ e.visits fuel pos m, v.IsDue → Inv v.position.plan v.machine →
      Inv (e.dispatchAt v).2.1.plan (e.dispatchAt v).2.2) :
    (∃ plan, Inv plan (e.walk fuel pos m).2) ∧
    ∀ v ∈ e.visits fuel pos m, v.IsDue ∧ Inv v.position.plan v.machine := by
  induction fuel generalizing pos m with
  | zero => exact ⟨⟨pos.plan, hstart⟩, by simp [visits]⟩
  | succ fuel ih =>
    simp only [walk, visits] at hstep ⊢
    cases hi : pos.plan[pos.cursor]? with
    | none => exact ⟨⟨pos.plan, hstart⟩, by simp⟩
    | some i =>
      simp only [hi] at hstep ⊢
      cases hx : executable? m.tree i with
      | none =>
        simp only [hx] at hstep ⊢
        have hmoved : Inv (⟨pos.plan, pos.cursor + 1⟩ : Position).plan m := hstart
        exact ih hmoved hstep
      | some x =>
        simp only [hx] at hstep ⊢
        have hdue : Visit.IsDue (⟨x, i, pos, m⟩ : Visit α σ) := ⟨hi, hx⟩
        have hkept := hstep ⟨x, i, pos, m⟩ List.mem_cons_self hdue hstart
        -- a failed call ends the walk, but what it did to the machine stays
        simp only [dispatchAt] at hstep hkept ⊢
        rcases hdispatch : e.dispatch x i pos m with ⟨cause | _ | _, pos', m'⟩ <;>
          simp only [hdispatch] at hstep hkept ⊢
        · exact ⟨⟨pos'.plan, hkept⟩, by simpa using ⟨hdue, hstart⟩⟩
        · exact ⟨⟨pos'.plan, hkept⟩, by simpa using ⟨hdue, hstart⟩⟩
        · cases hnext : pos'.next? with
          | none => exact ⟨⟨pos'.plan, hkept⟩, by simpa [hnext] using ⟨hdue, hstart⟩⟩
          | some next =>
            simp only [hnext] at hstep ⊢
            rw [← plan_of_next? hnext] at hkept
            obtain ⟨hend, hvisits⟩ :=
              ih hkept fun v hv => hstep v (List.mem_cons_of_mem _ hv)
            refine ⟨hend, fun v hv => ?_⟩
            rcases List.mem_cons.1 hv with rfl | hv
            · exact ⟨hdue, hstart⟩
            · exact hvisits v hv

end Engine

end FlowScript
