import FlowScript.Proofs.Command.Registration
import FlowScript.Proofs.Script.Descent

/-!
# How long a walk may be

A step may leave more tokens in the queue than it finds, but it leaves none of them empty
(`NoEmpty.step`). A queue without empty tokens weighs `2 * C - T`, where `C` counts its characters
and `T` its tokens (`NoEmpty.weight_eq`). Every step that goes on makes it lighter
(`NoEmpty.weight_lt`), so the weight bounds the number of steps (`advance_spec`) and a walk that may
take one more ends by itself (`NoEmpty.runWithin_eq`).
-/

namespace FlowScript.Walk

/-! ## Queues without empty tokens -/

/-- The number of characters in a queue. -/
def characters : List String → Nat
  | [] => 0
  | s :: rest => s.length + characters rest

@[simp] theorem characters_cons (s : String) (rest : List String) :
    characters (s :: rest) = s.length + characters rest := rfl

/-- No token of a queue is empty. -/
def NoEmpty (queue : List String) : Prop :=
  ∀ s ∈ queue, s ≠ ""

namespace NoEmpty

variable {s : String} {queue queue' rest : List String}

@[simp] theorem cons_iff : NoEmpty (s :: rest) ↔ s ≠ "" ∧ NoEmpty rest :=
  List.forall_mem_cons

@[simp] theorem append_iff : NoEmpty (queue ++ rest) ↔ NoEmpty queue ∧ NoEmpty rest :=
  List.forall_mem_append

theorem length_pos (hs : s ≠ "") : 0 < s.length :=
  Nat.pos_of_ne_zero fun h => hs (String.length_eq_zero_iff.1 h)

theorem of_trimmed {word : String} (h : Text.trimmed? s = some word) : word ≠ "" := by
  rintro rfl
  exact absurd (pos_of_trimmed h).1 (by decide)

theorem trimmed (s : String) : NoEmpty (Text.trimmed? s).toList := by
  intro word hword
  exact of_trimmed (Option.mem_toList.1 hword)

theorem length_le (h : NoEmpty queue) : queue.length ≤ characters queue := by
  induction queue with
  | nil => exact Nat.le_refl _
  | cons s rest ih =>
    obtain ⟨hs, hrest⟩ := cons_iff.1 h
    have hpos := length_pos hs
    have hle := ih hrest
    simp only [characters_cons, List.length_cons]
    omega

/-- The weight of a queue in characters and tokens. -/
theorem weight_eq (h : NoEmpty queue) : weight queue = 2 * characters queue - queue.length := by
  induction queue with
  | nil => rfl
  | cons s rest ih =>
    obtain ⟨hs, hrest⟩ := cons_iff.1 h
    have hpos := length_pos hs
    have hle := hrest.length_le
    have hweight := ih hrest
    simp only [characters_cons, List.length_cons, weight_cons, tokenWeight]
    omega

/-! ## What a step leaves in the queue -/

variable {α : Type} {t index : CommandTree α}

theorem findOpening (h : NoEmpty queue) (hopening : Block.findOpening queue = .cut queue' ∨
    Block.findOpening queue = .opened queue') : NoEmpty queue' := by
  cases queue with
  | nil => simp [Block.findOpening] at hopening
  | cons token rest =>
    have hrest := (cons_iff.1 h).2
    simp only [Block.findOpening] at hopening
    split at hopening
    · simp at hopening
    · rename_i before after hcut
      have hqueue : NoEmpty ((Text.trimmed? after).toList ++ rest) :=
        append_iff.2 ⟨trimmed after, hrest⟩
      split at hopening
      · obtain rfl : _ = queue' := by simpa using hopening
        exact hqueue
      · rename_i word hword
        obtain rfl : _ = queue' := by simpa using hopening
        exact cons_iff.2 ⟨of_trimmed hword, cons_iff.2 ⟨by decide, hqueue⟩⟩

theorem takeBody {body : List String} (h : NoEmpty queue)
    (hbody : Block.takeBody queue = some (body, queue')) : NoEmpty queue' := by
  induction queue generalizing body with
  | nil => simp [Block.takeBody] at hbody
  | cons token rest ih =>
    have hrest := (cons_iff.1 h).2
    simp only [Block.takeBody] at hbody
    split at hbody
    · rename_i inside after hcut
      simp only [Option.some.injEq, Prod.mk.injEq] at hbody
      obtain ⟨-, rfl⟩ := hbody
      exact append_iff.2 ⟨trimmed after, hrest⟩
    · simp only [Option.map_eq_some_iff, Prod.mk.injEq, Prod.exists] at hbody
      obtain ⟨body', after, hbody', -, rfl⟩ := hbody
      exact ih hrest hbody'

theorem read {id : NodeId} {outcome : BlockOutcome} (h : NoEmpty queue)
    (hread : Block.read t id queue index = (.ok outcome, queue')) : NoEmpty queue' := by
  simp only [Block.read] at hread
  split at hread
  · simp only [Prod.mk.injEq] at hread
    exact hread.2 ▸ h
  · rename_i cut hcut
    simp only [Prod.mk.injEq] at hread
    exact hread.2 ▸ h.findOpening (.inl hcut)
  · rename_i inside hopened
    split at hread
    · simp at hread
    · rename_i body after hbody
      split at hread
      · simp only [Prod.mk.injEq] at hread
        exact hread.2 ▸ (h.findOpening (.inr hopened)).takeBody hbody
      · simp at hread

theorem stepToken {w v : Walk} {token : String} (hrest : NoEmpty rest)
    (hstep : w.stepToken t token rest index = .next v) : NoEmpty v.queue := by
  simp only [Walk.stepToken] at hstep
  split at hstep
  · simp only [Step.next.injEq] at hstep
    subst hstep
    simp only
    split
    · exact hrest
    · rename_i htail
      exact cons_iff.2 ⟨by simpa using htail, hrest⟩
  · rename_i hlead
    split at hstep
    · split at hstep
      · simp only [descend] at hstep
        split at hstep
        · cases hstep
        · simp only [Step.next.injEq] at hstep
          exact hstep ▸ hrest
      · rename_i htail
        simp only [List.isEmpty_iff] at htail
        simp only [Step.next.injEq] at hstep
        subst hstep
        have hword := word_ne_nil hlead htail
        exact cons_iff.2 ⟨mt String.ofList_eq_empty_iff.1 hword,
          cons_iff.2 ⟨mt String.ofList_eq_empty_iff.1 htail, hrest⟩⟩
    · simp only [takeArguments] at hstep
      split at hstep <;> cases hstep

theorem step {w v : Walk} (h : NoEmpty w.queue) (hstep : w.step t index = .next v) :
    NoEmpty v.queue := by
  simp only [Walk.step] at hstep
  split at hstep
  · cases hstep
  · rename_i token rest hq
    rw [hq] at h
    split at hstep
    · cases hstep
    · rename_i env queue hread
      simp only [Step.next.injEq] at hstep
      exact hstep ▸ h.read hread
    · rename_i queue hread
      simp only [Step.next.injEq] at hstep
      exact hstep ▸ h.read hread
    · exact stepToken (cons_iff.1 h).2 hstep

/-- Every step that goes on makes a queue without empty tokens lighter. -/
theorem weight_lt {w v : Walk} (h : NoEmpty w.queue) (hstep : w.step t index = .next v) :
    weight v.queue < weight w.queue := by
  rcases weight_step hstep with hlt | ⟨token, hq⟩
  · exact hlt
  · rw [hq] at h ⊢
    have hpos := length_pos (cons_iff.1 h).1
    simp only [weight_cons, tokenWeight]
    omega

/-! ## Whole walks -/

theorem start (tokens : List String) : NoEmpty (Walk.start tokens).queue := by
  intro s hs
  obtain ⟨token, -, htrimmed⟩ := List.mem_filterMap.1 hs
  exact of_trimmed htrimmed

/-- A walk that may take more steps than the weight of its queue ends within them. -/
theorem runWithin_eq {n : Nat} {w : Walk} (h : NoEmpty w.queue) (hn : weight w.queue < n) :
    w.runWithin t n index = some (w.run t index) := by
  induction n generalizing w with
  | zero => exact absurd hn (Nat.not_lt_zero _)
  | succ n ih =>
    rw [runWithin]
    cases hstep : w.step t index with
    | next v =>
      have hlt := h.weight_lt hstep
      rw [run_next hstep]
      exact ih (h.step hstep) (by omega)
    | done items => rw [run_done hstep]
    | failed e => rw [run_failed hstep]

end NoEmpty

variable {α : Type}

/-- The walk after a number of steps, if it goes on for so long. -/
def advance (t : CommandTree α) (n : Nat) (w : Walk) (index : CommandTree α := t) : Option Walk :=
  match n with
  | 0 => some w
  | n + 1 =>
    match w.step t index with
    | .next v => advance t n v index
    | .done _ => none
    | .failed _ => none

theorem step_of_advance_one {t index : CommandTree α} {w v : Walk}
    (h : w.advance t 1 index = some v) : w.step t index = .next v := by
  rw [advance] at h
  cases hstep : w.step t index with
  | next u =>
    rw [hstep] at h
    rw [Option.some.inj h]
  | done items => simp [hstep] at h
  | failed e => simp [hstep] at h

/-- After any number of steps no token is empty, and the queue is lighter by at least that
number. -/
theorem advance_spec {t index : CommandTree α} {n : Nat} {w v : Walk} (h : NoEmpty w.queue)
    (hv : w.advance t n index = some v) :
    NoEmpty v.queue ∧ n + weight v.queue ≤ weight w.queue := by
  induction n generalizing w with
  | zero =>
    obtain rfl := Option.some.inj hv
    exact ⟨h, by omega⟩
  | succ n ih =>
    rw [advance] at hv
    cases hstep : w.step t index with
    | next u =>
      rw [hstep] at hv
      obtain ⟨hqueue, hle⟩ := ih (h.step hstep) hv
      have hlt := h.weight_lt hstep
      exact ⟨hqueue, by omega⟩
    | done items => simp [hstep] at hv
    | failed e => simp [hstep] at hv

/-- What holds of a walk that is about to take a step. -/
structure Dwindles (t index : CommandTree α) (w : Walk) : Prop where
  /-- No token is empty, also once a block is opened and its end is looked for. -/
  nonempty : ∀ s ∈ w.queue, s ≠ ""
  nonempty_inside : ∀ queue, Block.findOpening w.queue = .opened queue → ∀ s ∈ queue, s ≠ ""
  length_le : w.queue.length ≤ characters w.queue
  /-- Twice the characters less the tokens: a step that goes on makes it smaller. -/
  decreases : ∀ v, w.step t index = .next v →
    2 * characters v.queue - v.queue.length < 2 * characters w.queue - w.queue.length

theorem NoEmpty.dwindles {t index : CommandTree α} {w : Walk} (h : NoEmpty w.queue) :
    w.Dwindles t index where
  nonempty := h
  nonempty_inside := fun _ hopened => h.findOpening (.inr hopened)
  length_le := h.length_le
  decreases := by
    intro v hstep
    rw [← (h.step hstep).weight_eq, ← h.weight_eq]
    exact h.weight_lt hstep

/-- Every walk ends within twice as many steps as it has characters, and one more. -/
theorem start_terminates (t index : CommandTree α) (tokens : List String) :
    (∀ n w, (start tokens).advance t n index = some w →
      w.Dwindles t index ∧
        n ≤ 2 * characters (start tokens).queue - (start tokens).queue.length) ∧
    (start tokens).runWithin t (2 * characters (start tokens).queue + 1) index =
      some (t.readItems tokens index) := by
  have hstart := NoEmpty.start tokens
  have hweight := hstart.weight_eq
  constructor
  · intro n w hw
    obtain ⟨hqueue, hle⟩ := advance_spec hstart hw
    exact ⟨hqueue.dwindles, by omega⟩
  · exact hstart.runWithin_eq (by omega)

/-- A token is cut in three and the first part in two, so the queue grows from one token to four
while the bound falls. -/
theorem start_terminates_deploy :
    ∃ w v : Walk, (start [" d.p\x7br = us\x7d "]).advance CommandTree.sampleTree 1 = some w ∧
      w.step CommandTree.sampleTree = .next v ∧
      w.queue = ["d.p", "\x7b", "r = us\x7d"] ∧ v.queue = ["d", ".p", "\x7b", "r = us\x7d"] ∧
      w.Dwindles CommandTree.sampleTree CommandTree.sampleTree ∧
      2 * characters v.queue - v.queue.length < 2 * characters w.queue - w.queue.length ∧
      (start [" d.p\x7br = us\x7d "]).runWithin CommandTree.sampleTree 23 =
        some (CommandTree.sampleTree.readItems [" d.p\x7br = us\x7d "]) := by
  let w : Walk := ⟨["d.p", "\x7b", "r = us\x7d"], [], CommandTree.root, true⟩
  let v : Walk := ⟨["d", ".p", "\x7b", "r = us\x7d"], [], CommandTree.root, true⟩
  have hw : (start [" d.p\x7br = us\x7d "]).advance CommandTree.sampleTree 1 = some w := by
    decide +kernel
  have hv : w.step CommandTree.sampleTree = .next v := step_of_advance_one (by decide +kernel)
  have hcharacters : characters (start [" d.p\x7br = us\x7d "]).queue = 11 := by decide +kernel
  obtain ⟨hsteps, hrun⟩ := start_terminates CommandTree.sampleTree CommandTree.sampleTree
    [" d.p\x7br = us\x7d "]
  have hdwindles := (hsteps 1 w hw).1
  rw [hcharacters] at hrun
  exact ⟨w, v, hw, hv, rfl, rfl, hdwindles, hdwindles.decreases v hv, hrun⟩

end FlowScript.Walk
