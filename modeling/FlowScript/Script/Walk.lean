import FlowScript.Script.Block
import FlowScript.Script.Invocation

/-!
# Walking a sequence down the command tree

The tokens of a sequence form a queue. Each step takes something from its front: an env block, a run
of path separators, a command name, or everything that is left as the arguments of the command that
was reached. Names are only looked for at the start and after a separator or a block. Some steps put
the parts of a token back, but every step brings the walk closer to its end (`measure_step`).
-/

namespace FlowScript

variable {α : Type}

/-- Whether a character separates the names of a path. -/
def isPathSep (c : Char) : Bool :=
  Text.isBlank c || c == '.' || c == '/'

/-- A walk in progress. -/
structure Walk where
  queue : List String
  items : List PathItem
  current : NodeId
  mayDescend : Bool
deriving DecidableEq

namespace Walk

/-- What a step comes to. -/
inductive Step where
  | next (w : Walk)
  | done (items : List PathItem)
  | failed (e : ParseError)

/-! ## Steps -/

/-- Takes the name of a child of the current command. -/
def descend (t : CommandTree α) (w : Walk) (token : String) (rest : List String) : Step :=
  match t.findChild w.current token with
  | none => .failed ⟨.unknownCommand token, t.displayPath w.current, token :: rest⟩
  | some c => .next
      { queue := rest
        items := w.items ++ [.command ⟨t.name c, c⟩]
        current := c
        mayDescend := false }

/-- Takes all that is left as arguments of the current command. -/
def takeArguments (t : CommandTree α) (w : Walk) (tokens : List String)
    (index : CommandTree α := t) : Step :=
  let reading := t.readAssignments w.current tokens index
  if !reading.rest.isEmpty then
    .failed ⟨.notArguments, t.displayPath w.current, reading.rest⟩
  else
    .done (if reading.env.isEmpty then w.items else w.items ++ [.env reading.env])

/-- Takes something from a token in which no block opens. -/
def stepToken (t : CommandTree α) (w : Walk) (token : String) (rest : List String)
    (index : CommandTree α := t) : Step :=
  let tail := token.toList.dropWhile isPathSep
  if tail.length < token.length then
    .next
      { w with
        queue := if tail.isEmpty then rest else String.ofList tail :: rest
        items := if w.items.getLast? = some .separator then w.items else w.items ++ [.separator]
        mayDescend := true }
  else if w.mayDescend then
    let head := token.toList.takeWhile (!isPathSep ·)
    let tail := token.toList.dropWhile (!isPathSep ·)
    if tail.isEmpty then w.descend t token rest
    else .next { w with queue := String.ofList head :: String.ofList tail :: rest }
  else
    w.takeArguments t (token :: rest) index

/-- Takes something from the front of the queue. -/
def step (t : CommandTree α) (w : Walk) (index : CommandTree α := t) : Step :=
  match w.queue with
  | [] => .done w.items
  | token :: rest =>
    match Block.read t w.current (token :: rest) index with
    | (.error e, _) => .failed e
    | (.ok (.found env), queue) =>
      .next { w with queue := queue, items := w.items ++ [.env env], mayDescend := true }
    | (.ok .again, queue) => .next { w with queue := queue }
    | (.ok .absent, _) => w.stepToken t token rest index

/-! ## The weight of the queue -/

/-- The weight of a token. A token that is cut in two loses at least one. -/
def tokenWeight (s : String) : Nat := 2 * s.length - 1

/-- The weight of the tokens in a queue. -/
def weight : List String → Nat
  | [] => 0
  | s :: rest => tokenWeight s + weight rest

@[simp] theorem weight_nil : weight [] = 0 := rfl

@[simp] theorem weight_cons (s : String) (queue : List String) :
    weight (s :: queue) = tokenWeight s + weight queue := rfl

@[simp] theorem weight_append (p q : List String) : weight (p ++ q) = weight p + weight q := by
  induction p with
  | nil => simp
  | cons s rest ih => simp [ih, Nat.add_assoc]

theorem weight_trimmed (s : String) : weight (Text.trimmed? s).toList ≤ tokenWeight s := by
  have h := Text.length_trim_le s
  simp only [Text.trimmed?]
  split
  · simp
  · simp [tokenWeight]
    omega

theorem pos_of_trimmed {s t : String} (h : Text.trimmed? s = some t) :
    0 < t.length ∧ t.length ≤ s.length := by
  have hle := Text.length_trim_le s
  simp only [Text.trimmed?] at h
  split at h
  · simp at h
  · rename_i hne
    simp only [Option.some.injEq] at h
    subst h
    refine ⟨?_, hle⟩
    rw [← String.length_toList]
    apply List.length_pos_iff.2
    intro hnil
    apply hne
    rw [String.isEmpty_iff, ← String.toList_inj, hnil]
    rfl

theorem weight_takeBody {queue body after : List String}
    (h : Block.takeBody queue = some (body, after)) : weight after ≤ weight queue := by
  induction queue generalizing body after with
  | nil => simp [Block.takeBody] at h
  | cons token rest ih =>
    simp only [Block.takeBody] at h
    split at h
    · rename_i inside tail hcut
      simp only [Option.some.injEq, Prod.mk.injEq] at h
      obtain ⟨-, rfl⟩ := h
      have hlen := Text.length_cut hcut
      have hw := weight_trimmed tail
      simp only [weight_append, weight_cons]
      simp only [tokenWeight] at hw ⊢
      omega
    · simp only [Option.map_eq_some_iff, Prod.mk.injEq, Prod.exists] at h
      obtain ⟨b, a, hb, -, rfl⟩ := h
      have := ih hb
      simp only [weight_cons]
      omega

theorem weight_findOpening_cut {token : String} {rest queue : List String}
    (h : Block.findOpening (token :: rest) = .cut queue) :
    weight queue < weight (token :: rest) := by
  simp only [Block.findOpening] at h
  split at h
  · simp at h
  · rename_i before after hcut
    have hlen := Text.length_cut hcut
    split at h
    · simp at h
    · rename_i word hword
      simp only [Block.Opening.cut.injEq] at h
      subst h
      have hpos := pos_of_trimmed hword
      have hbrace : tokenWeight "\x7b" = 1 := by decide
      simp only [weight_cons, weight_append, hbrace]
      cases hafter : Text.trimmed? after with
      | none =>
        simp only [Option.toList_none, weight_nil, tokenWeight]
        omega
      | some tail =>
        have htail := pos_of_trimmed hafter
        simp only [Option.toList_some, weight_cons, weight_nil, tokenWeight]
        omega

theorem weight_findOpening_opened {token : String} {rest queue : List String}
    (h : Block.findOpening (token :: rest) = .opened queue) :
    weight queue < weight (token :: rest) := by
  simp only [Block.findOpening] at h
  split at h
  · simp at h
  · rename_i before after hcut
    have hlen := Text.length_cut hcut
    split at h
    · simp only [Block.Opening.opened.injEq] at h
      subst h
      simp only [weight_cons, weight_append]
      cases hafter : Text.trimmed? after with
      | none =>
        simp only [Option.toList_none, weight_nil, tokenWeight]
        omega
      | some tail =>
        have htail := pos_of_trimmed hafter
        simp only [Option.toList_some, weight_cons, weight_nil, tokenWeight]
        omega
    · simp at h

theorem weight_read {t index : CommandTree α} {id : NodeId} {token : String}
    {rest queue : List String} {outcome : BlockOutcome}
    (h : Block.read t id (token :: rest) index = (.ok outcome, queue))
    (hne : outcome ≠ .absent) : weight queue < weight (token :: rest) := by
  simp only [Block.read] at h
  split at h
  · simp only [Prod.mk.injEq, Except.ok.injEq] at h
    exact absurd h.1.symm hne
  · rename_i q hq
    simp only [Prod.mk.injEq, Except.ok.injEq] at h
    obtain ⟨-, rfl⟩ := h
    exact weight_findOpening_cut hq
  · rename_i inside hopen
    have hlt := weight_findOpening_opened hopen
    split at h
    · simp at h
    · rename_i body after hbody
      have hle := weight_takeBody hbody
      split at h
      · simp only [Prod.mk.injEq, Except.ok.injEq] at h
        obtain ⟨-, rfl⟩ := h
        omega
      · simp at h

/-- What stands before a separator inside a token is not empty if the token does not start with
one. -/
theorem word_ne_nil {token : String}
    (hlead : ¬(token.toList.dropWhile isPathSep).length < token.length)
    (htail : token.toList.dropWhile (!isPathSep ·) ≠ []) :
    token.toList.takeWhile (!isPathSep ·) ≠ [] := by
  cases hl : token.toList with
  | nil => simp [hl] at htail
  | cons c cs =>
    have hc : isPathSep c = false := by
      cases hsep : isPathSep c with
      | false => rfl
      | true =>
        exfalso
        apply hlead
        have hle := (List.dropWhile_sublist isPathSep (l := cs)).length_le
        rw [← String.length_toList, hl]
        simp only [List.dropWhile_cons, hsep, if_true, List.length_cons]
        omega
    simp [hc]

theorem weight_stepToken {t index : CommandTree α} {w v : Walk} {token : String}
    {rest : List String} (hq : w.queue = token :: rest)
    (h : w.stepToken t token rest index = .next v) :
    weight v.queue < weight w.queue ∨ w.queue = token :: v.queue := by
  simp only [stepToken] at h
  split at h
  · rename_i hlt
    simp only [Step.next.injEq] at h
    subst h
    left
    simp only [hq, weight_cons]
    split
    · rename_i hnil
      simp only [List.isEmpty_iff] at hnil
      simp only [hnil, List.length_nil] at hlt
      simp only [tokenWeight]
      omega
    · rename_i hne
      simp only [List.isEmpty_iff] at hne
      have hpos := List.length_pos_iff.2 hne
      simp only [weight_cons, tokenWeight, String.length_ofList]
      omega
  · rename_i hlead
    split at h
    · split at h
      · simp only [descend] at h
        split at h
        · simp at h
        · simp only [Step.next.injEq] at h
          subst h
          exact .inr hq
      · rename_i htail
        simp only [Step.next.injEq] at h
        subst h
        left
        simp only [hq, weight_cons, tokenWeight, String.length_ofList]
        simp only [List.isEmpty_iff] at htail
        have htpos := List.length_pos_iff.2 htail
        have hsum : (token.toList.takeWhile (!isPathSep ·)).length +
            (token.toList.dropWhile (!isPathSep ·)).length = token.length := by
          rw [← List.length_append, List.takeWhile_append_dropWhile, String.length_toList]
        have hhpos := List.length_pos_iff.2 (word_ne_nil hlead htail)
        omega
    · simp only [takeArguments] at h
      split at h <;> simp at h

/-- Every step that goes on makes the queue lighter or takes its first token. -/
theorem weight_step {t index : CommandTree α} {w v : Walk} (h : w.step t index = .next v) :
    weight v.queue < weight w.queue ∨ ∃ token, w.queue = token :: v.queue := by
  simp only [step] at h
  split at h
  · simp at h
  · rename_i token rest hq
    split at h
    · simp at h
    · rename_i env queue hread
      simp only [Step.next.injEq] at h
      subst h
      exact .inl (by rw [hq]; exact weight_read hread (by simp))
    · rename_i queue hread
      simp only [Step.next.injEq] at h
      subst h
      exact .inl (by rw [hq]; exact weight_read hread (by simp))
    · exact (weight_stepToken hq h).imp_right fun hv => ⟨token, hv⟩

/-- How far a walk is from its end: the weight of the queue, then its length. -/
def measure (w : Walk) : Nat × Nat := (weight w.queue, w.queue.length)

/-- Every step that goes on comes closer to the end, also where the first token weighs nothing. -/
theorem measure_step {t index : CommandTree α} {w v : Walk} (h : w.step t index = .next v) :
    Prod.Lex (· < ·) (· < ·) v.measure w.measure := by
  rcases weight_step h with hlt | ⟨token, hq⟩
  · exact Prod.Lex.left _ _ hlt
  · simp only [measure, hq, weight_cons, List.length_cons]
    rcases Nat.eq_zero_or_pos (tokenWeight token) with hz | hp
    · rw [hz, Nat.zero_add]
      exact Prod.Lex.right _ (Nat.lt_succ_self _)
    · exact Prod.Lex.left _ _ (by omega)

/-! ## The walk -/

/-- The items that a walk takes until the queue is empty. -/
def run (t : CommandTree α) (w : Walk) (index : CommandTree α := t) :
    Except ParseError (List PathItem) :=
  match _h : w.step t index with
  | .next v => run t v index
  | .done items => .ok items
  | .failed e => .error e
termination_by w.measure
decreasing_by exact measure_step _h

/-- The walk of a sequence from the root. -/
def start (tokens : List String) : Walk where
  queue := tokens.filterMap Text.trimmed?
  items := []
  current := CommandTree.root
  mayDescend := true

end Walk

namespace CommandTree

/-- The items of a sequence. -/
def readItems (t : CommandTree α) (tokens : List String) (index : CommandTree α := t) :
    Except ParseError (List PathItem) :=
  (Walk.start tokens).run t index

/-- The invocation that a sequence asks for. -/
def readInvocation (t : CommandTree α) (tokens : List String) (index : CommandTree α := t) :
    Except ParseError Invocation :=
  (t.readItems tokens index).map Invocation.ofItems

end CommandTree

end FlowScript
