import FlowScript.Builtin.Catalog
import FlowScript.Proofs.Command.Shape

/-!
# Registering commands

Trees grow by calls: adding a command, attaching an executable, declaring a parameter, making an
executable quiet. A call may be refused. `BuiltBy log t` says that the calls of `log`, with the
results that stand beside them, lead from the empty tree to `t`. `Effect` says what a call can do;
everything else is read off it: a tree that was built by calls is well-formed
(`BuiltBy.wellFormed`), and its executables have the parameters that the log says were declared
(`BuiltBy.declarations`).
-/

namespace FlowScript

/-- A call that may change a command tree. -/
inductive Registration (α : Type) where
  | addSub (parent : NodeId) (name : String) (abbrs : List String)
  | attach (id : NodeId) (help : String) (kind : ExecutableKind α)
  | declare (id : NodeId) (name default : String) (abbrs : List String)
  | setQuiet (id : NodeId)

variable {α : Type}

namespace Registration

/-- The step of registration that a call makes. -/
def action : Registration α → Registering (CommandTree α) Unit
  | addSub parent name abbrs => discard (Builtin.addCommand parent name abbrs)
  | attach id help kind => Builtin.change fun t => t.attach id help kind
  | declare id name default abbrs => Builtin.change fun t => t.declare id name default abbrs
  | setQuiet id => Builtin.change fun t => .ok (t.setQuiet id)

/-- Makes a call on a tree: whether it was refused, and the tree afterwards. -/
def perform (r : Registration α) (t : CommandTree α) :
    Except RegistrationError Unit × CommandTree α :=
  r.action.run.run t

/-- What a call is about is there: the node, and for the last two its executable. -/
def Addresses (r : Registration α) (t : CommandTree α) : Prop :=
  match r with
  | addSub id _ _ => id.index < t.size
  | attach id _ _ => id.index < t.size
  | declare id _ _ _ => (t.executable? id).isSome
  | setQuiet id => (t.executable? id).isSome

instance (r : Registration α) (t : CommandTree α) : Decidable (r.Addresses t) :=
  match r with
  | addSub id _ _ => inferInstanceAs (Decidable (id.index < t.size))
  | attach id _ _ => inferInstanceAs (Decidable (id.index < t.size))
  | declare id _ _ _ => inferInstanceAs (Decidable ((t.executable? id).isSome = true))
  | setQuiet id => inferInstanceAs (Decidable ((t.executable? id).isSome = true))

/-- Makes calls one after the other, up to the first that is about something that is not there:
the calls with their results, and the tree afterwards. -/
def performAll : List (Registration α) → CommandTree α →
    List (Registration α × Except RegistrationError Unit) × CommandTree α
  | [], t => ([], t)
  | r :: rest, t =>
    if r.Addresses t then
      let (result, t) := r.perform t
      let (log, t) := performAll rest t
      ((r, result) :: log, t)
    else ([], t)

end Registration

namespace CommandTree

/-- The calls of a log, made one after the other on the empty tree, had the results that stand
beside them and led to a tree. -/
inductive BuiltBy : List (Registration α × Except RegistrationError Unit) → CommandTree α → Prop
  | start : BuiltBy [] .empty
  | call {log t r result t'} (h : BuiltBy log t) (ha : r.Addresses t)
      (hr : r.perform t = (result, t')) : BuiltBy (log ++ [(r, result)]) t'

theorem BuiltBy.performAll {log : List (Registration α × Except RegistrationError Unit)}
    {t : CommandTree α} (h : BuiltBy log t) (calls : List (Registration α)) :
    BuiltBy (log ++ (Registration.performAll calls t).1) (Registration.performAll calls t).2 := by
  induction calls generalizing log t with
  | nil => simpa [Registration.performAll] using h
  | cons r rest ih =>
    by_cases ha : r.Addresses t
    · have hstep := ih (h.call ha (Prod.eta (r.perform t)).symm)
      simpa [Registration.performAll, ha] using hstep
    · simpa [Registration.performAll, ha] using h

/-- Some calls lead to the tree. -/
def Reachable (t : CommandTree α) : Prop := ∃ log, BuiltBy log t

/-! ## Changing an executable -/

/-- Puts an executable in the place of the one that a node has or lacks. -/
def setExecutable (t : CommandTree α) (id : NodeId) (x : Executable α) : CommandTree α :=
  t.modify id fun n => { n with executable := some x }

section SetExecutable

variable (t : CommandTree α) (id : NodeId) (x : Executable α)

@[simp] theorem size_setExecutable : (t.setExecutable id x).size = t.size := by
  simp [setExecutable, modify, size]

theorem node_setExecutable (c : NodeId) :
    (t.setExecutable id x).node c =
      if c = id ∧ id.index < t.size then { t.node c with executable := some x } else t.node c := by
  simp only [setExecutable, modify, node, List.getElem?_modify, size]
  by_cases hc : c = id
  · subst hc
    by_cases hlt : c.index < t.nodes.length <;> simp [hlt]
  · have hne : id.index ≠ c.index := fun h => hc (by cases c; cases id; simp_all)
    simp [hc, hne]

@[simp] theorem label_setExecutable (c : NodeId) :
    ((t.setExecutable id x).node c).label = (t.node c).label := by
  rw [node_setExecutable]
  split <;> rfl

@[simp] theorem parent_setExecutable (c : NodeId) :
    ((t.setExecutable id x).node c).parent = (t.node c).parent := by
  rw [node_setExecutable]
  split <;> rfl

theorem executable?_setExecutable (c : NodeId) (hid : id.index < t.size) :
    (t.setExecutable id x).executable? c = if c = id then some x else t.executable? c := by
  rw [executable?, node_setExecutable]
  by_cases hc : c = id <;> simp [hc, hid, executable?]

@[simp] theorem children_setExecutable (p : NodeId) :
    (t.setExecutable id x).children p = t.children p := by
  simp [children, ids]

@[simp] theorem labelsBelow_setExecutable (p : NodeId) :
    (t.setExecutable id x).labelsBelow p = t.labelsBelow p := by
  simp [labelsBelow]

end SetExecutable

theorem lt_size_of_executable? {t : CommandTree α} {id : NodeId} {x : Executable α}
    (h : t.executable? id = some x) : id.index < t.size := by
  apply Classical.byContradiction
  intro hge
  have hnone : t.nodes[id.index]? = none := List.getElem?_eq_none (Nat.le_of_not_lt hge)
  simp [executable?, node, hnone, Node.root] at h

theorem WellFormed.setExecutable {t : CommandTree α} (h : t.WellFormed) {id : NodeId}
    {x : Executable α} (hid : id.index < t.size) (hx : Label.Sound x.labels) :
    (t.setExecutable id x).WellFormed where
  root_first := by simpa using h.root_first
  parent_before := by simpa using h.parent_before
  siblings := by simpa using h.siblings
  params := by
    intro c y hy
    rw [executable?_setExecutable t id x c hid] at hy
    split at hy
    · exact Option.some.inj hy ▸ hx
    · exact h.params c y hy

/-! ## Adding a node -/

section Push

variable (t : CommandTree α) (n : Node α)

theorem node_push (c : NodeId) :
    (⟨t.nodes ++ [n]⟩ : CommandTree α).node c = if c.index = t.size then n else t.node c := by
  simp only [node, size, List.getElem?_append]
  by_cases hlt : c.index < t.nodes.length
  · simp [hlt, Nat.ne_of_lt hlt]
  · by_cases heq : c.index = t.nodes.length
    · simp [heq]
    · have hpos : c.index - t.nodes.length ≠ 0 := by omega
      simp [hlt, heq, hpos]

theorem children_push (p : NodeId) :
    (⟨t.nodes ++ [n]⟩ : CommandTree α).children p =
      t.children p ++ if n.parent = some p then [⟨t.size⟩] else [] := by
  have hold : ∀ c ∈ t.ids, (⟨t.nodes ++ [n]⟩ : CommandTree α).node c = t.node c := by
    intro c hc
    rw [node_push, if_neg (Nat.ne_of_lt (mem_ids.1 hc))]
  have hids : (⟨t.nodes ++ [n]⟩ : CommandTree α).ids = t.ids ++ [⟨t.size⟩] := by
    simp [ids, size, List.range_succ]
  rw [children, hids, List.filter_append, children]
  congr 1
  · apply List.filter_congr
    intro c hc
    rw [hold c hc]
  · by_cases hp : n.parent = some p <;> simp [node_push, hp]

theorem modify_push (f : Node α → Node α) :
    (⟨t.nodes ++ [n]⟩ : CommandTree α).modify ⟨t.size⟩ f = ⟨t.nodes ++ [f n]⟩ := by
  rw [CommandTree.modify, size]
  congr 1
  induction t.nodes with
  | nil => rfl
  | cons first rest ih => simp [ih]

theorem addSub_eq (parent : NodeId) (name : String) (abbrs : List String) :
    t.addSub parent name abbrs =
      (Label.accept .command (t.displayPath parent) (t.labelsBelow parent) name abbrs).map
        fun label => (⟨t.size⟩, ⟨t.nodes ++ [⟨label, some parent, none⟩]⟩) := by
  have hsiblings : (t.children parent).map (fun c => (t.node c).label) = t.labelsBelow parent := rfl
  rw [addSub, hsiblings]
  cases Label.accept .command (t.displayPath parent) (t.labelsBelow parent) name abbrs <;> rfl

theorem labelsBelow_push (p : NodeId) :
    (⟨t.nodes ++ [n]⟩ : CommandTree α).labelsBelow p =
      t.labelsBelow p ++ if n.parent = some p then [n.label] else [] := by
  rw [labelsBelow, children_push, List.map_append, labelsBelow]
  congr 1
  · apply List.map_congr_left
    intro c hc
    rw [node_push, if_neg (Nat.ne_of_lt (mem_children.1 hc).1)]
  · split <;> simp [node_push]

end Push

theorem WellFormed.push {t : CommandTree α} (h : t.WellFormed) {parent : NodeId} {label : Label}
    (hparent : parent.index < t.size)
    (hlabel : Label.Sound (t.labelsBelow parent ++ [label])) :
    (⟨t.nodes ++ [⟨label, some parent, none⟩]⟩ : CommandTree α).WellFormed where
  root_first := by
    have hpos := h.root_first.1
    refine ⟨by simp [size], ?_⟩
    rw [node_push, if_neg (by simp [root]; omega)]
    exact h.root_first.2
  parent_before := by
    intro c hne hc
    rw [node_push]
    split
    · rename_i heq
      exact ⟨parent, rfl, heq ▸ hparent⟩
    · rename_i hne'
      have hc : c.index < t.size := by
        simp only [size, List.length_append, List.length_singleton] at hc hne' ⊢
        omega
      exact h.parent_before c hne hc
  siblings := by
    intro p
    rw [labelsBelow_push]
    by_cases hp : parent = p
    · subst hp
      simpa using hlabel
    · simpa [hp] using h.siblings p
  params := by
    intro c x hx
    rw [executable?, node_push] at hx
    split at hx
    · simp at hx
    · exact h.params c x hx

/-! ## What a call can do -/

/-- The outcomes of a call. -/
inductive Effect (t : CommandTree α) :
    Registration α → Except RegistrationError Unit → CommandTree α → Prop
  | refused (r : Registration α) (e : RegistrationError) : Effect t r (.error e) t
  | added {parent name abbrs label} (hparent : parent.index < t.size)
      (hlabel : Label.accept .command (t.displayPath parent) (t.labelsBelow parent) name abbrs =
        .ok label) :
      Effect t (.addSub parent name abbrs) (.ok ()) ⟨t.nodes ++ [⟨label, some parent, none⟩]⟩
  | attached {id help kind} (hid : id.index < t.size) (hnone : t.executable? id = none) :
      Effect t (.attach id help kind) (.ok ()) (t.setExecutable id ⟨kind, help, [], false⟩)
  | declared {id name default abbrs x label} (hx : t.executable? id = some x)
      (hlabel : Label.accept .argument (t.displayPath id) x.labels name abbrs = .ok label) :
      Effect t (.declare id name default abbrs) (.ok ())
        (t.setExecutable id { x with params := x.params ++ [⟨label, default⟩] })
  | quieted {id x} (hx : t.executable? id = some x) :
      Effect t (.setQuiet id) (.ok ()) (t.setExecutable id { x with quiet := true })

end CommandTree

namespace Registration

/-- A step that gives back a tree keeps the old one if it is refused. -/
theorem run_change (f : CommandTree α → Except RegistrationError (CommandTree α))
    (t : CommandTree α) :
    (Builtin.change f).run.run t =
      match f t with
      | .ok t' => (.ok (), t')
      | .error e => (.error e, t) := by
  have hrun : (Builtin.change f).run.run t =
      (match f t with
        | .ok t' => (set t' : Registering (CommandTree α) Unit)
        | .error e => throw e).run.run t := rfl
  rw [hrun]
  cases f t <;> rfl

/-- A step after adding a command gets the tree with the command. -/
theorem run_addCommand_bind (parent : NodeId) (name : String) (abbrs : List String)
    {β : Type} (next : NodeId → Registering (CommandTree α) β) (t : CommandTree α) :
    (Builtin.addCommand parent name abbrs >>= next).run.run t =
      match t.addSub parent name abbrs with
      | .ok (id, t') => (next id).run.run t'
      | .error e => (.error e, t) := by
  have hrun : (Builtin.addCommand parent name abbrs >>= next).run.run t =
      ((match t.addSub parent name abbrs with
        | .ok (id, t') => (do set t'; return id : Registering (CommandTree α) NodeId)
        | .error e => throw e) >>= next).run.run t := rfl
  rw [hrun]
  cases t.addSub parent name abbrs <;> rfl

open CommandTree

theorem perform_addSub (parent : NodeId) (name : String) (abbrs : List String)
    (t : CommandTree α) :
    (addSub parent name abbrs).perform t =
      match Label.accept .command (t.displayPath parent) (t.labelsBelow parent) name abbrs with
      | .error e => (.error e, t)
      | .ok label => (.ok (), ⟨t.nodes ++ [⟨label, some parent, none⟩]⟩) := by
  have haction : (addSub parent name abbrs : Registration α).action =
      Builtin.addCommand parent name abbrs >>= fun _ => pure () := rfl
  rw [perform, haction, run_addCommand_bind, addSub_eq]
  cases Label.accept .command (t.displayPath parent) (t.labelsBelow parent) name abbrs <;> rfl

theorem perform_attach (id : NodeId) (help : String) (kind : ExecutableKind α)
    (t : CommandTree α) :
    (attach id help kind).perform t =
      match t.executable? id with
      | some _ => (.error (.executableExists (t.displayPath id)), t)
      | none => (.ok (), t.setExecutable id ⟨kind, help, [], false⟩) := by
  rw [perform, action, run_change, CommandTree.attach]
  cases t.executable? id <;> rfl

/-- A command that was just added has no executable yet, so attaching one is not refused. -/
theorem perform_attach_push (t : CommandTree α) (label : Label) (parent : Option NodeId)
    (help : String) (kind : ExecutableKind α) :
    (attach ⟨t.size⟩ help kind).perform ⟨t.nodes ++ [⟨label, parent, none⟩]⟩ =
      (.ok (), ⟨t.nodes ++ [⟨label, parent, some ⟨kind, help, [], false⟩⟩]⟩) := by
  have hnone : executable? ⟨t.nodes ++ [⟨label, parent, none⟩]⟩ ⟨t.size⟩ =
      (none : Option (Executable α)) := by
    rw [executable?, node_push, if_pos rfl]
  rw [perform_attach, hnone]
  exact congrArg (Prod.mk _) (modify_push t _ _)

theorem perform_declare (id : NodeId) (name default : String) (abbrs : List String)
    {t : CommandTree α} {x : Executable α} (hx : t.executable? id = some x) :
    (declare id name default abbrs).perform t =
      match Label.accept .argument (t.displayPath id) x.labels name abbrs with
      | .error e => (.error e, t)
      | .ok label =>
        (.ok (), t.setExecutable id { x with params := x.params ++ [⟨label, default⟩] }) := by
  rw [perform, action, run_change, CommandTree.declare, hx]
  simp only [Executable.declare, bind, Except.bind]
  cases Label.accept .argument (t.displayPath id) x.labels name abbrs <;> rfl

/-- Making a quiet executable changes nothing else. -/
theorem setQuiet_eq {t : CommandTree α} {id : NodeId} {x : Executable α}
    (hx : t.executable? id = some x) :
    t.setQuiet id = t.setExecutable id { x with quiet := true } := by
  have hlt := lt_size_of_executable? hx
  simp only [CommandTree.setQuiet, CommandTree.setExecutable, CommandTree.modify,
    CommandTree.mk.injEq]
  apply List.ext_getElem?
  intro i
  simp only [List.getElem?_modify]
  by_cases hi : id.index = i
  · subst hi
    have hnode : t.nodes[id.index]? = some (t.node id) := by
      rw [node, List.getElem?_eq_getElem hlt]
      rfl
    have hexec : (t.node id).executable = some x := hx
    simp [hnode, hexec]
  · simp [hi]

theorem perform_setQuiet {id : NodeId} {t : CommandTree α} {x : Executable α}
    (hx : t.executable? id = some x) :
    (setQuiet id).perform t = (.ok (), t.setExecutable id { x with quiet := true }) := by
  rw [perform, action, run_change, setQuiet_eq hx]

theorem perform_effect {r : Registration α} {t t' : CommandTree α}
    {result : Except RegistrationError Unit} (ha : r.Addresses t)
    (h : r.perform t = (result, t')) : Effect t r result t' := by
  cases r with
  | addSub parent name abbrs =>
    rw [perform_addSub] at h
    cases hlabel : Label.accept .command (t.displayPath parent) (t.labelsBelow parent) name
        abbrs with
    | error e =>
      simp only [hlabel, Prod.mk.injEq] at h
      obtain ⟨rfl, rfl⟩ := h
      exact .refused _ e
    | ok label =>
      simp only [hlabel, Prod.mk.injEq] at h
      obtain ⟨rfl, rfl⟩ := h
      exact .added ha hlabel
  | attach id help kind =>
    rw [perform_attach] at h
    cases hx : t.executable? id with
    | some x =>
      simp only [hx, Prod.mk.injEq] at h
      obtain ⟨rfl, rfl⟩ := h
      exact .refused _ _
    | none =>
      simp only [hx, Prod.mk.injEq] at h
      obtain ⟨rfl, rfl⟩ := h
      exact .attached ha hx
  | declare id name default abbrs =>
    obtain ⟨x, hx⟩ := Option.isSome_iff_exists.1 ha
    rw [perform_declare id name default abbrs hx] at h
    cases hlabel : Label.accept .argument (t.displayPath id) x.labels name abbrs with
    | error e =>
      simp only [hlabel, Prod.mk.injEq] at h
      obtain ⟨rfl, rfl⟩ := h
      exact .refused _ e
    | ok label =>
      simp only [hlabel, Prod.mk.injEq] at h
      obtain ⟨rfl, rfl⟩ := h
      exact .declared hx hlabel
  | setQuiet id =>
    obtain ⟨x, hx⟩ := Option.isSome_iff_exists.1 ha
    rw [perform_setQuiet hx, Prod.mk.injEq] at h
    obtain ⟨rfl, rfl⟩ := h
    exact .quieted hx

/-- A refused call changes nothing, whatever it is about. -/
theorem perform_refused {r : Registration α} {t t' : CommandTree α} {e : RegistrationError}
    (h : r.perform t = (.error e, t')) : t' = t := by
  have hkept (f : CommandTree α → Except RegistrationError (CommandTree α))
      (hf : (Builtin.change f).run.run t = (.error e, t')) : t' = t := by
    rw [run_change] at hf
    cases hres : f t with
    | ok t'' =>
      rw [hres] at hf
      exact nomatch (Prod.mk.inj hf).1
    | error e' =>
      rw [hres] at hf
      exact (Prod.mk.inj hf).2.symm
  cases r with
  | addSub parent name abbrs =>
    rw [perform_addSub] at h
    split at h
    · exact (Prod.mk.inj h).2.symm
    · simp at h
  | attach id help kind => exact hkept _ h
  | declare id name default abbrs => exact hkept _ h
  | setQuiet id => exact hkept (fun t => .ok (t.setQuiet id)) h

end Registration

namespace CommandTree

/-! ## What calls lead to -/

@[simp] theorem node_empty (id : NodeId) : (empty : CommandTree α).node id = .root := by
  obtain ⟨i⟩ := id
  cases i <;> rfl

@[simp] theorem children_empty (id : NodeId) : (empty : CommandTree α).children id = [] := by
  simp [children, Node.root]

theorem WellFormed.empty : (empty : CommandTree α).WellFormed where
  root_first := ⟨Nat.one_pos, rfl⟩
  parent_before := by
    intro id hne hid
    obtain ⟨i⟩ := id
    simp only [CommandTree.empty, size, List.length_singleton] at hid
    obtain rfl : i = 0 := by omega
    exact absurd rfl hne
  siblings := by
    intro id
    rw [labelsBelow, children_empty]
    exact .nil
  params := by
    intro id x hx
    simp [executable?, Node.root] at hx

theorem WellFormed.effect {t t' : CommandTree α} (h : t.WellFormed) {r : Registration α}
    {result : Except RegistrationError Unit} (he : Effect t r result t') : t'.WellFormed := by
  cases he with
  | refused _ e => exact h
  | added hparent hlabel => exact h.push hparent ((h.siblings _).append hlabel)
  | attached hid _ => exact h.setExecutable hid .nil
  | declared hx hlabel =>
    refine h.setExecutable (lt_size_of_executable? hx) ?_
    simpa [Executable.labels] using (h.params _ _ hx).append hlabel
  | quieted hx =>
    have hparams := h.params _ _ hx
    exact h.setExecutable (lt_size_of_executable? hx) hparams

theorem BuiltBy.wellFormed {log : List (Registration α × Except RegistrationError Unit)}
    {t : CommandTree α} (h : BuiltBy log t) : t.WellFormed := by
  induction h with
  | start => exact .empty
  | call _ ha hr ih => exact ih.effect (Registration.perform_effect ha hr)

theorem Reachable.wellFormed {t : CommandTree α} (h : t.Reachable) : t.WellFormed := by
  obtain ⟨log, hlog⟩ := h
  exact hlog.wellFormed

/-! ## What was declared -/

/-- The parameter that a logged call declared at a node. -/
def declaredBy (id : NodeId) : Registration α × Except RegistrationError Unit → Option Param
  | (.declare id' name default abbrs, .ok ()) =>
    if id' = id then some ⟨⟨name, abbrs.filter (· ≠ name)⟩, default⟩ else none
  | _ => none

/-- The parameters of the executable at a node; none without an executable. -/
def paramsAt (t : CommandTree α) (id : NodeId) : List Param :=
  ((t.executable? id).map (·.params)).getD []

theorem paramsAt_setExecutable {t : CommandTree α} {id : NodeId} (hid : id.index < t.size)
    (x : Executable α) (c : NodeId) :
    (t.setExecutable id x).paramsAt c = if c = id then x.params else t.paramsAt c := by
  rw [paramsAt, executable?_setExecutable t id x c hid]
  split <;> rfl

theorem paramsAt_push (t : CommandTree α) (label : Label) (parent : Option NodeId) (c : NodeId) :
    (⟨t.nodes ++ [⟨label, parent, none⟩]⟩ : CommandTree α).paramsAt c = t.paramsAt c := by
  rw [paramsAt, executable?, node_push]
  split
  · rename_i heq
    have hnone : t.executable? c = none := by
      apply Classical.byContradiction
      intro hsome
      obtain ⟨x, hx⟩ := Option.ne_none_iff_exists'.1 hsome
      exact absurd (lt_size_of_executable? hx) (by omega)
    simp [paramsAt, hnone]
  · rfl

/-- A call adds to the parameters at a node what it declared there. -/
theorem paramsAt_effect {t t' : CommandTree α} {r : Registration α}
    {result : Except RegistrationError Unit} (he : Effect t r result t') (id : NodeId) :
    t'.paramsAt id = t.paramsAt id ++ (declaredBy id (r, result)).toList := by
  cases he with
  | refused r e => cases r <;> simp [declaredBy]
  | added _ _ => simp [paramsAt_push, declaredBy]
  | attached hid hnone =>
    rw [paramsAt_setExecutable hid]
    split
    · rename_i heq
      subst heq
      simp [paramsAt, hnone, declaredBy]
    · simp [declaredBy]
  | @declared id' name default abbrs x label hx hlabel =>
    obtain ⟨rfl, -, -⟩ := Label.accept_eq_ok_iff.1 hlabel
    rw [paramsAt_setExecutable (lt_size_of_executable? hx)]
    by_cases heq : id = id'
    · subst heq
      simp [paramsAt, hx, declaredBy]
    · simp [heq, declaredBy, Ne.symm heq]
  | quieted hx =>
    rw [paramsAt_setExecutable (lt_size_of_executable? hx)]
    split
    · rename_i heq
      subst heq
      simp [paramsAt, hx, declaredBy]
    · simp [declaredBy]

/-- An executable has the parameters that were declared for it, in that order. -/
theorem BuiltBy.declarations {log : List (Registration α × Except RegistrationError Unit)}
    {t : CommandTree α} (h : BuiltBy log t) (id : NodeId) :
    t.paramsAt id = log.filterMap (declaredBy id) := by
  induction h with
  | start =>
    simp [paramsAt, executable?, Node.root]
  | call _ ha hr ih =>
    rw [paramsAt_effect (Registration.perform_effect ha hr), ih, List.filterMap_append]
    simp only [List.filterMap_cons, List.filterMap_nil]
    split <;> simp_all

theorem mem_declarations {log : List (Registration α × Except RegistrationError Unit)}
    {id : NodeId} {p : Param} :
    p ∈ log.filterMap (declaredBy id) ↔
      ∃ abbrs, (Registration.declare id p.label.name p.default abbrs, .ok ()) ∈ log ∧
        p.label.abbrs = abbrs.filter (· ≠ p.label.name) := by
  rw [List.mem_filterMap]
  constructor
  · rintro ⟨⟨r, result⟩, hmem, hp⟩
    unfold declaredBy at hp
    split at hp
    · rename_i id' name default abbrs heq
      split at hp
      · rename_i hid
        subst hid
        obtain rfl := Option.some.inj hp
        exact ⟨abbrs, heq ▸ hmem, rfl⟩
      · simp at hp
    · simp at hp
  · rintro ⟨abbrs, hmem, habbrs⟩
    refine ⟨_, hmem, ?_⟩
    obtain ⟨⟨name, abbrs'⟩, default⟩ := p
    simp only at habbrs
    simp [declaredBy, habbrs]

/-- A text stands for a parameter exactly if a call that was not refused declared it under that
text. -/
theorem BuiltBy.resolve_eq_some_iff
    {log : List (Registration α × Except RegistrationError Unit)} {t : CommandTree α}
    (h : BuiltBy log t) {id : NodeId} {x : Executable α} (hx : t.executable? id = some x)
    {token a : String} :
    x.resolve token = some a ↔
      ∃ default abbrs, (Registration.declare id a default abbrs, .ok ()) ∈ log ∧
        (token = a ∨ token ∈ abbrs) := by
  have hparams : x.params = log.filterMap (declaredBy id) := by
    rw [← h.declarations id, paramsAt, hx]
    rfl
  rw [Executable.resolve, (h.wellFormed.params id x hx).resolve_eq_some_iff]
  simp only [Executable.labels, List.mem_map, hparams]
  constructor
  · rintro ⟨_, ⟨p, hp, rfl⟩, rfl, hspelled⟩
    obtain ⟨abbrs, hmem, habbrs⟩ := mem_declarations.1 hp
    refine ⟨p.default, abbrs, hmem, ?_⟩
    rcases List.mem_cons.1 hspelled with hname | habbr
    · exact .inl hname
    · rw [habbrs] at habbr
      exact .inr (List.mem_filter.1 habbr).1
  · rintro ⟨default, abbrs, hmem, htoken⟩
    let p : Param := ⟨⟨a, abbrs.filter (· ≠ a)⟩, default⟩
    refine ⟨p.label, ⟨p, mem_declarations.2 ⟨abbrs, hmem, rfl⟩, rfl⟩, rfl, ?_⟩
    by_cases hsame : token = a
    · simp [p, Label.spellings, hsame]
    · simp [p, Label.spellings, hsame, htoken.resolve_left hsame]

/-! ## The tree as a whole -/

/-- What every tree that was built by calls offers, however many of them were refused. -/
structure Consistent (log : List (Registration α × Except RegistrationError Unit))
    (t : CommandTree α) : Prop where
  /-- Every node but the root hangs on one earlier node: once there, and nowhere else. -/
  parent : ∀ id, id ≠ root → id.index < t.size → ∃ p, (t.node id).parent = some p ∧
    p.index < id.index ∧ (t.children p).count id = 1 ∧ ∀ q, q ≠ p → id ∉ t.children q
  /-- A look-up finds the child that has the text as its name or as one of its abbreviations. -/
  findChild : ∀ p token c, t.findChild p token = some c ↔
    c ∈ t.children p ∧ (token = t.name c ∨ token ∈ (t.node c).label.abbrs)
  /-- Siblings share no spelling. -/
  apart : ∀ p c d token, c ∈ t.children p → d ∈ t.children p →
    token ∈ (t.node c).label.spellings → token ∈ (t.node d).label.spellings → c = d
  /-- The dotted path of a node leads back to it. -/
  findPath : ∀ id, id.index < t.size → t.findPath (t.displayPath id) = some id
  /-- No two nodes have one path. -/
  displayPath : ∀ a b, a.index < t.size → b.index < t.size →
    t.displayPath a = t.displayPath b → a = b
  /-- The parameters of an executable have different names. -/
  paramNames : ∀ id x, t.executable? id = some x → (x.labels.map (·.name)).Nodup
  /-- A text stands for the parameter that some call declared under it without being refused. -/
  resolve : ∀ id x token a, t.executable? id = some x → (x.resolve token = some a ↔
    ∃ default abbrs, (Registration.declare id a default abbrs, .ok ()) ∈ log ∧
      (token = a ∨ token ∈ abbrs))
  /-- A call that is refused leaves the tree as it was. -/
  refused : ∀ (r : Registration α) e t', r.perform t = (.error e, t') → t' = t

theorem WellFormed.parent_unique {t : CommandTree α} (h : t.WellFormed) {id : NodeId}
    (hne : id ≠ root) (hid : id.index < t.size) :
    ∃ p, (t.node id).parent = some p ∧ p.index < id.index ∧ (t.children p).count id = 1 ∧
      ∀ q, q ≠ p → id ∉ t.children q := by
  obtain ⟨p, hparent, hlt⟩ := h.parent_before id hne hid
  have hmem : id ∈ t.children p := mem_children.2 ⟨hid, hparent⟩
  refine ⟨p, hparent, hlt, by rw [(nodup_children p).count, if_pos hmem], ?_⟩
  intro q hq hmem'
  have hparent' := (mem_children.1 hmem').2
  rw [hparent] at hparent'
  exact hq (Option.some.inj hparent').symm

/-- Trees built by calls are consistent with the log of the calls. -/
theorem BuiltBy.consistent {log : List (Registration α × Except RegistrationError Unit)}
    {t : CommandTree α} (h : BuiltBy log t) : Consistent log t where
  parent := fun id hne hid => h.wellFormed.parent_unique hne hid
  findChild := by
    intro p token c
    rw [h.wellFormed.findChild_eq_some_iff, Label.spellings, List.mem_cons]
    rfl
  apart := by
    intro p c d token hc hd hcs hds
    have hfind := h.wellFormed.findChild_eq_some_iff.2 ⟨hc, hcs⟩
    rw [h.wellFormed.findChild_eq_some_iff.2 ⟨hd, hds⟩] at hfind
    exact (Option.some.inj hfind).symm
  findPath := fun id hid => h.wellFormed.findPath_displayPath hid
  displayPath := fun a b ha hb hab => h.wellFormed.displayPath_injective ha hb hab
  paramNames := fun id x hx => (h.wellFormed.params id x hx).nodup_names
  resolve := fun id x token a hx => h.resolve_eq_some_iff hx
  refused := fun r e t' hr => Registration.perform_refused hr

/-- Calls of which two are refused: an abbreviation of `delete` is taken by then, and so is the
name of the second parameter. -/
def sampleCalls : List (Registration Unit) :=
  [.addSub root "deploy" ["d", "deploy"], .addSub root "delete" ["dl", "d"],
   .addSub ⟨1⟩ "prod" ["p"], .attach ⟨2⟩ "" (.external "make"),
   .declare ⟨2⟩ "region" "eu" ["r"], .declare ⟨2⟩ "r" "" []]

/-- The tree that the calls lead to. -/
def sampleTree : CommandTree Unit :=
  (Registration.performAll sampleCalls .empty).2

theorem sampleTree_reachable : sampleTree.Reachable :=
  ⟨_, BuiltBy.start.performAll sampleCalls⟩

end CommandTree

end FlowScript
