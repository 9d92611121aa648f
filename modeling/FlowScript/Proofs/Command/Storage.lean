import FlowScript.Proofs.Command.Growth
import FlowScript.Proofs.Command.SpellingTables

/-!
# The arena and the tree

An arena stores what can be read off a command tree. `Represents` says that it does: every cell has
the children, ids and spellings of its node. Each call on an arena has the result of the same call on
the tree and leads to an arena that represents the tree afterwards (`Represents.performOn`), so the
arenas that calls build represent the trees that the same calls build (`BuiltBy.exists_tree`,
`BuiltBy.exists_arena`), and what is stored several times over stays in step (`BuiltBy.inStep`).
-/

namespace FlowScript

variable {α : Type}

/-! ## Executables -/

/-- A table has the parameters of a list. -/
structure ParamTable.Represents (p : ParamTable) (params : List Param) : Prop where
  names : p.names = params.map (·.label.name)
  defaults : ∀ name, p.default? name = (params.find? (·.label.name = name)).map (·.default)
  index : p.index.Lists (params.map (·.label))

/-- What is stored of an executable, and the path of its command. -/
structure StoredExecutable.Represents (path : String) (s : StoredExecutable α)
    (x : Executable α) : Prop where
  kind : s.kind = x.kind
  help : s.help = x.help
  quiet : s.quiet = x.quiet
  path : s.path = path
  params : s.params.Represents x.params

theorem ParamTable.Represents.empty : ParamTable.empty.Represents [] :=
  ⟨rfl, fun _ => rfl, .nil⟩

/-- A parameter whose label was accepted is added after the others. -/
theorem ParamTable.Represents.add {p : ParamTable} {params : List Param} (h : p.Represents params)
    {owner name : String} {abbrs : List String} {l : Label}
    (hl : Label.accept .argument owner (params.map (·.label)) name abbrs = .ok l)
    (default : String) :
    Represents ⟨p.names ++ [name], p.defaults.insert name default,
      p.index.enter l.name l.abbrs.reverse⟩ (params ++ [⟨l, default⟩]) := by
  have hname : l.name = name := by rw [(Label.accept_eq_ok_iff.1 hl).1]
  have hnew : params.find? (·.label.name = name) = none := by
    rw [List.find?_eq_none]
    intro q hq heq
    exact Label.name_ne_of_accept hl (List.mem_map_of_mem hq) (of_decide_eq_true heq)
  refine ⟨by simp [h.names, hname], fun q => ?_, by simpa using h.index.enter hl⟩
  rw [default?, Dict.get?_insert, List.find?_append, Option.map_or, ← h.defaults q]
  by_cases hq : q = name
  · subst hq
    simp [h.defaults, hnew, hname]
  · simp [hq, hname, Ne.symm hq, default?]

namespace Arena

variable {a : Arena α} {t : CommandTree α}

/-! ## Cells -/

@[simp] theorem size_modifyCell (a : Arena α) (id : NodeId) (f : Cell α → Cell α) :
    (a.modifyCell id f).size = a.size := by
  simp [modifyCell, size]

theorem cell_modifyCell (a : Arena α) (id : NodeId) (f : Cell α → Cell α) (c : NodeId) :
    (a.modifyCell id f).cell c =
      if c = id ∧ id.index < a.size then f (a.cell c) else a.cell c := by
  simp only [modifyCell, cell, List.getElem?_modify, size]
  by_cases hc : c = id
  · subst hc
    by_cases hlt : c.index < a.cells.length <;> simp [hlt]
  · have hne : id.index ≠ c.index := fun h => hc (by cases c; cases id; simp_all)
    simp [hc, hne]

theorem modifyCell_modifyCell (a : Arena α) (id : NodeId) (f g : Cell α → Cell α) :
    (a.modifyCell id f).modifyCell id g = a.modifyCell id (g ∘ f) := by
  simp [modifyCell, List.modify_modify_eq]

theorem cell_push (a : Arena α) (n : Cell α) (c : NodeId) :
    (⟨a.cells ++ [n]⟩ : Arena α).cell c = if c.index = a.size then n else a.cell c := by
  simp only [cell, size, List.getElem?_append]
  by_cases hlt : c.index < a.cells.length
  · simp [hlt, Nat.ne_of_lt hlt]
  · by_cases heq : c.index = a.cells.length
    · simp [heq]
    · have hpos : c.index - a.cells.length ≠ 0 := by omega
      simp [hlt, heq, hpos]

/-- What is done to a cell depends on what it holds. -/
theorem modifyCell_congr {id : NodeId} {f g : Cell α → Cell α}
    (h : f (a.cell id) = g (a.cell id)) : a.modifyCell id f = a.modifyCell id g := by
  rw [modifyCell, modifyCell]
  congr 1
  apply List.ext_getElem?
  intro i
  rw [List.getElem?_modify, List.getElem?_modify]
  by_cases hi : id.index = i
  · subst hi
    cases hcell : a.cells[id.index]? with
    | none => rfl
    | some c =>
      have hc : a.cell id = c := by rw [cell, hcell, Option.getD_some]
      rw [hc] at h
      simp [h]
  · simp [hi]

/-- Writing back what is there changes nothing. -/
theorem modifyCell_eq_self {id : NodeId} {f : Cell α → Cell α} (h : f (a.cell id) = a.cell id) :
    a.modifyCell id f = a := by
  have hsame : a.modifyCell id (fun c => c) = a := by
    rw [modifyCell]
    exact congrArg mk (List.modify_id ..)
  rw [modifyCell_congr (g := fun c => c) h, hsame]

/-- Writes a command into the cell of its parent, where its spellings are entered already, and adds
a cell for it. -/
def hang (a : Arena α) (parent : NodeId) (name : String) (abbrs : List String)
    (table : SpellingTable) : Arena α :=
  ⟨(a.modifyCell parent fun c => { c with
      children := c.children ++ [⟨a.size⟩]
      childIds := c.childIds.insert name ⟨a.size⟩
      subAbbrs := table }).cells ++ [.new name (some parent) abbrs]⟩

/-! ## What a cell shows -/

end Arena

/-- A cell stores what a tree has at a node. -/
structure Cell.Shows (c : Cell α) (t : CommandTree α) (id : NodeId) : Prop where
  name : c.name = t.name id
  parent : c.parent = (t.node id).parent
  abbrs : c.abbrs = (t.node id).label.abbrs
  children : c.children = t.children id
  childIds : ∀ name child, c.childIds.get? name = some child ↔
    child ∈ t.children id ∧ t.name child = name
  subAbbrs : c.subAbbrs.Lists (t.labelsBelow id)
  executable : Option.Rel (StoredExecutable.Represents (t.displayPath id)) c.executable
    (t.executable? id)

theorem StoredExecutable.represents_of_keeps {t t' : CommandTree α} {id : NodeId}
    {stored : Option (StoredExecutable α)}
    (h : Option.Rel (Represents (t.displayPath id)) stored (t.executable? id))
    (hkeeps : t.Keeps t') (hnode : t'.node id = t.node id) :
    Option.Rel (Represents (t'.displayPath id)) stored (t'.executable? id) := by
  have hexec : t'.executable? id = t.executable? id := by
    rw [CommandTree.executable?, hnode, CommandTree.executable?]
  rw [hexec]
  cases hx : t.executable? id with
  | none =>
    rw [hx] at h
    cases h
    exact .none
  | some x =>
    -- only a node of the tree has an executable, so its path is kept
    rwa [hkeeps.displayPath (CommandTree.lt_size_of_executable? hx), ← hx]

/-- A cell shows what another tree has at the node if it is the same there. -/
theorem Cell.Shows.of_keeps {c : Cell α} {t t' : CommandTree α} {id : NodeId} (h : c.Shows t id)
    (hkeeps : t.Keeps t') (hnode : t'.node id = t.node id)
    (hchildren : t'.children id = t.children id) : c.Shows t' id := by
  have hbelow : t'.labelsBelow id = t.labelsBelow id := by
    rw [CommandTree.labelsBelow, hchildren]
    exact List.map_congr_left fun child hchild =>
      hkeeps.label child (CommandTree.mem_children.1 hchild).1
  refine ⟨?_, ?_, ?_, ?_, fun name child => ?_, ?_, ?_⟩
  · rw [h.name, CommandTree.name, CommandTree.name, hnode]
  · rw [h.parent, hnode]
  · rw [h.abbrs, hnode]
  · rw [h.children, hchildren]
  · rw [h.childIds, hchildren]
    refine and_congr_right fun hchild => ?_
    rw [hkeeps.name (CommandTree.mem_children.1 hchild).1]
  · rw [hbelow]
    exact h.subAbbrs
  · exact StoredExecutable.represents_of_keeps h.executable hkeeps hnode

section Push

variable {t : CommandTree α} {parent : NodeId} {owner name : String} {abbrs : List String}

/-- A new cell shows a node without children. -/
theorem Cell.Shows.new (ht : t.WellFormed) (hparent : parent.index < t.size) :
    (Cell.new name (some parent) abbrs).Shows
      ⟨t.nodes ++ [⟨⟨name, abbrs.filter (· ≠ name)⟩, some parent, none⟩]⟩ ⟨t.size⟩ := by
  have hold : t.children ⟨t.size⟩ = [] := by
    rw [List.eq_nil_iff_forall_not_mem]
    intro c hc
    exact absurd (ht.parent_lt hc) (Nat.not_lt.2 (Nat.le_of_lt (CommandTree.mem_children.1 hc).1))
  have hne : some parent ≠ some ⟨t.size⟩ := by
    intro heq
    rw [Option.some.inj heq] at hparent
    exact Nat.lt_irrefl _ hparent
  have hnone : CommandTree.children
      ⟨t.nodes ++ [⟨⟨name, abbrs.filter (· ≠ name)⟩, some parent, none⟩]⟩ ⟨t.size⟩ = [] := by
    rw [CommandTree.children_push, hold, if_neg hne, List.append_nil]
  refine ⟨?_, ?_, ?_, hnone.symm, fun name child => ?_, ?_, ?_⟩
  · rw [CommandTree.name, CommandTree.node_push, if_pos rfl, Cell.new]
  · rw [CommandTree.node_push, if_pos rfl, Cell.new]
  · rw [CommandTree.node_push, if_pos rfl, Cell.new]
  · rw [hnone]
    exact iff_of_false (fun h => Option.some_ne_none child h.symm) (by simp)
  · rw [CommandTree.labelsBelow, hnone]
    exact .nil
  · rw [CommandTree.executable?, CommandTree.node_push, if_pos rfl]
    exact .none

/-- The ids by name when a child with a new name comes in. -/
theorem Cell.Shows.childIds_hang {c : Cell α} {l : Label} (h : c.Shows t parent)
    (hl : Label.accept .command owner (t.labelsBelow parent) name abbrs = .ok l)
    (q : String) (child : NodeId) :
    (c.childIds.insert name ⟨t.size⟩).get? q = some child ↔
      child ∈ CommandTree.children ⟨t.nodes ++ [⟨l, some parent, none⟩]⟩ parent ∧
        CommandTree.name ⟨t.nodes ++ [⟨l, some parent, none⟩]⟩ child = q := by
  have hnew : CommandTree.name ⟨t.nodes ++ [⟨l, some parent, none⟩]⟩ ⟨t.size⟩ = name := by
    rw [CommandTree.name, CommandTree.node_push, if_pos rfl, (Label.accept_eq_ok_iff.1 hl).1]
  have hold {d : NodeId} (hd : d ∈ t.children parent) :
      CommandTree.name ⟨t.nodes ++ [⟨l, some parent, none⟩]⟩ d = t.name d :=
    (CommandTree.Keeps.push t _).name (CommandTree.mem_children.1 hd).1
  rw [Dict.get?_insert, CommandTree.children_push, if_pos rfl, List.mem_append, List.mem_singleton]
  by_cases hq : q = name
  · rw [if_pos hq, hq]
    constructor
    · intro hsome
      exact Option.some.inj hsome ▸ ⟨.inr rfl, hnew⟩
    · rintro ⟨hchild | rfl, hname⟩
      · exact absurd ((hold hchild).symm.trans hname)
          (Label.name_ne_of_accept hl (List.mem_map_of_mem hchild))
      · rfl
  · rw [if_neg hq, h.childIds]
    constructor
    · rintro ⟨hchild, hname⟩
      exact ⟨.inl hchild, (hold hchild).trans hname⟩
    · rintro ⟨hchild | rfl, hname⟩
      · exact ⟨hchild, (hold hchild).symm.trans hname⟩
      · exact absurd (hname.symm.trans hnew) hq

/-- The cell of its parent shows one child more. -/
theorem Cell.Shows.hang {c : Cell α} {l : Label} (h : c.Shows t parent)
    (hparent : parent.index < t.size)
    (hl : Label.accept .command owner (t.labelsBelow parent) name abbrs = .ok l) :
    Cell.Shows { c with
      children := c.children ++ [⟨t.size⟩]
      childIds := c.childIds.insert name ⟨t.size⟩
      subAbbrs := c.subAbbrs.enter l.name l.abbrs.reverse }
      ⟨t.nodes ++ [⟨l, some parent, none⟩]⟩ parent := by
  have hnode : CommandTree.node ⟨t.nodes ++ [⟨l, some parent, none⟩]⟩ parent = t.node parent := by
    rw [CommandTree.node_push, if_neg (Nat.ne_of_lt hparent)]
  refine ⟨?_, ?_, ?_, ?_, h.childIds_hang hl, ?_, ?_⟩
  · rw [h.name, CommandTree.name, CommandTree.name, hnode]
  · rw [h.parent, hnode]
  · rw [h.abbrs, hnode]
  · rw [h.children, CommandTree.children_push, if_pos rfl]
  · rw [CommandTree.labelsBelow_push, if_pos rfl]
    exact h.subAbbrs.enter hl
  · exact StoredExecutable.represents_of_keeps h.executable (.push t _) hnode

end Push

/-- An arena stores a tree. -/
structure Arena.Represents (a : Arena α) (t : CommandTree α) : Prop where
  size : a.size = t.size
  cells : ∀ id, (a.cell id).Shows t id

namespace Arena.Represents

variable {a : Arena α} {t : CommandTree α}

theorem empty : (Arena.empty : Arena α).Represents .empty where
  size := rfl
  cells id := by
    have hcell : (Arena.empty : Arena α).cell id = .new "" none [] := by
      obtain ⟨i⟩ := id
      cases i <;> rfl
    rw [hcell]
    refine ⟨?_, ?_, ?_, ?_, fun name child => ?_, ?_, ?_⟩
    · simp [CommandTree.name, Cell.new, Node.root]
    · simp [Cell.new, Node.root]
    · simp [Cell.new, Node.root]
    · simp [Cell.new]
    · exact iff_of_false (fun h => Option.some_ne_none child h.symm) (by simp)
    · rw [CommandTree.labelsBelow, CommandTree.children_empty]
      exact .nil
    · rw [CommandTree.executable?, CommandTree.node_empty]
      exact .none

theorem executable_cases (h : a.Represents t) (id : NodeId) :
    ((a.cell id).executable = none ∧ t.executable? id = none) ∨
    ∃ s x, (a.cell id).executable = some s ∧ t.executable? id = some x ∧
      s.Represents (t.displayPath id) x := by
  have hrel := (h.cells id).executable
  generalize (a.cell id).executable = stored, t.executable? id = attached at hrel
  cases hrel with
  | none => exact .inl ⟨rfl, rfl⟩
  | some hsome => exact .inr ⟨_, _, rfl, rfl, hsome⟩

/-! ## Look-ups -/

/-- A spelling stands for the name of the child that goes by it. -/
theorem get?_subAbbrs (h : a.Represents t) (ht : t.WellFormed) {p : NodeId} {token name : String} :
    (a.cell p).subAbbrs.get? token = some name ↔
      ∃ c ∈ t.children p, t.name c = name ∧ token ∈ (t.node c).label.spellings := by
  rw [(h.cells p).subAbbrs token, (ht.siblings p).resolve_eq_some_iff]
  constructor
  · rintro ⟨_, hl, hname, htoken⟩
    obtain ⟨c, hc, rfl⟩ := List.mem_map.1 hl
    exact ⟨c, hc, hname, htoken⟩
  · rintro ⟨c, hc, hname, htoken⟩
    exact ⟨_, List.mem_map_of_mem hc, hname, htoken⟩

theorem findChild (h : a.Represents t) (ht : t.WellFormed) (p : NodeId) (token : String) :
    a.findChild p token = t.findChild p token := by
  ext c
  rw [Arena.findChild, ht.findChild_eq_some_iff, Option.bind_eq_bind, Option.bind_eq_some_iff]
  constructor
  · rintro ⟨name, hspelled, hid⟩
    obtain ⟨d, hd, hdname, htoken⟩ := (h.get?_subAbbrs ht).1 hspelled
    obtain ⟨hc, hcname⟩ := ((h.cells p).childIds name c).1 hid
    -- siblings with one name are one node
    have hfound := ht.findChild_name hd
    rw [hdname, ← hcname, ht.findChild_name hc] at hfound
    obtain rfl := Option.some.inj hfound
    exact ⟨hc, htoken⟩
  · rintro ⟨hc, htoken⟩
    exact ⟨t.name c, (h.get?_subAbbrs ht).2 ⟨c, hc, rfl, htoken⟩,
      ((h.cells p).childIds _ c).2 ⟨hc, rfl⟩⟩

theorem findPath (h : a.Represents t) (ht : t.WellFormed) (path : String) :
    a.findPath path = t.findPath path := by
  have hfrom (id : NodeId) (segments : List String) :
      segments.foldlM a.findChild id = t.findFrom id segments := by
    induction segments generalizing id with
    | nil => rfl
    | cons token rest ih =>
      rw [List.foldlM_cons, h.findChild ht, CommandTree.findFrom]
      cases t.findChild id token with
      | none => rfl
      | some c => exact ih c
  exact hfrom CommandTree.root _

theorem namesUp (h : a.Represents t) (i : Nat) : a.namesUp i = (t.namesTo i).reverse := by
  induction i using Nat.strongRecOn with
  | ind i ih =>
    rw [Arena.namesUp, CommandTree.namesTo, (h.cells ⟨i⟩).parent, (h.cells ⟨i⟩).name]
    cases (t.node ⟨i⟩).parent with
    | none => rfl
    | some p =>
      by_cases hlt : p.index < i
      · simp [hlt, ih p.index hlt]
      · simp [hlt]

theorem displayPath (h : a.Represents t) (id : NodeId) : a.displayPath id = t.displayPath id := by
  rw [Arena.displayPath, Arena.pathNames, h.namesUp, List.reverse_reverse,
    CommandTree.displayPath, CommandTree.pathNames]

/-! ## Calls -/

/-- A command whose label was accepted is stored in the cell of its parent and in one of its own. -/
theorem hang (h : a.Represents t) (ht : t.WellFormed) {parent : NodeId}
    (hparent : parent.index < t.size) {owner name : String} {abbrs : List String} {l : Label}
    (hl : Label.accept .command owner (t.labelsBelow parent) name abbrs = .ok l) :
    (a.hang parent name abbrs ((a.cell parent).subAbbrs.enter l.name l.abbrs.reverse)).Represents
      ⟨t.nodes ++ [⟨l, some parent, none⟩]⟩ := by
  have hlabel := (Label.accept_eq_ok_iff.1 hl).1
  refine ⟨by simpa [Arena.hang, modifyCell, Arena.size, CommandTree.size] using h.size, fun id => ?_⟩
  rw [Arena.hang, cell_push, size_modifyCell, cell_modifyCell, h.size]
  by_cases hnew : id.index = t.size
  · obtain rfl : id = ⟨t.size⟩ := by rw [← hnew]
    rw [if_pos rfl, hlabel]
    exact .new ht hparent
  · rw [if_neg hnew]
    by_cases hid : id = parent
    · subst hid
      rw [if_pos ⟨rfl, hparent⟩]
      exact (h.cells id).hang hparent hl
    · rw [if_neg fun hsame => hid hsame.1]
      refine (h.cells id).of_keeps (.push t _) ?_ ?_
      · rw [CommandTree.node_push, if_neg hnew]
      · rw [CommandTree.children_push, if_neg fun heq => hid (Option.some.inj heq).symm,
          List.append_nil]

/-- A node gets an executable. -/
theorem setExecutable (h : a.Represents t) {id : NodeId} (hid : id.index < t.size)
    {s : StoredExecutable α} {x : Executable α} (hx : s.Represents (t.displayPath id) x)
    (hkind : ∀ y, t.executable? id = some y → x.kind = y.kind) :
    (a.modifyCell id fun c => { c with executable := some s }).Represents
      (t.setExecutable id x) := by
  have hkeeps := CommandTree.Keeps.setExecutable hid hkind
  refine ⟨by simp [h.size], fun c => ?_⟩
  rw [cell_modifyCell, h.size]
  by_cases hc : c = id
  · subst hc
    rw [if_pos ⟨rfl, hid⟩]
    obtain ⟨hname, hparent, habbrs, hchildren, hids, hbelow, -⟩ := h.cells c
    refine ⟨?_, ?_, ?_, ?_, fun name child => ?_, ?_, ?_⟩
    · simpa [CommandTree.name] using hname
    · simpa using hparent
    · simpa using habbrs
    · simpa using hchildren
    · simpa [CommandTree.name] using hids name child
    · simpa using hbelow
    · rw [CommandTree.executable?_setExecutable t c x c hid, if_pos rfl, hkeeps.displayPath hid]
      exact .some hx
  · rw [if_neg fun hsame => hc hsame.1]
    refine (h.cells c).of_keeps hkeeps ?_ (by simp)
    rw [CommandTree.node_setExecutable, if_neg fun hsame => hc hsame.1]

end Arena.Represents

/-! ## Making calls -/

namespace Registration

/-- The step on an arena that a call makes. -/
def store : Registration α → Registering (Arena α) Unit
  | addSub parent name abbrs => discard (Arena.addSub parent name abbrs)
  | attach id help kind => Arena.attach id help kind
  | declare id name default abbrs => Arena.declare id name default abbrs
  | setQuiet id => Arena.setQuiet id

/-- Makes a call on an arena: whether it was refused, and the arena afterwards. -/
def performOn (r : Registration α) (a : Arena α) : Except RegistrationError Unit × Arena α :=
  r.store.run.run a

section Steps

variable (a : Arena α) (id : NodeId) (name : String) (abbrs : List String)

theorem performOn_addSub :
    (addSub id name abbrs).performOn a =
      match (SpellingTable.register .command (a.displayPath id) name abbrs).run.run
          (a.cell id).subAbbrs with
      | (.ok (), table) => (.ok (), a.hang id name abbrs table)
      | (.error e, table) => (.error e, a.modifyCell id fun c => { c with subAbbrs := table }) := by
  rw [performOn, store, Registering.run_discard, Arena.addSub, Registering.run_bind,
    Registering.run_get]
  simp only
  rw [Registering.run_bind, Registering.run_on]
  rcases (SpellingTable.register .command (a.displayPath id) name abbrs).run.run
    (a.cell id).subAbbrs with ⟨e | ⟨⟩, table⟩
  · rfl
  · exact congrArg
      (fun b : Arena α => (Except.ok (), (⟨b.cells ++ [.new name (some id) abbrs]⟩ : Arena α)))
      (a.modifyCell_modifyCell id _ _)

theorem performOn_attach (help : String) (kind : ExecutableKind α) :
    (attach id help kind).performOn a =
      match (a.cell id).executable with
      | some _ => (.error (.executableExists (a.displayPath id)), a)
      | none => (.ok (), a.modifyCell id fun c =>
          { c with executable := some ⟨kind, help, .empty, false, a.displayPath id⟩ }) := by
  rw [performOn, store, Arena.attach, Registering.run_bind, Registering.run_get]
  simp only
  cases (a.cell id).executable <;> rfl

theorem performOn_declare (default : String) {x : StoredExecutable α}
    (hx : (a.cell id).executable = some x) :
    (declare id name default abbrs).performOn a =
      match (SpellingTable.register .argument x.path name abbrs).run.run x.params.index with
      | (.ok (), table) => (.ok (), a.modifyCell id fun c => { c with
          executable := some { x with params :=
            ⟨x.params.names ++ [name], x.params.defaults.insert name default, table⟩ } })
      | (.error e, table) => (.error e, a.modifyCell id fun c => { c with
          executable := some { x with params := { x.params with index := table } } }) := by
  rw [performOn, store, Arena.declare, Registering.run_bind, Registering.run_get]
  simp only [hx]
  rw [Registering.run_on, StoredExecutable.declare, Registering.run_bind, Registering.run_get]
  simp only
  rw [Registering.run_on, ParamTable.add, Registering.run_bind, Registering.run_on]
  rcases (SpellingTable.register .argument x.path name abbrs).run.run x.params.index with
    ⟨e | ⟨⟩, table⟩ <;> rfl

end Steps

/-- A refused call changes nothing, whatever it is about and whatever the arena holds. -/
theorem performOn_refused {r : Registration α} {a a' : Arena α} {e : RegistrationError}
    (h : r.performOn a = (.error e, a')) : a' = a := by
  cases r with
  | addSub parent name abbrs =>
    rw [performOn_addSub] at h
    split at h
    · cases h
    · rename_i table hrun
      obtain rfl := SpellingTable.register_refused hrun
      exact (Prod.mk.inj h).2.symm.trans (Arena.modifyCell_eq_self rfl)
  | attach id help kind =>
    rw [performOn_attach] at h
    split at h
    · exact (Prod.mk.inj h).2.symm
    · cases h
  | declare id name default abbrs =>
    cases hx : (a.cell id).executable with
    | none =>
      rw [performOn, store, Arena.declare, Registering.run_bind, Registering.run_get] at h
      simp only [hx] at h
      cases h
    | some x =>
      rw [performOn_declare a id name abbrs default hx] at h
      split at h
      · cases h
      · rename_i table hrun
        obtain rfl := SpellingTable.register_refused hrun
        refine (Prod.mk.inj h).2.symm.trans (Arena.modifyCell_eq_self ?_)
        rw [← hx]
  | setQuiet id => cases h

/-- What a call is about is in the arena: the node, and for the last two its executable. -/
def AddressesIn (r : Registration α) (a : Arena α) : Prop :=
  match r with
  | addSub id _ _ => id.index < a.size
  | attach id _ _ => id.index < a.size
  | declare id _ _ _ => (a.cell id).executable.isSome
  | setQuiet id => (a.cell id).executable.isSome

instance (r : Registration α) (a : Arena α) : Decidable (r.AddressesIn a) :=
  match r with
  | addSub id _ _ => inferInstanceAs (Decidable (id.index < a.size))
  | attach id _ _ => inferInstanceAs (Decidable (id.index < a.size))
  | declare id _ _ _ => inferInstanceAs (Decidable ((a.cell id).executable.isSome = true))
  | setQuiet id => inferInstanceAs (Decidable ((a.cell id).executable.isSome = true))

end Registration

namespace Arena

variable {a : Arena α} {t : CommandTree α}

theorem Represents.addressesIn_iff (h : a.Represents t) (r : Registration α) :
    r.AddressesIn a ↔ r.Addresses t := by
  have hsome (id : NodeId) : (a.cell id).executable.isSome = (t.executable? id).isSome := by
    rcases h.executable_cases id with ⟨hs, hx⟩ | ⟨s, x, hs, hx, -⟩ <;> rw [hs, hx] <;> rfl
  cases r <;> simp [Registration.AddressesIn, Registration.Addresses, h.size, hsome]

/-- A call on an arena has the result that it has on the tree, and leads to an arena that stores the
tree afterwards. -/
theorem Represents.performOn (h : a.Represents t) (ht : t.WellFormed) {r : Registration α}
    (ha : r.Addresses t) :
    (r.performOn a).1 = (r.perform t).1 ∧ (r.performOn a).2.Represents (r.perform t).2 := by
  cases r with
  | addSub parent name abbrs =>
    rw [Registration.performOn_addSub, h.displayPath, (h.cells parent).subAbbrs.run_register,
      Registration.perform_addSub]
    cases hl : Label.accept .command (t.displayPath parent) (t.labelsBelow parent) name abbrs with
    | error e =>
      refine ⟨rfl, ?_⟩
      simp only
      rwa [modifyCell_eq_self rfl]
    | ok l => exact ⟨rfl, h.hang ht ha hl⟩
  | attach id help kind =>
    rw [Registration.performOn_attach, Registration.perform_attach]
    rcases h.executable_cases id with ⟨hs, hx⟩ | ⟨s, x, hs, hx, -⟩
    · rw [hs, hx]
      exact ⟨rfl, h.setExecutable ha ⟨rfl, rfl, rfl, h.displayPath id, .empty⟩ (by simp [hx])⟩
    · rw [hs, hx]
      exact ⟨by rw [h.displayPath], h⟩
  | declare id name default abbrs =>
    rcases h.executable_cases id with ⟨-, hx⟩ | ⟨s, x, hs, hx, hrep⟩
    · simp [Registration.Addresses, hx] at ha
    have hregister : SpellingTable.register .argument s.path name abbrs =
        SpellingTable.register .argument (t.displayPath id) name abbrs := by rw [hrep.path]
    rw [Registration.performOn_declare a id name abbrs default hs,
      Registration.perform_declare id name default abbrs hx, hregister,
      hrep.params.index.run_register, Executable.labels]
    cases hl : Label.accept .argument (t.displayPath id) (x.params.map (·.label)) name abbrs with
    | error e =>
      refine ⟨rfl, ?_⟩
      simp only
      rwa [modifyCell_eq_self (by rw [← hs])]
    | ok l =>
      refine ⟨rfl, h.setExecutable (CommandTree.lt_size_of_executable? hx) ?_ (by simp [hx])⟩
      exact ⟨hrep.kind, hrep.help, hrep.quiet, hrep.path, hrep.params.add hl default⟩
  | setQuiet id =>
    rcases h.executable_cases id with ⟨-, hx⟩ | ⟨s, x, hs, hx, hrep⟩
    · simp [Registration.Addresses, hx] at ha
    have hcell : ((Registration.setQuiet id).performOn a).2 =
        a.modifyCell id fun c => { c with executable := some { s with quiet := true } } :=
      modifyCell_congr (by rw [hs]; rfl)
    rw [Registration.perform_setQuiet hx, hcell]
    refine ⟨rfl, h.setExecutable (CommandTree.lt_size_of_executable? hx) ?_ (by simp [hx])⟩
    exact ⟨hrep.kind, hrep.help, rfl, hrep.path, hrep.params⟩

/-! ## What calls lead to -/

/-- The calls of a log, made one after the other on the empty arena, had the results that stand
beside them and led to an arena. -/
inductive BuiltBy : List (Registration α × Except RegistrationError Unit) → Arena α → Prop
  | start : BuiltBy [] .empty
  | call {log a r result a'} (h : BuiltBy log a) (ha : r.AddressesIn a)
      (hr : r.performOn a = (result, a')) : BuiltBy (log ++ [(r, result)]) a'

variable {log : List (Registration α × Except RegistrationError Unit)}

/-- An arena that calls build stores the tree that these calls build, with the same results. -/
theorem BuiltBy.exists_tree (h : BuiltBy log a) :
    ∃ t, CommandTree.BuiltBy log t ∧ a.Represents t := by
  induction h with
  | start => exact ⟨_, .start, .empty⟩
  | @call _ _ r _ _ _ ha hr ih =>
    obtain ⟨t, ht, hrep⟩ := ih
    have haddr := (hrep.addressesIn_iff r).1 ha
    obtain ⟨hresult, hafter⟩ := hrep.performOn ht.wellFormed haddr
    rw [hr] at hresult hafter
    exact ⟨_, ht.call haddr (Prod.ext hresult.symm rfl), hafter⟩

/-- A tree that calls build is stored by the arena that these calls build. -/
theorem BuiltBy.exists_arena (h : CommandTree.BuiltBy log t) :
    ∃ a, BuiltBy log a ∧ a.Represents t := by
  induction h with
  | start => exact ⟨_, .start, .empty⟩
  | @call _ _ r _ _ ht ha hr ih =>
    obtain ⟨a, hbuilt, hrep⟩ := ih
    obtain ⟨hresult, hafter⟩ := hrep.performOn ht.wellFormed ha
    rw [hr] at hresult hafter
    exact ⟨_, hbuilt.call ((hrep.addressesIn_iff r).2 ha) (Prod.ext hresult rfl), hafter⟩

/-- What every arena that was built by calls offers, however many of them were refused. What is stored
more than once agrees, look-ups are exact, and a refused call has left no trace. -/
structure InStep (log : List (Registration α × Except RegistrationError Unit)) (a : Arena α) :
    Prop where
  /-- Every node but the root hangs on one earlier node: once among the children there, and nowhere
  else. -/
  parent : ∀ id, id ≠ CommandTree.root → id.index < a.size → ∃ p, (a.cell id).parent = some p ∧
    p.index < id.index ∧ (a.cell p).children.count id = 1 ∧ ∀ q, q ≠ p → id ∉ (a.cell q).children
  /-- The children of a node are the nodes that hang on it. -/
  children : ∀ p c, c ∈ (a.cell p).children ↔ c.index < a.size ∧ (a.cell c).parent = some p
  /-- The ids by name are those of the children. -/
  childIds : ∀ p name c, (a.cell p).childIds.get? name = some c ↔
    c ∈ (a.cell p).children ∧ (a.cell c).name = name
  /-- The spellings below a node are those of the children. -/
  subAbbrs : ∀ p token name, (a.cell p).subAbbrs.get? token = some name ↔
    ∃ c ∈ (a.cell p).children, (a.cell c).name = name ∧ (token = name ∨ token ∈ (a.cell c).abbrs)
  /-- A look-up finds the child that has the text as its name or as one of its abbreviations. -/
  findChild : ∀ p token c, a.findChild p token = some c ↔
    c ∈ (a.cell p).children ∧ (token = (a.cell c).name ∨ token ∈ (a.cell c).abbrs)
  /-- Siblings share no spelling. -/
  apart : ∀ p c d token, c ∈ (a.cell p).children → d ∈ (a.cell p).children →
    token ∈ (a.cell c).name :: (a.cell c).abbrs → token ∈ (a.cell d).name :: (a.cell d).abbrs →
    c = d
  /-- The dotted path of a node leads back to it. -/
  findPath : ∀ id, id.index < a.size → a.findPath (a.displayPath id) = some id
  /-- No two nodes have one path. -/
  displayPath : ∀ b c, b.index < a.size → c.index < a.size →
    a.displayPath b = a.displayPath c → b = c
  /-- The parameters of an executable have different names. -/
  paramNames : ∀ id x, (a.cell id).executable = some x → x.params.names.Nodup
  /-- A text stands for the parameter that some call declared under it without being refused. -/
  resolve : ∀ id x token p, (a.cell id).executable = some x → (x.params.resolve token = some p ↔
    ∃ default abbrs, (Registration.declare id p default abbrs, .ok ()) ∈ log ∧
      (token = p ∨ token ∈ abbrs))
  /-- A call that is refused leaves the arena as it was. -/
  refused : ∀ (r : Registration α) e a', r.performOn a = (.error e, a') → a' = a
  /-- The arena stores the tree that the same calls lead to. -/
  tree : ∃ t, CommandTree.BuiltBy log t ∧ a.Represents t

/-- Arenas built by calls are in step with the log of the calls. -/
theorem BuiltBy.inStep (h : BuiltBy log a) : InStep log a := by
  obtain ⟨t, ht, hrep⟩ := h.exists_tree
  have hwf := ht.wellFormed
  have hc := ht.consistent
  have hlabel (c : NodeId) :
      (a.cell c).name :: (a.cell c).abbrs = (t.node c).label.spellings := by
    rw [(hrep.cells c).name, (hrep.cells c).abbrs]
    rfl
  have hexec {id : NodeId} {s : StoredExecutable α} (hs : (a.cell id).executable = some s) :
      ∃ x, t.executable? id = some x ∧ s.Represents (t.displayPath id) x := by
    rcases hrep.executable_cases id with ⟨hnone, -⟩ | ⟨s', x, hs', hx, hsx⟩
    · simp [hnone] at hs
    · obtain rfl := Option.some.inj (hs'.symm.trans hs)
      exact ⟨x, hx, hsx⟩
  refine ⟨?_, ?_, ?_, ?_, ?_, ?_, ?_, ?_, ?_, ?_, fun r e a' => Registration.performOn_refused,
    t, ht, hrep⟩
  · intro id hne hid
    simpa only [(hrep.cells _).parent, (hrep.cells _).children] using
      hc.parent id hne (hrep.size ▸ hid)
  · intro p c
    rw [(hrep.cells p).children, (hrep.cells c).parent, hrep.size, CommandTree.mem_children]
  · intro p name c
    rw [(hrep.cells p).childIds, (hrep.cells p).children, (hrep.cells c).name]
  · intro p token name
    rw [hrep.get?_subAbbrs hwf, (hrep.cells p).children]
    refine exists_congr fun c => and_congr_right fun _ => ?_
    rw [(hrep.cells c).name, ← hlabel, List.mem_cons, (hrep.cells c).name]
    refine and_congr_right fun hname => ?_
    rw [hname]
  · intro p token c
    rw [hrep.findChild hwf, hc.findChild, (hrep.cells p).children, (hrep.cells c).name,
      (hrep.cells c).abbrs]
  · intro p c d token hcp hdp hct hdt
    rw [(hrep.cells p).children] at hcp hdp
    rw [hlabel] at hct hdt
    exact hc.apart p c d token hcp hdp hct hdt
  · intro id hid
    rw [hrep.findPath hwf, hrep.displayPath]
    exact hc.findPath id (hrep.size ▸ hid)
  · intro b c hb hbc hpath
    rw [hrep.displayPath, hrep.displayPath] at hpath
    exact hc.displayPath b c (hrep.size ▸ hb) (hrep.size ▸ hbc) hpath
  · intro id s hs
    obtain ⟨x, hx, hsx⟩ := hexec hs
    have hnodup := hc.paramNames id x hx
    rw [Executable.labels, List.map_map] at hnodup
    rw [hsx.params.names]
    exact hnodup
  · intro id s token p hs
    obtain ⟨x, hx, hsx⟩ := hexec hs
    rw [← hc.resolve id x token p hx, ParamTable.resolve, hsx.params.index token]
    rfl

/-- Makes calls one after the other, up to the first that is about something that is not there:
the calls with their results, and the arena afterwards. -/
def performAll : List (Registration α) → Arena α →
    List (Registration α × Except RegistrationError Unit) × Arena α
  | [], a => ([], a)
  | r :: rest, a =>
    if r.AddressesIn a then
      let (result, a) := r.performOn a
      let (log, a) := performAll rest a
      ((r, result) :: log, a)
    else ([], a)

theorem BuiltBy.performAll (h : BuiltBy log a) (calls : List (Registration α)) :
    BuiltBy (log ++ (Arena.performAll calls a).1) (Arena.performAll calls a).2 := by
  induction calls generalizing log a with
  | nil => simpa [Arena.performAll] using h
  | cons r rest ih =>
    by_cases ha : r.AddressesIn a
    · have hstep := ih (h.call ha (Prod.eta (r.performOn a)).symm)
      simpa [Arena.performAll, ha] using hstep
    · simpa [Arena.performAll, ha] using h

/-- Of six calls two are refused, one of them after its first abbreviation was found to be free. What
the others have stored is in step. -/
theorem BuiltBy.inStep_sampleCalls :
    let built := Arena.performAll CommandTree.sampleCalls .empty
    built.1.map (·.2.isOk) = [true, false, true, true, true, false] ∧
    (built.2.cell CommandTree.root).children = [⟨1⟩] ∧
    (built.2.cell CommandTree.root).subAbbrs.entries = [("d", "deploy"), ("deploy", "deploy")] ∧
    InStep built.1 built.2 :=
  ⟨by decide, by decide, by decide, (BuiltBy.start.performAll CommandTree.sampleCalls).inStep⟩

/-! ## Later calls -/

/-- What is found in one arena is found in another, and new children come after the others. -/
structure StillFinds (a a' : Arena α) : Prop where
  children : ∀ id, ∃ more, (a'.cell id).children = (a.cell id).children ++ more
  findChild : ∀ id token c, a.findChild id token = some c → a'.findChild id token = some c
  findPath : ∀ path c, a.findPath path = some c → a'.findPath path = some c

theorem Represents.stillFinds {a' : Arena α} {t' : CommandTree α} (h : a.Represents t)
    (ht : t.WellFormed) (h' : a'.Represents t') (ht' : t'.WellFormed) (hkeeps : t.Keeps t') :
    a.StillFinds a' where
  children id := by
    rw [(h.cells id).children, (h'.cells id).children]
    exact hkeeps.children id
  findChild id token c hc := by
    rw [h.findChild ht] at hc
    rw [h'.findChild ht']
    exact hkeeps.findChild hc
  findPath path c hc := by
    rw [h.findPath ht] at hc
    rw [h'.findPath ht']
    exact hkeeps.findPath hc

end Arena

end FlowScript
