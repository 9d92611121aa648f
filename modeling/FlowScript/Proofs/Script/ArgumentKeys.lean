import FlowScript.Proofs.Command.SpellingIndex
import FlowScript.Proofs.Run.Arguments
import FlowScript.Proofs.Run.Resolution
import FlowScript.Proofs.Script.Tokenisation

/-!
# Paths as keys

A dotted path of spellings is looked up in two ways: as the way to a command, and as a key that is
expanded to names. The two agree (`Reachable.expandsAlike`). A path that leads to a command expands
to the path of that command. With one more segment, which stands for a parameter and for no
sub-command, it expands to the key under which the value of the parameter is looked up, so a block
with this key gives the parameter its value. No other paths expand.
-/

namespace FlowScript

variable {α : Type}

/-! ## Segments -/

theorem isNameChar_of_mem_join {names : List String} (hnames : ∀ s ∈ names, isName s = true) :
    ∀ c ∈ (Text.join "." names).toList, isNameChar c = true ∨ c = '.' := by
  induction names with
  | nil => simp [Text.join]
  | cons s rest ih =>
    have hs : ∀ c ∈ s.toList, isNameChar c = true := by
      have hname := hnames s List.mem_cons_self
      simp only [isName, Bool.and_eq_true, List.all_eq_true] at hname
      exact hname.2
    have hrest := ih fun s' hs' => hnames s' (List.mem_cons_of_mem _ hs')
    intro c hc
    by_cases hnil : rest = []
    · subst hnil
      exact .inl (hs c hc)
    · rw [Text.join_cons hnil, String.toList_append, String.toList_append, List.mem_append,
        List.mem_append] at hc
      rcases hc with (hc | hc) | hc
      · exact .inl (hs c hc)
      · exact .inr (by simpa using hc)
      · exact hrest c hc

/-- A path of names can be a key in a block. -/
theorem plain_join_names {names : List String} (hne : names ≠ [])
    (hnames : ∀ s ∈ names, isName s = true) : Block.Plain (Text.join "." names) where
  trimmed := by
    refine Text.trimmed?_of_not_blank ?_ fun c hc => ?_
    · intro hempty
      have hsegments := splitAt_join_names hne hnames
      rw [hempty] at hsegments
      exact ne_empty_of_isName (hnames "" (hsegments ▸ by decide)) rfl
    · rcases isNameChar_of_mem_join hnames c hc with hc | rfl
      · exact isBlank_of_isNameChar hc
      · decide
  unmarked := by
    intro m hm
    rcases isNameChar_of_mem_join hnames _ hm with hc | hc
    · cases m <;> simp [Block.Mark.char, isNameChar] at hc
    · cases m <;> simp [Block.Mark.char] at hc

namespace CommandTree

variable {t : CommandTree α}

/-! ## Two look-ups -/

namespace WellFormed

theorem isName_of_findFrom (h : t.WellFormed) {id n : NodeId} {segments : List String}
    (hfind : t.findFrom id segments = some n) : ∀ s ∈ segments, isName s = true := by
  induction segments generalizing id with
  | nil => simp
  | cons token rest ih =>
    rw [findFrom] at hfind
    split at hfind
    · rename_i c hc
      obtain ⟨hmem, hspelled⟩ := h.findChild_eq_some_iff.1 hc
      intro s hs
      rcases List.mem_cons.1 hs with rfl | hs
      · exact h.isName_of_mem hmem hspelled
      · exact ih hfind s hs
    · cases hfind

/-- Where spellings lead to a command, expansion goes there by the names. -/
theorem expandFrom_findFrom (h : t.WellFormed) {id n : NodeId} {segments : List String}
    (hfind : t.findFrom id segments = some n) :
    ∃ names, t.pathNames n = t.pathNames id ++ names ∧
      ∀ rest, t.expandFrom (some (.command id)) (segments ++ rest) =
        (t.expandFrom (some (.command n)) rest).map (names ++ ·) := by
  induction segments generalizing id with
  | nil =>
    obtain rfl := Option.some.inj hfind
    exact ⟨[], by simp, by simp⟩
  | cons token segments ih =>
    rw [findFrom] at hfind
    split at hfind
    · rename_i c hc
      have hmem := mem_of_findChild hc
      obtain ⟨names, hpath, hexp⟩ := ih hfind
      refine ⟨t.name c :: names, by simp [hpath, h.pathNames_child hmem], fun rest => ?_⟩
      have hat : t.resolveAt (.command id) token = some (t.name c) := by rw [resolveAt, hc]
      simp only [List.cons_append, expandFrom, bind, Option.bind_some, hat, h.below?_name hmem,
        hexp]
      cases t.expandFrom (some (.command n)) rest <;> rfl
    · cases hfind

/-- What segments expand to leads to a command or to a parameter of one. -/
theorem names_of_expandFrom (h : t.WellFormed) {id : NodeId} (hid : id.index < t.size)
    {segments names : List String}
    (hexp : t.expandFrom (some (.command id)) segments = some names) :
    (∃ n, n.index < t.size ∧ t.pathNames n = t.pathNames id ++ names) ∨
      ∃ n a, t.Declares n a ∧ t.pathNames n ++ [a] = t.pathNames id ++ names := by
  induction segments generalizing id names with
  | nil =>
    obtain rfl := Option.some.inj hexp
    exact .inl ⟨id, hid, by simp⟩
  | cons token rest ih =>
    obtain ⟨l, name, names, hl, hres, hrest, rfl⟩ := expandFrom_cons_eq_some_iff.1 hexp
    obtain rfl := Option.some.inj hl
    by_cases hchild : ∃ c ∈ t.children id, t.name c = name
    · obtain ⟨c, hc, rfl⟩ := hchild
      rw [h.below?_name hc] at hrest
      rcases ih (mem_children.1 hc).1 hrest with ⟨n, hn, hpath⟩ | ⟨n, a, ha, hpath⟩
      · exact .inl ⟨n, hn, by simp [hpath, h.pathNames_child hc]⟩
      · exact .inr ⟨n, a, ha, by simp [hpath, h.pathNames_child hc]⟩
    · -- a name that no sub-command has is that of a parameter, and nothing stands below it
      have hnone : ∀ c ∈ t.children id, t.name c ≠ name := fun c hc he => hchild ⟨c, hc, he⟩
      obtain ⟨-, rfl⟩ := eq_nil_of_expandFrom_argument (below?_eq_of_no_child hnone) hrest
      rcases resolveAt_eq_some_cases hres with ⟨c, hc, hname⟩ | ⟨x, hx, hres⟩
      · exact absurd hname (hnone c (mem_of_findChild hc))
      · exact .inr ⟨id, name, ⟨x, hx, Label.mem_names_of_resolve hres⟩, rfl⟩

end WellFormed

theorem findPath_of_no_gap {p : String} (hp : "" ∉ Text.splitAt '.' p) :
    t.findPath p = t.findFrom root (Text.splitAt '.' p) := by
  rw [findPath, List.filter_eq_self.2]
  intro s hs
  simpa using fun hempty : s = "" => hp (hempty ▸ hs)

/-! ## Parameters -/

/-- A path is the path of a command, in any spelling, with one more segment; after the root it is
the segment alone. -/
inductive Extends (t : CommandTree α) (n : NodeId) (s : String) : String → Prop
  | root (hn : n = root) : Extends t n s s
  | below {q : String} (hq : t.findPath q = some n) : Extends t n s (q ++ "." ++ s)

/-- A path leads to a parameter of a command: its last segment is a spelling of the parameter and of
no sub-command. -/
structure LeadsToParam (t : CommandTree α) (p : String) (n : NodeId) (x : Executable α)
    (a : String) : Prop where
  segment : ∃ s, t.Extends n s p ∧ x.resolve s = some a ∧
    ∀ c ∈ t.children n, s ∉ (t.node c).label.spellings
  executable : t.executable? n = some x

/-- The segments of a path to a parameter. -/
theorem WellFormed.segments_of_leadsToParam (h : t.WellFormed) {p : String}
    (hp : "" ∉ Text.splitAt '.' p) {n : NodeId} {x : Executable α} {a : String}
    (hlead : t.LeadsToParam p n x a) :
    ∃ front s, Text.splitAt '.' p = front ++ [s] ∧ t.findFrom root front = some n ∧
      isName s = true ∧ t.resolveAt (.command n) s = some a := by
  obtain ⟨⟨s, hext, hres, hfree⟩, hx⟩ := hlead
  have hname : isName s = true := (h.params n x hx).names s (Label.mem_of_resolve hres)
  have hnone : t.findChild n s = none := by
    cases hfind : t.findChild n s with
    | none => rfl
    | some c =>
      obtain ⟨hc, hs⟩ := h.findChild_eq_some_iff.1 hfind
      exact absurd hs (hfree c hc)
  have hat : t.resolveAt (.command n) s = some a := by
    rw [resolveAt, hnone, hx]
    exact hres
  cases hext with
  | root hn =>
    have hsegments : Text.splitAt '.' (Text.join "." [p]) = [p] :=
      splitAt_join_names (by simp) (by simpa using hname)
    exact ⟨[], p, hsegments, by rw [hn]; rfl, hname, hat⟩
  | @below q hq =>
    have hsegments : Text.splitAt '.' (q ++ "." ++ s) = Text.splitAt '.' q ++ [s] :=
      Text.splitAt_append (dot_not_mem_of_isName hname)
    have hgap : "" ∉ Text.splitAt '.' q := fun hmem => hp (by simp [hsegments, hmem])
    exact ⟨_, s, hsegments, by rw [← findPath_of_no_gap hgap, hq], hname, hat⟩

theorem WellFormed.expand_of_leadsToParam (h : t.WellFormed) {p : String}
    (hp : "" ∉ Text.splitAt '.' p) {n : NodeId} {x : Executable α} {a : String}
    (hlead : t.LeadsToParam p n x a) :
    t.expand p "." = (Text.join "." (t.pathNames n ++ [a]), true) ∧ Block.Plain p := by
  obtain ⟨front, s, hsegments, hfind, hname, hat⟩ := h.segments_of_leadsToParam hp hlead
  obtain ⟨names, hpath, hexp⟩ := h.expandFrom_findFrom hfind
  have hlast : t.expandFrom (some (.command n)) [s] = some [a] :=
    expandFrom_cons_eq_some_iff.2 ⟨_, a, [], rfl, hat, rfl, rfl⟩
  constructor
  · refine expand_eq_true_iff.2 ⟨names ++ [a], by rw [hsegments, hexp, hlast]; rfl, ?_⟩
    rw [hpath, h.pathNames_root, List.nil_append]
  · have hjoin : Text.join "." (front ++ [s]) = p := by
      rw [← hsegments]
      exact Text.join_splitAt '.' p
    rw [← hjoin]
    refine plain_join_names (by simp) fun s' hs' => ?_
    rcases List.mem_append.1 hs' with hs' | hs'
    · exact h.isName_of_findFrom hfind s' hs'
    · exact List.mem_singleton.1 hs' ▸ hname

/-! ## Blocks -/

/-- Outside the scope of parameters a block with one assignment assigns to the expanded key. -/
theorem read_block_of_key {scope : NodeId} (hscope : t.assigned? scope = none) {p v : String}
    (hp : Block.Plain p) (hv : Block.Plain v) {tokens : List String}
    (htokens : Block.Tokenises [(p, v)] tokens) (tail : List String) :
    Block.read t scope (tokens ++ tail) =
      (.ok (.found (.ofList [((t.expand p ".").1, ⟨v, false⟩)])), tail) := by
  rw [Block.read_of_tokenises t t scope (by simpa using ⟨hp, hv⟩) htokens]
  simp [Block.outcome, Block.readPieces, hscope, Block.assignmentAtoms, Block.Atom.piece,
    Reading.ofKeys, Reading.ofEquations, Reading.ofTriples]
  rfl

/-- A value that is written to a session is passed for the parameter that it is written for. -/
theorem get?_resolveArgs_writeTo {x : Executable α} (hx : Label.Sound x.labels) {path a v : String}
    (ha : a ∈ x.labels.map (·.name)) (hv : (⟨v, false⟩ : Value).erasure = .none) (session : Env) :
    (Engine.resolveArgs x path (Assignments.writeTo
      (.ofList [(Engine.argKey path a, ⟨v, false⟩)]) session)).get? a = some v := by
  let env := Assignments.writeTo (.ofList [(Engine.argKey path a, ⟨v, false⟩)]) session
  have henv : env.get? (Engine.argKey path a) = some v := by
    have hentry : (Dict.ofList [(Engine.argKey path a, (⟨v, false⟩ : Value))]).get?
        (Engine.argKey path a) = some ⟨v, false⟩ := by
      simp [Dict.ofList, Dict.insertAll, Dict.get?_insert]
    rw [Env.get?, Env.value?_eq_or, Env.own_writeTo, hentry]
    simp [Value.kept?, hv]
  obtain ⟨p, hp⟩ : ∃ p, x.params.find? (fun p => p.label.name = a) = some p := by
    refine Option.isSome_iff_exists.1 (List.find?_isSome.2 ?_)
    obtain ⟨l, hl, rfl⟩ := List.mem_map.1 ha
    obtain ⟨p, hp, rfl⟩ := List.mem_map.1 hl
    exact ⟨p, hp, by simp⟩
  have hname : p.label.name = a := by simpa using List.find?_some hp
  rw [ArgVals.get?, Engine.pairs_resolveArgs hx.nodup_names, List.find?_map]
  simp only [Function.comp_def, hp, Option.map_some, hname]
  exact congrArg (fun value => some (value.getD p.default)) henv

/-! ## All paths -/

/-- A path is looked up alike as the way to a command and as a key. -/
structure ExpandsAlike (t : CommandTree α) (p : String) : Prop where
  /-- An index of spellings expands the path as the tree does, in whatever order it was built. -/
  index : ∀ order : NodeId → List (String × String),
    (∀ id, (order id).Perm (t.paramSpellings id)) →
    (t.spellingIndex order root).expand p "." = t.expand p "."
  /-- If it leads to a command, it expands to the path of the command. -/
  command : ∀ n, t.findPath p = some n → t.expand p "." = (t.displayPath n, true)
  /-- If it leads to a parameter, it expands to the names of the command and of the parameter. -/
  param : ∀ n x a, t.LeadsToParam p n x a →
    t.expand p "." = (Text.join "." (t.pathNames n ++ [a]), true)
  /-- Then a block with the path as a key assigns to the key of the parameter, and the value is
  passed once it is in the session. -/
  key : ∀ n x a, t.LeadsToParam p n x a → n ≠ root →
    Text.join "." (t.pathNames n ++ [a]) = Engine.argKey (t.displayPath n) a ∧
    ∀ scope v tokens, t.assigned? scope = none → Block.Plain v → Block.Tokenises [(p, v)] tokens →
      (∀ tail, Block.read t scope (tokens ++ tail) =
        (.ok (.found (.ofList [(Engine.argKey (t.displayPath n) a, ⟨v, false⟩)])), tail)) ∧
      ((⟨v, false⟩ : Value).erasure = .none → ∀ session,
        (Engine.resolveArgs x (t.displayPath n) (Assignments.writeTo
          (.ofList [(Engine.argKey (t.displayPath n) a, ⟨v, false⟩)]) session)).get? a = some v)
  /-- Whatever it expands to is the path of a command or that of a parameter of a command. -/
  sound : ∀ r, t.expand p "." = (r, true) →
    (∃ n, n.index < t.size ∧ r = t.displayPath n) ∨
      ∃ n a, t.Declares n a ∧ r = Text.join "." (t.pathNames n ++ [a])

theorem Reachable.expandsAlike (ht : t.Reachable) {p : String}
    (hp : "" ∉ Text.splitAt '.' p) : t.ExpandsAlike p where
  index order horder := ht.wellFormed.expand_spellingIndex horder p "."
  command := by
    intro n hn
    have h := ht.wellFormed
    rw [findPath_of_no_gap hp] at hn
    obtain ⟨names, hpath, hexp⟩ := h.expandFrom_findFrom hn
    have hwhole := hexp []
    rw [List.append_nil] at hwhole
    refine expand_eq_true_iff.2 ⟨names ++ [], hwhole, ?_⟩
    rw [displayPath, hpath, h.pathNames_root, List.nil_append, List.append_nil]
  param n x a hlead := (ht.wellFormed.expand_of_leadsToParam hp hlead).1
  key := by
    intro n x a hlead hne
    have h := ht.wellFormed
    have hx := h.params n x hlead.executable
    obtain ⟨hexp, hplain⟩ := h.expand_of_leadsToParam hp hlead
    obtain ⟨s, -, hres, -⟩ := hlead.segment
    have hkey := h.argKey_eq_join (lt_size_of_executable? hlead.executable) hne a
    refine ⟨hkey.symm, fun scope v tokens hscope hv htokens => ⟨fun tail => ?_, fun hmark =>
      get?_resolveArgs_writeTo hx (Label.mem_names_of_resolve hres) hmark⟩⟩
    rw [read_block_of_key hscope hplain hv htokens, hexp, hkey]
  sound := by
    intro r hr
    have h := ht.wellFormed
    obtain ⟨names, hnames, rfl⟩ := expand_eq_true_iff.1 hr
    have hcases := h.names_of_expandFrom h.root_lt hnames
    rw [h.pathNames_root, List.nil_append] at hcases
    rcases hcases with ⟨n, hn, hpath⟩ | ⟨n, a, ha, hpath⟩
    · exact .inl ⟨n, hn, by rw [displayPath, hpath]⟩
    · exact .inr ⟨n, a, ha, by rw [hpath]⟩

/-- In the tree where `to` is hidden by a sub-command the path with `to` leads to the sub-command, and
that with its abbreviation to the parameter. -/
theorem expandsAlike_hidden :
    mailTree.findPath "m.to" = some ⟨2⟩ ∧
    mailTree.expand "m.to" "." = (mailTree.displayPath ⟨2⟩, true) ∧
    ∃ x, mailTree.LeadsToParam "m.t" ⟨1⟩ x "to" ∧
      Block.read mailTree root ["\x7bm.t=ann\x7d"] =
        (.ok (.found (.ofList [(Engine.argKey (mailTree.displayPath ⟨1⟩) "to", ⟨"ann", false⟩)])),
          []) := by
  have hcommand : mailTree.findPath "m.to" = some ⟨2⟩ := by decide
  have hlead : mailTree.LeadsToParam "m.t" ⟨1⟩
      ⟨.normal (), "", [⟨⟨"to", ["t"]⟩, ""⟩, ⟨⟨"subject", ["s"]⟩, ""⟩], false⟩ "to" :=
    ⟨⟨"t", .below (q := "m") (by decide), by decide, by decide⟩, rfl⟩
  have hnone : Text.Blanks [] := by simp [Text.Blanks]
  have htokens : Block.Tokenises [("m.t", "ann")] ["\x7bm.t=ann\x7d"] := by
    refine ⟨[[.mark .opening, .key "m.t", .mark .equals, .value "ann", .mark .closing]], rfl, ?_,
      .cons (.of_toList (by decide) (.cons hnone (.cons hnone (.cons hnone (.cons hnone
        (.cons hnone (.nil hnone))))))) .nil⟩
    simp [Block.Atom.Glues]
  have hvalue : Block.Plain "ann" := ⟨by decide, fun m => by cases m <;> decide⟩
  have hkey := (mailTree_reachable.expandsAlike (p := "m.t") (by decide)).key _ _ _ hlead
    (by decide)
  exact ⟨hcommand, (mailTree_reachable.expandsAlike (by decide)).command _ hcommand, _, hlead,
    (hkey.2 root "ann" _ rfl hvalue htokens).1 []⟩

end CommandTree

end FlowScript
