import FlowScript.Proofs.Command.Registration
import FlowScript.Proofs.Script.Descent
import FlowScript.Proofs.Script.PathNames

/-!
# The grammar of sequences without blocks

The walk takes a sequence apart token by token and puts pieces back. Without blocks it comes to a
plain rule: the path goes up to the first token that does not end in a separator and is not followed
by one, the names of the path are the runs of other characters in its tokens, and all tokens after
the path are arguments of the command that the names lead to.
-/

namespace FlowScript

variable {α : Type} {t : CommandTree α}

/-! ## Following names -/

namespace CommandTree

/-- The commands that names lead to, one below the other, or the command at which a name leads
nowhere with that name. -/
def follow (t : CommandTree α) (id : NodeId) :
    List String → Except (NodeId × String) (List NodeId)
  | [] => .ok []
  | name :: rest =>
    match t.findChild id name with
    | none => .error (id, name)
    | some c => (t.follow c rest).map (c :: ·)

theorem follow_append (id : NodeId) (front back : List String) :
    t.follow id (front ++ back) =
      match t.follow id front with
      | .error e => .error e
      | .ok nodes => (t.follow (lastFrom id nodes) back).map (nodes ++ ·) := by
  induction front generalizing id with
  | nil =>
    simp only [List.nil_append, follow, lastFrom_nil]
    cases t.follow id back <;> rfl
  | cons name rest ih =>
    simp only [List.cons_append, follow]
    cases t.findChild id name with
    | none => rfl
    | some c =>
      simp only [ih c]
      cases t.follow c rest with
      | error e => rfl
      | ok nodes =>
        simp only [Except.map, lastFrom_cons]
        cases t.follow (lastFrom c nodes) back <;> rfl

/-- Following names ends where looking them up does. -/
theorem findFrom_eq_some_iff {id c : NodeId} {names : List String} :
    t.findFrom id names = some c ↔
      ∃ nodes, t.follow id names = .ok nodes ∧ lastFrom id nodes = c := by
  induction names generalizing id with
  | nil => simp [findFrom, follow]
  | cons name rest ih =>
    simp only [findFrom, follow]
    cases t.findChild id name with
    | none => simp
    | some d =>
      simp only [ih]
      cases t.follow d rest <;> simp [Except.map]

end CommandTree

/-! ## Walking along names -/

namespace Walk

open CommandTree PathGrammar

/-- A walk takes names and then stands before a queue, or it fails at the first of the names that
leads nowhere. -/
structure Passes (t : CommandTree α) (w : Walk) (names queue : List String) (mayDescend : Bool) :
    Prop where
  fails : ∀ id name, t.follow w.current names = .error (id, name) →
    ∃ rest, w.run t = .error ⟨.unknownCommand name, t.displayPath id, name :: rest⟩
  arrives : ∀ nodes, t.follow w.current names = .ok nodes →
    ∃ items, PathItem.bare items =
        PathItem.bare w.items ++ nodes.map (fun c => .command ⟨t.name c, c⟩) ∧
      w.run t = run t ⟨queue, items, lastFrom w.current nodes, mayDescend⟩

namespace Passes

variable {w : Walk} {queue queue' : List String} {m m' : Bool}

theorem refl (w : Walk) : Passes t w [] w.queue w.mayDescend where
  fails := by simp [follow]
  arrives := by
    rintro nodes hnil
    obtain rfl := Except.ok.inj hnil
    exact ⟨w.items, by simp, rfl⟩

/-- Walks that differ in separators only pass the same names. -/
theorem of_run_eq {v : Walk} {names : List String} (hrun : w.run t = v.run t)
    (hitems : PathItem.bare v.items = PathItem.bare w.items) (hcurrent : v.current = w.current)
    (h : Passes t v names queue m) : Passes t w names queue m where
  fails := by
    rw [hrun, ← hcurrent]
    exact h.fails
  arrives := by
    rw [hrun, ← hcurrent, ← hitems]
    exact h.arrives

/-- Names are passed one after the other. -/
theorem append {front back : List String} (h : Passes t w front queue m)
    (hback : ∀ items id, Passes t ⟨queue, items, id, m⟩ back queue' m') :
    Passes t w (front ++ back) queue' m' where
  fails := by
    intro id name hfollow
    cases hfront : t.follow w.current front with
    | error e =>
      rw [follow_append, hfront] at hfollow
      exact h.fails id name (hfront.trans hfollow)
    | ok nodes =>
      obtain ⟨items, -, hrun⟩ := h.arrives nodes hfront
      rw [follow_append, hfront] at hfollow
      rw [hrun]
      refine (hback items (lastFrom w.current nodes)).fails id name ?_
      cases hrest : t.follow (lastFrom w.current nodes) back with
      | error e => simpa [hrest, Except.map] using hfollow
      | ok more => simp [hrest, Except.map] at hfollow
  arrives := by
    intro all hfollow
    cases hfront : t.follow w.current front with
    | error e => simp [follow_append, hfront] at hfollow
    | ok nodes =>
      obtain ⟨items, hitems, hrun⟩ := h.arrives nodes hfront
      cases hrest : t.follow (lastFrom w.current nodes) back with
      | error e => simp [follow_append, hfront, hrest, Except.map] at hfollow
      | ok more =>
        simp only [follow_append, hfront, hrest, Except.map, Except.ok.injEq] at hfollow
        obtain ⟨items', hitems', hrun'⟩ :=
          (hback items (lastFrom w.current nodes)).arrives more hrest
        subst hfollow
        refine ⟨items', ?_, ?_⟩
        · rw [hitems', hitems, List.map_append, List.append_assoc]
        · rw [hrun, hrun', lastFrom_append]

end Passes

/-! ## One token -/

theorem step_of_no_block {index : CommandTree α} {w : Walk} {token : String} {rest : List String}
    (hq : w.queue = token :: rest) (hopen : '{' ∉ token.toList) :
    w.step t index = w.stepToken t token rest index := by
  have hread : Block.read t w.current (token :: rest) index = (.ok .absent, token :: rest) := by
    simp [Block.read, Block.findOpening, Text.cut_eq_none_iff.2 hopen]
  simp [step, hq, hread]

/-- Separators in front of a token are dropped, and names may follow. -/
theorem run_separators {index : CommandTree α} {token : String} (hopen : '{' ∉ token.toList)
    (hsep : startsSep token = true) (items : List PathItem) (id : NodeId) (m : Bool) :
    ∃ items', PathItem.bare items' = PathItem.bare items ∧
      ∀ rest, run t ⟨token :: rest, items, id, m⟩ index =
        run t ⟨if (token.toList.dropWhile isPathSep).isEmpty then rest
          else String.ofList (token.toList.dropWhile isPathSep) :: rest, items', id, true⟩
            index := by
  refine ⟨if items.getLast? = some .separator then items else items ++ [.separator], ?_, ?_⟩
  · split
    · rfl
    · simp [PathItem.bare]
  · intro rest
    apply run_next
    rw [step_of_no_block rfl hopen, stepToken]
    simp only [length_dropWhile_lt_iff.2 hsep, if_true]

theorem stepToken_of_not_startsSep {index : CommandTree α} {w : Walk} {token : String}
    {rest : List String} (hsep : startsSep token = false) :
    w.stepToken t token rest index =
      if w.mayDescend then
        if (token.toList.dropWhile (!isPathSep ·)).isEmpty then w.descend t token rest
        else .next { w with queue := (String.ofList (token.toList.takeWhile (!isPathSep ·)) ::
          String.ofList (token.toList.dropWhile (!isPathSep ·)) :: rest) }
      else w.takeArguments t (token :: rest) index := by
  have hle : ¬ (token.toList.dropWhile isPathSep).length < token.length := by
    rw [length_dropWhile_lt_iff, hsep]
    simp
  simp only [stepToken, if_neg hle]

/-- A word is a name where names may follow. -/
theorem step_word {index : CommandTree α} {word : List Char} (hword : IsWord word)
    (hopen : '{' ∉ word) (rest : List String) (items : List PathItem) (id : NodeId) :
    step t ⟨String.ofList word :: rest, items, id, true⟩ index =
      descend t ⟨String.ofList word :: rest, items, id, true⟩ (String.ofList word) rest := by
  have hsep : startsSep (String.ofList word) = false := by
    simpa using hword.startsSep_append []
  have hdrop : word.dropWhile (!isPathSep ·) = [] :=
    List.dropWhile_eq_nil_iff.2 (by simpa using hword.noSep)
  rw [step_of_no_block rfl (by simpa using hopen), stepToken_of_not_startsSep hsep]
  simp [hdrop]

theorem passes_word {word : List Char} (hword : IsWord word) (hopen : '{' ∉ word)
    (rest : List String) (items : List PathItem) (id : NodeId) :
    Passes t ⟨String.ofList word :: rest, items, id, true⟩ [String.ofList word] rest false := by
  have hstep : step t ⟨String.ofList word :: rest, items, id, true⟩ =
      descend t ⟨String.ofList word :: rest, items, id, true⟩ (String.ofList word) rest :=
    step_word hword hopen rest items id
  rw [descend] at hstep
  cases hc : t.findChild id (String.ofList word) with
  | none =>
    rw [hc] at hstep
    refine ⟨?_, by simp [follow, hc]⟩
    rintro id' name hfollow
    simp only [follow, hc, Except.error.injEq, Prod.mk.injEq] at hfollow
    obtain ⟨rfl, rfl⟩ := hfollow
    exact ⟨rest, run_failed hstep⟩
  | some c =>
    rw [hc] at hstep
    refine ⟨by simp [follow, hc, Except.map], ?_⟩
    rintro nodes hfollow
    simp only [follow, hc, Except.map, Except.ok.injEq] at hfollow
    subst hfollow
    exact ⟨_, by simp [PathItem.bare], run_next hstep⟩

/-- A word with separators after it is cut off first. -/
theorem run_word_append {index : CommandTree α} {word tail : List Char} (hword : IsWord word)
    (hne : tail ≠ []) (htail : tail.head?.all isPathSep = true) (hopen : '{' ∉ word ++ tail)
    (rest : List String) (items : List PathItem) (id : NodeId) :
    run t ⟨String.ofList (word ++ tail) :: rest, items, id, true⟩ index =
      run t ⟨String.ofList word :: String.ofList tail :: rest, items, id, true⟩ index := by
  apply run_next
  rw [step_of_no_block rfl (by simpa using hopen),
    stepToken_of_not_startsSep (hword.startsSep_append tail)]
  obtain ⟨htake, hdrop⟩ := hword.takeWhile_append htail
  simp [htake, hdrop, hne]

/-- A token is passed as the names in it, if it starts with a separator or names may follow. -/
theorem passes_token {cs : List Char} (hne : cs ≠ []) (hopen : '{' ∉ cs) {m : Bool}
    (hm : m = true ∨ startsSep (String.ofList cs) = true) (rest : List String)
    (items : List PathItem) (id : NodeId) :
    Passes t ⟨String.ofList cs :: rest, items, id, m⟩ (runs (String.ofList cs)) rest
      (endsSep (String.ofList cs)) := by
  -- what is left of a token after its separators or its first word is a shorter token
  induction hlen : cs.length using Nat.strongRecOn generalizing cs m items id with
  | ind n ih =>
    cases hsep : startsSep (String.ofList cs) with
    | true =>
      have hlt := length_dropWhile_lt_iff.2 hsep
      obtain ⟨items', hitems, hrun⟩ := run_separators (t := t) (by simpa using hopen) hsep items
        id m
      simp only [String.toList_ofList, String.length_ofList] at hlt hrun
      refine .of_run_eq (hrun rest) hitems rfl ?_
      rw [← runs_dropWhile, endsSep_dropWhile hne]
      by_cases htail : cs.dropWhile isPathSep = []
      · simp only [htail, List.isEmpty_nil, if_true]
        exact .refl _
      · rw [if_neg (by simpa using htail), if_neg (by simpa using htail)]
        refine ih _ (hlen ▸ hlt) htail ?_ (.inl rfl) items' id rfl
        exact fun hmem => hopen ((List.dropWhile_sublist _).mem hmem)
    | false =>
      obtain rfl : m = true := hm.resolve_right (by simp [hsep])
      obtain ⟨word, tail, rfl, hword, htail⟩ := exists_word hne hsep
      rw [hword.runs_append htail]
      have hwordopen : '{' ∉ word := fun hmem => hopen (List.mem_append_left _ hmem)
      by_cases htailne : tail = []
      · subst htailne
        rw [List.append_nil, hword.endsSep]
        exact passes_word hword hwordopen rest items id
      · refine .of_run_eq (run_word_append hword htailne htail hopen rest items id) rfl rfl ?_
        rw [endsSep_append word htailne]
        -- the tail starts with a separator, so it is passed although no name may follow the word
        refine Passes.append (passes_word hword hwordopen _ items id) fun items' id' => ?_
        have hlt : tail.length < n := by
          have := List.length_pos_iff.2 hword.nonempty
          rw [← hlen, List.length_append]
          omega
        refine ih _ hlt htailne (fun hmem => hopen (List.mem_append_right _ hmem)) (.inr ?_)
          items' id' rfl
        cases tail with
        | nil => exact absurd rfl htailne
        | cons c cs => simpa [startsSep] using htail

/-! ## Whole sequences -/

theorem run_nil (items : List PathItem) (id : NodeId) (m : Bool) :
    run t ⟨[], items, id, m⟩ = .ok items :=
  run_done rfl

/-- A walk passes the names of a path and then stands before the arguments. -/
theorem passes_path {tokens : List String} (hne : ∀ s ∈ tokens, s ≠ "")
    (hopen : ∀ s ∈ tokens, '{' ∉ s.toList) {m : Bool}
    (hm : m = true ∨ tokens.head?.any startsSep = true) (items : List PathItem) (id : NodeId) :
    Passes t ⟨tokens, items, id, m⟩ (names tokens) (arguments tokens) false := by
  induction tokens generalizing m items id with
  | nil =>
    refine .of_run_eq (v := ⟨[], items, id, false⟩) ?_ rfl rfl (.refl _)
    rw [run_nil, run_nil]
  | cons token rest ih =>
    have hchars : token.toList ≠ [] := fun h => hne token (by simp) (String.toList_eq_nil_iff.1 h)
    have htoken : Passes t ⟨token :: rest, items, id, m⟩ (runs token) rest (endsSep token) := by
      have := passes_token (t := t) hchars (hopen token (by simp)) (m := m) (by simpa using hm)
        rest items id
      simpa using this
    rw [names_cons, arguments_cons]
    split
    · rename_i hend
      have hends : endsSep token = false := by simp at hend; exact hend.1
      simpa [hends] using htoken
    · rename_i hend
      refine htoken.append fun items' id' => ?_
      refine ih (fun s hs => hne s (by simp [hs])) (fun s hs => hopen s (by simp [hs])) ?_ items'
        id'
      cases hends : endsSep token with
      | true => exact .inl rfl
      | false => exact .inr (by simpa [hends] using hend)

end Walk

namespace CommandTree

open PathGrammar

/-- What the arguments of a command assign, if they assign anything. -/
def fragment? (t : CommandTree α) (id : NodeId) (args : List String) : Option Assignments :=
  let env := (t.readAssignments id args).env
  if args.isEmpty || env.isEmpty then none else some env

theorem run_arguments {args : List String} (hopen : ∀ s ∈ args, '{' ∉ s.toList)
    (hsep : ∀ token rest, args = token :: rest → startsSep token = false)
    (items : List PathItem) (id : NodeId) :
    Walk.run t ⟨args, items, id, false⟩ =
      if args ≠ [] ∧ (t.readAssignments id args).rest ≠ [] then
        .error ⟨.notArguments, t.displayPath id, (t.readAssignments id args).rest⟩
      else .ok (items ++ (t.fragment? id args).toList.map .env) := by
  cases args with
  | nil => simp [Walk.run_nil, fragment?]
  | cons token rest =>
    have hstep : Walk.step t ⟨token :: rest, items, id, false⟩ =
        Walk.takeArguments t ⟨token :: rest, items, id, false⟩ (token :: rest) := by
      rw [Walk.step_of_no_block rfl (hopen token (by simp)),
        Walk.stepToken_of_not_startsSep (hsep token rest rfl)]
      simp
    rw [Walk.takeArguments] at hstep
    by_cases hrest : (t.readAssignments id (token :: rest)).rest = []
    · simp only [hrest, List.isEmpty_nil] at hstep
      rw [Walk.run_done hstep]
      cases henv : (t.readAssignments id (token :: rest)).env.isEmpty <;>
        simp [fragment?, hrest, henv]
    · simp only [List.isEmpty_eq_false_iff.2 hrest] at hstep
      rw [Walk.run_failed hstep]
      simp [hrest]

theorem ne_empty_of_mem_trimmed {tokens : List String} {s : String}
    (h : s ∈ tokens.filterMap Text.trimmed?) : s ≠ "" := by
  obtain ⟨token, -, htoken⟩ := List.mem_filterMap.1 h
  rintro rfl
  exact absurd (Walk.pos_of_trimmed htoken).1 (by decide)

/-- A sequence without blocks is passed as its names, up to its arguments. -/
theorem passes_start {tokens ts : List String} (hts : tokens.filterMap Text.trimmed? = ts)
    (hopen : ∀ s ∈ ts, '{' ∉ s.toList) :
    (Walk.start tokens).Passes t (names ts) (arguments ts) false := by
  subst hts
  exact Walk.passes_path (fun s hs => ne_empty_of_mem_trimmed hs) hopen (.inl rfl) [] root

/-- The items of a sequence without blocks whose names lead somewhere: the commands on the way, and
then what the arguments assign. -/
theorem readItems_of_follow {tokens ts : List String} {nodes : List NodeId}
    (hts : tokens.filterMap Text.trimmed? = ts) (hopen : ∀ s ∈ ts, '{' ∉ s.toList)
    (hfollow : t.follow root (names ts) = .ok nodes) :
    ∃ items, PathItem.bare items = nodes.map (fun c => .command ⟨t.name c, c⟩) ∧
      t.readItems tokens =
        if arguments ts ≠ [] ∧
            (t.readAssignments (lastFrom root nodes) (arguments ts)).rest ≠ [] then
          .error ⟨.notArguments, t.displayPath (lastFrom root nodes),
            (t.readAssignments (lastFrom root nodes) (arguments ts)).rest⟩
        else .ok (items ++ (t.fragment? (lastFrom root nodes) (arguments ts)).toList.map .env) := by
  obtain ⟨items, hitems, hrun⟩ := (passes_start hts hopen).arrives nodes hfollow
  refine ⟨items, by simpa [Walk.start, PathItem.bare] using hitems, ?_⟩
  have hargs := run_arguments (t := t) (fun s hs => hopen s ((arguments_suffix ts).mem hs))
    (fun token rest h => startsSep_arguments h) items (lastFrom root nodes)
  exact hrun.trans hargs

/-! ## The grammar -/

/-- What a sequence without blocks comes to, `ts` being its trimmed tokens. -/
structure ReadsByGrammar (t : CommandTree α) (tokens ts : List String) : Prop where
  /-- It can be read if its names lead somewhere and its arguments are read to their end. -/
  succeeds : (∃ i, t.readInvocation tokens = .ok i) ↔
    ∃ nodes, t.follow root (names ts) = .ok nodes ∧ (arguments ts ≠ [] →
      (t.readAssignments (lastFrom root nodes) (arguments ts)).rest = [])
  /-- Then it names the commands that were passed, and all that is assigned comes from the
  arguments. -/
  outcome : ∀ i nodes, t.readInvocation tokens = .ok i →
    t.follow root (names ts) = .ok nodes →
      i.commands = nodes.map (fun c => ⟨t.name c, c⟩) ∧
      i.fragments = (t.fragment? (lastFrom root nodes) (arguments ts)).toList.map
        (Invocation.qualify (t.keyPrefix (lastFrom root nodes)))
  /-- A single token with dots in it is a dotted path. -/
  dotted : ∀ i p, t.readInvocation tokens = .ok i → ts = [p] →
    (∀ c ∈ p.toList, isPathSep c = true → c = '.') →
      t.findPath p = some i.target
  /-- A name that leads nowhere is what is wrong, at the command that was reached. -/
  unknown : ∀ id name, t.follow root (names ts) = .error (id, name) →
    ∃ rest, t.readInvocation tokens =
      .error ⟨.unknownCommand name, t.displayPath id, name :: rest⟩
  /-- Otherwise it is the arguments that cannot be read. -/
  leftOver : ∀ nodes, t.follow root (names ts) = .ok nodes → arguments ts ≠ [] →
    (t.readAssignments (lastFrom root nodes) (arguments ts)).rest ≠ [] →
      t.readInvocation tokens = .error ⟨.notArguments, t.displayPath (lastFrom root nodes),
        (t.readAssignments (lastFrom root nodes) (arguments ts)).rest⟩

/-- Names that lead somewhere take items there. -/
theorem Leads.follow {items : List PathItem} {id : NodeId} {names : List String}
    {nodes : List NodeId} (h : t.Leads items id) (hfollow : t.follow id names = .ok nodes) :
    t.Leads (items ++ nodes.map (fun c => .command ⟨t.name c, c⟩)) (lastFrom id nodes) := by
  induction names generalizing items id nodes with
  | nil =>
    obtain rfl := Except.ok.inj hfollow
    simpa using h
  | cons name rest ih =>
    simp only [CommandTree.follow] at hfollow
    cases hc : t.findChild id name with
    | none => simp [hc] at hfollow
    | some c =>
      simp only [hc] at hfollow
      cases hrest : t.follow c rest with
      | error e => simp [hrest, Except.map] at hfollow
      | ok more =>
        simp only [hrest, Except.map, Except.ok.injEq] at hfollow
        subst hfollow
        have hall := ih (h.take (.command hc)) hrest
        simpa using hall

/-- The invocation of the commands that names lead to, with at most one fragment after them. -/
theorem ofItems_of_follow (hwf : t.WellFormed) {items : List PathItem} {names : List String}
    {nodes : List NodeId} (hfollow : t.follow root names = .ok nodes)
    (hitems : PathItem.bare items = nodes.map (fun c => .command ⟨t.name c, c⟩))
    (a : Option Assignments) :
    (Invocation.ofItems (items ++ a.toList.map .env)).commands =
        nodes.map (fun c => ⟨t.name c, c⟩) ∧
      (Invocation.ofItems (items ++ a.toList.map .env)).fragments =
        a.toList.map (Invocation.qualify (t.keyPrefix (lastFrom root nodes))) := by
  have hleads := Leads.follow .start hfollow
  have henv : PathItem.bare (a.toList.map .env) = a.toList.map .env :=
    PathItem.bare_eq_self (by simp)
  have hcommands : nodes.map (fun c => PathItem.command ⟨t.name c, c⟩) =
      (nodes.map (fun c => (⟨t.name c, c⟩ : Match))).map .command := by
    simp
  rw [List.nil_append, hcommands] at hleads
  rw [← Invocation.ofItems_bare, PathItem.bare_append, hitems, henv, hcommands]
  constructor
  · rw [Invocation.commands_ofItems]
    cases a <;> simp [List.filterMap_map, Function.comp_def, List.filterMap_cons]
  · rw [Invocation.fragments_ofItems, hleads.path hwf]
    cases a <;> rfl

section Outcomes

variable {tokens ts : List String} {nodes : List NodeId}

theorem readInvocation_unknown (hts : tokens.filterMap Text.trimmed? = ts)
    (hopen : ∀ s ∈ ts, '{' ∉ s.toList) {id : NodeId} {name : String}
    (hfollow : t.follow root (names ts) = .error (id, name)) :
    ∃ rest, t.readInvocation tokens =
      .error ⟨.unknownCommand name, t.displayPath id, name :: rest⟩ := by
  obtain ⟨rest, hread⟩ := (passes_start hts hopen).fails id name hfollow
  refine ⟨rest, ?_⟩
  rw [readInvocation, readItems, hread]
  rfl

theorem readInvocation_leftOver (hts : tokens.filterMap Text.trimmed? = ts)
    (hopen : ∀ s ∈ ts, '{' ∉ s.toList) (hfollow : t.follow root (names ts) = .ok nodes)
    (hargs : arguments ts ≠ [])
    (hrest : (t.readAssignments (lastFrom root nodes) (arguments ts)).rest ≠ []) :
    t.readInvocation tokens = .error ⟨.notArguments, t.displayPath (lastFrom root nodes),
      (t.readAssignments (lastFrom root nodes) (arguments ts)).rest⟩ := by
  obtain ⟨items, -, hread⟩ := readItems_of_follow hts hopen hfollow
  rw [readInvocation, hread, if_pos ⟨hargs, hrest⟩]
  rfl

theorem readInvocation_outcome (hwf : t.WellFormed) (hts : tokens.filterMap Text.trimmed? = ts)
    (hopen : ∀ s ∈ ts, '{' ∉ s.toList) (hfollow : t.follow root (names ts) = .ok nodes)
    (hargs : arguments ts ≠ [] →
      (t.readAssignments (lastFrom root nodes) (arguments ts)).rest = []) :
    ∃ i, t.readInvocation tokens = .ok i ∧ i.commands = nodes.map (fun c => ⟨t.name c, c⟩) ∧
      i.fragments = (t.fragment? (lastFrom root nodes) (arguments ts)).toList.map
        (Invocation.qualify (t.keyPrefix (lastFrom root nodes))) := by
  obtain ⟨items, hitems, hread⟩ := readItems_of_follow hts hopen hfollow
  refine ⟨_, ?_, ofItems_of_follow hwf hfollow hitems _⟩
  rw [readInvocation, hread, if_neg fun hrest => hrest.2 (hargs hrest.1)]
  rfl

theorem follow_of_readInvocation (hts : tokens.filterMap Text.trimmed? = ts)
    (hopen : ∀ s ∈ ts, '{' ∉ s.toList) {i : Invocation} (hi : t.readInvocation tokens = .ok i) :
    ∃ nodes, t.follow root (names ts) = .ok nodes ∧ (arguments ts ≠ [] →
      (t.readAssignments (lastFrom root nodes) (arguments ts)).rest = []) := by
  cases hfollow : t.follow root (names ts) with
  | error e =>
    obtain ⟨rest, herror⟩ := readInvocation_unknown hts hopen hfollow
    simp [hi] at herror
  | ok nodes =>
    refine ⟨nodes, rfl, fun hargs => Classical.byContradiction fun hrest => ?_⟩
    have herror := readInvocation_leftOver hts hopen hfollow hargs hrest
    simp [hi] at herror

theorem outcome_of_readInvocation (hwf : t.WellFormed)
    (hts : tokens.filterMap Text.trimmed? = ts) (hopen : ∀ s ∈ ts, '{' ∉ s.toList)
    {i : Invocation} (hi : t.readInvocation tokens = .ok i)
    (hfollow : t.follow root (names ts) = .ok nodes) :
    i.commands = nodes.map (fun c => ⟨t.name c, c⟩) ∧
      i.fragments = (t.fragment? (lastFrom root nodes) (arguments ts)).toList.map
        (Invocation.qualify (t.keyPrefix (lastFrom root nodes))) := by
  obtain ⟨nodes', hfollow', hargs⟩ := follow_of_readInvocation hts hopen hi
  obtain rfl := Except.ok.inj (hfollow.symm.trans hfollow')
  obtain ⟨i', hi', houtcome⟩ := readInvocation_outcome hwf hts hopen hfollow hargs
  obtain rfl := Except.ok.inj (hi.symm.trans hi')
  exact houtcome

end Outcomes

/-- Sequences without blocks are read by the grammar. -/
theorem readsByGrammar (h : t.Reachable) {tokens ts : List String}
    (hts : tokens.filterMap Text.trimmed? = ts) (hopen : ∀ s ∈ ts, '{' ∉ s.toList) :
    t.ReadsByGrammar tokens ts where
  succeeds := by
    constructor
    · rintro ⟨i, hi⟩
      exact follow_of_readInvocation hts hopen hi
    · rintro ⟨nodes, hfollow, hargs⟩
      obtain ⟨i, hi, -⟩ := readInvocation_outcome h.wellFormed hts hopen hfollow hargs
      exact ⟨i, hi⟩
  outcome := fun _ _ hi hfollow => outcome_of_readInvocation h.wellFormed hts hopen hi hfollow
  dotted := by
    rintro i p hi rfl hdots
    obtain ⟨nodes, hfollow, -⟩ := follow_of_readInvocation hts hopen hi
    rw [Invocation.target_eq, (outcome_of_readInvocation h.wellFormed hts hopen hi hfollow).1,
      findPath, ← runs_of_dots hdots]
    refine findFrom_eq_some_iff.2 ⟨nodes, names_singleton p ▸ hfollow, ?_⟩
    simp [Function.comp_def]
  unknown := fun _ _ hfollow => readInvocation_unknown hts hopen hfollow
  leftOver := fun _ hfollow hargs hrest => readInvocation_leftOver hts hopen hfollow hargs hrest

theorem readsByGrammar_deploy :
    names ["d./", "p", "r", "us"] = ["d", "p"] ∧ arguments ["d./", "p", "r", "us"] = ["r", "us"] ∧
      sampleTree.ReadsByGrammar [" d./", "", "p", "r", "us "] ["d./", "p", "r", "us"] :=
  ⟨by decide, by decide, readsByGrammar sampleTree_reachable (by decide) (by decide)⟩

end CommandTree

end FlowScript
