import FlowScript.Proofs.Script.PathGrammar
import FlowScript.Proofs.Script.Tokenisation

/-!
# Braces glued to words

How a block is split into tokens does not matter, nor whether the word before it is glued to its
brace. A walk takes a word without looking at what comes after it (`takesFront`), and a token that
begins with a brace opens the same block as the brace and the rest of the token.
-/

namespace FlowScript

variable {α : Type} {t index : CommandTree α}

namespace Walk

open PathGrammar

/-! ## The token at the front -/

/-- A walk fails at the token at its front, or it takes the token and comes to one place, whatever
is behind it. -/
def TakesFront (t index : CommandTree α) (token : String) (items : List PathItem) (id : NodeId)
    (m : Bool) : Prop :=
  (∀ rest, ∃ e, run t ⟨token :: rest, items, id, m⟩ index = .error e) ∨
  ∃ items' id' m', ∀ rest,
    run t ⟨token :: rest, items, id, m⟩ index = run t ⟨rest, items', id', m'⟩ index

namespace TakesFront

variable {token token' : String} {items items' : List PathItem} {id id' : NodeId} {m m' : Bool}

/-- A step may put another token at the front. -/
theorem of_run_eq
    (hrun : ∀ rest, run t ⟨token :: rest, items, id, m⟩ index =
      run t ⟨token' :: rest, items', id', m'⟩ index)
    (h : TakesFront t index token' items' id' m') : TakesFront t index token items id m := by
  rcases h with hfails | ⟨items'', id'', m'', htakes⟩
  · exact .inl fun rest => by simpa [hrun] using hfails rest
  · exact .inr ⟨items'', id'', m'', fun rest => (hrun rest).trans (htakes rest)⟩

end TakesFront

theorem takesFront_word {word : List Char} (hword : IsWord word) (hopen : '{' ∉ word)
    (items : List PathItem) (id : NodeId) :
    TakesFront t index (String.ofList word) items id true := by
  have hstep (rest : List String) :
      step t ⟨String.ofList word :: rest, items, id, true⟩ index =
        descend t ⟨String.ofList word :: rest, items, id, true⟩ (String.ofList word) rest :=
    step_word hword hopen rest items id
  simp only [descend] at hstep
  cases hc : t.findChild id (String.ofList word) with
  | none =>
    simp only [hc] at hstep
    exact .inl fun rest => ⟨_, run_failed (hstep rest)⟩
  | some c =>
    simp only [hc] at hstep
    exact .inr ⟨_, c, false, fun rest => run_next (hstep rest)⟩

/-- A token without an opening brace is taken, if it starts with a separator or names may follow. -/
theorem takesFront {cs : List Char} (hne : cs ≠ []) (hopen : '{' ∉ cs) {m : Bool}
    (hm : m = true ∨ startsSep (String.ofList cs) = true) (items : List PathItem) (id : NodeId) :
    TakesFront t index (String.ofList cs) items id m := by
  -- what is left of a token after its separators or its first word is a shorter token
  induction hlen : cs.length using Nat.strongRecOn generalizing cs m items id with
  | ind n ih =>
    cases hsep : startsSep (String.ofList cs) with
    | true =>
      have hlt := length_dropWhile_lt_iff.2 hsep
      obtain ⟨items', -, hrun⟩ : ∃ items', _ ∧ ∀ rest,
          run t ⟨String.ofList cs :: rest, items, id, m⟩ index = _ :=
        run_separators (by simpa using hopen) hsep items id m
      simp only [String.toList_ofList, String.length_ofList] at hlt hrun
      by_cases htail : cs.dropWhile isPathSep = []
      · simp only [htail, List.isEmpty_nil, if_true] at hrun
        exact .inr ⟨items', id, true, hrun⟩
      · simp only [List.isEmpty_eq_false_iff.2 htail, Bool.false_eq_true, if_false] at hrun
        refine .of_run_eq hrun ?_
        refine ih _ (hlen ▸ hlt) htail ?_ (.inl rfl) items' id rfl
        exact fun hmem => hopen ((List.dropWhile_sublist _).mem hmem)
    | false =>
      obtain rfl : m = true := hm.resolve_right (by simp [hsep])
      obtain ⟨word, tail, rfl, hword, htail⟩ := exists_word hne hsep
      have hwordopen : '{' ∉ word := fun hmem => hopen (List.mem_append_left _ hmem)
      by_cases htailne : tail = []
      · subst htailne
        rw [List.append_nil]
        exact takesFront_word hword hwordopen items id
      · -- the tail starts with a separator, so it is taken although no name may follow the word
        have hcut (rest : List String) :
            run t ⟨String.ofList (word ++ tail) :: rest, items, id, true⟩ index =
              run t ⟨String.ofList word :: String.ofList tail :: rest, items, id, true⟩ index :=
          run_word_append hword htailne htail hopen rest items id
        have hlt : tail.length < n := by
          have := List.length_pos_iff.2 hword.nonempty
          rw [← hlen, List.length_append]
          omega
        have hstarts : startsSep (String.ofList tail) = true := by
          cases tail with
          | nil => exact absurd rfl htailne
          | cons c cs => simpa [startsSep] using htail
        have htailopen : '{' ∉ tail := fun hmem => hopen (List.mem_append_right _ hmem)
        have htakesword : TakesFront t index (String.ofList word) items id true :=
          takesFront_word hword hwordopen items id
        rcases htakesword with hfails | ⟨items', id', m', htakes⟩
        · refine .inl fun rest => ?_
          rw [hcut rest]
          exact hfails (String.ofList tail :: rest)
        · exact .of_run_eq (fun rest => (hcut rest).trans (htakes _))
            (ih _ hlt htailne htailopen (.inr hstarts) items' id' rfl)

/-! ## The brace after a word -/

/-- A token may be trimmed before a brace is looked for in it. -/
theorem findOpening_trim (s : String) (rest : List String) :
    Block.findOpening (Text.trim s :: rest) = Block.findOpening (s :: rest) := by
  simp only [Block.findOpening]
  cases hcut : Text.cut '{' s with
  | none => rw [Text.cut_trim_eq_none hcut]
  | some parts =>
    obtain ⟨before, after, hcut', hbefore, hafter⟩ :=
      Text.cut_trim Block.Mark.opening.not_blank hcut
    simp only [Block.Mark.char] at hcut'
    rw [hcut']
    simp only [hbefore, hafter]

/-- A brace after a text without one is found. -/
theorem findOpening_append {front : String} (hopen : '{' ∉ front.toList) (s : String)
    (rest : List String) :
    Block.findOpening ((front ++ "\x7b" ++ s) :: rest) =
      match Text.trimmed? front with
      | none => .opened ((Text.trimmed? s).toList ++ rest)
      | some word => .cut (word :: "\x7b" :: ((Text.trimmed? s).toList ++ rest)) := by
  have hcut : Text.cut '{' (front ++ "\x7b" ++ s) = some (front, s) := by
    rw [Text.cut_eq_some_iff]
    exact ⟨by simp, hopen⟩
  cases hfront : Text.trimmed? front <;> simp [Block.findOpening, hcut, hfront]

theorem trimmed?_append_brace (front s : String) :
    Text.trimmed? (front ++ "\x7b" ++ s) = some (Text.trim (front ++ "\x7b" ++ s)) := by
  cases h : Text.trimmed? (front ++ "\x7b" ++ s) with
  | none =>
    have hbrace := Text.blanks_of_trimmed? h '{' (by simp)
    exact absurd hbrace (by decide)
  | some w => rw [Text.trimmed?_eq_some h]

/-- What a walk comes to at an open block depends on what is behind the brace only. -/
theorem run_of_opened {queue inside : List String}
    (h : Block.findOpening queue = .opened inside) (items : List PathItem) (id : NodeId)
    (m : Bool) :
    (run t ⟨queue, items, id, m⟩ index).toOption =
      match Block.takeBody inside with
      | none => none
      | some (body, after) =>
        let reading := t.readAssignments id body index
        if reading.rest.isEmpty then
          (run t ⟨after, items ++ [.env reading.env], id, true⟩ index).toOption
        else none := by
  cases queue with
  | nil => simp [Block.findOpening] at h
  | cons token rest =>
    cases hbody : Block.takeBody inside with
    | none =>
      have hstep : step t ⟨token :: rest, items, id, m⟩ index =
          .failed ⟨.unclosedBlock, t.displayPath id, token :: rest⟩ := by
        simp [step, Block.read, h, hbody]
      rw [run_failed hstep]
      rfl
    | some parts =>
      obtain ⟨body, after⟩ := parts
      by_cases hrest : (t.readAssignments id body index).rest = []
      · have hstep : step t ⟨token :: rest, items, id, m⟩ index =
            .next ⟨after, items ++ [.env (t.readAssignments id body index).env], id, true⟩ := by
          simp [step, Block.read, h, hbody, hrest]
        rw [run_next hstep]
        simp [hrest]
      · have hstep : step t ⟨token :: rest, items, id, m⟩ index =
            .failed ⟨.notAssignments, t.displayPath id,
              (t.readAssignments id body index).rest⟩ := by
          simp [step, Block.read, h, hbody, hrest]
        rw [run_failed hstep]
        simp [hrest, Except.toOption]

end Walk

namespace CommandTree

open Walk

/-- A word at the front of a sequence may be glued to the token with the brace after it. -/
theorem readItems_glued (t index : CommandTree α) {w pad : String}
    (hw : Text.trimmed? w = some w) (hopen : '{' ∉ w.toList)
    (hpad : Text.isBlankText pad = true) (s : String) (rest : List String) :
    (t.readItems ((w ++ pad ++ "\x7b" ++ s) :: rest) index).toOption =
      (t.readItems (w :: (pad ++ "\x7b" ++ s) :: rest) index).toOption := by
  have hblanks : Text.Blanks pad.toList := List.all_eq_true.1 hpad
  have hpadopen : '{' ∉ pad.toList := fun hmem => absurd (hblanks _ hmem) (by decide)
  let inside := (Text.trimmed? s).toList ++ rest.filterMap Text.trimmed?
  -- glued, the word and the brace come apart in the first step
  have hglued : t.readItems ((w ++ pad ++ "\x7b" ++ s) :: rest) index =
      run t ⟨w :: "\x7b" :: inside, [], root, true⟩ index := by
    have hfront : '{' ∉ (w ++ pad).toList := by simp [hopen, hpadopen]
    have hbefore : Text.trimmed? (w ++ pad) = some w := by
      rw [← hw]
      apply Text.trimmed?_congr
      rw [String.toList_append, Text.trimChars_append_right hblanks]
    have hcut := findOpening_append hfront s (rest.filterMap Text.trimmed?)
    rw [hbefore, ← findOpening_trim] at hcut
    rw [readItems, start, List.filterMap_cons, trimmed?_append_brace]
    apply run_next
    simp [step, Block.read, hcut, inside]
  have hapart : t.readItems (w :: (pad ++ "\x7b" ++ s) :: rest) index =
      run t ⟨w :: Text.trim (pad ++ "\x7b" ++ s) :: rest.filterMap Text.trimmed?, [], root, true⟩
        index := by
    rw [readItems, start, List.filterMap_cons, hw, List.filterMap_cons, trimmed?_append_brace]
  have hopened : Block.findOpening
      (Text.trim (pad ++ "\x7b" ++ s) :: rest.filterMap Text.trimmed?) = .opened inside := by
    rw [findOpening_trim, findOpening_append hpadopen, Text.trimmed?_of_blanks hblanks]
  have hbrace : Block.findOpening ("\x7b" :: inside) = .opened inside := by
    have hcut : Text.cut '{' "\x7b" = some ("", "") := by decide
    have hempty : Text.trimmed? "" = none := by decide
    simp [Block.findOpening, hcut, hempty]
  have hchars : w.toList ≠ [] := by
    intro hnil
    have hpos := (pos_of_trimmed hw).1
    simp [← String.length_toList, hnil] at hpos
  have htakes : TakesFront t index (String.ofList w.toList) [] root true :=
    takesFront hchars hopen (.inl rfl) [] root
  rw [String.ofList_toList] at htakes
  rw [hglued, hapart]
  rcases htakes with hfails | ⟨items, id, m, htakes⟩
  · obtain ⟨e, he⟩ := hfails ("\x7b" :: inside)
    obtain ⟨e', he'⟩ := hfails
      (Text.trim (pad ++ "\x7b" ++ s) :: rest.filterMap Text.trimmed?)
    rw [he, he']
    rfl
  · rw [htakes, htakes, run_of_opened hbrace, run_of_opened hopened]

/-- However a block is written as tokens, the same comes of it and what is behind it is left. And a
sequence that begins with a word and a block is read alike whether the word is glued to the brace or
not. -/
theorem tokenisation_invariant (t index : CommandTree α) :
    (∀ (id : NodeId) (pairs : List (String × String)),
      (∀ pair ∈ pairs, Block.Plain pair.1 ∧ Block.Plain pair.2) →
      ∀ first second : List String, Block.Tokenises pairs first → Block.Tokenises pairs second →
      ∀ tail : List String, ∃ result : Except ParseError BlockOutcome,
        ((∃ env, result = .ok (.found env)) ∨ ∃ err, result = .error err) ∧
        Block.read t id (first ++ tail) index = (result, tail) ∧
        Block.read t id (second ++ tail) index = (result, tail)) ∧
    ∀ w pad s : String, Text.trimmed? w = some w → '{' ∉ w.toList →
      Text.isBlankText pad = true → ∀ rest : List String,
      (t.readItems ((w ++ pad ++ "\x7b" ++ s) :: rest) index).toOption =
        (t.readItems (w :: (pad ++ "\x7b" ++ s) :: rest) index).toOption := by
  refine ⟨?_, fun w pad s hw hopen hpad rest => t.readItems_glued index hw hopen hpad s rest⟩
  intro id pairs hpairs first second hfirst hsecond tail
  refine ⟨_, ?_, Block.read_of_tokenises t index id hpairs hfirst tail,
    Block.read_of_tokenises t index id hpairs hsecond tail⟩
  unfold Block.outcome
  split
  · exact .inl ⟨_, rfl⟩
  · exact .inr ⟨_, rfl⟩

/-- One token and three for the same block, and a word before it. -/
theorem tokenisation_invariant_region :
    (∃ result, Block.read sampleTree ⟨2⟩ (["\x7br= us\x7d"] ++ ["x"]) = (result, ["x"]) ∧
      Block.read sampleTree ⟨2⟩ (["\x7b", "r=", "us\x7d"] ++ ["x"]) = (result, ["x"])) ∧
    (sampleTree.readItems ["d.p" ++ "" ++ "\x7b" ++ "r=us\x7d"]).toOption =
      (sampleTree.readItems ["d.p", "" ++ "\x7b" ++ "r=us\x7d"]).toOption := by
  have hnone : Text.Blanks [] := by simp [Text.Blanks]
  have hone : Text.Blanks [' '] := by
    intro c hc
    obtain rfl := List.mem_singleton.1 hc
    decide
  have hpairs : ∀ pair ∈ [("r", "us")], Block.Plain pair.1 ∧ Block.Plain pair.2 := by
    intro pair hpair
    obtain rfl := List.mem_singleton.1 hpair
    exact ⟨⟨by decide, fun m => by cases m <;> decide⟩, ⟨by decide, fun m => by cases m <;> decide⟩⟩
  have hfirst : Block.Tokenises [("r", "us")] ["\x7br= us\x7d"] := by
    refine ⟨[[.mark .opening, .key "r", .mark .equals, .value "us", .mark .closing]], rfl, ?_,
      .cons (.of_toList (by decide) (.cons hnone (.cons hnone (.cons hnone (.cons hone
        (.cons hnone (.nil hnone))))))) .nil⟩
    simp [Block.Atom.Glues]
  have hsecond : Block.Tokenises [("r", "us")] ["\x7b", "r=", "us\x7d"] := by
    refine ⟨[[.mark .opening], [.key "r", .mark .equals], [.value "us", .mark .closing]], rfl, ?_,
      .cons (.of_toList (by decide) (.cons hnone (.nil hnone)))
        (.cons (.of_toList (by decide) (.cons hnone (.cons hnone (.nil hnone))))
          (.cons (.of_toList (by decide) (.cons hnone (.cons hnone (.nil hnone)))) .nil))⟩
    simp [Block.Atom.Glues]
  obtain ⟨hblock, hword⟩ := tokenisation_invariant sampleTree sampleTree
  obtain ⟨result, -, hread⟩ := hblock ⟨2⟩ _ hpairs _ _ hfirst hsecond ["x"]
  exact ⟨⟨result, hread⟩, hword "d.p" "" "r=us\x7d" (by decide) (by decide) (by decide) []⟩

end CommandTree

end FlowScript
