import FlowScript.Proofs.Text.Trimming
import FlowScript.Script.Block
import Mathlib.Data.List.Chain
import Mathlib.Data.List.Forall2

/-!
# Writing a block as tokens

A block of assignments is a row of atoms: its braces, its keys and values and the equal signs
between them. Neighbours may be written as one token or as several, with blanks around them, as long
as a value and the key after it are kept apart. Reading a block does not see the difference
(`read_of_tokenises`): tokens are trimmed and cut at braces and equal signs, and what comes out is
the row of atoms again.
-/

namespace FlowScript.Block

/-! ## Atoms -/

/-- The characters that give a block its shape. -/
inductive Mark where
  | opening
  | equals
  | closing
deriving DecidableEq

/-- How a mark is written. -/
def Mark.char : Mark → Char
  | opening => '{'
  | equals => '='
  | closing => '}'

theorem Mark.not_blank (m : Mark) : Text.isBlank m.char = false := by
  cases m <;> decide

/-- The parts of a block. -/
inductive Atom where
  | mark (m : Mark)
  | key (s : String)
  | value (s : String)
deriving DecidableEq

/-- A text that can be a key or a value: neither empty nor with blanks around it, and without
marks. -/
structure Plain (s : String) : Prop where
  trimmed : Text.trimmed? s = some s
  unmarked : ∀ m : Mark, m.char ∉ s.toList

namespace Atom

/-- How an atom is written. -/
def text : Atom → String
  | mark m => String.singleton m.char
  | key s => s
  | value s => s

/-- Whether the text of an atom can be told from marks. -/
def Proper : Atom → Prop
  | mark _ => True
  | key s => Plain s
  | value s => Plain s

theorem Proper.not_mem {a : Atom} (ha : a.Proper) {m : Mark} (hne : a ≠ .mark m) :
    m.char ∉ a.text.toList := by
  cases a with
  | mark m' =>
    have hchar : m.char ≠ m'.char := by
      cases m <;> cases m' <;> simp_all [Mark.char]
    simpa [text] using hchar
  | key s => exact ha.unmarked m
  | value s => exact ha.unmarked m

/-- Whether an atom can stand between braces. -/
def IsInner : Atom → Prop
  | mark m => m = .equals
  | key s => Plain s
  | value s => Plain s

theorem IsInner.proper {a : Atom} (h : a.IsInner) : a.Proper := by
  cases a with
  | mark m => trivial
  | key s => exact h
  | value s => exact h

theorem not_mem_of_isInner {row : List Atom} (h : ∀ a ∈ row, a.IsInner) {m : Mark}
    (hm : m ≠ .equals) : .mark m ∉ row :=
  fun hmem => hm (h _ hmem)

/-- Whether two neighbours may be written as one token. -/
def Glues : Atom → Atom → Prop
  | value _, key _ => False
  | _, _ => True

/-- The neighbours in a block that may be written as one token. -/
inductive Joins : Atom → Atom → Prop
  | openingKey {s : String} : Joins (mark .opening) (key s)
  | openingClosing : Joins (mark .opening) (mark .closing)
  | keyEquals {s : String} : Joins (key s) (mark .equals)
  | equalsValue {s : String} : Joins (mark .equals) (value s)
  | valueClosing {s : String} : Joins (value s) (mark .closing)

theorem isChain_joins {row : List Atom} (h : row.IsChain fun a b => Joins a b ∨ ¬ Glues a b)
    (hglues : row.IsChain Glues) : row.IsChain Joins := by
  induction h with
  | nil => exact .nil
  | singleton a => exact .singleton a
  | cons_cons hab _ ih =>
    obtain ⟨hg, hrest⟩ := List.isChain_cons_cons.1 hglues
    exact .cons_cons (hab.resolve_right fun hnot => hnot hg) (ih hrest)

end Atom

open Atom

/-- The atoms of assignments. -/
def assignmentAtoms (pairs : List (String × String)) : List Atom :=
  pairs.flatMap fun (k, v) => [.key k, .mark .equals, .value v]

/-- The atoms of a block. -/
def atoms (pairs : List (String × String)) : List Atom :=
  .mark .opening :: (assignmentAtoms pairs ++ [.mark .closing])

theorem isInner_assignmentAtoms {pairs : List (String × String)}
    (h : ∀ pair ∈ pairs, Plain pair.1 ∧ Plain pair.2) :
    ∀ a ∈ assignmentAtoms pairs, a.IsInner := by
  intro a ha
  obtain ⟨⟨k, v⟩, hpair, hmem⟩ := List.mem_flatMap.1 ha
  obtain ⟨hk, hv⟩ := h _ hpair
  simp only [List.mem_cons, List.not_mem_nil, or_false] at hmem
  rcases hmem with rfl | rfl | rfl
  · exact hk
  · rfl
  · exact hv

theorem isChain_atoms (pairs : List (String × String)) :
    (atoms pairs).IsChain fun a b => Joins a b ∨ ¬ Glues a b := by
  -- assignments may follow the opening brace or the value of another assignment
  have hafter (pairs : List (String × String)) (a : Atom)
      (ha : a = .mark .opening ∨ ∃ v, a = .value v) :
      (a :: (assignmentAtoms pairs ++ [.mark .closing])).IsChain
        fun a b => Joins a b ∨ ¬ Glues a b := by
    induction pairs generalizing a with
    | nil =>
      refine .cons_cons (.inl ?_) (.singleton _)
      rcases ha with rfl | ⟨v, rfl⟩
      · exact .openingClosing
      · exact .valueClosing
    | cons pair rest ih =>
      obtain ⟨k, v⟩ := pair
      refine .cons_cons ?_ (.cons_cons (.inl .keyEquals) (.cons_cons (.inl .equalsValue)
        (ih (.value v) (.inr ⟨v, rfl⟩))))
      rcases ha with rfl | ⟨v', rfl⟩
      · exact .inl .openingKey
      · exact .inr (by simp [Glues])
  exact hafter pairs _ (.inl rfl)

/-! ## Tokens that spell atoms -/

/-- Characters that write atoms one after the other, with any blanks around them. -/
inductive Spells : List Atom → List Char → Prop
  | nil {blanks : List Char} (h : Text.Blanks blanks) : Spells [] blanks
  | cons {blanks cs : List Char} {a : Atom} {row : List Atom} (h : Text.Blanks blanks)
      (hrow : Spells row cs) : Spells (a :: row) (blanks ++ (a.text.toList ++ cs))

/-- Tokens that write a block. -/
def Tokenises (pairs : List (String × String)) (tokens : List String) : Prop :=
  ∃ groups : List (List Atom), groups.flatten = atoms pairs ∧
    (∀ group ∈ groups, group ≠ [] ∧ group.IsChain Glues) ∧
    List.Forall₂ (fun group s => Spells group s.toList) groups tokens

namespace Spells

variable {row front back : List Atom} {cs : List Char}

theorem of_toList {s : String} (hs : s.toList = cs) (h : Spells row cs) :
    Spells row s.toList :=
  hs ▸ h

theorem append_blanks {blanks : List Char} (hb : Text.Blanks blanks) (h : Spells row cs) :
    Spells row (cs ++ blanks) := by
  induction h with
  | nil hfront =>
    refine .nil fun c hc => ?_
    exact (List.mem_append.1 hc).elim (hfront c) (hb c)
  | cons hfront _ ih =>
    rw [List.append_assoc, List.append_assoc]
    exact .cons hfront ih

theorem split (h : Spells (front ++ back) cs) :
    ∃ cs₁ cs₂, cs = cs₁ ++ cs₂ ∧ Spells front cs₁ ∧ Spells back cs₂ := by
  induction front generalizing cs with
  | nil => exact ⟨[], cs, rfl, .nil (by simp [Text.Blanks]), h⟩
  | cons a front ih =>
    cases h with
    | cons hb hrow =>
      obtain ⟨cs₁, cs₂, rfl, h₁, h₂⟩ := ih hrow
      exact ⟨_, cs₂, by simp, .cons hb h₁, h₂⟩

theorem not_mem (h : Spells row cs) (hp : ∀ a ∈ row, a.Proper) {m : Mark}
    (hm : .mark m ∉ row) : m.char ∉ cs := by
  have hblank {blanks : List Char} (hb : Text.Blanks blanks) : m.char ∉ blanks := by
    intro hmem
    have htrue := hb _ hmem
    simp [m.not_blank] at htrue
  induction h with
  | nil hb => exact hblank hb
  | @cons _ _ a row hb _ ih =>
    have ha : m.char ∉ a.text.toList := (hp a (by simp)).not_mem fun heq => hm (by simp [heq])
    have hrow := ih (fun a ha => hp a (List.mem_cons_of_mem _ ha))
      fun hmem => hm (List.mem_cons_of_mem _ hmem)
    simp [hblank hb, ha, hrow]

/-- No mark is found where there is none. -/
theorem cut_eq_none {s : String} (h : Spells row s.toList) (hp : ∀ a ∈ row, a.Proper) {m : Mark}
    (hm : .mark m ∉ row) : Text.cut m.char s = none :=
  Text.cut_eq_none_iff.2 (h.not_mem hp hm)

/-- A token is cut at a mark into what spells the atoms before it and what spells those after. -/
theorem cut_eq_some {s : String} {m : Mark} (h : Spells (front ++ .mark m :: back) s.toList)
    (hp : ∀ a ∈ front, a.Proper) (hm : .mark m ∉ front) :
    ∃ before after, Text.cut m.char s = some (before, after) ∧
      Spells front before.toList ∧ Spells back after.toList := by
  obtain ⟨cs₁, cs₂, hsplit, hfront, hrest⟩ := h.split
  cases hrest with
  | @cons blanks cs _ _ hb hback =>
    have hfront' := hfront.append_blanks hb
    refine ⟨String.ofList (cs₁ ++ blanks), String.ofList cs, ?_, by simpa using hfront',
      by simpa using hback⟩
    rw [Text.cut_eq_some_iff, hsplit, String.toList_ofList, String.toList_ofList]
    exact ⟨by simp [text], hfront'.not_mem hp hm⟩

/-- Nothing is left of blanks. -/
theorem trimmed?_nil {s : String} (h : Spells [] s.toList) : Text.trimmed? s = none := by
  cases h with
  | nil hb => exact Text.trimmed?_of_blanks hb

/-- Of a token for one text the text is left. -/
theorem trimmed?_singleton {a : Atom} {s : String} (h : Spells [a] s.toList)
    (ha : Text.trimmed? a.text = some a.text) : Text.trimmed? s = some a.text := by
  generalize hcs : s.toList = cs at h
  cases h with
  | cons hb hrest =>
    cases hrest with
    | nil hb' =>
      rw [← ha]
      apply Text.trimmed?_congr
      rw [hcs, Text.trimChars_append_left hb, Text.trimChars_append_right hb']

end Spells

/-! ## Pieces -/

/-- The piece that an atom between braces is read as. -/
def Atom.piece : Atom → Piece
  | mark _ => .equals
  | key s => .text s
  | value s => .text s

/-- A side of an equal sign: nothing, or one text. -/
def IsSide (row : List Atom) : Prop :=
  row = [] ∨ ∃ a s, row = [a] ∧ a.text = s ∧ a.piece = .text s ∧ Plain s

theorem ofText_of_spells {row : List Atom} {s : String} (h : Spells row s.toList)
    (hside : IsSide row) : Piece.ofText s = row.map Atom.piece := by
  rcases hside with rfl | ⟨a, s', rfl, rfl, hpiece, hplain⟩
  · rw [Piece.ofText, h.trimmed?_nil]
    rfl
  · rw [Piece.ofText, h.trimmed?_singleton hplain.trimmed]
    simp [hpiece]

theorem IsSide.not_equals {row : List Atom} (h : IsSide row) : .mark .equals ∉ row := by
  rcases h with rfl | ⟨a, s, rfl, -, hpiece, -⟩
  · simp
  · intro hmem
    obtain rfl := List.mem_singleton.1 hmem
    simp [Atom.piece] at hpiece

/-- Between braces nothing is glued to a value. -/
theorem eq_nil_of_value {s : String} {row : List Atom} (h : (.value s :: row).IsChain Joins)
    (hin : ∀ a ∈ row, a.IsInner) : row = [] := by
  cases h with
  | singleton => rfl
  | cons_cons hjoins _ =>
    cases hjoins
    exact absurd (hin (.mark .closing) List.mem_cons_self) (by simp [IsInner])

/-- Between braces one of its sides is glued to an equal sign. -/
theorem isSide_of_equals {row : List Atom} (h : (.mark .equals :: row).IsChain Joins)
    (hin : ∀ a ∈ row, a.IsInner) : IsSide row := by
  cases h with
  | singleton => exact .inl rfl
  | cons_cons hjoins hrow =>
    cases hjoins with
    | @equalsValue s =>
      obtain rfl := eq_nil_of_value hrow fun a ha => hin a (List.mem_cons_of_mem _ ha)
      exact .inr ⟨_, s, rfl, rfl, rfl, hin (.value s) List.mem_cons_self⟩

/-- Between braces a token has at most one equal sign. -/
theorem inner_cases {row : List Atom} (h : row.IsChain Joins) (hin : ∀ a ∈ row, a.IsInner) :
    IsSide row ∨
      ∃ front back, row = front ++ .mark .equals :: back ∧ IsSide front ∧ IsSide back := by
  cases row with
  | nil => exact .inl (.inl rfl)
  | cons a rest =>
    have ha := hin a List.mem_cons_self
    have hrest : ∀ a ∈ rest, a.IsInner := fun b hb => hin b (List.mem_cons_of_mem _ hb)
    cases a with
    | mark m =>
      obtain rfl : m = .equals := ha
      exact .inr ⟨[], rest, rfl, .inl rfl, isSide_of_equals h hrest⟩
    | value s =>
      obtain rfl := eq_nil_of_value h hrest
      exact .inl (.inr ⟨_, s, rfl, rfl, rfl, ha⟩)
    | key s =>
      have hkey : IsSide [.key s] := .inr ⟨_, s, rfl, rfl, rfl, ha⟩
      cases h with
      | singleton => exact .inl hkey
      | cons_cons hjoins hrow =>
        cases hjoins
        refine .inr ⟨[.key s], _, rfl, hkey, isSide_of_equals hrow ?_⟩
        exact fun b hb => hrest b (List.mem_cons_of_mem _ hb)

/-- The pieces of a token between braces are those of its atoms. -/
theorem ofToken_of_spells {row : List Atom} {s : String} (h : Spells row s.toList)
    (hchain : row.IsChain Joins) (hin : ∀ a ∈ row, a.IsInner) :
    Piece.ofToken s = row.map Atom.piece := by
  have hp : ∀ a ∈ row, a.Proper := fun a ha => (hin a ha).proper
  rcases inner_cases hchain hin with hside | ⟨front, back, rfl, hfront, hback⟩
  · have hcut := h.cut_eq_none hp hside.not_equals
    simp only [Mark.char] at hcut
    rw [Piece.ofToken, hcut]
    exact ofText_of_spells h hside
  · obtain ⟨key, value, hcut, hkey, hvalue⟩ := h.cut_eq_some
      (fun a ha => hp a (List.mem_append_left _ ha)) hfront.not_equals
    simp only [Mark.char] at hcut
    rw [Piece.ofToken, hcut]
    simp [ofText_of_spells hkey hfront, ofText_of_spells hvalue hback, Atom.piece]

/-! ## Bodies -/

/-- A token may be trimmed before its pieces are taken. -/
theorem ofTokens_trimmed (s : String) :
    Piece.ofTokens (Text.trimmed? s).toList = Piece.ofToken s := by
  cases htrim : Text.trimmed? s with
  | none =>
    have hcut := Text.cut_eq_none_of_trimmed? Mark.equals.not_blank htrim
    simp only [Mark.char] at hcut
    simp [Piece.ofTokens, Piece.ofToken, hcut, Piece.ofText, htrim]
  | some w =>
    obtain rfl := Text.trimmed?_eq_some htrim
    have hwhole : Piece.ofTokens (some (Text.trim s)).toList = Piece.ofToken (Text.trim s) := by
      simp [Piece.ofTokens]
    rw [hwhole, Piece.ofToken, Piece.ofToken]
    cases hcut : Text.cut '=' s with
    | none =>
      rw [Text.cut_trim_eq_none hcut]
      simp only [Piece.ofText, Text.trimmed?_trim]
    | some parts =>
      obtain ⟨key, value, hcut', hkey, hvalue⟩ := Text.cut_trim Mark.equals.not_blank hcut
      simp only [Mark.char] at hcut'
      rw [hcut']
      simp only [Piece.ofText, hkey, hvalue]

/-- A token may be trimmed before the end of a body is looked for. -/
theorem takeBody_trimmed (s : String) (rest : List String) :
    takeBody ((Text.trimmed? s).toList ++ rest) = takeBody (s :: rest) := by
  cases htrim : Text.trimmed? s with
  | none =>
    have hcut := Text.cut_eq_none_of_trimmed? Mark.closing.not_blank htrim
    simp only [Mark.char] at hcut
    simp [takeBody, hcut, htrim]
  | some w =>
    obtain rfl := Text.trimmed?_eq_some htrim
    simp only [Option.toList_some, List.singleton_append, takeBody]
    cases hcut : Text.cut '}' s with
    | none =>
      rw [Text.cut_trim_eq_none hcut]
      simp only [Text.trimmed?_trim]
    | some parts =>
      obtain ⟨inside, after, hcut', hinside, hafter⟩ := Text.cut_trim Mark.closing.not_blank hcut
      simp only [Mark.char] at hcut'
      rw [hcut']
      simp only [hinside, hafter]

/-- The body of a block is found whatever tokens it is written as, and its pieces are those of the
atoms in it. Of the first token the opening brace has been taken, so that nothing may be left. -/
theorem takeBody_of_spells {groups : List (List Atom)} {tokens : List String}
    (h : List.Forall₂ (fun group s => Spells group s.toList) groups tokens) {row : List Atom}
    (hflat : groups.flatten = row ++ [.mark .closing]) (hin : ∀ a ∈ row, a.IsInner)
    (hchain : ∀ group ∈ groups, group.IsChain Joins) (hne : ∀ group ∈ groups.tail, group ≠ [])
    (tail : List String) :
    ∃ body, takeBody (tokens ++ tail) = some (body, tail) ∧
      Piece.ofTokens body = row.map Atom.piece ∧ (row = [] → body = []) := by
  induction h generalizing row with
  | nil => simp at hflat
  | @cons group s groups tokens hs hrest ih =>
    have hgroup := hchain group List.mem_cons_self
    have hcases : (∃ left, row = group ++ left ∧ groups.flatten = left ++ [.mark .closing]) ∨
        (group = row ++ [.mark .closing] ∧ groups.flatten = []) := by
      rw [List.flatten_cons] at hflat
      rcases List.append_eq_append_iff.1 hflat with ⟨left, hrow, hleft⟩ | ⟨extra, hextra, hleft⟩
      · exact .inl ⟨left, hrow, hleft⟩
      · cases extra with
        | nil => exact .inl ⟨[], by simpa using hextra.symm, by simpa using hleft.symm⟩
        | cons a extra =>
          obtain ⟨rfl, hnil⟩ := List.cons.inj hleft
          obtain ⟨rfl, hflatten⟩ := List.append_eq_nil_iff.1 hnil.symm
          exact .inr ⟨hextra, hflatten⟩
    rcases hcases with ⟨left, rfl, hleft⟩ | ⟨rfl, hnil⟩
    · -- the brace is in a later token
      have hfront : ∀ a ∈ group, a.IsInner := fun a ha => hin a (List.mem_append_left _ ha)
      have hcut := hs.cut_eq_none (fun a ha => (hfront a ha).proper)
        (not_mem_of_isInner hfront (m := .closing) (by simp))
      simp only [Mark.char] at hcut
      obtain ⟨body, hbody, hpieces, hempty⟩ := ih hleft
        (fun a ha => hin a (List.mem_append_right _ ha))
        (fun g hg => hchain g (List.mem_cons_of_mem _ hg))
        (fun g hg => hne g (List.mem_of_mem_tail hg))
      refine ⟨(Text.trimmed? s).toList ++ body, ?_, ?_, ?_⟩
      · simp [takeBody, hcut, hbody]
      · rw [Piece.ofTokens, List.flatMap_append, ← Piece.ofTokens, ← Piece.ofTokens,
          ofTokens_trimmed, ofToken_of_spells hs hgroup hfront, hpieces, List.map_append]
      · intro hrow
        obtain ⟨rfl, rfl⟩ := List.append_eq_nil_iff.1 hrow
        simp [hs.trimmed?_nil, hempty]
    · -- the brace is in this token, which is the last one
      obtain rfl : groups = [] := by
        cases groups with
        | nil => rfl
        | cons g groups =>
          exact absurd (List.flatten_eq_nil_iff.1 hnil g List.mem_cons_self)
            (hne g List.mem_cons_self)
      cases hrest
      obtain ⟨inside, after, hcut, hinside, hafter⟩ := hs.cut_eq_some
        (fun a ha => (hin a ha).proper) (not_mem_of_isInner hin (m := .closing) (by simp))
      simp only [Mark.char] at hcut
      refine ⟨(Text.trimmed? inside).toList, ?_, ?_, ?_⟩
      · simp [takeBody, hcut, hafter.trimmed?_nil]
      · rw [ofTokens_trimmed]
        exact ofToken_of_spells hinside (List.isChain_append.1 hgroup).1 hin
      · rintro rfl
        simp [hinside.trimmed?_nil]

/-! ## Blocks -/

variable {α : Type} (t index : CommandTree α) (id : NodeId)

/-- Reads assignments from their pieces. -/
def readPieces (pieces : List Piece) : Reading :=
  match t.assigned? id with
  | some x => .ofArguments x pieces
  | none => .ofKeys index (pieces.map Piece.token) pieces

/-- Where there is an equal sign, and where there is nothing, only the pieces of a body count. -/
theorem readAssignments_eq_readPieces {body : List String}
    (h : .equals ∈ Piece.ofTokens body ∨ body = []) :
    t.readAssignments id body index = readPieces t index id (Piece.ofTokens body) := by
  rw [CommandTree.readAssignments, readPieces]
  cases t.assigned? id with
  | some x => rfl
  | none =>
    rcases h with hequals | rfl
    · simp [Reading.ofKeys, hequals]
    · rfl

/-- What a block comes to when its assignments are read. -/
def outcome (reading : Reading) : Except ParseError BlockOutcome :=
  if reading.rest.isEmpty then .ok (.found reading.env)
  else .error ⟨.notAssignments, t.displayPath id, reading.rest⟩

/-- An opening brace at the front of a token is found. -/
theorem findOpening_of_spells {row : List Atom} {s : String}
    (h : Spells (.mark .opening :: row) s.toList) (rest : List String) :
    ∃ after, Spells row after.toList ∧
      findOpening (s :: rest) = .opened ((Text.trimmed? after).toList ++ rest) := by
  have hfront : Spells ([] ++ .mark .opening :: row) s.toList := h
  obtain ⟨before, after, hcut, hbefore, hafter⟩ := hfront.cut_eq_some (by simp) (by simp)
  simp only [Mark.char] at hcut
  refine ⟨after, hafter, ?_⟩
  simp [findOpening, hcut, hbefore.trimmed?_nil]

/-- A block is read by its atoms, whatever tokens it is written as, and all of it is taken. -/
theorem read_of_tokenises {pairs : List (String × String)}
    (hpairs : ∀ pair ∈ pairs, Plain pair.1 ∧ Plain pair.2) {tokens : List String}
    (h : Tokenises pairs tokens) (tail : List String) :
    read t id (tokens ++ tail) index =
      (outcome t id (readPieces t index id ((assignmentAtoms pairs).map Atom.piece)), tail) := by
  obtain ⟨groups, hflat, hgroups, hspells⟩ := h
  have hchain : ∀ group ∈ groups, group.IsChain Joins := by
    intro group hgroup
    obtain ⟨before, after, hsplit⟩ := List.infix_of_mem_flatten hgroup
    have hatoms := isChain_atoms pairs
    rw [← hflat, ← hsplit] at hatoms
    exact isChain_joins (List.isChain_append.1 (List.isChain_append.1 hatoms).1).2.1
      (hgroups group hgroup).2
  cases hspells with
  | nil => simp [atoms] at hflat
  | @cons group s groups tokens hs hrest =>
    cases group with
    | nil => exact absurd rfl (hgroups [] List.mem_cons_self).1
    | cons a row =>
      obtain ⟨rfl, hrow⟩ := List.cons.inj hflat
      obtain ⟨after, hafter, hopening⟩ := findOpening_of_spells hs (tokens ++ tail)
      obtain ⟨body, hbody, hpieces, hempty⟩ :=
        takeBody_of_spells (.cons hafter hrest) hrow (isInner_assignmentAtoms hpairs)
          (by
            intro g hg
            rcases List.mem_cons.1 hg with rfl | hg
            · exact (hchain _ List.mem_cons_self).tail
            · exact hchain g (List.mem_cons_of_mem _ hg))
          (fun g hg => (hgroups g (List.mem_cons_of_mem _ hg)).1) tail
      have hequals : .equals ∈ Piece.ofTokens body ∨ body = [] := by
        cases pairs with
        | nil => exact .inr (hempty rfl)
        | cons pair pairs => exact .inl (by simp [hpieces, assignmentAtoms, Atom.piece])
      rw [List.cons_append] at hbody
      rw [List.cons_append, read, hopening]
      simp only [takeBody_trimmed, hbody, readAssignments_eq_readPieces t index id hequals,
        hpieces, outcome]
      split <;> rfl

end FlowScript.Block
