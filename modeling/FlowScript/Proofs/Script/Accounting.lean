import FlowScript.Proofs.Command.Expansion
import FlowScript.Proofs.Script.Reading
import FlowScript.Proofs.Text.Trimming

/-!
# What becomes of every piece

Reading assignments takes pieces from the front as long as they form assignments and leaves the
rest: `Reading.Takes` says so for equations and for pairs, `Reading.TakesByPosition` for values
without keys. Whichever form a run of tokens is read in, all its pieces are accounted for
(`readAssignments_accounted`), and the pieces hold all of the tokens but blanks.
-/

namespace FlowScript

/-! ## Pieces of tokens -/

/-- The characters of texts that are not blank. -/
def visible (texts : List String) : List Char :=
  (texts.flatMap String.toList).filter fun c => !Text.isBlank c

theorem visible_append (xs ys : List String) : visible (xs ++ ys) = visible xs ++ visible ys := by
  simp [visible]

theorem filter_of_blanks {cs : List Char} (h : Text.Blanks cs) :
    cs.filter (fun c => !Text.isBlank c) = [] :=
  List.filter_eq_nil_iff.2 fun c hc => by simp [h c hc]

namespace Piece

/-- Trimming loses blanks only. -/
theorem visible_ofText (s : String) : visible ((ofText s).map token) = visible [s] := by
  rw [ofText, visible, visible, List.flatMap_singleton]
  cases htrim : Text.trimmed? s with
  | none => simp [filter_of_blanks (Text.blanks_of_trimmed? htrim)]
  | some w =>
    obtain rfl := Text.trimmed?_eq_some htrim
    obtain ⟨left, right, hleft, hright, hsplit⟩ := Text.exists_padding s.toList
    conv_rhs => rw [hsplit, List.filter_append, List.filter_append, filter_of_blanks hleft,
      filter_of_blanks hright, List.nil_append, List.append_nil]
    simp [token]

theorem visible_ofToken (s : String) : visible ((ofToken s).map token) = visible [s] := by
  rw [ofToken]
  cases hcut : Text.cut '=' s with
  | none => exact visible_ofText s
  | some parts =>
    obtain ⟨key, value⟩ := parts
    obtain ⟨hsplit, -⟩ := Text.cut_eq_some_iff.1 hcut
    have hequals : visible ["="] = ['='] := by decide
    have hwhole : visible [s] = visible [key] ++ '=' :: visible [value] := by
      have hblank : Text.isBlank '=' = false := by decide
      simp [visible, hsplit, hblank]
    simp only [List.map_append, visible_append, visible_ofText, hwhole, List.map_cons,
      List.map_nil, token, hequals]
    simp

/-- The pieces of tokens hold all of them but blanks, in order. -/
theorem visible_ofTokens (tokens : List String) :
    visible ((ofTokens tokens).map token) = visible tokens := by
  induction tokens with
  | nil => rfl
  | cons s rest ih =>
    have hcons : visible (s :: rest) = visible [s] ++ visible rest := visible_append [s] rest
    have hpieces : ofTokens (s :: rest) = ofToken s ++ ofTokens rest := rfl
    rw [hpieces, List.map_append, visible_append, visible_ofToken, ih, hcons]

theorem ne_empty_of_mem_ofText {s w : String} (h : text w ∈ ofText s) : w ≠ "" := by
  obtain ⟨u, hu, heq⟩ := List.mem_map.1 h
  obtain rfl := Piece.text.inj heq
  rw [Option.mem_toList, Text.trimmed?] at hu
  split at hu
  · cases hu
  · rename_i hne
    obtain rfl := Option.some.inj hu
    simpa using hne

theorem ne_empty_of_mem_ofTokens {tokens : List String} {w : String}
    (h : text w ∈ ofTokens tokens) : w ≠ "" := by
  obtain ⟨s, -, hs⟩ := List.mem_flatMap.1 h
  rw [ofToken] at hs
  split at hs
  · simp only [List.mem_append, List.mem_singleton, reduceCtorEq, or_false] at hs
    exact hs.elim ne_empty_of_mem_ofText ne_empty_of_mem_ofText
  · exact ne_empty_of_mem_ofText hs

/-- Pieces without an equal sign are texts. -/
theorem eq_map_text {pieces : List Piece} (h : equals ∉ pieces) :
    pieces = (pieces.map token).map text := by
  rw [List.map_map]
  refine (List.map_id pieces).symm.trans (List.map_congr_left fun p hp => ?_)
  cases p with
  | text s => rfl
  | equals => exact absurd hp h

end Piece

/-! ## Assignments as they are written -/

/-- An assignment in a script: its key, the name that the key stands for, and its value. -/
structure Assignment where
  key : String
  name : String
  value : String
deriving DecidableEq

attribute [ext] Assignment

namespace Assignment

/-- The pieces of an assignment with an equal sign. -/
def equation (a : Assignment) : List Piece :=
  [.text a.key, .equals, .text a.value]

/-- The pieces of an assignment without one. -/
def pair (a : Assignment) : List Piece :=
  [.text a.key, .text a.value]

/-- The piece of an assignment by position. -/
def lone (a : Assignment) : List Piece :=
  [.text a.value]

/-- The pieces of a shape tell the key and the value, and where they end. -/
structure IsShape (shape : Assignment → List Piece) : Prop where
  ne_nil : ∀ a, shape a ≠ []
  split : ∀ a b tail tail', shape a ++ tail = shape b ++ tail' →
    a.key = b.key ∧ a.value = b.value ∧ tail = tail'

theorem isShape_equation : IsShape equation where
  ne_nil _ := List.cons_ne_nil _ _
  split a b tail tail' h := by simpa [equation] using h

theorem isShape_pair : IsShape pair where
  ne_nil _ := List.cons_ne_nil _ _
  split a b tail tail' h := by simpa [pair] using h

/-- What an assignment puts into the env. -/
def entry (isArg : Bool) (a : Assignment) : String × Value :=
  (a.name, ⟨a.value, isArg⟩)

end Assignment

namespace Reading

open Assignment

/-- Pieces were read as assignments of a shape, as many from the front as there are. -/
structure Takes (key? : String → Option String) (shape : Assignment → List Piece) (isArg : Bool)
    (pieces : List Piece) (r : Reading) (taken : List Assignment) (rest : List Piece) : Prop where
  /-- The pieces are those of the assignments, and the rest. -/
  pieces_eq : pieces = taken.flatMap shape ++ rest
  /-- Each key stands for the name that is assigned. -/
  stands : ∀ a ∈ taken, key? a.key = some a.name
  /-- The rest does not start with another assignment. -/
  stops : ∀ a, key? a.key = some a.name → ¬ shape a <+: rest
  /-- The assignments were put in, in order. -/
  env_eq : r.env = .ofList (taken.map (entry isArg))
  /-- The tokens that are left are those of the rest. -/
  rest_eq : r.rest = rest.map Piece.token

/-- Pieces were all read as values, one for each of the first names. -/
structure TakesByPosition (names : List String) (pieces : List Piece) (r : Reading)
    (taken : List Assignment) : Prop where
  pieces_eq : pieces = taken.flatMap lone
  names_eq : taken.map (·.name) = names.take pieces.length
  env_eq : r.env = .ofList (taken.map (entry true))
  rest_eq : r.rest = []

theorem ofTriples_cases (key? : String → Option String) (isArg : Bool) (env : Assignments)
    (pieces : List Piece) :
    ∃ (taken : List Assignment) (rest : List Piece),
      ofTriples key? isArg env pieces = (env.insertAll (taken.map (entry isArg)), rest) ∧
      pieces = taken.flatMap equation ++ rest ∧ (∀ a ∈ taken, key? a.key = some a.name) ∧
      ∀ a : Assignment, key? a.key = some a.name → ¬ equation a <+: rest := by
  fun_induction ofTriples key? isArg env pieces with
  | case1 env key value rest name hname ih =>
    obtain ⟨taken, left, hread, hpieces, hstands, hstops⟩ := ih
    refine ⟨⟨key, name, value⟩ :: taken, left, hread, ?_, ?_, hstops⟩
    · rw [hpieces]
      rfl
    · exact List.forall_mem_cons.2 ⟨hname, hstands⟩
  | case2 env key value rest hnone =>
    refine ⟨[], _, rfl, rfl, by simp, ?_⟩
    rintro a ha ⟨tail, htail⟩
    obtain ⟨hkey, -⟩ := List.cons.inj htail
    rw [Piece.text.inj hkey, hnone] at ha
    cases ha
  | case3 env pieces hshape =>
    refine ⟨[], pieces, rfl, rfl, by simp, ?_⟩
    rintro a - ⟨tail, htail⟩
    exact hshape a.key a.value tail htail.symm

theorem ofPairs_cases (key? : String → Option String) (env : Assignments) (texts : List String) :
    ∃ (taken : List Assignment) (rest : List String),
      ofPairs key? env texts = (env.insertAll (taken.map (entry true)), rest) ∧
      texts.map Piece.text = taken.flatMap pair ++ rest.map Piece.text ∧
      (∀ a ∈ taken, key? a.key = some a.name) ∧
      ∀ a : Assignment, key? a.key = some a.name → ¬ pair a <+: rest.map Piece.text := by
  fun_induction ofPairs key? env texts with
  | case1 env key value rest name hname ih =>
    obtain ⟨taken, left, hread, htexts, hstands, hstops⟩ := ih
    refine ⟨⟨key, name, value⟩ :: taken, left, hread, ?_, ?_, hstops⟩
    · rw [List.map_cons, List.map_cons, htexts]
      rfl
    · exact List.forall_mem_cons.2 ⟨hname, hstands⟩
  | case2 env key value rest hnone =>
    refine ⟨[], _, rfl, rfl, by simp, ?_⟩
    rintro a ha ⟨tail, htail⟩
    obtain ⟨hkey, -⟩ := List.cons.inj htail
    rw [Piece.text.inj hkey, hnone] at ha
    cases ha
  | case3 env texts hshape =>
    refine ⟨[], texts, rfl, rfl, by simp, ?_⟩
    rintro a - ⟨tail, htail⟩
    obtain ⟨key, rest, rfl, -, hrest⟩ := List.map_eq_cons_iff.1 htail.symm
    obtain ⟨value, rest, rfl, -, -⟩ := List.map_eq_cons_iff.1 hrest
    exact hshape key value rest rfl

theorem takes_ofEquations (key? : String → Option String) (isArg : Bool) (pieces : List Piece) :
    ∃ taken rest, Takes key? equation isArg pieces (ofEquations key? isArg pieces) taken rest := by
  obtain ⟨taken, rest, hread, hpieces, hstands, hstops⟩ := ofTriples_cases key? isArg ∅ pieces
  exact ⟨taken, rest, hpieces, hstands, hstops, by rw [ofEquations, hread]; rfl,
    by rw [ofEquations, hread]⟩

section Whole

variable {key? : String → Option String} {shape : Assignment → List Piece} {isArg : Bool}
  {pieces rest : List Piece} {r : Reading} {taken all : List Assignment}

/-- Where all pieces are assignments of a shape, all of them are taken. -/
theorem Takes.eq_of_all (h : Takes key? shape isArg pieces r taken rest) (hshape : IsShape shape)
    (hall : ∀ a ∈ all, key? a.key = some a.name) (hpieces : pieces = all.flatMap shape) :
    taken = all ∧ rest = [] := by
  have hsame : all.flatMap shape = taken.flatMap shape ++ rest := hpieces.symm.trans h.pieces_eq
  obtain ⟨-, hstands, hstops, -, -⟩ := h
  clear hpieces
  -- the assignments that were taken are the first of all, and no other follows
  induction taken generalizing all with
  | nil =>
    cases all with
    | nil => exact ⟨rfl, hsame.symm⟩
    | cons a all => exact absurd ⟨_, hsame⟩ (hstops a (hall a List.mem_cons_self))
  | cons b taken ih =>
    cases all with
    | nil =>
      rw [List.flatMap_nil, List.flatMap_cons, List.append_assoc, eq_comm,
        List.append_eq_nil_iff] at hsame
      exact absurd hsame.1 (hshape.ne_nil b)
    | cons a all =>
      obtain ⟨ha, hall⟩ := List.forall_mem_cons.1 hall
      obtain ⟨hb, hstands⟩ := List.forall_mem_cons.1 hstands
      rw [List.flatMap_cons, List.flatMap_cons, List.append_assoc] at hsame
      obtain ⟨hkey, hvalue, hsame⟩ := hshape.split a b _ _ hsame
      obtain ⟨rfl, hrest⟩ := ih hall hsame hstands
      have hname : a.name = b.name := Option.some.inj (ha.symm.trans (hkey ▸ hb))
      exact ⟨by rw [Assignment.ext hkey hname hvalue], hrest⟩

/-- Then the reading consists of them. -/
theorem Takes.reading_eq (h : Takes key? shape isArg pieces r taken rest) (hshape : IsShape shape)
    (hall : ∀ a ∈ all, key? a.key = some a.name) (hpieces : pieces = all.flatMap shape) :
    r = ⟨.ofList (all.map (entry isArg)), []⟩ := by
  obtain ⟨rfl, rfl⟩ := h.eq_of_all hshape hall hpieces
  obtain ⟨env, left⟩ := r
  obtain rfl : env = _ := h.env_eq
  obtain rfl : left = _ := h.rest_eq
  rfl

end Whole

end Reading

/-! ## The form of a run -/

variable {α : Type}

/-- Pieces without an equal sign are pairs if the first one is a spelling of a parameter or if there
are too many of them for the parameters. -/
def Executable.ReadsPairs (x : Executable α) (pieces : List Piece) : Prop :=
  (∃ s ∈ Label.allSpellings x.labels, pieces.head? = some (.text s)) ∨
    x.params.length < pieces.length

namespace Reading

open Assignment

theorem isSome_resolve_iff {x : Executable α} {s : String} :
    (x.resolve s).isSome = true ↔ s ∈ Label.allSpellings x.labels := by
  rw [← Option.ne_none_iff_isSome, Executable.resolve, ne_eq, Label.resolve_eq_none_iff]
  exact Classical.not_not

theorem isPairs_iff {x : Executable α} {pieces : List Piece} (h : .equals ∉ pieces) :
    (((pieces.map Piece.token).head?.bind x.resolve).isSome ||
      decide ((pieces.map Piece.token).length > x.params.length)) = true ↔
        x.ReadsPairs pieces := by
  rw [Bool.or_eq_true, decide_eq_true_iff, List.length_map, Executable.ReadsPairs]
  refine or_congr_left ?_
  cases pieces with
  | nil => simp
  | cons p rest =>
    cases p with
    | equals => simp at h
    | text s => simp [Piece.token, isSome_resolve_iff]

theorem takes_ofArguments {x : Executable α} {pieces : List Piece} (h : .equals ∉ pieces)
    (hpairs : x.ReadsPairs pieces) :
    ∃ taken rest, Takes x.resolve pair true pieces (ofArguments x pieces) taken rest := by
  obtain ⟨taken, rest, hread, hpieces, hstands, hstops⟩ :=
    ofPairs_cases x.resolve ∅ (pieces.map Piece.token)
  have hform : ofArguments x pieces = ⟨Dict.insertAll ∅ (taken.map (entry true)), rest⟩ := by
    simp only [ofArguments, List.contains_iff_mem, h, if_false, isPairs_iff h, hpairs, if_true,
      hread]
  refine ⟨taken, rest.map .text, ?_, hstands, hstops, by rw [hform]; rfl, ?_⟩
  · rw [← hpieces]
    exact Piece.eq_map_text h
  · rw [hform, List.map_map]
    exact (List.map_id rest).symm

theorem takesByPosition_ofArguments {x : Executable α} {pieces : List Piece}
    (h : .equals ∉ pieces) (hpairs : ¬ x.ReadsPairs pieces) :
    ∃ taken, TakesByPosition (x.labels.map (·.name)) pieces (ofArguments x pieces) taken := by
  have hform : ofArguments x pieces =
      ⟨ofPositions (x.labels.map (·.name)) (pieces.map Piece.token), []⟩ := by
    simp only [ofArguments, List.contains_iff_mem, h, if_false, isPairs_iff h, hpairs]
  have hlength : pieces.length ≤ (x.labels.map (·.name)).length := by
    have hfew : ¬ x.params.length < pieces.length := fun hlt => hpairs (.inr hlt)
    simpa [Executable.labels] using hfew
  generalize x.labels.map (·.name) = names at *
  have hvalues : (names.zip (pieces.map Piece.token)).map (·.2) = pieces.map Piece.token :=
    List.map_snd_zip (by simpa using hlength)
  have hnames : (names.zip (pieces.map Piece.token)).map (·.1) = names.take pieces.length := by
    rw [List.zip_eq_zip_take_min, List.map_fst_zip (by simp), List.length_map,
      Nat.min_eq_right hlength]
  refine ⟨(names.zip (pieces.map Piece.token)).map fun e => ⟨e.1, e.1, e.2⟩,
    ?_, ?_, ?_, by rw [hform]⟩
  · rw [List.flatMap_map]
    conv_lhs => rw [Piece.eq_map_text h, ← hvalues, List.map_map, List.map_eq_flatMap]
    rfl
  · rw [List.map_map]
    exact hnames
  · rw [hform, List.map_map]
    rfl

end Reading

/-! ## All runs -/

namespace CommandTree

open Assignment

variable (t index : CommandTree α) (id : NodeId) (tokens : List String)

/-- All of a run is assignments. -/
inductive Assigns : Prop
  | nothing (h : tokens = [])
  | keys (hscope : t.assigned? id = none) {all : List Assignment} (hne : all ≠ [])
      (h : Piece.ofTokens tokens = all.flatMap equation)
  | equations {x : Executable α} (hx : t.assigned? id = some x) {all : List Assignment}
      (hall : ∀ a ∈ all, x.resolve a.key = some a.name)
      (h : Piece.ofTokens tokens = all.flatMap equation)
  | pairs {x : Executable α} (hx : t.assigned? id = some x) {all : List Assignment}
      (hall : ∀ a ∈ all, x.resolve a.key = some a.name)
      (h : Piece.ofTokens tokens = all.flatMap pair)
  | positions {x : Executable α} (hx : t.assigned? id = some x)
      (hequals : .equals ∉ Piece.ofTokens tokens) (h : ¬ x.ReadsPairs (Piece.ofTokens tokens))

/-- A reading of a run accounts for all of it. -/
structure Accounted (r : Reading) : Prop where
  /-- The pieces hold all of the tokens but blanks, in order. -/
  visible_pieces : visible ((Piece.ofTokens tokens).map Piece.token) = visible tokens
  /-- No piece is an empty text. -/
  ne_empty : ∀ s, .text s ∈ Piece.ofTokens tokens → s ≠ ""
  /-- Outside the scope of parameters nothing is read without an equal sign. -/
  unread : t.assigned? id = none → .equals ∉ Piece.ofTokens tokens → r = ⟨∅, tokens⟩
  /-- With an equal sign, equations are read, and keys are written out. -/
  keys : t.assigned? id = none → .equals ∈ Piece.ofTokens tokens →
    ∃ taken rest, Reading.Takes (fun key => some (index.expand key ".").1) equation false
      (Piece.ofTokens tokens) r taken rest
  /-- In the scope of parameters these are equations for parameters. -/
  equations : ∀ x, t.assigned? id = some x → .equals ∈ Piece.ofTokens tokens →
    ∃ taken rest, Reading.Takes x.resolve equation true (Piece.ofTokens tokens) r taken rest
  /-- There, without an equal sign, pairs are read. -/
  pairs : ∀ x, t.assigned? id = some x → .equals ∉ Piece.ofTokens tokens →
    x.ReadsPairs (Piece.ofTokens tokens) →
    ∃ taken rest, Reading.Takes x.resolve pair true (Piece.ofTokens tokens) r taken rest
  /-- Or all pieces are values for the first parameters. -/
  positions : ∀ x, t.assigned? id = some x → .equals ∉ Piece.ofTokens tokens →
    ¬ x.ReadsPairs (Piece.ofTokens tokens) →
    ∃ taken, Reading.TakesByPosition (x.labels.map (·.name)) (Piece.ofTokens tokens) r taken
  /-- Nothing is left exactly if all of the run is assignments. -/
  rest_nil_iff : r.rest = [] ↔ t.Assigns id tokens

variable {t index id tokens}

section Forms

variable {x : Executable α}

theorem readAssignments_unread (h : t.assigned? id = none)
    (hequals : .equals ∉ Piece.ofTokens tokens) :
    t.readAssignments id tokens index = ⟨∅, tokens⟩ := by
  simp [readAssignments, h, Reading.ofKeys, hequals]

theorem takes_keys (h : t.assigned? id = none) (hequals : .equals ∈ Piece.ofTokens tokens) :
    ∃ taken rest, Reading.Takes (fun key => some (index.expand key ".").1) equation false
      (Piece.ofTokens tokens) (t.readAssignments id tokens index) taken rest := by
  have hform : t.readAssignments id tokens index =
      .ofEquations (fun key => some (index.expand key ".").1) false (Piece.ofTokens tokens) := by
    simp [readAssignments, h, Reading.ofKeys, hequals]
  rw [hform]
  exact Reading.takes_ofEquations ..

theorem readAssignments_of_assigned? (hx : t.assigned? id = some x) :
    t.readAssignments id tokens index = .ofArguments x (Piece.ofTokens tokens) := by
  rw [readAssignments, hx]

theorem takes_equations (hx : t.assigned? id = some x)
    (hequals : .equals ∈ Piece.ofTokens tokens) :
    ∃ taken rest, Reading.Takes x.resolve equation true (Piece.ofTokens tokens)
      (t.readAssignments id tokens index) taken rest := by
  have hform : t.readAssignments id tokens index =
      .ofEquations x.resolve true (Piece.ofTokens tokens) := by
    simp [readAssignments_of_assigned? hx, Reading.ofArguments, hequals]
  rw [hform]
  exact Reading.takes_ofEquations ..

theorem takes_pairs (hx : t.assigned? id = some x) (hequals : .equals ∉ Piece.ofTokens tokens)
    (hpairs : x.ReadsPairs (Piece.ofTokens tokens)) :
    ∃ taken rest, Reading.Takes x.resolve pair true (Piece.ofTokens tokens)
      (t.readAssignments id tokens index) taken rest := by
  rw [readAssignments_of_assigned? hx]
  exact Reading.takes_ofArguments hequals hpairs

theorem takes_positions (hx : t.assigned? id = some x)
    (hequals : .equals ∉ Piece.ofTokens tokens) (hpairs : ¬ x.ReadsPairs (Piece.ofTokens tokens)) :
    ∃ taken, Reading.TakesByPosition (x.labels.map (·.name)) (Piece.ofTokens tokens)
      (t.readAssignments id tokens index) taken := by
  rw [readAssignments_of_assigned? hx]
  exact Reading.takesByPosition_ofArguments hequals hpairs

theorem rest_of_positions (hx : t.assigned? id = some x)
    (hequals : .equals ∉ Piece.ofTokens tokens) (hpairs : ¬ x.ReadsPairs (Piece.ofTokens tokens)) :
    (t.readAssignments id tokens index).rest = [] := by
  obtain ⟨taken, htaken⟩ := takes_positions hx hequals hpairs
  exact htaken.rest_eq

theorem rest_of_no_pieces (hx : t.assigned? id = some x) (h : Piece.ofTokens tokens = []) :
    (t.readAssignments id tokens index).rest = [] :=
  rest_of_positions hx (by simp [h]) (by simp [h, Executable.ReadsPairs])

end Forms

/-! ## Runs without a rest -/

theorem assigns_of_rest (h : (t.readAssignments id tokens index).rest = []) :
    t.Assigns id tokens := by
  cases hscope : t.assigned? id with
  | none =>
    by_cases hequals : .equals ∈ Piece.ofTokens tokens
    · obtain ⟨taken, rest, htaken⟩ := takes_keys hscope hequals
      rw [htaken.rest_eq, List.map_eq_nil_iff] at h
      have hall : Piece.ofTokens tokens = taken.flatMap equation := by
        rw [htaken.pieces_eq, h, List.append_nil]
      refine .keys hscope ?_ hall
      rintro rfl
      simp [hall] at hequals
    · rw [readAssignments_unread hscope hequals] at h
      exact .nothing h
  | some x =>
    by_cases hequals : .equals ∈ Piece.ofTokens tokens
    · obtain ⟨taken, rest, htaken⟩ := takes_equations hscope hequals
      rw [htaken.rest_eq, List.map_eq_nil_iff] at h
      exact .equations hscope htaken.stands (by rw [htaken.pieces_eq, h, List.append_nil])
    · by_cases hpairs : x.ReadsPairs (Piece.ofTokens tokens)
      · obtain ⟨taken, rest, htaken⟩ := takes_pairs hscope hequals hpairs
        rw [htaken.rest_eq, List.map_eq_nil_iff] at h
        exact .pairs hscope htaken.stands (by rw [htaken.pieces_eq, h, List.append_nil])
      · exact .positions hscope hequals hpairs

theorem Assigns.rest (h : t.Assigns id tokens) :
    (t.readAssignments id tokens index).rest = [] := by
  cases h with
  | nothing h =>
    subst h
    cases hscope : t.assigned? id with
    | none => rw [readAssignments_unread hscope List.not_mem_nil]
    | some x => exact rest_of_no_pieces hscope rfl
  | @keys hscope all hne h =>
    have hequals : .equals ∈ Piece.ofTokens tokens := by
      obtain ⟨a, rest, rfl⟩ := List.exists_cons_of_ne_nil hne
      simp [h, equation]
    obtain ⟨taken, rest, htaken⟩ := takes_keys hscope hequals
    -- every key stands for something here, so the names can be filled in
    let named := all.map fun a => { a with name := (index.expand a.key ".").1 }
    have hnamed : ∀ a ∈ named, some (index.expand a.key ".").1 = some a.name := by
      intro a ha
      obtain ⟨b, -, rfl⟩ := List.mem_map.1 ha
      rfl
    have hpieces : Piece.ofTokens tokens = named.flatMap equation := by
      rw [h, List.flatMap_map]
      rfl
    rw [htaken.reading_eq isShape_equation hnamed hpieces]
  | @equations x hx all hall h =>
    cases all with
    | nil => exact rest_of_no_pieces hx h
    | cons a all =>
      have hequals : .equals ∈ Piece.ofTokens tokens := by simp [h, equation]
      obtain ⟨taken, rest, htaken⟩ := takes_equations hx hequals
      rw [htaken.reading_eq isShape_equation hall h]
  | @pairs x hx all hall h =>
    cases all with
    | nil => exact rest_of_no_pieces hx h
    | cons a all =>
      have hequals : .equals ∉ Piece.ofTokens tokens := by simp [h, pair]
      have hfirst : a.key ∈ Label.allSpellings x.labels :=
        Label.mem_of_resolve (hall a List.mem_cons_self)
      obtain ⟨taken, rest, htaken⟩ := takes_pairs hx hequals
        (.inl ⟨a.key, hfirst, by rw [h]; rfl⟩)
      rw [htaken.reading_eq isShape_pair hall h]
  | positions hx hequals h => exact rest_of_positions hx hequals h

/-- Reading assignments accounts for every piece of every run, whatever the scope. -/
theorem readAssignments_accounted (t index : CommandTree α) (id : NodeId) (tokens : List String) :
    Accounted t index id tokens (t.readAssignments id tokens index) where
  visible_pieces := Piece.visible_ofTokens tokens
  ne_empty _ := Piece.ne_empty_of_mem_ofTokens
  unread := readAssignments_unread
  keys := takes_keys
  equations _ := takes_equations
  pairs _ := takes_pairs
  positions _ := takes_positions
  rest_nil_iff := ⟨assigns_of_rest, Assigns.rest⟩

-- the last key has no value and is left, with its equal sign as a token of its own
example : mailTree.readAssignments ⟨1⟩ ["t=ann", "s", "=", "hi", "s="] =
    ⟨.ofList [("to", ⟨"ann", true⟩), ("subject", ⟨"hi", true⟩)], ["s", "="]⟩ := by
  decide

end CommandTree

end FlowScript
