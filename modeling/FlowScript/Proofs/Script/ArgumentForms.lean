import FlowScript.Proofs.Command.Expansion
import FlowScript.Proofs.Env.Merging
import FlowScript.Proofs.Script.Accounting
import Mathlib.Data.List.Forall2

/-!
# Three ways to write arguments

Arguments can be written as values in the order of the parameters, as pairs of a spelling and a
value, or with equal signs, each of these as one token or as three. All of them are read as the
same assignments (`Reachable.formsAgree`), and where spellings are written the order does not
count. Only the first value must not be a spelling itself: it decides how values without equal signs
are read.
-/

namespace FlowScript

/-! ## Tokens that are one piece -/

theorem trimmed?_of_trim {s : String} (hne : s ≠ "") (h : Text.trim s = s) :
    Text.trimmed? s = some s := by
  simp [Text.trimmed?, h, hne]

namespace Piece

theorem ofToken_of_text {s : String} (h : Text.trimmed? s = some s) (hequals : '=' ∉ s.toList) :
    ofToken s = [text s] := by
  rw [ofToken, Text.cut_eq_none_iff.2 hequals, ofText, h]
  rfl

theorem ofToken_equals : ofToken "=" = [equals] := by
  decide

/-- A token is cut at its first equal sign. -/
theorem ofToken_equation {key value : String} (hkey : Text.trimmed? key = some key)
    (hequals : '=' ∉ key.toList) (hvalue : Text.trimmed? value = some value) :
    ofToken (key ++ "=" ++ value) = [text key, equals, text value] := by
  have hcut : Text.cut '=' (key ++ "=" ++ value) = some (key, value) :=
    Text.cut_eq_some_iff.2 ⟨by simp, hequals⟩
  rw [ofToken, hcut]
  simp [ofText, hkey, hvalue]

end Piece

theorem trimmed?_of_isName {s : String} (h : isName s = true) : Text.trimmed? s = some s := by
  have hne := ne_empty_of_isName h
  simp only [isName, Bool.and_eq_true, List.all_eq_true] at h
  exact Text.trimmed?_of_not_blank hne fun c hc => isBlank_of_isNameChar (h.2 c hc)

theorem equals_not_mem_of_isName {s : String} (h : isName s = true) : '=' ∉ s.toList := by
  intro hmem
  simp only [isName, Bool.and_eq_true, List.all_eq_true] at h
  have hequals := h.2 '=' hmem
  simp [isNameChar] at hequals

/-! ## Arguments and their forms -/

namespace Assignment

variable {α : Type}

/-- An argument for a parameter of an executable: the key is a spelling of the parameter, and the
value is a text that can stand on its own. -/
structure Suits (x : Executable α) (a : Assignment) : Prop where
  spelled : ∃ l ∈ x.labels, l.name = a.name ∧ a.key ∈ l.spellings
  ne_empty : a.value ≠ ""
  trimmed : Text.trim a.value = a.value
  no_equals : '=' ∉ a.value.toList

/-- The token of an argument by position. -/
def positionTokens (given : List Assignment) : List String :=
  given.map (·.value)

/-- The tokens of arguments as pairs. -/
def pairTokens (given : List Assignment) : List String :=
  given.flatMap fun a => [a.key, a.value]

/-- An argument with an equal sign is one token or three. -/
def WritesEquation (a : Assignment) (tokens : List String) : Prop :=
  tokens = [a.key ++ "=" ++ a.value] ∨ tokens = [a.key, "=", a.value]

/-- The tokens write arguments with equal signs, each in one of the two ways. -/
def WriteEquations (given : List Assignment) (tokens : List String) : Prop :=
  ∃ groups : List (List String), List.Forall₂ WritesEquation given groups ∧ tokens = groups.flatten

namespace Suits

variable {x : Executable α} {a : Assignment}

theorem trimmed_value (h : a.Suits x) : Text.trimmed? a.value = some a.value :=
  trimmed?_of_trim h.ne_empty h.trimmed

theorem ofToken_value (h : a.Suits x) : Piece.ofToken a.value = [.text a.value] :=
  Piece.ofToken_of_text h.trimmed_value h.no_equals

theorem resolve_key (h : a.Suits x) (hx : Label.Sound x.labels) :
    x.resolve a.key = some a.name :=
  hx.resolve_eq_some_iff.2 h.spelled

theorem isName_key (h : a.Suits x) (hx : Label.Sound x.labels) : isName a.key = true :=
  hx.names a.key (Label.mem_of_resolve (h.resolve_key hx))

theorem ofToken_key (h : a.Suits x) (hx : Label.Sound x.labels) :
    Piece.ofToken a.key = [.text a.key] :=
  Piece.ofToken_of_text (trimmed?_of_isName (h.isName_key hx))
    (equals_not_mem_of_isName (h.isName_key hx))

theorem ofTokens_equation (h : a.Suits x) (hx : Label.Sound x.labels) {tokens : List String}
    (htokens : a.WritesEquation tokens) : Piece.ofTokens tokens = a.equation := by
  have hname := h.isName_key hx
  rcases htokens with rfl | rfl
  · simp [Piece.ofTokens, Piece.ofToken_equation (trimmed?_of_isName hname)
      (equals_not_mem_of_isName hname) h.trimmed_value, equation]
  · simp [Piece.ofTokens, h.ofToken_key hx, h.ofToken_value, Piece.ofToken_equals, equation]

end Suits

section Pieces

variable {x : Executable α} {given : List Assignment}

theorem ofTokens_positionTokens (h : ∀ a ∈ given, a.Suits x) :
    Piece.ofTokens (positionTokens given) = given.flatMap lone := by
  rw [Piece.ofTokens, positionTokens, List.flatMap_map]
  exact List.flatMap_congr fun a ha => (h a ha).ofToken_value

theorem ofTokens_pairTokens (hx : Label.Sound x.labels) (h : ∀ a ∈ given, a.Suits x) :
    Piece.ofTokens (pairTokens given) = given.flatMap pair := by
  rw [Piece.ofTokens, pairTokens, List.flatMap_assoc]
  refine List.flatMap_congr fun a ha => ?_
  simp [(h a ha).ofToken_key hx, (h a ha).ofToken_value, pair]

theorem ofTokens_equations (hx : Label.Sound x.labels) (h : ∀ a ∈ given, a.Suits x)
    {tokens : List String} (htokens : WriteEquations given tokens) :
    Piece.ofTokens tokens = given.flatMap equation := by
  obtain ⟨groups, hgroups, rfl⟩ := htokens
  induction hgroups with
  | nil => rfl
  | @cons a group given groups ha hrest ih =>
    obtain ⟨hsuits, h⟩ := List.forall_mem_cons.1 h
    rw [List.flatten_cons, Piece.ofTokens, List.flatMap_append, List.flatMap_cons, ← ih h,
      ← hsuits.ofTokens_equation hx ha]
    rfl

end Pieces

theorem flatMap_lone (given : List Assignment) :
    given.flatMap lone = (given.map (·.value)).map Piece.text := by
  rw [List.map_map, List.map_eq_flatMap]
  rfl

/-- What arguments put into the env is told by their names and values. -/
theorem map_entry_eq_zipWith (given : List Assignment) :
    given.map (entry true) =
      List.zipWith (fun name value => (name, ⟨value, true⟩)) (given.map (·.name))
        (given.map (·.value)) := by
  induction given with
  | nil => rfl
  | cons a rest ih => simp [entry, ih]

end Assignment

namespace CommandTree

open Assignment

variable {α : Type} {t index : CommandTree α} {id : NodeId} {x : Executable α}
  {given given' : List Assignment}

/-- All ways to write arguments are read as the same assignments, and nothing is left. -/
structure FormsAgree (t index : CommandTree α) (id : NodeId) (given : List Assignment)
    (env : Assignments) : Prop where
  /-- Each parameter that is given gets its value, marked as an argument, and no other does. -/
  bound : ∀ key v, env.get? key = some v ↔ ∃ a ∈ given, key = a.name ∧ v = ⟨a.value, true⟩
  /-- The marks among the values erase. -/
  marks : ∀ key v, env.get? key = some v →
    (v.erasure = .own ↔ v.raw = "--") ∧ (v.erasure = .everywhere ↔ v.raw = "---")
  positions : t.readAssignments id (positionTokens given) index = ⟨env, []⟩
  /-- Pairs may come in any order. -/
  pairs : ∀ given', given'.Perm given →
    t.readAssignments id (pairTokens given') index = ⟨env, []⟩
  /-- So may arguments with equal signs. -/
  equations : ∀ given', given'.Perm given → ∀ tokens, WriteEquations given' tokens →
    t.readAssignments id tokens index = ⟨env, []⟩

section Given

variable (hx : t.assigned? id = some x) (hsound : Label.Sound x.labels) (hne : given ≠ [])
  (hgiven : ∀ a ∈ given, a.Suits x)

include hx hsound hne hgiven

theorem readAssignments_pairTokens :
    t.readAssignments id (pairTokens given) index = ⟨.ofList (given.map (entry true)), []⟩ := by
  have hpieces := ofTokens_pairTokens hsound hgiven
  have hstands : ∀ a ∈ given, x.resolve a.key = some a.name := fun a ha =>
    (hgiven a ha).resolve_key hsound
  obtain ⟨a, rest, rfl⟩ := List.exists_cons_of_ne_nil hne
  have hequals : .equals ∉ Piece.ofTokens (pairTokens (a :: rest)) := by simp [hpieces, pair]
  -- the first text is a spelling
  have hfirst : a.key ∈ Label.allSpellings x.labels :=
    Label.mem_of_resolve (hstands a List.mem_cons_self)
  obtain ⟨taken, left, htaken⟩ := takes_pairs hx hequals
    (.inl ⟨a.key, hfirst, by rw [hpieces]; rfl⟩)
  exact htaken.reading_eq isShape_pair hstands hpieces

theorem readAssignments_equationTokens {tokens : List String}
    (htokens : WriteEquations given tokens) :
    t.readAssignments id tokens index = ⟨.ofList (given.map (entry true)), []⟩ := by
  have hpieces := ofTokens_equations hsound hgiven htokens
  obtain ⟨a, rest, rfl⟩ := List.exists_cons_of_ne_nil hne
  have hequals : .equals ∈ Piece.ofTokens tokens := by simp [hpieces, equation]
  obtain ⟨taken, left, htaken⟩ := takes_equations hx hequals
  exact htaken.reading_eq isShape_equation (fun a ha => (hgiven a ha).resolve_key hsound) hpieces

end Given

theorem readAssignments_positionTokens (hx : t.assigned? id = some x)
    (hgiven : ∀ a ∈ given, a.Suits x)
    (hnames : given.map (·.name) <+: x.labels.map (·.name))
    (hfirst : ∀ a, given.head? = some a → a.value ∉ Label.allSpellings x.labels) :
    t.readAssignments id (positionTokens given) index =
      ⟨.ofList (given.map (entry true)), []⟩ := by
  have hpieces := ofTokens_positionTokens hgiven
  rw [flatMap_lone] at hpieces
  have hlength : (Piece.ofTokens (positionTokens given)).length = given.length := by simp [hpieces]
  have hequals : .equals ∉ Piece.ofTokens (positionTokens given) := by simp [hpieces]
  have hpositions : ¬ x.ReadsPairs (Piece.ofTokens (positionTokens given)) := by
    rintro (⟨s, hs, hhead⟩ | hmany)
    · rw [hpieces, List.head?_map, List.head?_map, Option.map_map] at hhead
      obtain ⟨a, ha, hvalue⟩ := Option.map_eq_some_iff.1 hhead
      obtain rfl : a.value = s := Piece.text.inj hvalue
      exact hfirst a ha hs
    · have hfew := hnames.length_le
      simp only [List.length_map, Executable.labels] at hfew
      omega
  obtain ⟨taken, htaken⟩ := takes_positions hx hequals hpositions
  -- position by position the names and the values are those of the arguments
  have hvalues : taken.map (·.value) = given.map (·.value) := by
    have hsame := htaken.pieces_eq
    rw [hpieces, flatMap_lone] at hsame
    exact (List.map_inj_right fun _ _ => Piece.text.inj).1 hsame.symm
  have hsame : taken.map (·.name) = given.map (·.name) := by
    rw [htaken.names_eq, hlength, List.prefix_iff_eq_take.1 hnames, List.length_map]
  have henv := htaken.env_eq
  rw [map_entry_eq_zipWith, hsame, hvalues, ← map_entry_eq_zipWith] at henv
  generalize t.readAssignments id (positionTokens given) index = r at henv htaken
  obtain ⟨env, rest⟩ := r
  obtain rfl : env = _ := henv
  obtain rfl : rest = [] := htaken.rest_eq
  rfl

/-- The arguments of an executable, given for its first parameters, are read alike in all forms. -/
theorem Reachable.formsAgree (ht : t.Reachable) (hx : t.executable? id = some x)
    (hne : given ≠ []) (hnames : given.map (·.name) <+: x.labels.map (·.name))
    (hgiven : ∀ a ∈ given, a.Suits x)
    (hfirst : ∀ a, given.head? = some a → a.value ∉ Label.allSpellings x.labels)
    (index : CommandTree α) : ∃ env, FormsAgree t index id given env := by
  have hsound := ht.wellFormed.params id x hx
  have hassigned : t.assigned? id = some x := by
    have hparams : x.params ≠ [] := by
      intro hnil
      have hlength := hnames.length_le
      simp [Executable.labels, hnil, hne] at hlength
    simp [assigned?, hx, hparams]
  have hdistinct : (given.map (entry true)).Pairwise fun a b => a.1 ≠ b.1 :=
    List.pairwise_map.2 (List.pairwise_map.1 (hsound.nodup_names.sublist hnames.sublist))
  -- what holds of the arguments holds of them in another order
  have hperm {given' : List Assignment} (h : given'.Perm given) :
      given' ≠ [] ∧ (∀ a ∈ given', a.Suits x) ∧
        Dict.ofList (given'.map (entry true)) = Dict.ofList (given.map (entry true)) :=
    ⟨fun hnil => hne (List.nil_perm.1 (hnil ▸ h)), fun a ha => hgiven a (h.mem_iff.1 ha),
      (Dict.ofList_perm (h.map (entry true)).symm hdistinct).symm⟩
  refine ⟨.ofList (given.map (entry true)), ?_, ?_, ?_, ?_, ?_⟩
  · intro key v
    rw [Dict.get?_ofList_iff hdistinct, List.mem_map]
    simp [entry, eq_comm]
  · exact fun _ v _ => ⟨Value.erasure_eq_own_iff, Value.erasure_eq_everywhere_iff⟩
  · exact readAssignments_positionTokens hassigned hgiven hnames hfirst
  · intro given' h
    obtain ⟨hne', hgiven', hsame⟩ := hperm h
    rw [readAssignments_pairTokens hassigned hsound hne' hgiven', hsame]
  · intro given' h tokens htokens
    obtain ⟨hne', hgiven', hsame⟩ := hperm h
    rw [readAssignments_equationTokens hassigned hsound hne' hgiven' htokens, hsame]

/-- Arguments for both parameters: the first is erased, and the value of the second is the name of
the first. -/
def mailArguments : List Assignment :=
  [⟨"t", "to", "--"⟩, ⟨"subject", "subject", "to"⟩]

/-- What `mail` runs. -/
def mailExecutable : Executable Unit :=
  ⟨.normal (), "", [⟨⟨"to", ["t"]⟩, ""⟩, ⟨⟨"subject", ["s"]⟩, ""⟩], false⟩

theorem suits_mailArguments : ∀ a ∈ mailArguments, a.Suits mailExecutable := by
  intro a ha
  rcases List.mem_cons.1 ha with rfl | ha
  · exact ⟨⟨⟨"to", ["t"]⟩, by decide, rfl, by decide⟩, by decide, by decide, by decide⟩
  · obtain rfl := List.mem_singleton.1 ha
    exact ⟨⟨⟨"subject", ["s"]⟩, by decide, rfl, by decide⟩, by decide, by decide, by decide⟩

theorem formsAgree_mail :
    ∃ env, FormsAgree mailTree mailTree ⟨1⟩ mailArguments env ∧
      env.get? "to" = some ⟨"--", true⟩ ∧
      mailTree.readAssignments ⟨1⟩ ["--", "to"] = ⟨env, []⟩ ∧
      mailTree.readAssignments ⟨1⟩ ["subject", "to", "t", "--"] = ⟨env, []⟩ ∧
      mailTree.readAssignments ⟨1⟩ ["subject=to", "t", "=", "--"] = ⟨env, []⟩ := by
  have hx : mailTree.executable? ⟨1⟩ = some mailExecutable := rfl
  obtain ⟨env, h⟩ := mailTree_reachable.formsAgree hx (by decide) (by decide) suits_mailArguments
    (by decide) mailTree
  have hswap : [⟨"subject", "subject", "to"⟩, ⟨"t", "to", "--"⟩].Perm mailArguments := .swap _ _ _
  exact ⟨env, h, (h.bound _ _).2 ⟨_, List.mem_cons_self, rfl, rfl⟩, h.positions, h.pairs _ hswap,
    h.equations _ hswap _ ⟨[["subject=to"], ["t", "=", "--"]],
      .cons (.inl (by decide)) (.cons (.inr rfl) .nil), rfl⟩⟩

end CommandTree

end FlowScript
