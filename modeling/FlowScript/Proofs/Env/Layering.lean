import FlowScript.Proofs.Dict
import FlowScript.Proofs.Env.Writing

/-!
# What assignments leave under a key

A key is seen in the own layer of an env, or else in the layers around it. Assignments change the
two apart: what the own layer holds afterwards depends on the last assignment to the key only
(`own_writeAll`), and the layers around it lose the key if any assignment erases it everywhere and
keep it otherwise (`outer_writeAll`). Layer by layer, they lose the keys that are erased everywhere
and nothing else (`outerLayers_writeTo`). A key that is not assigned stays as it is in all layers
(`held_writeAll`).
-/

namespace FlowScript

/-- What an assignment leaves in the layer that is written: the value, unless it is a mark. -/
def Value.kept? (v : Value) : Option Value :=
  if v.erasure = .none then some v else none

/-- Whether a value erases its key from the whole chain. -/
def Value.isEverywhere (v : Value) : Bool :=
  v.erasure = .everywhere

namespace Env

/-- The value that is seen under a key around the own layer. -/
def outerValue? (e : Env) (key : String) : Option Value :=
  e.outer.findSome? (·.get? key)

theorem value?_eq_or (e : Env) (key : String) :
    e.value? key = (e.own.get? key).or (e.outerValue? key) := by
  rw [value?, layers, List.findSome?_cons, outerValue?]
  cases e.own.get? key <;> rfl

/-! ## One assignment -/

theorem own_assign (e : Env) (key : String) (v : Value) (q : String) :
    (e.assign key v).own.get? q = if q = key then v.kept? else e.own.get? q := by
  rw [assign, Value.kept?]
  cases herasure : v.erasure with
  | none => simp [setValue, Layer.get?_set]
  | own => simp [eraseIn, modifyNearest, Layer.get?_erase]
  | everywhere => simp [erase, Layer.get?_erase]

theorem outer_assign (e : Env) (key : String) (v : Value) (q : String) :
    (e.assign key v).outerValue? q =
      if q = key ∧ v.isEverywhere then none else e.outerValue? q := by
  rw [assign, Value.isEverywhere]
  cases herasure : v.erasure with
  | none => simp [setValue, outerValue?]
  | own => simp [eraseIn, modifyNearest, outerValue?]
  | everywhere =>
    simp only [erase, outerValue?, List.findSome?_map, decide_true, and_true]
    by_cases hq : q = key <;> simp [hq, Function.comp_def, Layer.get?_erase]

/-! ## Assignments in key order -/

theorem own_foldl_assign {entries : List (String × Value)}
    (hsorted : entries.Pairwise fun a b => a.1 < b.1) (e : Env) (q : String) :
    (entries.foldl (fun e entry => e.assign entry.1 entry.2) e).own.get? q =
      ((Dict.findEntry q entries).map Value.kept?).getD (e.own.get? q) := by
  induction entries generalizing e with
  | nil => rfl
  | cons entry rest ih =>
    obtain ⟨key, v⟩ := entry
    obtain ⟨hkey, hrest⟩ := List.pairwise_cons.1 hsorted
    rw [List.foldl_cons, ih hrest, own_assign, Dict.findEntry]
    by_cases hq : q = key
    · -- the key comes once, so nothing after it is about it
      subst hq
      simp [Dict.findEntry_eq_none_of_lt hkey]
    · simp [hq]

theorem outer_foldl_assign {entries : List (String × Value)}
    (hsorted : entries.Pairwise fun a b => a.1 < b.1) (e : Env) (q : String) :
    (entries.foldl (fun e entry => e.assign entry.1 entry.2) e).outerValue? q =
      if (Dict.findEntry q entries).any Value.isEverywhere then none else e.outerValue? q := by
  induction entries generalizing e with
  | nil => rfl
  | cons entry rest ih =>
    obtain ⟨key, v⟩ := entry
    obtain ⟨hkey, hrest⟩ := List.pairwise_cons.1 hsorted
    rw [List.foldl_cons, ih hrest, outer_assign, Dict.findEntry]
    by_cases hq : q = key
    · subst hq
      simp [Dict.findEntry_eq_none_of_lt hkey]
    · simp [hq]

theorem own_writeTo (a : Assignments) (e : Env) (q : String) :
    (a.writeTo e).own.get? q = ((a.get? q).map Value.kept?).getD (e.own.get? q) :=
  own_foldl_assign a.sorted e q

theorem outer_writeTo (a : Assignments) (e : Env) (q : String) :
    (a.writeTo e).outerValue? q =
      if (a.get? q).any Value.isEverywhere then none else e.outerValue? q :=
  outer_foldl_assign a.sorted e q

/-! ## Several lists of assignments -/

/-- Writes lists of assignments one after the other. -/
def writeAll (e : Env) (fragments : List Assignments) : Env :=
  fragments.foldl (fun e a => a.writeTo e) e

/-- The values that lists of assignments give to a key, in order. -/
def assigned (fragments : List Assignments) (key : String) : List Value :=
  fragments.filterMap (·.get? key)

/-- The own layer holds what the last assignment to a key left there. -/
theorem own_writeAll (e : Env) (fragments : List Assignments) (q : String) :
    (e.writeAll fragments).own.get? q =
      ((assigned fragments q).getLast?.map Value.kept?).getD (e.own.get? q) := by
  induction fragments generalizing e with
  | nil => rfl
  | cons a rest ih =>
    have hstep : e.writeAll (a :: rest) = (a.writeTo e).writeAll rest := rfl
    rw [hstep, ih, own_writeTo, assigned, assigned, List.filterMap_cons]
    cases a.get? q with
    | none => rfl
    | some v =>
      rw [List.getLast?_cons]
      cases (rest.filterMap (·.get? q)).getLast? <;> rfl

/-- Around the own layer a key is seen as before, unless some assignment erased it everywhere. -/
theorem outer_writeAll (e : Env) (fragments : List Assignments) (q : String) :
    (e.writeAll fragments).outerValue? q =
      if (assigned fragments q).any Value.isEverywhere then none else e.outerValue? q := by
  induction fragments generalizing e with
  | nil => rfl
  | cons a rest ih =>
    have hstep : e.writeAll (a :: rest) = (a.writeTo e).writeAll rest := rfl
    rw [hstep, ih, outer_writeTo, assigned, assigned, List.filterMap_cons]
    cases a.get? q with
    | none => simp
    | some v =>
      simp only [Option.any_some, List.any_cons]
      by_cases hv : v.isEverywhere = true <;> simp [hv]

end Env

/-! ## Layer by layer -/

/-- The keys that assignments erase from the whole chain. -/
def Assignments.erasedKeys (a : Assignments) : List String :=
  (a.entries.filter (·.2.isEverywhere)).map (·.1)

/-- Removes keys from a layer. -/
def Layer.eraseAll (l : Layer) (keys : List String) : Layer :=
  keys.foldl Layer.erase l

namespace Env

theorem outerLayers_assign (e : Env) (key : String) (v : Value) :
    (e.assign key v).outer =
      if v.isEverywhere then e.outer.map (·.erase key) else e.outer := by
  rw [assign, Value.isEverywhere]
  cases v.erasure <;> simp [setValue, eraseIn, modifyNearest, erase]

theorem kind_assign (e : Env) (key : String) (v : Value) :
    (e.assign key v).own.kind = e.own.kind := by
  rw [assign]
  cases v.erasure <;> simp [setValue, Layer.set, eraseIn, modifyNearest, Layer.erase, erase]

/-- The layers around the own one lose the keys that are erased everywhere. -/
theorem outerLayers_writeTo (a : Assignments) (e : Env) :
    (a.writeTo e).outer = e.outer.map (·.eraseAll a.erasedKeys) := by
  have hfold (entries : List (String × Value)) (e : Env) :
      (entries.foldl (fun e entry => e.assign entry.1 entry.2) e).outer =
        e.outer.map (·.eraseAll ((entries.filter (·.2.isEverywhere)).map (·.1))) := by
    induction entries generalizing e with
    | nil => simp [Layer.eraseAll]
    | cons entry rest ih =>
      rw [List.foldl_cons, ih, outerLayers_assign]
      by_cases hv : entry.2.isEverywhere = true
      · simp [hv, Layer.eraseAll]
      · simp [hv]
  exact hfold a.entries e

theorem kind_writeTo (a : Assignments) (e : Env) : (a.writeTo e).own.kind = e.own.kind := by
  have hfold (entries : List (String × Value)) (e : Env) :
      (entries.foldl (fun e entry => e.assign entry.1 entry.2) e).own.kind = e.own.kind := by
    induction entries generalizing e with
    | nil => rfl
    | cons entry rest ih => rw [List.foldl_cons, ih, kind_assign]
  exact hfold a.entries e

/-- Assignments that erase nothing everywhere leave the layers around the own one. -/
theorem outerLayers_writeAll {fragments : List Assignments}
    (h : ∀ a ∈ fragments, ∀ entry ∈ a.entries, entry.2.erasure ≠ .everywhere) (e : Env) :
    (e.writeAll fragments).outer = e.outer := by
  induction fragments generalizing e with
  | nil => rfl
  | cons a rest ih =>
    have hnone : a.erasedKeys = [] := by
      simpa [Assignments.erasedKeys, Value.isEverywhere] using h a List.mem_cons_self
    have hstep : e.writeAll (a :: rest) = (a.writeTo e).writeAll rest := rfl
    rw [hstep, ih fun b hb => h b (List.mem_cons_of_mem _ hb), outerLayers_writeTo, hnone]
    simp [Layer.eraseAll]

/-- What the layers hold under a key, the nearest first. -/
def held (e : Env) (key : String) : List (Option Value) :=
  e.layers.map (·.get? key)

theorem held_eq_cons (e : Env) (key : String) :
    e.held key = e.own.get? key :: e.outer.map (·.get? key) := rfl

theorem held_assign_of_ne {key q : String} (hne : q ≠ key) (e : Env) (v : Value) :
    (e.assign key v).held q = e.held q := by
  rw [held_eq_cons, held_eq_cons, own_assign, if_neg hne, outerLayers_assign]
  split
  · simp [Function.comp_def, Layer.get?_erase, hne]
  · rfl

/-- Assignments to other keys leave a key in all layers. -/
theorem held_writeTo {a : Assignments} {key : String} (h : a.get? key = none) (e : Env) :
    (a.writeTo e).held key = e.held key := by
  have hfold (entries : List (String × Value)) (hne : ∀ entry ∈ entries, entry.1 ≠ key) (e : Env) :
      (entries.foldl (fun e entry => e.assign entry.1 entry.2) e).held key = e.held key := by
    induction entries generalizing e with
    | nil => rfl
    | cons entry rest ih =>
      obtain ⟨hentry, hrest⟩ := List.forall_mem_cons.1 hne
      rw [List.foldl_cons, ih hrest, held_assign_of_ne hentry.symm]
  exact hfold a.entries (Dict.key_ne_of_get? h) e

theorem held_writeAll {fragments : List Assignments} {key : String}
    (h : ∀ a ∈ fragments, a.get? key = none) (e : Env) :
    (e.writeAll fragments).held key = e.held key := by
  induction fragments generalizing e with
  | nil => rfl
  | cons a rest ih =>
    obtain ⟨ha, hrest⟩ := List.forall_mem_cons.1 h
    have hstep : e.writeAll (a :: rest) = (a.writeTo e).writeAll rest := rfl
    rw [hstep, ih hrest, held_writeTo ha]

end Env

end FlowScript
