import FlowScript.Env.Record
import FlowScript.Proofs.Env.Layering

/-!
# Layers by kind

Writing never changes which kinds of layers a chain has (`kinds_writeTo`, `kinds_applyAll`), so the
nearest layer of a kind stays the same one. Into the nearest persisted layer of a chain a key comes
by a write to that layer only: assignments take keys away from it (`persists_of_writeTo`), and among
env records only those meant for it put keys there (`persists_of_applyAll`).
-/

namespace FlowScript

namespace Layer

theorem holds_eq (l : Layer) (key : String) : l.holds key = (l.get? key).isSome := rfl

theorem kind_eraseAll (keys : List String) (l : Layer) : (l.eraseAll keys).kind = l.kind := by
  induction keys generalizing l with
  | nil => rfl
  | cons key rest ih => exact ih (l.erase key)

theorem holds_of_eraseAll {keys : List String} {l : Layer} {key : String}
    (h : (l.eraseAll keys).holds key = true) : l.holds key = true := by
  induction keys generalizing l with
  | nil => exact h
  | cons q rest ih =>
    have herased : (l.erase q).holds key = true := ih h
    rw [holds_eq, get?_erase] at herased
    split at herased
    · cases herased
    · exact herased

end Layer

namespace Env

/-- The kinds of the layers, the own one first. -/
def kinds (e : Env) : List LayerKind :=
  e.layers.map (·.kind)

/-- The nearest layer of a kind. -/
def layer? (e : Env) (kind : LayerKind) : Option Layer :=
  e.layers.find? (·.kind == kind)

/-- Whether the nearest persisted layer holds a key. -/
def persists (e : Env) (key : String) : Bool :=
  (e.layer? .persisted).any (·.holds key)

theorem own_nearest? (e : Env) (kind : LayerKind) :
    (e.nearest? kind).map (·.own) = e.layer? kind := by
  have hsplit (ls : List Layer) :
      ((splitAtKind? kind ls).map (·.2)).map (·.own) = ls.find? (·.kind == kind) := by
    induction ls with
    | nil => rfl
    | cons l rest ih =>
      by_cases hkind : l.kind = kind
      · simp [splitAtKind?, hkind]
      · simp only [splitAtKind?, if_neg hkind, List.find?_cons, beq_eq_false_iff_ne.2 hkind, ← ih]
        cases splitAtKind? kind rest <;> rfl
  exact hsplit e.layers

theorem kind_of_layer? {e : Env} {kind : LayerKind} {l : Layer} (h : e.layer? kind = some l) :
    l.kind = kind := by
  simpa using List.find?_some h

/-- There is a nearest layer of a kind exactly if there is a layer of that kind. -/
theorem exists_nearest?_iff {e : Env} {kind : LayerKind} :
    (∃ found, e.nearest? kind = some found) ↔ kind ∈ e.kinds := by
  have hlayer := e.own_nearest? kind
  constructor
  · rintro ⟨found, hfound⟩
    rw [hfound, Option.map_some, eq_comm] at hlayer
    exact List.mem_map.2 ⟨found.own, List.mem_of_find?_eq_some hlayer, kind_of_layer? hlayer⟩
  · intro hmem
    obtain ⟨l, hl, hkind⟩ := List.mem_map.1 hmem
    rw [← Option.isSome_iff_exists, ← Option.isSome_map, hlayer, layer?, List.find?_isSome]
    exact ⟨l, hl, by simpa using hkind⟩

theorem own_kind_of_kinds {e e' : Env} (h : e.kinds = e'.kinds) : e.own.kind = e'.own.kind :=
  (List.cons.inj h).1

/-! ## What is around the own layer -/

/-- An own layer of another kind does not count. -/
theorem layer?_of_own_ne {e : Env} {kind : LayerKind} (h : e.own.kind ≠ kind) :
    e.layer? kind = e.outer.find? (·.kind == kind) := by
  rw [layer?, layers, List.find?_cons, beq_eq_false_iff_ne.2 h]

theorem persists_of_own_ne {e e' : Env} (h : e.own.kind ≠ .persisted)
    (h' : e'.own.kind ≠ .persisted) (houter : e.outer = e'.outer) (key : String) :
    e.persists key = e'.persists key := by
  rw [persists, persists, layer?_of_own_ne h, layer?_of_own_ne h', houter]

theorem kinds_push (e : Env) (kind : LayerKind) : (e.push kind).kinds = kind :: e.kinds := rfl

theorem persists_push (e : Env) {kind : LayerKind} (h : kind ≠ .persisted) (key : String) :
    (e.push kind).persists key = e.persists key := by
  have hown : (e.push kind).own.kind ≠ .persisted := h
  rw [persists, layer?_of_own_ne hown]
  rfl

/-- Outside a layer that is not persisted, the same layer is the nearest persisted one. -/
theorem parent?_of_kinds {e session : Env} {kind : LayerKind} (h : e.kinds = kind :: session.kinds)
    (hkind : kind ≠ .persisted) :
    ∃ parent, e.parent? = some parent ∧ parent.kinds = session.kinds ∧
      ∀ key, parent.persists key = e.persists key := by
  obtain ⟨own, outer⟩ := e
  obtain ⟨hown, houter⟩ := List.cons.inj h
  cases outer with
  | nil => cases houter
  | cons l rest =>
    refine ⟨⟨l, rest⟩, rfl, houter, fun key => ?_⟩
    have hne : (⟨own, l :: rest⟩ : Env).own.kind ≠ .persisted := fun heq => hkind (hown ▸ heq)
    rw [persists, persists, layer?_of_own_ne hne]
    rfl

/-! ## Writes to one layer -/

theorem kinds_modifyNearest (e : Env) (p : Layer → Bool) {f : Layer → Layer}
    (hf : ∀ l, (f l).kind = l.kind) : (e.modifyNearest p f).kinds = e.kinds := by
  rw [kinds, layers_modifyNearest, kinds]
  induction e.layers with
  | nil => rfl
  | cons l rest ih =>
    rw [modifyFirst]
    split
    · simp [hf]
    · simp [ih]

theorem kinds_setIn (e : Env) (kind : LayerKind) (key raw : String) :
    (e.setIn kind key raw).kinds = e.kinds :=
  e.kinds_modifyNearest _ fun _ => rfl

theorem kinds_set (e : Env) (key raw : String) : (e.set key raw).kinds = e.kinds := rfl

theorem persists_set {e : Env} (h : e.own.kind ≠ .persisted) (q raw key : String) :
    (e.set q raw).persists key = e.persists key := by
  have hset : (e.set q raw).own.kind ≠ .persisted := h
  exact persists_of_own_ne hset h rfl key

/-- Writing to a layer of another kind, or another key, leaves a key in the persisted layer. -/
theorem persists_setIn {kind : LayerKind} {q key : String} (h : kind ≠ .persisted ∨ q ≠ key)
    (e : Env) (raw : String) : (e.setIn kind q raw).persists key = e.persists key := by
  rw [persists, layer?, setIn, layers_modifyNearest, persists, layer?]
  induction e.layers with
  | nil => rfl
  | cons l rest ih =>
    have hset : (l.set q ⟨raw, false⟩).kind = l.kind := rfl
    by_cases hkind : l.kind = kind
    · subst hkind
      by_cases hl : l.kind = .persisted
      · have hne : key ≠ q := fun heq => h.elim (· hl) (· heq.symm)
        simp [modifyFirst, hset, hl, Layer.holds_eq, Layer.get?_set, hne]
      · simp [modifyFirst, hset, beq_eq_false_iff_ne.2 hl]
    · simp only [modifyFirst, beq_eq_false_iff_ne.2 hkind, Bool.false_eq_true, if_false,
        List.find?_cons]
      cases l.kind == .persisted with
      | true => rfl
      | false => exact ih

/-! ## Assignments -/

theorem kinds_writeTo (a : Assignments) (e : Env) : (a.writeTo e).kinds = e.kinds := by
  simp [kinds, layers, kind_writeTo, outerLayers_writeTo, Layer.kind_eraseAll, Function.comp_def]

/-- Assignments put no key into layers around the own one. -/
theorem persists_of_writeTo {a : Assignments} {e : Env} (h : e.own.kind ≠ .persisted) {key : String}
    (hkey : (a.writeTo e).persists key = true) : e.persists key = true := by
  have hown : (a.writeTo e).own.kind ≠ .persisted := by rwa [kind_writeTo]
  have hsame : ((·.kind == .persisted) ∘ (·.eraseAll a.erasedKeys) : Layer → Bool) =
      (·.kind == .persisted) := by
    funext l
    simp [Layer.kind_eraseAll]
  rw [persists, layer?_of_own_ne hown, outerLayers_writeTo, List.find?_map, hsame,
    Option.any_map, Option.any_eq_true] at hkey
  obtain ⟨l, hl, hholds⟩ := hkey
  rw [persists, layer?_of_own_ne h, hl]
  exact Layer.holds_of_eraseAll hholds

theorem kinds_writeAll (fragments : List Assignments) (e : Env) :
    (e.writeAll fragments).kinds = e.kinds := by
  induction fragments generalizing e with
  | nil => rfl
  | cons a rest ih => exact (ih (a.writeTo e)).trans (kinds_writeTo a e)

theorem persists_of_writeAll {fragments : List Assignments} {e : Env}
    (h : e.own.kind ≠ .persisted) {key : String}
    (hkey : (e.writeAll fragments).persists key = true) : e.persists key = true := by
  induction fragments generalizing e with
  | nil => exact hkey
  | cons a rest ih =>
    have hown : (a.writeTo e).own.kind ≠ .persisted := by rwa [kind_writeTo]
    exact persists_of_writeTo h (ih hown hkey)

end Env

/-! ## Records -/

namespace EnvRecord

theorem kinds_apply (r : EnvRecord) (e : Env) : (r.apply e).kinds = e.kinds := by
  rw [apply]
  split
  · exact e.kinds_setIn ..
  · exact e.kinds_set ..

theorem kinds_applyAll (records : List EnvRecord) (e : Env) :
    (applyAll records e).kinds = e.kinds := by
  induction records generalizing e with
  | nil => rfl
  | cons r rest ih => exact (ih (r.apply e)).trans (r.kinds_apply e)

/-- A record puts its key into the persisted layer only if it is meant for that layer. -/
theorem persists_of_apply {r : EnvRecord} {e : Env} (h : e.own.kind ≠ .persisted) {key : String}
    (hkey : (r.apply e).persists key = true) :
    e.persists key = true ∨ r.layer = some .persisted ∧ r.key = key := by
  rw [apply] at hkey
  split at hkey
  · rename_i kind hfound
    by_cases hwrites : kind = .persisted ∧ r.key = key
    · obtain ⟨rfl, hrkey⟩ := hwrites
      have hmem := List.mem_of_find?_eq_some hfound
      exact .inr ⟨by simpa using hmem, hrkey⟩
    · rw [Env.persists_setIn (Classical.not_and_iff_not_or_not.1 hwrites)] at hkey
      exact .inl hkey
  · rw [Env.persists_set h] at hkey
    exact .inl hkey

theorem persists_of_applyAll {records : List EnvRecord} {e : Env} (h : e.own.kind ≠ .persisted)
    {key : String} (hkey : (applyAll records e).persists key = true) :
    e.persists key = true ∨ ∃ r ∈ records, r.layer = some .persisted ∧ r.key = key := by
  induction records generalizing e with
  | nil => exact .inl hkey
  | cons r rest ih =>
    have hown : (r.apply e).own.kind ≠ .persisted := by
      rwa [Env.own_kind_of_kinds (r.kinds_apply e)]
    rcases ih hown hkey with hold | ⟨r', hr', hwrites⟩
    · rcases persists_of_apply h hold with hold | hwrites
      · exact .inl hold
      · exact .inr ⟨r, List.mem_cons_self, hwrites⟩
    · exact .inr ⟨r', List.mem_cons_of_mem r hr', hwrites⟩

end EnvRecord

end FlowScript
