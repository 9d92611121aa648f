import FlowScript.Proofs.Env.Kinds

/-!
# Assignments layer by layer

`Assignments.Writes` says what every layer of a chain holds under every key once assignments are
written: the own layer takes the values and loses the keys with a mark, the layers around it lose
the keys that are erased everywhere, and nothing else changes. This leaves one chain only
(`Writes.unique`). So writing one list after another is writing the two merged, unless the first
erases a key everywhere that the second assigns again (`Writes.merge`).
-/

namespace FlowScript

namespace Value

theorem erasure_eq_own_iff {v : Value} : v.erasure = .own ↔ v.raw = "--" := by
  rw [erasure]
  split
  · simp_all
  · split <;> simp_all

theorem erasure_eq_everywhere_iff {v : Value} : v.erasure = .everywhere ↔ v.raw = "---" := by
  rw [erasure]
  split
  · rename_i hown
    simp [hown]
  · split <;> simp_all

theorem erasure_eq_none_iff {v : Value} : v.erasure = .none ↔ v.raw ≠ "--" ∧ v.raw ≠ "---" := by
  rw [erasure]
  split
  · simp_all
  · split <;> simp_all

theorem kept?_of_plain {v : Value} (hown : v.raw ≠ "--") (heverywhere : v.raw ≠ "---") :
    v.kept? = some v := by
  rw [kept?, if_pos (erasure_eq_none_iff.2 ⟨hown, heverywhere⟩)]

theorem kept?_of_marked {v : Value} (h : v.raw = "--" ∨ v.raw = "---") : v.kept? = none := by
  have hmark : v.erasure ≠ .none := by
    intro hnone
    obtain ⟨hown, heverywhere⟩ := erasure_eq_none_iff.1 hnone
    exact h.elim hown heverywhere
  rw [kept?, if_neg hmark]

end Value

namespace Layer

/-- A layer is its kind and what it holds under each key. -/
theorem ext_get? {l l' : Layer} (hkind : l.kind = l'.kind) (h : ∀ key, l.get? key = l'.get? key) :
    l = l' := by
  obtain ⟨kind, values⟩ := l
  obtain ⟨kind', values'⟩ := l'
  obtain rfl : kind = kind' := hkind
  obtain rfl : values = values' := Dict.ext_get? h
  rfl

theorem map_ext_get? {ls ls' : List Layer} (hkinds : ls.map (·.kind) = ls'.map (·.kind))
    (h : ∀ key, ls.map (·.get? key) = ls'.map (·.get? key)) : ls = ls' := by
  induction ls generalizing ls' with
  | nil => exact (List.map_eq_nil_iff.1 hkinds.symm).symm
  | cons l rest ih =>
    cases ls' with
    | nil => cases hkinds
    | cons l' rest' =>
      obtain rfl : l = l' :=
        ext_get? (List.cons.inj hkinds).1 fun key => (List.cons.inj (h key)).1
      obtain rfl : rest = rest' :=
        ih (List.cons.inj hkinds).2 fun key => (List.cons.inj (h key)).2
      rfl

theorem get?_eraseAll (l : Layer) (keys : List String) (q : String) :
    (l.eraseAll keys).get? q = if q ∈ keys then none else l.get? q := by
  induction keys generalizing l with
  | nil => simp [eraseAll]
  | cons key rest ih =>
    have hstep : l.eraseAll (key :: rest) = (l.erase key).eraseAll rest := rfl
    rw [hstep, ih, get?_erase]
    by_cases hrest : q ∈ rest <;> by_cases hkey : q = key <;> simp [hrest, hkey]

end Layer

/-- An env is its kinds and what its layers hold under each key. -/
theorem Env.ext_get? {e e' : Env} (hkinds : e.kinds = e'.kinds)
    (hown : ∀ key, e.own.get? key = e'.own.get? key)
    (houter : ∀ key, e.outer.map (·.get? key) = e'.outer.map (·.get? key)) : e = e' := by
  obtain ⟨own, outer⟩ := e
  obtain ⟨own', outer'⟩ := e'
  obtain rfl : own = own' := Layer.ext_get? (List.cons.inj hkinds).1 hown
  obtain rfl : outer = outer' := Layer.map_ext_get? (List.cons.inj hkinds).2 houter
  rfl

namespace Assignments

variable {a b : Assignments} {e e₁ e₂ : Env}

/-! ## What is written -/

/-- What the layers hold after assignments were written, compared with what they held before. -/
structure Writes (a : Assignments) (before after : Env) : Prop where
  /-- The layers are those from before, each of its kind. -/
  kinds : after.kinds = before.kinds
  /-- The own layer holds each value that is no mark. -/
  own_plain : ∀ key v, a.get? key = some v → v.raw ≠ "--" → v.raw ≠ "---" →
    after.own.get? key = some v
  /-- It holds no key with a mark. -/
  own_marked : ∀ key v, a.get? key = some v → v.raw = "--" ∨ v.raw = "---" →
    after.own.get? key = none
  /-- It holds every other key as before. -/
  own_other : ∀ key, a.get? key = none → after.own.get? key = before.own.get? key
  /-- No layer around it holds a key that is erased everywhere. -/
  outer_marked : ∀ key v, a.get? key = some v → v.raw = "---" →
    ∀ l ∈ after.outer, l.get? key = none
  /-- These layers hold every other key as before. -/
  outer_other : ∀ key, (∀ v, a.get? key = some v → v.raw ≠ "---") →
    after.outer.map (·.get? key) = before.outer.map (·.get? key)

theorem mem_erasedKeys {key : String} :
    key ∈ a.erasedKeys ↔ ∃ v, a.get? key = some v ∧ v.raw = "---" := by
  simp [erasedKeys, Dict.mem_entries_iff, Value.isEverywhere, Value.erasure_eq_everywhere_iff]

theorem writes_writeTo (a : Assignments) (e : Env) : a.Writes e (a.writeTo e) where
  kinds := e.kinds_writeTo a
  own_plain := by
    intro key v hv hown heverywhere
    rw [Env.own_writeTo, hv, Option.map_some, Option.getD_some,
      Value.kept?_of_plain hown heverywhere]
  own_marked := by
    intro key v hv hmark
    rw [Env.own_writeTo, hv, Option.map_some, Option.getD_some, Value.kept?_of_marked hmark]
  own_other := by
    intro key hnone
    rw [Env.own_writeTo, hnone, Option.map_none, Option.getD_none]
  outer_marked := by
    intro key v hv hmark l hl
    rw [Env.outerLayers_writeTo] at hl
    obtain ⟨l, -, rfl⟩ := List.mem_map.1 hl
    rw [Layer.get?_eraseAll, if_pos (mem_erasedKeys.2 ⟨v, hv, hmark⟩)]
  outer_other := by
    intro key hother
    have hkey : key ∉ a.erasedKeys := by
      intro hmem
      obtain ⟨v, hv, hmark⟩ := mem_erasedKeys.1 hmem
      exact hother v hv hmark
    simp [Env.outerLayers_writeTo, Layer.get?_eraseAll, hkey, Function.comp_def]

theorem merge_cases {key : String} {v : Value} (h : (a.merge b).get? key = some v) :
    b.get? key = some v ∨ b.get? key = none ∧ a.get? key = some v := by
  rw [Dict.get?_merge] at h
  exact Option.or_eq_some_iff.1 h

namespace Writes

theorem outer_map_marked (h : a.Writes e e₁) {key : String} {v : Value} (hv : a.get? key = some v)
    (hmark : v.raw = "---") : e₁.outer.map (·.get? key) = e.outer.map fun _ => none := by
  have hlength : e₁.outer.length = e.outer.length := by
    simpa [Env.kinds, Env.layers] using congrArg List.length h.kinds
  rw [List.map_congr_left (h.outer_marked key v hv hmark), List.map_const', List.map_const', hlength]

/-- What is written determines the chain. -/
theorem unique (h₁ : a.Writes e e₁) (h₂ : a.Writes e e₂) : e₁ = e₂ := by
  refine Env.ext_get? (h₁.kinds.trans h₂.kinds.symm) (fun key => ?_) fun key => ?_
  · cases hv : a.get? key with
    | none => rw [h₁.own_other key hv, h₂.own_other key hv]
    | some v =>
      by_cases hmark : v.raw = "--" ∨ v.raw = "---"
      · rw [h₁.own_marked key v hv hmark, h₂.own_marked key v hv hmark]
      · obtain ⟨hown, heverywhere⟩ := not_or.1 hmark
        rw [h₁.own_plain key v hv hown heverywhere, h₂.own_plain key v hv hown heverywhere]
  · by_cases hmark : ∃ v, a.get? key = some v ∧ v.raw = "---"
    · obtain ⟨v, hv, hmark⟩ := hmark
      rw [h₁.outer_map_marked hv hmark, h₂.outer_map_marked hv hmark]
    · have hother : ∀ v, a.get? key = some v → v.raw ≠ "---" := fun v hv hm => hmark ⟨v, hv, hm⟩
      rw [h₁.outer_other key hother, h₂.outer_other key hother]

/-! ## One list after another -/

/-- Two lists, the second of which assigns nothing that the first erases everywhere, are written
like the two merged. -/
theorem merge (h₁ : a.Writes e e₁) (h₂ : b.Writes e₁ e₂)
    (hapart : ∀ key v, a.get? key = some v → v.raw = "---" → b.get? key = none) :
    Writes (a.merge b) e e₂ where
  kinds := h₂.kinds.trans h₁.kinds
  own_plain := by
    intro key v hv hown heverywhere
    rcases merge_cases hv with hb | ⟨hb, ha⟩
    · exact h₂.own_plain key v hb hown heverywhere
    · rw [h₂.own_other key hb, h₁.own_plain key v ha hown heverywhere]
  own_marked := by
    intro key v hv hmark
    rcases merge_cases hv with hb | ⟨hb, ha⟩
    · exact h₂.own_marked key v hb hmark
    · rw [h₂.own_other key hb, h₁.own_marked key v ha hmark]
  own_other := by
    intro key hnone
    rw [Dict.get?_merge, Option.or_eq_none_iff] at hnone
    rw [h₂.own_other key hnone.1, h₁.own_other key hnone.2]
  outer_marked := by
    intro key v hv hmark l hl
    rcases merge_cases hv with hb | ⟨hb, ha⟩
    · exact h₂.outer_marked key v hb hmark l hl
    · -- the second list is not about the key, so the layers hold of it what the first one left
      have hsame := h₂.outer_other key fun w hw => by simp [hb] at hw
      have hmem : l.get? key ∈ e₁.outer.map (·.get? key) := hsame ▸ List.mem_map_of_mem hl
      obtain ⟨l₁, hl₁, heq⟩ := List.mem_map.1 hmem
      rw [← heq, h₁.outer_marked key v ha hmark l₁ hl₁]
  outer_other := by
    intro key hother
    have hb : ∀ w, b.get? key = some w → w.raw ≠ "---" := fun w hw =>
      hother w (by rw [Dict.get?_merge, hw, Option.some_or])
    have ha : ∀ v, a.get? key = some v → v.raw ≠ "---" := by
      intro v hv hmark
      refine hother v ?_ hmark
      rw [Dict.get?_merge, hapart key v hv hmark, Option.none_or, hv]
    rw [h₂.outer_other key hb, h₁.outer_other key ha]

end Writes

/-- Assignments change the layers as their values say and change nothing else; so a list that
assigns nothing that another erases everywhere can be merged into it. -/
theorem writeTo_effect (a : Assignments) (e : Env) :
    a.Writes e (a.writeTo e) ∧
    ∀ b : Assignments, (∀ key v, a.get? key = some v → v.raw = "---" → b.get? key = none) →
      b.writeTo (a.writeTo e) = Assignments.writeTo (a.merge b) e := by
  refine ⟨a.writes_writeTo e, fun b hapart => ?_⟩
  have hmerged := (a.writes_writeTo e).merge (b.writes_writeTo _) hapart
  exact hmerged.unique (writes_writeTo _ e)

/-- A session inside another one. The outer one and the defaults hold keys that the inner one
holds too. -/
def nestedSessions : Env where
  own := ⟨.session, .ofList [("host", ⟨"a", false⟩), ("port", ⟨"1", true⟩)]⟩
  outer := [⟨.session, .ofList [("host", ⟨"b", false⟩), ("port", ⟨"2", false⟩)]⟩,
    ⟨.default, .ofList [("host", ⟨"c", false⟩), ("user", ⟨"d", false⟩)]⟩]

/-- The mark for one layer is about the inner session although the outer one has the same kind. -/
theorem writeTo_effect_nested :
    let a : Assignments := .ofList [("host", ⟨"--", false⟩), ("port", ⟨"---", false⟩)]
    let b : Assignments := .ofList [("host", ⟨"x", true⟩), ("user", ⟨"---", false⟩)]
    a.Writes nestedSessions (a.writeTo nestedSessions) ∧
    (a.writeTo nestedSessions).held "host" = [none, some ⟨"b", false⟩, some ⟨"c", false⟩] ∧
    (a.writeTo nestedSessions).held "port" = [none, none, none] ∧
    b.writeTo (a.writeTo nestedSessions) = Assignments.writeTo (a.merge b) nestedSessions := by
  intro a b
  obtain ⟨hwrites, hmerge⟩ := writeTo_effect a nestedSessions
  refine ⟨hwrites, by decide, by decide, hmerge b ?_⟩
  intro key v hv hmark
  have hentries : a.entries = [("host", ⟨"--", false⟩), ("port", ⟨"---", false⟩)] := by decide
  have hmem : (key, v) ∈ a.entries := Dict.mem_entries_iff.2 hv
  simp only [hentries, List.mem_cons, Prod.mk.injEq, List.not_mem_nil, or_false] at hmem
  rcases hmem with ⟨rfl, rfl⟩ | ⟨rfl, rfl⟩
  · simp at hmark
  · decide

end Assignments

end FlowScript
