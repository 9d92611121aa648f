import FlowScript.Proofs.Env.Kinds
import FlowScript.Proofs.Text.Integers

/-!
# Adding to a counter

A counter is kept in the nearest layer that holds its key, and in the own layer as long as no layer
does. Adding to it writes the decimal of the sum into that layer, where it is read afterwards, and
leaves every other entry of every layer (`Counted`). If the entry is no counter, or the sum is
out of range, all layers stay as they were (`tally_exact`).
-/

namespace FlowScript.Env

/-! ## Where a counter is kept -/

/-- The position of the nearest layer that holds a key, or of the own layer if none does. -/
def counterPlace (e : Env) (key : String) : Nat :=
  (e.layers.findIdx? (·.holds key)).getD 0

/-- What the layer at that position holds under the key. -/
def counterEntry? (e : Env) (key : String) : Option Value :=
  (e.layers[e.counterPlace key]?).bind (·.get? key)

/-- The counter in that layer, if the entry is one; an absent entry counts as zero. -/
def keptCounter? (e : Env) (key : String) : Option Int :=
  match e.counterEntry? key with
  | some v => Text.Integer.read? v.raw
  | none => some 0

theorem counterPlace_lt (e : Env) (key : String) : e.counterPlace key < e.layers.length := by
  rw [counterPlace]
  cases hfind : e.layers.findIdx? (·.holds key) with
  | none => simp [layers]
  | some i => exact (List.findIdx?_eq_some_iff_getElem.1 hfind).1

/-- The layers before that position do not hold the key. -/
theorem get?_before_counterPlace {e : Env} {key : String} {i : Nat} (hi : i < e.counterPlace key)
    {l : Layer} (hl : e.layers[i]? = some l) : l.get? key = none := by
  rw [counterPlace] at hi
  cases hfind : e.layers.findIdx? (·.holds key) with
  | none => simp [hfind] at hi
  | some place =>
    rw [hfind, Option.getD_some] at hi
    obtain ⟨_, -, hbefore⟩ := List.findIdx?_eq_some_iff_getElem.1 hfind
    obtain ⟨_, rfl⟩ := List.getElem?_eq_some_iff.1 hl
    simpa [Layer.holds_eq] using hbefore i hi

/-- The layer in which a key is seen is the first one that holds it. -/
theorem findSome?_eq_bind_find? (ls : List Layer) (key : String) :
    ls.findSome? (·.get? key) = (ls.find? (·.holds key)).bind (·.get? key) := by
  induction ls with
  | nil => rfl
  | cons l rest ih =>
    rw [List.findSome?_cons, List.find?_cons, Layer.holds_eq]
    cases hl : l.get? key with
    | none => exact ih
    | some v => exact hl.symm

theorem value?_eq_counterEntry? (e : Env) (key : String) : e.value? key = e.counterEntry? key := by
  rw [value?, findSome?_eq_bind_find?, List.find?_eq_bind_findIdx?_getElem?, counterEntry?,
    counterPlace]
  cases hfind : e.layers.findIdx? (·.holds key) with
  | none =>
    have hown : e.own.holds key = false :=
      List.findIdx?_eq_none_iff.1 hfind e.own List.mem_cons_self
    rw [Layer.holds_eq, Option.isSome_eq_false_iff, Option.isNone_iff_eq_none] at hown
    exact hown.symm
  | some i => rfl

theorem has_eq_isSome_findIdx? (e : Env) (key : String) :
    e.has key = (e.layers.findIdx? (·.holds key)).isSome :=
  List.findIdx?_isSome.symm

theorem modifyFirst_eq_modify {p : Layer → Bool} {ls : List Layer} {i : Nat}
    (h : ls.findIdx? p = some i) (f : Layer → Layer) : modifyFirst p f ls = ls.modify i f := by
  induction ls generalizing i with
  | nil => simp at h
  | cons l rest ih =>
    rw [modifyFirst]
    rw [List.findIdx?_cons] at h
    split at h
    · rename_i hp
      obtain rfl := Option.some.inj h
      simp [hp]
    · rename_i hp
      obtain ⟨j, hj, rfl⟩ := Option.map_eq_some_iff.1 h
      simp [hp, ih hj]

/-- A value that is put into the first layer that may hold a key is seen. -/
theorem findSome?_modify {key : String} {ls : List Layer} {i : Nat} (hi : i < ls.length)
    (hbefore : ∀ j < i, ∀ l, ls[j]? = some l → l.get? key = none) (v : Value) :
    (ls.modify i (·.set key v)).findSome? (·.get? key) = some v := by
  induction ls generalizing i with
  | nil => simp at hi
  | cons l rest ih =>
    cases i with
    | zero => simp [Layer.get?_set]
    | succ i =>
      have hl : l.get? key = none := hbefore 0 (Nat.succ_pos i) l rfl
      rw [List.modify_succ_cons, List.findSome?_cons, hl]
      exact ih (Nat.lt_of_succ_lt_succ hi) fun j hj => hbefore (j + 1) (Nat.succ_lt_succ hj)

/-! ## Reading and adding -/

theorem counter_eq (e : Env) (key : String) :
    e.counter key =
      match e.counterEntry? key with
      | some v => Text.counter key v.raw
      | none => .ok 0 := by
  rw [counter, get?, value?_eq_counterEntry?]
  cases e.counterEntry? key <;> rfl

theorem counter_of_keptCounter? {e : Env} {key : String} {c : Int}
    (h : e.keptCounter? key = some c) : e.counter key = .ok c := by
  rw [counter_eq]
  rw [keptCounter?] at h
  cases hentry : e.counterEntry? key with
  | none =>
    rw [hentry] at h
    exact congrArg Except.ok (Option.some.inj h)
  | some v =>
    rw [hentry] at h
    simp [Text.counter, h]

/-- An entry that is no counter is named in the error. -/
theorem counter_of_not_kept {e : Env} {key : String} (h : e.keptCounter? key = none) :
    ∃ v, e.counterEntry? key = some v ∧ e.counter key = .error (.notAnInteger key v.raw) := by
  rw [keptCounter?] at h
  cases hentry : e.counterEntry? key with
  | none => simp [hentry] at h
  | some v =>
    rw [hentry] at h
    exact ⟨v, rfl, by simp [counter_eq, hentry, Text.counter, h]⟩

/-- An env with one entry put into the layer where the counter is kept. -/
def putCounter (e : Env) (key : String) (n : Int) : Env :=
  if e.has key then e.modifyNearest (·.holds key) (·.set key ⟨Text.Integer.write n, false⟩)
  else e.setCounter key n

theorem layers_putCounter (e : Env) (key : String) (n : Int) :
    (e.putCounter key n).layers =
      e.layers.modify (e.counterPlace key) (·.set key ⟨Text.Integer.write n, false⟩) := by
  rw [putCounter, has_eq_isSome_findIdx?, counterPlace]
  cases hfind : e.layers.findIdx? (·.holds key) with
  | none => rfl
  | some i =>
    rw [Option.isSome_some, if_pos rfl, layers_modifyNearest, modifyFirst_eq_modify hfind]
    rfl

theorem tally_of_fits {e : Env} {key : String} {c delta : Int} (hc : e.keptCounter? key = some c)
    (hfits : Text.Integer.fits (c + delta) = true) :
    e.tally key delta = (.ok (c + delta), e.putCounter key (c + delta)) := by
  rw [tally, addToCounter, counter_of_keptCounter? hc, putCounter]
  simp only [bind, Except.bind, hfits, if_true]
  cases e.has key <;> rfl

theorem tally_of_not_fits {e : Env} {key : String} {c delta : Int}
    (hc : e.keptCounter? key = some c) (hfits : Text.Integer.fits (c + delta) = false) :
    e.tally key delta = (.error (.overflow key delta), e) := by
  rw [tally, addToCounter, counter_of_keptCounter? hc]
  simp [bind, Except.bind, hfits]

theorem tally_of_not_kept {e : Env} {key : String} (h : e.keptCounter? key = none) (delta : Int) :
    ∃ v, e.counterEntry? key = some v ∧
      e.tally key delta = (.error (.notAnInteger key v.raw), e) := by
  obtain ⟨v, hv, hcounter⟩ := counter_of_not_kept h
  exact ⟨v, hv, by rw [tally, addToCounter, hcounter]; rfl⟩

/-! ## What changes -/

/-- A counter got a new value and nothing else changed. -/
structure Counted (before : Env) (key : String) (n : Int) (after : Env) : Prop where
  /-- The value is read from the same env. -/
  reads : after.counter key = .ok n
  /-- The layer where the counter is kept holds the decimal of the value. -/
  entry : (after.layers[before.counterPlace key]?).bind (·.get? key) = some ⟨toString n, false⟩
  /-- The layers are those from before, each of its kind. -/
  kinds : after.kinds = before.kinds
  /-- All other layers are as before, those further out that hold the key included. -/
  other_layer : ∀ i ≠ before.counterPlace key, after.layers[i]? = before.layers[i]?
  /-- All layers hold the other keys as before. -/
  other_key : ∀ q ≠ key, after.held q = before.held q

theorem map_modify_of_eq {α β : Type} {g : α → β} {f : α → α} (h : ∀ a, g (f a) = g a)
    (xs : List α) (i : Nat) : (xs.modify i f).map g = xs.map g := by
  induction xs generalizing i with
  | nil => simp
  | cons a rest ih => cases i <;> simp [h, ih]

theorem counted_putCounter (e : Env) (key : String) {n : Int} (hn : Text.Integer.fits n = true) :
    e.Counted key n (e.putCounter key n) where
  reads := by
    have hvalue : (e.putCounter key n).value? key = some ⟨Text.Integer.write n, false⟩ := by
      rw [value?, layers_putCounter]
      exact findSome?_modify (e.counterPlace_lt key)
        (fun _ hj _ hl => get?_before_counterPlace hj hl) _
    rw [counter, get?, hvalue]
    simp [Text.counter, Text.Integer.read?_write hn]
  entry := by
    have hlt := e.counterPlace_lt key
    rw [layers_putCounter, List.getElem?_modify_eq, List.getElem?_eq_getElem hlt]
    simp [Layer.get?_set, Text.Integer.write_eq_toString]
  kinds := by
    rw [kinds, layers_putCounter, kinds]
    exact map_modify_of_eq (by intro l; rfl) e.layers _
  other_layer := by
    intro i hi
    simp [layers_putCounter, Ne.symm hi]
  other_key := by
    intro q hq
    rw [held, layers_putCounter]
    exact map_modify_of_eq (fun l => by rw [Layer.get?_set, if_neg hq]) e.layers _

/-- What adding comes to: it gives the exact sum if there is one, and then changes one entry;
otherwise it says why not and changes nothing. -/
structure Tallies (e : Env) (key : String) (delta : Int) (outcome : Except EnvError Int)
    (after : Env) : Prop where
  /-- There is a sum exactly if the entry is a counter and the sum is one. -/
  ok_iff : ∀ n, outcome = .ok n ↔ ∃ c, e.keptCounter? key = some c ∧
    Text.Integer.fits (c + delta) = true ∧ n = c + delta
  counted : ∀ n, outcome = .ok n → e.Counted key n after
  /-- An entry that is no counter is named in the error. -/
  not_kept : e.keptCounter? key = none → ∃ v, e.counterEntry? key = some v ∧
    outcome = .error (.notAnInteger key v.raw) ∧ after = e
  out_of_range : ∀ c, e.keptCounter? key = some c → Text.Integer.fits (c + delta) = false →
    outcome = .error (.overflow key delta) ∧ after = e

/-- Adding is exact and atomic, in every chain and for every key. -/
theorem tally_exact (e : Env) (key : String) (delta : Int) :
    e.Tallies key delta (e.tally key delta).1 (e.tally key delta).2 := by
  cases hkept : e.keptCounter? key with
  | none =>
    obtain ⟨v, hv, htally⟩ := tally_of_not_kept hkept delta
    rw [htally]
    exact ⟨by simp [hkept], by simp, fun _ => ⟨v, hv, rfl, rfl⟩, by simp [hkept]⟩
  | some c =>
    cases hfits : Text.Integer.fits (c + delta) with
    | true =>
      rw [tally_of_fits hkept hfits]
      refine ⟨fun n => ?_, ?_, by simp [hkept], by simp [hkept, hfits]⟩
      · constructor
        · intro hn
          exact ⟨c, hkept, hfits, (Except.ok.inj hn).symm⟩
        · rintro ⟨c', hc', -, rfl⟩
          rw [Option.some.inj (hkept.symm.trans hc')]
      · intro n hn
        obtain rfl := Except.ok.inj hn
        exact e.counted_putCounter key hfits
    | false =>
      rw [tally_of_not_fits hkept hfits]
      exact ⟨by simp [hkept, hfits], by simp, by simp [hkept], fun _ _ _ => ⟨rfl, rfl⟩⟩

/-- A command in a session. The session holds a counter just below the upper limit, and hides the
counter of the defaults. -/
def countingSession : Env where
  own := .empty .command
  outer := [⟨.session, .ofList [("n", ⟨" +9223372036854775806 ", true⟩), ("m", ⟨"x", false⟩)]⟩,
    ⟨.default, .ofList [("n", ⟨"5", false⟩)]⟩]

/-- The session's counter reaches the limit, whatever blanks and sign it was written with; one more
is refused, and so is adding to a text. -/
theorem tally_exact_limit :
    countingSession.keptCounter? "n" = some 9223372036854775806 ∧
    countingSession.Counted "n" 9223372036854775807 (countingSession.tally "n" 1).2 ∧
    countingSession.tally "n" 2 = (.error (.overflow "n" 2), countingSession) ∧
    countingSession.tally "m" 0 = (.error (.notAnInteger "m" "x"), countingSession) := by
  have hkept : countingSession.keptCounter? "n" = some 9223372036854775806 := by decide
  have hnone : countingSession.keptCounter? "m" = none := by decide
  have hentry : countingSession.counterEntry? "m" = some ⟨"x", false⟩ := by decide
  obtain ⟨hover, hsame⟩ :=
    (tally_exact countingSession "n" 2).out_of_range _ hkept (by decide)
  obtain ⟨v, hv, hnot, hsame'⟩ := (tally_exact countingSession "m" 0).not_kept hnone
  obtain rfl := Option.some.inj (hentry.symm.trans hv)
  refine ⟨hkept, ?_, Prod.ext hover hsame, Prod.ext hnot hsame'⟩
  exact (tally_exact countingSession "n" 1).counted _
    (((tally_exact countingSession "n" 1).ok_iff _).2 ⟨_, hkept, by decide, rfl⟩)

end FlowScript.Env
