import FlowScript.Env.Assignments

/-!
# What a write leaves alone

Writing an assignment touches one key only, whether it sets a value or erases one: every other key
is seen as before (`get?_assign_of_ne`).
-/

namespace FlowScript

namespace Layer

theorem get?_set (l : Layer) (key : String) (v : Value) (q : String) :
    (l.set key v).get? q = if q = key then some v else l.get? q :=
  Dict.get?_insert ..

theorem get?_erase (l : Layer) (key q : String) :
    (l.erase key).get? q = if q = key then none else l.get? q :=
  Dict.get?_erase ..

end Layer

namespace Env

theorem layers_modifyNearest (e : Env) (p : Layer → Bool) (f : Layer → Layer) :
    (e.modifyNearest p f).layers = modifyFirst p f e.layers := by
  simp only [modifyNearest, layers, modifyFirst]
  split <;> rfl

theorem findSome?_modifyFirst {p : Layer → Bool} {f : Layer → Layer} {key : String}
    (hf : ∀ l, (f l).get? key = l.get? key) (ls : List Layer) :
    (modifyFirst p f ls).findSome? (·.get? key) = ls.findSome? (·.get? key) := by
  induction ls with
  | nil => rfl
  | cons l rest ih =>
    simp only [modifyFirst]
    split <;> simp [List.findSome?_cons, hf, ih]

/-- Changing a layer in other keys does not change what is seen under a key. -/
theorem get?_modifyNearest {e : Env} {p : Layer → Bool} {f : Layer → Layer} {key : String}
    (hf : ∀ l, (f l).get? key = l.get? key) : (e.modifyNearest p f).get? key = e.get? key := by
  rw [get?, value?, layers_modifyNearest, findSome?_modifyFirst hf, get?, value?]

/-- An assignment to one key is not seen under another. -/
theorem get?_assign_of_ne {e : Env} {key q : String} {v : Value} (hne : q ≠ key) :
    (e.assign key v).get? q = e.get? q := by
  have hset (l : Layer) : (l.set key v).get? q = l.get? q := by simp [Layer.get?_set, hne]
  have herase (l : Layer) : (l.erase key).get? q = l.get? q := by simp [Layer.get?_erase, hne]
  rw [assign]
  split
  · simp [get?, value?, setValue, layers, List.findSome?_cons, hset]
  · exact get?_modifyNearest herase
  · simp [get?, value?, erase, layers, List.findSome?_cons, herase, List.findSome?_map,
      Function.comp_def]

end Env

end FlowScript
