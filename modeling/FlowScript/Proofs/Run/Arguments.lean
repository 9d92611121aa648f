import FlowScript.Proofs.Command.Registration
import FlowScript.Proofs.Env.Writing
import FlowScript.Run.Engine

/-!
# Argument keys

The value of a parameter is looked up under the path of its command and its name. No two parameters
of commands below the root have one key (`argKey_injective`), so a value that is written for one of
them is not read for another (`get?_resolveArgs_assign`).
-/

namespace FlowScript

variable {α : Type}

namespace ArgVals

theorem find?_putPair (name value : String) (pairs : List (String × String)) (q : String) :
    ((putPair name value pairs).find? (·.1 = q)).map (·.2) =
      if q = name then some value else (pairs.find? (·.1 = q)).map (·.2) := by
  induction pairs with
  | nil =>
    by_cases hq : q = name
    · simp [putPair, hq]
    · simp [putPair, hq, Ne.symm hq]
  | cons pair rest ih =>
    obtain ⟨n, v⟩ := pair
    simp only [putPair]
    by_cases hn : n = name
    · subst hn
      by_cases hq : q = n
      · simp [hq]
      · simp [hq, Ne.symm hq]
    · by_cases hq : n = q
      · subst hq
        simp [hn]
      · simpa [hn, hq] using ih

theorem get?_insert (a : ArgVals) (name value q : String) :
    (a.insert name value).get? q = if q = name then some value else a.get? q :=
  find?_putPair name value a.pairs q

end ArgVals

namespace Engine

/-- What is passed for a parameter depends on the env under its key only. -/
theorem get?_resolveArgs_congr {x : Executable α} {path b : String} {env env' : Env}
    (h : env.get? (argKey path b) = env'.get? (argKey path b)) :
    (resolveArgs x path env).get? b = (resolveArgs x path env').get? b := by
  have hfold (params : List Param) (vals vals' : ArgVals) (hvals : vals.get? b = vals'.get? b) :
      (params.foldl (fun vals p => vals.insert p.label.name
        ((env.get? (argKey path p.label.name)).getD p.default)) vals).get? b =
      (params.foldl (fun vals p => vals.insert p.label.name
        ((env'.get? (argKey path p.label.name)).getD p.default)) vals').get? b := by
    induction params generalizing vals vals' with
    | nil => exact hvals
    | cons p rest ih =>
      apply ih
      rw [ArgVals.get?_insert, ArgVals.get?_insert, hvals]
      split
      · rename_i hb
        rw [← hb, h]
      · rfl
  exact hfold x.params _ _ rfl

end Engine

namespace CommandTree

open Engine

variable {t : CommandTree α}

namespace Declares

theorem lt_size {id : NodeId} {a : String} (h : t.Declares id a) : id.index < t.size := by
  obtain ⟨x, hx, -⟩ := h
  exact lt_size_of_executable? hx

theorem isName (hwf : t.WellFormed) {id : NodeId} {a : String} (h : t.Declares id a) :
    isName a = true := by
  obtain ⟨x, hx, hmem⟩ := h
  obtain ⟨l, hl, rfl⟩ := List.mem_map.1 hmem
  exact (hwf.params id x hx).names _ (Label.mem_allSpellings.2 ⟨l, hl, by simp [Label.spellings]⟩)

end Declares

theorem WellFormed.pathNames_ne_nil (h : t.WellFormed) {id : NodeId} (hid : id.index < t.size)
    (hne : id ≠ root) : t.pathNames id ≠ [] := by
  intro hnil
  have hfind := h.findFrom_pathNames hid
  rw [hnil] at hfind
  exact hne (Option.some.inj hfind).symm

theorem WellFormed.argKey_eq_join (h : t.WellFormed) {id : NodeId} (hid : id.index < t.size)
    (hne : id ≠ root) (a : String) :
    argKey (t.displayPath id) a = Text.join "." (t.pathNames id ++ [a]) := by
  rw [argKey, displayPath, Text.join_append_singleton (h.pathNames_ne_nil hid hne)]

/-- No two parameters of commands below the root have one key. -/
theorem WellFormed.argKey_injective (h : t.WellFormed) {m n : NodeId} {a b : String}
    (hm : m ≠ root) (hn : n ≠ root) (ha : t.Declares m a) (hb : t.Declares n b)
    (heq : argKey (t.displayPath m) a = argKey (t.displayPath n) b) : m = n ∧ a = b := by
  rw [h.argKey_eq_join ha.lt_size hm, h.argKey_eq_join hb.lt_size hn] at heq
  have hnames := join_names_injective (by simp) (by simp)
    (h.isName_pathNames_append ha.lt_size (ha.isName h))
    (h.isName_pathNames_append hb.lt_size (hb.isName h)) heq
  -- the last name is the parameter, and the names before it lead to the command
  obtain ⟨hpath, hlast⟩ := List.append_inj' hnames rfl
  refine ⟨?_, List.singleton_inj.1 hlast⟩
  have hfind := h.findFrom_pathNames ha.lt_size
  rw [hpath, h.findFrom_pathNames hb.lt_size] at hfind
  exact (Option.some.inj hfind).symm

/-- A value that is written for one parameter is not read for another. -/
theorem WellFormed.get?_resolveArgs_assign (h : t.WellFormed) {m n : NodeId} {a b : String}
    (hm : m ≠ root) (hn : n ≠ root) (ha : t.Declares m a) (hb : t.Declares n b)
    (hne : (m, a) ≠ (n, b)) (x : Executable α) (env : Env) (v : Value) :
    (resolveArgs x (t.displayPath n) (env.assign (argKey (t.displayPath m) a) v)).get? b =
      (resolveArgs x (t.displayPath n) env).get? b := by
  apply get?_resolveArgs_congr
  apply Env.get?_assign_of_ne
  intro heq
  obtain ⟨rfl, rfl⟩ := h.argKey_injective hn hm hb ha heq
  exact hne rfl

end CommandTree

end FlowScript
