import FlowScript.Command.Arena
import FlowScript.Proofs.Command.Spellings

/-!
# Tables of spellings

A table `Lists` some labels if it answers as a search of them does. Entering a name is a scan that
may stop anywhere, followed by one write after the other. It comes to what `Label.accept` says of the
labels (`Lists.run_register`), the table then lists one label more (`Lists.enter`), and a name that
is refused leaves no trace, whatever is in the table (`register_refused`).
-/

namespace FlowScript

/-! ## Steps -/

namespace Registering

variable {σ τ β γ : Type}

theorem run_bind (x : Registering σ β) (next : β → Registering σ γ) (s : σ) :
    (x >>= next).run.run s =
      match x.run.run s with
      | (.ok b, s') => (next b).run.run s'
      | (.error e, s') => (.error e, s') := by
  have hrun : (x >>= next).run.run s =
      (ExceptT.bindCont next (x.run.run s).1).run (x.run.run s).2 := rfl
  rw [hrun]
  rcases x.run.run s with ⟨_ | b, s'⟩ <;> rfl

theorem run_discard (x : Registering σ β) (s : σ) :
    (discard x).run.run s = ((x.run.run s).1.map fun _ => (), (x.run.run s).2) := by
  have hdiscard : (discard x).run.run s = (x >>= fun _ => pure ()).run.run s := rfl
  rw [hdiscard, run_bind]
  rcases x.run.run s with ⟨_ | b, s'⟩ <;> rfl

theorem run_get (s : σ) : (get : Registering σ σ).run.run s = (.ok s, s) := rfl

theorem run_on (part : σ → τ) (put : τ → σ → σ) (step : Registering τ β) (s : σ) :
    (on part put step).run.run s =
      ((step.run.run (part s)).1, put (step.run.run (part s)).2 s) := rfl

end Registering

/-! ## Searching more labels -/

theorem Label.resolve_append (labels : List Label) (l : Label) (token : String) :
    resolve (labels ++ [l]) token =
      (resolve labels token).or (if token ∈ l.spellings then some l.name else none) := by
  rw [resolve, List.find?_append, Option.map_or, resolve]
  by_cases htoken : token ∈ l.spellings <;> simp [isSpelled, htoken]

namespace SpellingTable

variable {table : SpellingTable} {labels : List Label} {use : LabelUse} {owner name : String}

/-- A table answers as a search of labels does. -/
def Lists (table : SpellingTable) (labels : List Label) : Prop :=
  ∀ token, table.get? token = Label.resolve labels token

theorem Lists.nil : Lists ∅ [] := fun _ => rfl

/-! ## Scanning -/

theorem run_scan_cons (seen : List String) (abbr : String) (rest : List String)
    (table : SpellingTable) :
    (scan use owner name seen (abbr :: rest)).run.run table =
      if isName abbr then
        match table.get? abbr with
        | some existing => (.error (.duplicateAbbr use abbr name existing owner), table)
        | none =>
          if seen.contains abbr then (.error (.duplicateAbbr use abbr name name owner), table)
          else (scan use owner name (abbr :: seen) rest).run.run table
      else (.error (.invalidName use abbr), table) := by
  rw [scan]
  split
  · rw [Registering.run_bind, Registering.run_get]
    simp only
    cases table.get? abbr with
    | some existing => rfl
    | none =>
      simp only
      split <;> rfl
  · rfl

/-- A scan writes nothing, wherever it stops. -/
theorem run_scan_snd (use : LabelUse) (owner name : String) (seen abbrs : List String)
    (table : SpellingTable) :
    ((scan use owner name seen abbrs).run.run table).2 = table := by
  induction abbrs generalizing seen with
  | nil => rfl
  | cons abbr rest ih =>
    rw [run_scan_cons]
    split
    · split
      · rfl
      · split
        · rfl
        · exact ih _
    · rfl

/-- A scan stops where the check of a label does. -/
theorem Lists.run_scan_fst (h : table.Lists labels) (seen abbrs : List String) :
    ((scan use owner name seen abbrs).run.run table).1 =
      (Label.checkAbbrs use owner labels name seen abbrs).map fun _ => abbrs.reverse ++ seen := by
  induction abbrs generalizing seen with
  | nil => rfl
  | cons abbr rest ih =>
    rw [run_scan_cons, Label.checkAbbrs, checkName, h abbr]
    by_cases hname : isName abbr = true
    · simp only [hname, if_true, bind, Except.bind]
      cases Label.resolve labels abbr with
      | some existing => rfl
      | none =>
        by_cases hseen : seen.contains abbr = true
        · simp only [hseen, if_true]
          rfl
        · simp only [hseen, Bool.false_eq_true, if_false, ih, List.reverse_cons,
            List.append_assoc, List.singleton_append]
    · simp only [hname, Bool.false_eq_true, if_false]
      rfl

/-! ## Entering a name -/

/-- Writes a name and abbreviations. -/
def enter (name : String) (abbrs : List String) (table : SpellingTable) : SpellingTable :=
  abbrs.foldl (fun table abbr => table.insert abbr name) (table.insert name name)

theorem get?_enter (name : String) (abbrs : List String) (table : SpellingTable)
    (token : String) :
    (enter name abbrs table).get? token =
      if token ∈ name :: abbrs then some name else table.get? token := by
  have hinserts (start : SpellingTable) :
      (abbrs.foldl (fun table abbr => table.insert abbr name) start).get? token =
        if token ∈ abbrs then some name else start.get? token := by
    induction abbrs generalizing start with
    | nil => simp
    | cons abbr rest ih =>
      rw [List.foldl_cons, ih, Dict.get?_insert]
      by_cases htoken : token = abbr <;> simp [htoken]
  rw [enter, hinserts, Dict.get?_insert]
  by_cases htoken : token = name <;> simp [htoken]

theorem run_register (abbrs : List String) (table : SpellingTable) :
    (register use owner name abbrs).run.run table =
      if isName name then
        match table.get? name with
        | some existing =>
          (.error (if existing = name then .duplicateName use name owner
            else .duplicateAbbr use name name existing owner), table)
        | none =>
          match (scan use owner name [] (abbrs.filter (· ≠ name))).run.run table with
          | (.ok seen, table') => (.ok (), enter name seen table')
          | (.error e, table') => (.error e, table')
      else (.error (.invalidName use name), table) := by
  rw [register]
  split
  · rw [Registering.run_bind, Registering.run_get]
    simp only
    cases table.get? name with
    | some existing =>
      simp only
      split <;> rfl
    | none =>
      simp only
      rw [Registering.run_bind]
      rcases (scan use owner name [] (abbrs.filter (· ≠ name))).run.run table with
        ⟨_ | seen, table'⟩ <;> rfl
  · rfl

/-- A name that is refused leaves the table as it was. -/
theorem register_refused {abbrs : List String} {e : RegistrationError} {table' : SpellingTable}
    (h : (register use owner name abbrs).run.run table = (.error e, table')) : table' = table := by
  have hscan := run_scan_snd use owner name [] (abbrs.filter (· ≠ name)) table
  rw [run_register] at h
  split at h
  · split at h
    · exact (Prod.mk.inj h).2.symm
    · split at h
      · cases h
      · rename_i hrun
        rw [hrun] at hscan
        exact (Prod.mk.inj h).2.symm.trans hscan
  · exact (Prod.mk.inj h).2.symm

namespace Lists

/-- A name is entered in a table exactly if its label may stand beside the labels listed there. -/
theorem run_register (h : table.Lists labels) (abbrs : List String) :
    (register use owner name abbrs).run.run table =
      match Label.accept use owner labels name abbrs with
      | .ok l => (.ok (), enter l.name l.abbrs.reverse table)
      | .error e => (.error e, table) := by
  have hscan : (scan use owner name [] (abbrs.filter (· ≠ name))).run.run table =
      ((Label.checkAbbrs use owner labels name [] (abbrs.filter (· ≠ name))).map
        fun _ => (abbrs.filter (· ≠ name)).reverse ++ [], table) :=
    Prod.ext (h.run_scan_fst _ _) (run_scan_snd ..)
  rw [SpellingTable.run_register, hscan, h name, Label.accept, checkName]
  by_cases hname : isName name = true
  · simp only [hname, if_true, bind, Except.bind]
    cases Label.resolve labels name with
    | some existing => by_cases hsame : existing = name <;> simp [hsame]
    | none =>
      simp only
      cases Label.checkAbbrs use owner labels name [] (abbrs.filter (· ≠ name)) with
      | error e => rfl
      | ok u => simp [Except.map]
  · simp [hname, bind, Except.bind]

/-- The table then lists that label too. -/
theorem enter (h : table.Lists labels) {abbrs : List String} {l : Label}
    (hl : Label.accept use owner labels name abbrs = .ok l) :
    (enter l.name l.abbrs.reverse table).Lists (labels ++ [l]) := by
  obtain ⟨-, -, hfree⟩ := Label.accept_eq_ok_iff.1 hl
  intro token
  have hspelled : token ∈ l.name :: l.abbrs.reverse ↔ token ∈ l.spellings := by
    simp [Label.spellings]
  rw [get?_enter, h token, Label.resolve_append]
  by_cases htoken : token ∈ l.spellings
  · rw [if_pos (hspelled.2 htoken), if_pos htoken,
      Label.resolve_eq_none_iff.2 (hfree token htoken).2, Option.none_or]
  · rw [if_neg (mt hspelled.1 htoken), if_neg htoken, Option.or_none]

end Lists

end SpellingTable

end FlowScript
