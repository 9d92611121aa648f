import FlowScript.Dict

/-!
# Where entries come from

An entry of a dictionary that was filled from lists is an entry of one of these lists, so what holds
of all that was put in holds of all that is in it. If no key stands twice in a list, all of its
entries are found, and their order does not count (`ofList_perm`). Otherwise the last one counts, as
it does where dictionaries are merged (`get?_foldl_merge`).
-/

namespace FlowScript.Dict

variable {β : Type} {d : Dict β} {e : String × β}

theorem mem_entries_insert {k : String} {v : β} (h : e ∈ (d.insert k v).entries) :
    e = (k, v) ∨ e ∈ d.entries :=
  mem_putEntry h

theorem mem_entries_insertAll {entries : List (String × β)}
    (h : e ∈ (d.insertAll entries).entries) : e ∈ entries ∨ e ∈ d.entries := by
  induction entries generalizing d with
  | nil => exact .inr h
  | cons entry rest ih =>
    rcases ih h with hrest | hd
    · exact .inl (List.mem_cons_of_mem _ hrest)
    · rcases mem_entries_insert hd with rfl | hd
      · exact .inl (by simp)
      · exact .inr hd

theorem mem_entries_ofList {entries : List (String × β)} (h : e ∈ (ofList entries).entries) :
    e ∈ entries := by
  rcases mem_entries_insertAll h with h | h
  · exact h
  · simp [empty] at h

theorem mem_entries_merge {d' : Dict β} (h : e ∈ (d.merge d').entries) :
    e ∈ d'.entries ∨ e ∈ d.entries :=
  mem_entries_insertAll h

theorem mem_of_findEntry {k : String} {v : β} {l : List (String × β)} (h : findEntry k l = some v) :
    (k, v) ∈ l := by
  induction l with
  | nil => simp [findEntry] at h
  | cons entry rest ih =>
    rw [findEntry] at h
    split at h
    · rename_i hk
      cases h
      simp [hk]
    · exact List.mem_cons_of_mem _ (ih h)

/-- Where no key stands twice, the entries are what is found. -/
theorem findEntry_eq_some_iff {l : List (String × β)} (h : l.Pairwise fun a b => a.1 ≠ b.1)
    {k : String} {v : β} : findEntry k l = some v ↔ (k, v) ∈ l := by
  refine ⟨mem_of_findEntry, fun hmem => ?_⟩
  induction l with
  | nil => simp at hmem
  | cons entry rest ih =>
    obtain ⟨hne, hrest⟩ := List.pairwise_cons.1 h
    rw [findEntry]
    rcases List.mem_cons.1 hmem with rfl | hmem
    · simp
    · rw [if_neg fun hk : k = entry.1 => hne _ hmem hk.symm]
      exact ih hrest hmem

/-- No entry stands under a key that is not found. -/
theorem key_ne_of_get? {k : String} (h : d.get? k = none) : ∀ e ∈ d.entries, e.1 ≠ k := by
  have hfind (l : List (String × β)) (hl : findEntry k l = none) : ∀ e ∈ l, e.1 ≠ k := by
    induction l with
    | nil => simp
    | cons entry rest ih =>
      rw [findEntry] at hl
      split at hl
      · cases hl
      · rename_i hne
        exact List.forall_mem_cons.2 ⟨Ne.symm hne, ih hl⟩
  exact hfind d.entries h

theorem entries_pairwise_ne (d : Dict β) : d.entries.Pairwise fun a b => a.1 ≠ b.1 := by
  refine d.sorted.imp ?_
  intro a b hlt heq
  exact String.lt_irrefl _ (heq ▸ hlt)

/-- Where no key stands twice, what is put in is found under its key and all else is as before. -/
theorem get?_insertAll {entries : List (String × β)}
    (h : entries.Pairwise fun a b => a.1 ≠ b.1) (d : Dict β) (q : String) :
    (d.insertAll entries).get? q = (findEntry q entries).or (d.get? q) := by
  induction entries generalizing d with
  | nil => rfl
  | cons e rest ih =>
    obtain ⟨hne, hrest⟩ := List.pairwise_cons.1 h
    have hstep : d.insertAll (e :: rest) = (d.insert e.1 e.2).insertAll rest := rfl
    rw [hstep, ih hrest, get?_insert, findEntry]
    by_cases hq : q = e.1
    · have hnone : findEntry q rest = none := by
        cases hfind : findEntry q rest with
        | none => rfl
        | some v => exact absurd hq.symm (hne _ (mem_of_findEntry hfind))
      simp [hq, hq ▸ hnone]
    · simp [hq]

theorem get?_merge (d d' : Dict β) (q : String) :
    (d.merge d').get? q = (d'.get? q).or (d.get? q) :=
  get?_insertAll d'.entries_pairwise_ne d q

theorem mem_entries_iff {k : String} {v : β} : (k, v) ∈ d.entries ↔ d.get? k = some v :=
  (findEntry_eq_some_iff d.entries_pairwise_ne).symm

/-- Where no key stands twice, all entries of a list are found. -/
theorem get?_ofList_iff {l : List (String × β)} (h : l.Pairwise fun a b => a.1 ≠ b.1)
    {k : String} {v : β} : (ofList l).get? k = some v ↔ (k, v) ∈ l := by
  rw [ofList, get?_insertAll h, get?_empty, Option.or_none, findEntry_eq_some_iff h]

/-- Then their order does not count. -/
theorem ofList_perm {l m : List (String × β)} (hperm : l.Perm m)
    (h : l.Pairwise fun a b => a.1 ≠ b.1) : ofList l = ofList m := by
  have hm : m.Pairwise fun a b => a.1 ≠ b.1 := h.perm hperm fun hab => Ne.symm hab
  apply ext_get?
  intro k
  apply Option.ext
  intro v
  rw [get?_ofList_iff h, get?_ofList_iff hm, hperm.mem_iff]

theorem findEntry_filter_key (p : String → Bool) (l : List (String × β)) (q : String) :
    findEntry q (l.filter fun e => p e.1) = if p q then findEntry q l else none := by
  induction l with
  | nil => simp [findEntry]
  | cons e rest ih => by_cases hp : p e.1 <;> by_cases hq : q = e.1 <;> simp_all [findEntry]

/-- A dictionary is that of its entries. -/
@[simp] theorem ofList_entries (d : Dict β) : ofList d.entries = d := by
  apply ext_get?
  intro k
  rw [ofList, get?_insertAll d.entries_pairwise_ne, get?_empty, Option.or_none]
  rfl

/-! ## Later entries count -/

theorem ofList_concat (l : List (String × β)) (e : String × β) :
    ofList (l ++ [e]) = (ofList l).insert e.1 e.2 :=
  List.foldl_append

/-- Of dictionaries that are merged in order, the last one with a key counts. -/
theorem get?_foldl_merge (ds : List (Dict β)) (d : Dict β) (q : String) :
    (ds.foldl merge d).get? q = (ds.reverse.findSome? (·.get? q)).or (d.get? q) := by
  induction ds generalizing d with
  | nil => rfl
  | cons d' rest ih =>
    rw [List.foldl_cons, ih, get?_merge, List.reverse_cons, List.findSome?_append, Option.or_assoc]
    cases hq : d'.get? q <;> simp [hq]

end FlowScript.Dict
