/-!
# Dictionaries in key order

A dictionary holds at most one value for each key and lists its entries by ascending key. The order
is part of the type: two dictionaries that answer every look-up alike are equal (`Dict.ext_get?`).
-/

namespace FlowScript

/-- Values under text keys, listed by ascending key. -/
structure Dict (β : Type) where
  entries : List (String × β)
  sorted : entries.Pairwise fun a b => a.1 < b.1
deriving DecidableEq

namespace Dict

variable {β γ : Type}

/-! ## Entry lists -/

/-- Puts a value under a key, in place of the one that was there. -/
def putEntry (k : String) (v : β) : List (String × β) → List (String × β)
  | [] => [(k, v)]
  | (k', v') :: rest =>
    if k < k' then (k, v) :: (k', v') :: rest
    else if k = k' then (k, v) :: rest
    else (k', v') :: putEntry k v rest

/-- The value of the first entry with a key. -/
def findEntry (k : String) : List (String × β) → Option β
  | [] => none
  | (k', v) :: rest => if k = k' then some v else findEntry k rest

theorem mem_putEntry {k : String} {v : β} {e : String × β} {l : List (String × β)}
    (h : e ∈ putEntry k v l) : e = (k, v) ∨ e ∈ l := by
  induction l with
  | nil => simpa [putEntry] using h
  | cons hd tl ih =>
    obtain ⟨k', v'⟩ := hd
    simp only [putEntry] at h
    split at h
    · simpa using h
    · split at h
      · simp only [List.mem_cons] at h ⊢
        rcases h with h | h
        · exact .inl h
        · exact .inr (.inr h)
      · simp only [List.mem_cons] at h ⊢
        rcases h with h | h
        · exact .inr (.inl h)
        · rcases ih h with h | h
          · exact .inl h
          · exact .inr (.inr h)

theorem sorted_putEntry (k : String) (v : β) {l : List (String × β)}
    (h : l.Pairwise fun a b => a.1 < b.1) :
    (putEntry k v l).Pairwise fun a b => a.1 < b.1 := by
  induction l with
  | nil => simp [putEntry]
  | cons hd tl ih =>
    obtain ⟨k', v'⟩ := hd
    rw [List.pairwise_cons] at h
    simp only [putEntry]
    split
    · rename_i hlt
      refine List.pairwise_cons.2 ⟨?_, List.pairwise_cons.2 h⟩
      intro e he
      rcases List.mem_cons.1 he with rfl | he
      · exact hlt
      · exact String.lt_trans hlt (h.1 e he)
    · split
      · rename_i heq
        subst heq
        exact List.pairwise_cons.2 h
      · rename_i hnlt hne
        refine List.pairwise_cons.2 ⟨?_, ih h.2⟩
        intro e he
        rcases mem_putEntry he with rfl | he
        · exact Std.lt_of_le_of_ne (String.not_lt.1 hnlt) (Ne.symm hne)
        · exact h.1 e he

theorem findEntry_putEntry (k : String) (v : β) (l : List (String × β)) (q : String) :
    findEntry q (putEntry k v l) = if q = k then some v else findEntry q l := by
  induction l with
  | nil => simp [putEntry, findEntry]
  | cons hd tl ih =>
    obtain ⟨k', v'⟩ := hd
    simp only [putEntry]
    split
    · simp [findEntry]
    · split
      · rename_i heq
        subst heq
        simp only [findEntry]
        split <;> simp_all
      · rename_i hne
        simp only [findEntry, ih]
        by_cases hq : q = k'
        · subst hq
          simp [Ne.symm hne]
        · simp [hq]

/-! ## Operations -/

/-- The dictionary without entries. -/
def empty : Dict β where
  entries := []
  sorted := List.Pairwise.nil

instance : EmptyCollection (Dict β) := ⟨empty⟩

instance : Inhabited (Dict β) := ⟨empty⟩

/-- The value under a key. -/
def get? (d : Dict β) (k : String) : Option β :=
  findEntry k d.entries

/-- Whether there is a value under a key. -/
def contains (d : Dict β) (k : String) : Bool :=
  (d.get? k).isSome

/-- Puts a value under a key, in place of the one that was there. -/
def insert (d : Dict β) (k : String) (v : β) : Dict β where
  entries := putEntry k v d.entries
  sorted := sorted_putEntry k v d.sorted

/-- Removes the value under a key. -/
def erase (d : Dict β) (k : String) : Dict β where
  entries := d.entries.filter fun e => e.1 ≠ k
  sorted := d.sorted.sublist List.filter_sublist

/-- Applies a function to every value. -/
def map (d : Dict β) (f : β → γ) : Dict γ where
  entries := d.entries.map fun e => (e.1, f e.2)
  sorted := List.pairwise_map.2 d.sorted

/-- Inserts entries in order, so the last one for a key stays. -/
def insertAll (d : Dict β) (entries : List (String × β)) : Dict β :=
  entries.foldl (fun d e => d.insert e.1 e.2) d

/-- The dictionary of a list of entries, the last one for a key counting. -/
def ofList (entries : List (String × β)) : Dict β :=
  empty.insertAll entries

/-- Both dictionaries in one; where both have a key the second one's value counts. -/
def merge (d e : Dict β) : Dict β :=
  d.insertAll e.entries

/-- The number of entries. -/
def size (d : Dict β) : Nat :=
  d.entries.length

/-- Whether there is no entry. -/
def isEmpty (d : Dict β) : Bool :=
  d.entries.isEmpty

/-! ## Look-ups -/

@[simp] theorem get?_empty (k : String) : (empty : Dict β).get? k = none := rfl

/-- After an insertion the new value stands under its key and all else is as before. -/
theorem get?_insert (d : Dict β) (k : String) (v : β) (q : String) :
    (d.insert k v).get? q = if q = k then some v else d.get? q :=
  findEntry_putEntry k v d.entries q

theorem findEntry_filter_ne (k : String) (l : List (String × β)) (q : String) :
    findEntry q (l.filter fun e => e.1 ≠ k) = if q = k then none else findEntry q l := by
  induction l with
  | nil => simp [findEntry]
  | cons hd tl ih =>
    obtain ⟨k', v⟩ := hd
    by_cases hk : k' = k <;> by_cases hq : q = k' <;> simp_all [findEntry]

/-- After a removal nothing stands under the key and all else is as before. -/
theorem get?_erase (d : Dict β) (k : String) (q : String) :
    (d.erase k).get? q = if q = k then none else d.get? q :=
  findEntry_filter_ne k d.entries q

theorem findEntry_map (f : β → γ) (l : List (String × β)) (q : String) :
    findEntry q (l.map fun e => (e.1, f e.2)) = (findEntry q l).map f := by
  induction l with
  | nil => rfl
  | cons hd tl ih =>
    obtain ⟨k, v⟩ := hd
    simp only [List.map_cons, findEntry]
    split <;> simp_all

@[simp] theorem get?_map (d : Dict β) (f : β → γ) (q : String) :
    (d.map f).get? q = (d.get? q).map f :=
  findEntry_map f d.entries q

theorem findEntry_eq_none_of_lt {k : String} {l : List (String × β)}
    (h : ∀ e ∈ l, k < e.1) : findEntry k l = none := by
  induction l with
  | nil => rfl
  | cons hd tl ih =>
    have hlt := h hd (by simp)
    have hne : k ≠ hd.1 := fun he => String.lt_irrefl _ (he ▸ hlt)
    simp only [findEntry, if_neg hne]
    exact ih fun e he => h e (by simp [he])

theorem eq_of_findEntry {l m : List (String × β)} (hl : l.Pairwise fun a b => a.1 < b.1)
    (hm : m.Pairwise fun a b => a.1 < b.1) (h : ∀ k, findEntry k l = findEntry k m) : l = m := by
  induction l generalizing m with
  | nil =>
    cases m with
    | nil => rfl
    | cons b m => simpa [findEntry] using h b.1
  | cons a l ih =>
    cases m with
    | nil => simpa [findEntry] using h a.1
    | cons b m =>
      rw [List.pairwise_cons] at hl hm
      have hkey : a.1 = b.1 := by
        apply Classical.byContradiction
        intro hne
        by_cases hlt : a.1 < b.1
        · have hb : findEntry a.1 (b :: m) = none := by
            apply findEntry_eq_none_of_lt
            intro e he
            rcases List.mem_cons.1 he with rfl | he
            · exact hlt
            · exact String.lt_trans hlt (hm.1 e he)
          have := h a.1
          rw [hb] at this
          simp [findEntry] at this
        · have hlt : b.1 < a.1 := Std.lt_of_le_of_ne (String.not_lt.1 hlt) (Ne.symm hne)
          have ha : findEntry b.1 (a :: l) = none := by
            apply findEntry_eq_none_of_lt
            intro e he
            rcases List.mem_cons.1 he with rfl | he
            · exact hlt
            · exact String.lt_trans hlt (hl.1 e he)
          have := h b.1
          rw [ha] at this
          simp [findEntry] at this
      have hval : a.2 = b.2 := by
        have := h a.1
        simpa [findEntry, hkey] using this
      have hab : a = b := Prod.ext hkey hval
      subst hab
      congr 1
      apply ih hl.2 hm.2
      intro k
      by_cases hk : k = a.1
      · subst hk
        rw [findEntry_eq_none_of_lt hl.1, findEntry_eq_none_of_lt hm.1]
      · have := h k
        simpa [findEntry, hk] using this

/-- Dictionaries with equal look-ups are equal. -/
theorem ext_get? {d e : Dict β} (h : ∀ k, d.get? k = e.get? k) : d = e := by
  obtain ⟨l, hl⟩ := d
  obtain ⟨m, hm⟩ := e
  have : l = m := eq_of_findEntry hl hm h
  subst this
  rfl

end Dict

end FlowScript
