import FlowScript.Host.Files

/-!
# Reading what was written

Storing an entry in place of something that is no directory leaves every way through the directories
as it was (`follow_store`). So a path that was written to leads to the same place afterwards, and the
file there holds what was written (`contents_of_writeBytes`).
-/

namespace FlowScript.Files

variable {fs fs' : Files} {spot : List String} {e : Entry}

theorem entryAt?_store (hne : spot ≠ []) : (fs.store spot e).entryAt? spot = some e := by
  simp [entryAt?, store, hne, Dict.get?_insert]

/-- Directories stay where something else is replaced. Places are told apart by their keys, so there
is nothing to show about those. -/
theorem directory_store (hplace : fs.entryAt? spot ≠ some .directory) {p : List String}
    (hp : fs.entryAt? p = some .directory) : (fs.store spot e).entryAt? p = some .directory := by
  simp only [entryAt?, List.isEmpty_iff] at hp hplace ⊢
  split
  · rfl
  · rename_i hne
    rw [if_neg hne] at hp
    have hkey : key p ≠ key spot := by
      intro hkey
      split at hplace
      · exact hplace rfl
      · exact hplace (hkey ▸ hp)
    simp [store, Dict.get?_insert, hkey, hp]

/-- The way along some parts goes through directories only, so it stays open. -/
theorem follow_store (hplace : fs.entryAt? spot ≠ some .directory) {start parts p : List String}
    (h : fs.follow start parts = .ok p) : (fs.store spot e).follow start parts = .ok p := by
  induction parts generalizing start with
  | nil => exact h
  | cons part rest ih =>
    rw [follow] at h ⊢
    cases hstart : fs.entryAt? start with
    | none => simp [hstart] at h
    | some entry =>
      cases entry with
      | directory =>
        rw [directory_store hplace hstart]
        simp only [hstart] at h ⊢
        split at h
        · rename_i hup
          rw [if_pos hup]
          exact ih h
        · rename_i hup
          rw [if_neg hup]
          split at h
          · cases h
          · rename_i hlong
            rw [if_neg hlong]
            exact ih h
      | _ => simp [hstart] at h

theorem place_store (hplace : fs.entryAt? spot ≠ some .directory) {path : String} {p : List String}
    (h : fs.place path = .ok p) : (fs.store spot e).place path = .ok p := by
  simp only [place, placeVia] at h ⊢
  split at h
  · cases h
  · rename_i hnul
    rw [if_neg hnul]
    split at h
    · cases h
    · rename_i hempty
      rw [if_neg hempty]
      split at h
      · cases h
      · rename_i hlong
        rw [if_neg hlong]
        exact follow_store hplace h

/-- The place of a file that is written to is where its path leads, and no directory. -/
theorem place_of_filePlace {path : String} (h : fs.filePlace path = .ok spot) :
    fs.place path = .ok spot ∧ fs.entryAt? spot ≠ some .directory := by
  simp only [filePlace, bind, Except.bind] at h
  split at h
  · -- a slash at the end can only mean a directory, which is refused
    split at h
    · cases h
    · split at h <;> cases h
  · split at h
    · cases h
    · rename_i p hp
      split at h
      · cases h
      · rename_i entry hentry hdir
        split at h
        · cases h
        · cases h
          exact ⟨hp, by simpa [hdir] using hentry⟩
      · rename_i hnone
        split at h
        · cases h
        · cases h
          exact ⟨hp, by simp [hnone]⟩

/-- What a path leads to is what is stored at its place. -/
theorem entryAt?_of_entry {path : String} (h : fs.place path = .ok spot)
    (he : fs.entry path = .ok e) : fs.entryAt? spot = some e := by
  simp only [entry, h, bind, Except.bind] at he
  split at he
  · cases he
  · cases he
    assumption
  · split at he
    · cases he
    · cases he
      assumption

/-- Writing stores a file, unless something that keeps nothing stands in its place. -/
theorem writeBytes_eq_ok {path : String} {contents : Text.Bytes}
    (h : fs.writeBytes path contents = .ok fs') :
    ∃ spot, fs.filePlace path = .ok spot ∧ (fs' = fs.store spot (.file contents) ∨
      fs' = fs ∧ ∀ found, fs.entryAt? spot ≠ some (.file found)) := by
  simp only [writeBytes, bind, Except.bind] at h
  split at h
  · cases h
  · rename_i spot hspot
    refine ⟨spot, hspot, ?_⟩
    cases hentry : fs.entryAt? spot with
    | none => simp_all [fill]
    | some e =>
      cases e with
      | full =>
        simp only [hentry] at h
        split at h
        · cases h
          exact .inr ⟨rfl, by simp⟩
        · cases h
      | _ => simp_all [fill]

/-- A file that was written to holds what was written. -/
theorem contents_of_writeBytes {path : String} {contents found : Text.Bytes}
    (h : fs.writeBytes path contents = .ok fs') (hfile : fs'.entry path = .ok (.file found)) :
    found = contents := by
  obtain ⟨spot, hspot, hstored⟩ := writeBytes_eq_ok h
  obtain ⟨hplace, hdir⟩ := place_of_filePlace hspot
  rcases hstored with rfl | ⟨rfl, hother⟩
  · have hne : spot ≠ [] := by
      rintro rfl
      exact hdir rfl
    have hread := entryAt?_of_entry (place_store hdir hplace) hfile
    rw [entryAt?_store hne] at hread
    cases hread
    rfl
  · exact absurd (entryAt?_of_entry hplace hfile) (hother found)

end FlowScript.Files
