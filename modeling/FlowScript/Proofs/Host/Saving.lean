import FlowScript.Builtin.Action
import FlowScript.Proofs.Host.Stores
import FlowScript.Proofs.Text.Encoding
import FlowScript.Proofs.Toml.Tables

/-!
# Later runs see what was saved

Saving copies the texts of the session over those that were saved before and writes them all to a
file. Loading that file gives back the same texts (`load_of_save`), so a later session that starts
with them sees under every key what the old one saw, keys of the run itself aside
(`saveEnv_seen_later`).
-/

namespace FlowScript

/-! ## Texts without marks -/

/-- Values with some texts, none of them marked as an argument. -/
def unmarked (entries : List (String × String)) : List (String × Value) :=
  entries.map fun e => (e.1, ⟨e.2, false⟩)

/-- What is put in under a key is seen there. -/
theorem get?_insertAll_unmarked {entries : List (String × String)}
    (h : entries.Pairwise fun a b => a.1 ≠ b.1) (d : Dict Value) (key : String) :
    ((d.insertAll (unmarked entries)).get? key).map (·.raw) =
      (Dict.findEntry key entries).or ((d.get? key).map (·.raw)) := by
  have hvalues : (unmarked entries).Pairwise fun a b => a.1 ≠ b.1 := List.pairwise_map.2 h
  have hfind : Dict.findEntry key (unmarked entries) =
      (Dict.findEntry key entries).map fun raw => ⟨raw, false⟩ :=
    Dict.findEntry_map (fun raw => (⟨raw, false⟩ : Value)) entries key
  rw [Dict.get?_insertAll hvalues, hfind]
  cases Dict.findEntry key entries <;> rfl

theorem Env.foldl_set (entries : List (String × String)) (e : Env) :
    entries.foldl (fun e (key, value) => e.set key value) e =
      { e with own := { e.own with values := e.own.values.insertAll (unmarked entries) } } := by
  induction entries generalizing e with
  | nil => rfl
  | cons entry rest ih =>
    rw [List.foldl_cons, ih]
    rfl

/-! ## Files -/

namespace Saved

theorem save_eq_ok {files files' : Files} {path : String} {l : Layer} {count : Nat}
    (h : save files path l = (.ok count, files')) :
    count = l.values.size ∧
      ∃ made : Files, made.writeBytes path (Text.bytes (write l.texts)) = .ok files' := by
  simp only [save] at h
  split at h
  · cases h
  · rename_i made hmade
    split at h
    · cases h
    · rename_i written hwritten
      cases h
      exact ⟨rfl, made, hwritten⟩

/-- The file that a layer was saved to gives back its texts, and as many as were saved. -/
theorem load_of_save {files files' : Files} {path : String} {l : Layer} {count : Nat}
    (h : save files path l = (.ok count, files')) {found : Text.Bytes}
    (hfile : files'.entry path = .ok (.file found)) (e : Env) :
    load files' path e = .ok (count, { e with own :=
      { e.own with values := e.own.values.insertAll (unmarked l.texts.entries) } }) := by
  obtain ⟨rfl, made, hwritten⟩ := save_eq_ok h
  obtain rfl := Files.contents_of_writeBytes hwritten hfile
  have hcontains : files'.contains path = true := by
    rw [Files.contains, hfile]
  have htext : files'.readText path = .ok (write l.texts) := by
    simp [Files.readText, Files.readBytes, hfile, bind, Except.bind]
  have hsize : l.texts.size = l.values.size := by
    simp [Layer.texts, Dict.size, Dict.map]
  rw [load, if_pos hcontains, htext]
  simp only [read?_write, Env.foldl_set, hsize]

end Saved

/-! ## Chains -/

/-- The values of the layers that a command sees. -/
structure Scopes where
  default : Dict Value
  persisted : Dict Value
  session : Dict Value
  command : Dict Value

namespace Scopes

/-- The session, inside the saved values and the defaults. -/
def sessionEnv (s : Scopes) : Env :=
  ⟨⟨.session, s.session⟩, [⟨.persisted, s.persisted⟩, ⟨.default, s.default⟩]⟩

/-- The env of the command, inside the session. -/
def env (s : Scopes) : Env :=
  ⟨⟨.command, s.command⟩, s.sessionEnv.layers⟩

/-- The texts of the session that are saved. -/
def toKeep (s : Scopes) : List (String × String) :=
  (s.session.map Value.raw).entries.filter fun e => !Builtin.isReserved e.1

/-- The values after these texts were copied to the saved ones. -/
def kept (s : Scopes) : Scopes :=
  { s with persisted := s.persisted.insertAll (unmarked s.toKeep) }

theorem get?_sessionEnv (s : Scopes) (key : String) :
    s.sessionEnv.get? key = ((s.session.get? key).map (·.raw)).or
      (((s.persisted.get? key).map (·.raw)).or ((s.default.get? key).map (·.raw))) := by
  simp only [Env.get?, Env.value?, Env.layers, sessionEnv, List.findSome?_cons, Layer.get?]
  cases s.session.get? key <;> cases s.persisted.get? key <;> cases s.default.get? key <;> rfl

theorem setIn_env (s : Scopes) (key raw : String) :
    s.env.setIn .persisted key raw =
      env { s with persisted := s.persisted.insert key ⟨raw, false⟩ } := rfl

/-- Copying the session to the saved values changes nothing else. -/
theorem keep_env (s : Scopes) : Builtin.keep (s.session.map Value.raw) s.env = s.kept.env := by
  rw [Builtin.keep, kept, toKeep]
  generalize (s.session.map Value.raw).entries = entries
  induction entries generalizing s with
  | nil => rfl
  | cons entry rest ih =>
    rw [List.foldl_cons]
    by_cases hreserved : Builtin.isReserved entry.1
    · simp only [hreserved, if_true]
      rw [ih]
      simp [hreserved]
    · simp only [hreserved, Bool.false_eq_true, if_false]
      rw [setIn_env, ih]
      simp [hreserved, unmarked, Dict.insertAll]

theorem findEntry_toKeep (s : Scopes) (key : String) :
    Dict.findEntry key s.toKeep =
      if Builtin.isReserved key then none else (s.session.get? key).map (·.raw) := by
  have htexts : Dict.findEntry key (s.session.map Value.raw).entries =
      (s.session.get? key).map (·.raw) := Dict.get?_map s.session Value.raw key
  rw [toKeep, Dict.findEntry_filter_key (fun key => !Builtin.isReserved key), htexts]
  cases Builtin.isReserved key <;> rfl

/-- After the copy the texts of the session stand before those that were saved already. -/
theorem get?_kept (s : Scopes) {key : String} (hkey : Builtin.isReserved key = false) :
    (s.kept.persisted.get? key).map (·.raw) =
      ((s.session.get? key).map (·.raw)).or ((s.persisted.get? key).map (·.raw)) := by
  have hdistinct : s.toKeep.Pairwise fun a b => a.1 ≠ b.1 :=
    (Dict.entries_pairwise_ne _).sublist List.filter_sublist
  rw [kept, get?_insertAll_unmarked hdistinct, findEntry_toKeep, hkey]
  rfl

theorem get?_sessionEnv_kept (s : Scopes) {key : String} (hkey : Builtin.isReserved key = false) :
    s.kept.sessionEnv.get? key = s.sessionEnv.get? key := by
  have hsession : s.kept.session = s.session := rfl
  have hdefault : s.kept.default = s.default := rfl
  rw [get?_sessionEnv, get?_sessionEnv, hsession, hdefault, s.get?_kept hkey]
  cases s.session.get? key <;> simp

/-- A session without values of its own that starts with the texts that were saved. -/
def reloaded (s : Scopes) : Scopes where
  default := s.default
  persisted := Dict.empty.insertAll (unmarked (s.kept.persisted.map Value.raw).entries)
  session := ∅
  command := ∅

/-- It sees what the old session saw. -/
theorem get?_reloaded (s : Scopes) {key : String} (hkey : Builtin.isReserved key = false) :
    s.reloaded.sessionEnv.get? key = s.sessionEnv.get? key := by
  have hsaved : (s.reloaded.persisted.get? key).map (·.raw) =
      ((s.session.get? key).map (·.raw)).or ((s.persisted.get? key).map (·.raw)) := by
    rw [reloaded, get?_insertAll_unmarked (Dict.entries_pairwise_ne _), Dict.get?_empty,
      Option.map_none, Option.or_none, ← s.get?_kept hkey]
    exact Dict.get?_map s.kept.persisted Value.raw key
  have hempty : s.reloaded.session.get? key = none := rfl
  rw [get?_sessionEnv, get?_sessionEnv, hempty, hsaved, Option.map_none, Option.none_or,
    Option.or_assoc]
  rfl

end Scopes

namespace Builtin

/-- The line that is shown after saving a number of values. -/
def savedLine (w : World) (count : Nat) (target : String) : String :=
  let count := Text.Integer.write count
  s!"Saved {count} key(s) to " ++ w.paint .green target

/-- What saving does when it succeeds. -/
theorem saveEnv_eq_ok {s : Scopes} {w w' : World} {env' : Env}
    (h : saveEnv (s.env, w) = (.ok true, env', w')) :
    env' = s.kept.env ∧ ∃ target count files,
      s.env.get? envFileKey = some target ∧
      Saved.save w.files target ⟨.persisted, s.kept.persisted⟩ = (.ok count, files) ∧
      w' = World.putLine { w with files := files } (savedLine w count target) := by
  have hsession : s.env.nearest? .session = some s.sessionEnv := rfl
  have hpersisted : s.env.nearest? .persisted =
      some ⟨⟨.persisted, s.persisted⟩, [⟨.default, s.default⟩]⟩ := rfl
  have hkept : s.kept.env.nearest? .persisted =
      some ⟨⟨.persisted, s.kept.persisted⟩, [⟨.default, s.default⟩]⟩ := rfl
  have hkeep : keep s.sessionEnv.own.texts s.env = s.kept.env := s.keep_env
  simp only [saveEnv, hsession, hpersisted] at h
  cases htarget : s.env.get? envFileKey with
  | none => simp [htarget, refuse] at h
  | some target =>
    simp only [htarget, hkeep, hkept, Option.getD_some] at h
    rcases hsave : Saved.save w.files target ⟨.persisted, s.kept.persisted⟩ with ⟨_ | count, files⟩
    · simp [hsave] at h
    · simp only [hsave, Prod.mk.injEq, true_and] at h
      obtain ⟨rfl, rfl⟩ := h
      exact ⟨rfl, target, count, files, rfl, hsave, rfl⟩

/-- Saving makes later runs see the session. A session without values of its own that starts with
the same defaults and with what is loaded from the file sees under every key what the old one saw
and still sees, reserved keys aside, and as many values are loaded as were reported to be saved. The
path has to lead to a file afterwards: devices keep nothing of what is written to them. -/
theorem saveEnv_seen_later {s : Scopes} {w w' : World} {args : ArgVals} {env' : Env}
    (h : act .envSave args (s.env, w) = (.ok true, env', w')) {target : String}
    (htarget : s.env.get? envFileKey = some target) {found : Text.Bytes}
    (hfile : w'.files.entry target = .ok (.file found)) :
    ∃ count saved,
      Saved.save w.files target ⟨.persisted, s.kept.persisted⟩ = (.ok count, w'.files) ∧
      w' = World.putLine { w with files := w'.files } (savedLine w count target) ∧
      Saved.load w'.files target ⟨.empty .persisted, [⟨.default, s.default⟩]⟩ =
        .ok (count, saved) ∧
      ∀ key, ¬ "sys.".toList <+: key.toList →
        (saved.push .session).get? key = s.sessionEnv.get? key ∧
        env'.parent?.bind (·.get? key) = s.sessionEnv.get? key := by
  obtain ⟨rfl, target', count, files, htarget', hsave, rfl⟩ := saveEnv_eq_ok h
  obtain rfl : target' = target := Option.some.inj (htarget'.symm.trans htarget)
  refine ⟨count, _, hsave, rfl, Saved.load_of_save hsave hfile _, fun key hkey => ?_⟩
  have hreserved : isReserved key = false := by
    rw [← Bool.not_eq_true, isReserved, List.isPrefixOf_iff_prefix]
    exact hkey
  exact ⟨s.get?_reloaded hreserved, s.get?_sessionEnv_kept hreserved⟩

/-- Values with an empty key, a key and texts full of quotes and control characters, and keys that
more than one layer holds. -/
def crowdedScopes : Scopes where
  default := .ofList [("color", ⟨"red", false⟩), ("size", ⟨"1", false⟩)]
  persisted := .ofList [("color", ⟨"blue", false⟩), ("a.b", ⟨"old", true⟩)]
  session := .ofList [("a.b", ⟨"it's \"\"\"\"\n\r\t\\", true⟩), ("", ⟨"", false⟩),
    ("\"'\n", ⟨"'''", false⟩), (envFileKey, ⟨"/d/env.toml", false⟩)]
  command := .ofList [("color", ⟨"green", true⟩)]

/-- A world without files. -/
def emptyWorld : World := ⟨.empty, ∅, "/", false, []⟩

/-- Four values are saved and loaded again. Of those that the session did not set, the saved one
counts before the default. -/
theorem saveEnv_seen_later_crowded :
    ∃ env' w' saved,
      act .envSave .empty (crowdedScopes.env, emptyWorld) = (.ok true, env', w') ∧
      Saved.load w'.files "/d/env.toml"
        ⟨.empty .persisted, [⟨.default, crowdedScopes.default⟩]⟩ = .ok (4, saved) ∧
      ["a.b", "", "\"'\n", "color", "size", "none"].map (saved.push .session).get? =
        [some "it's \"\"\"\"\n\r\t\\", some "", some "'''", some "blue", some "1", none] := by
  have hok : (act .envSave .empty (crowdedScopes.env, emptyWorld)).1.toOption = some true := by
    decide +kernel
  have hfile : ((act .envSave .empty (crowdedScopes.env, emptyWorld)).2.2.files.entry
      "/d/env.toml").toOption = some (.file (Text.bytes (Saved.write
        (Layer.mk .persisted crowdedScopes.kept.persisted).texts))) := by
    decide +kernel
  have hcount : (Saved.save emptyWorld.files "/d/env.toml"
      ⟨.persisted, crowdedScopes.kept.persisted⟩).1.toOption = some 4 := by
    decide +kernel
  have htarget : crowdedScopes.env.get? envFileKey = some "/d/env.toml" := by decide +kernel
  rcases h : act .envSave .empty (crowdedScopes.env, emptyWorld) with ⟨_ | ok, env', w'⟩
  · simp [h, Except.toOption] at hok
  · obtain rfl : ok = true := by simpa [h, Except.toOption] using hok
    rw [h] at hfile
    rcases hentry : w'.files.entry "/d/env.toml" with _ | entry
    · simp [hentry, Except.toOption] at hfile
    · obtain rfl := Option.some.inj ((congrArg Except.toOption hentry).symm.trans hfile)
      obtain ⟨count, saved, hsave, -, hload, hseen⟩ := saveEnv_seen_later h htarget hentry
      obtain rfl : count = 4 := by simpa [hsave, Except.toOption] using hcount
      have hplain : ∀ key ∈ ["a.b", "", "\"'\n", "color", "size", "none"],
          ¬ "sys.".toList <+: key.toList := by
        decide +kernel
      refine ⟨env', w', saved, rfl, hload, ?_⟩
      rw [List.map_congr_left fun key hkey => (hseen key (hplain key hkey)).1]
      decide +kernel

end Builtin

end FlowScript
