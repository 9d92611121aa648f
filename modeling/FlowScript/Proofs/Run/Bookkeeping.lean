import FlowScript.Builtin.Handlers
import FlowScript.Proofs.Command.Registration
import FlowScript.Proofs.Env.Kinds
import FlowScript.Proofs.Host.Saving
import FlowScript.Proofs.Programs.Forwarding
import FlowScript.Proofs.Run.Traces
import FlowScript.Proofs.Script.Flows

/-!
# Reserved keys in saved files

Saving copies no reserved key to the persisted layer, but it writes all that the layer holds, and a
record of a command line may have put a reserved key there. That is the only way: over any requests,
a reserved key in a saved file comes from a record that an earlier command line wrote to the
persisted layer, if the layer had none at the start (`saved_reserved_of_record`). Such a key is
saved (`reserved_key_saved`). What programs do is left open; all that counts is that command lines
change the env by records (`Programs.ActByRecords`), as they do whatever programs are run.
-/

namespace FlowScript

open Engine

/-! ## Saving -/

namespace Builtin

/-- The kinds of layers and the reserved keys in the persisted one stay as they are. -/
structure SparesReserved (before after : Env) : Prop where
  kinds : after.kinds = before.kinds
  persists : ∀ key, isReserved key = true → after.persists key = before.persists key

namespace SparesReserved

theorem refl (env : Env) : SparesReserved env env := ⟨rfl, fun _ _ => rfl⟩

theorem trans {env env' env'' : Env} (h : SparesReserved env env')
    (h' : SparesReserved env' env'') : SparesReserved env env'' :=
  ⟨h'.kinds.trans h.kinds, fun key hkey => (h'.persists key hkey).trans (h.persists key hkey)⟩

end SparesReserved

theorem keep_spares (texts : Dict String) (env : Env) : SparesReserved env (keep texts env) := by
  rw [keep]
  induction texts.entries generalizing env with
  | nil => exact .refl env
  | cons entry rest ih =>
    obtain ⟨q, raw⟩ := entry
    rw [List.foldl_cons]
    refine .trans ?_ (ih _)
    by_cases hq : isReserved q = true
    · simpa only [hq, if_true] using .refl env
    · simp only [hq, Bool.false_eq_true, if_false]
      refine ⟨env.kinds_setIn .., fun key hkey => ?_⟩
      have hne : q ≠ key := fun heq => hq (heq ▸ hkey)
      exact Env.persists_setIn (.inr hne) env raw

theorem saveEnv_spares (s : Env × World) : SparesReserved s.1 (saveEnv s).2.1 := by
  simp only [saveEnv]
  split
  · exact .refl s.1
  · exact .refl s.1
  · exact .refl s.1
  · split <;> exact keep_spares _ s.1

/-- No builtin command brings a reserved key into the persisted layer. -/
theorem act_spares (b : Builtin) (args : ArgVals) (s : Env × World) :
    SparesReserved s.1 (b.act args s).2.1 := by
  cases b with
  | envSave => exact saveEnv_spares s
  | sleep =>
    simp only [act, pauseFor]
    split
    · exact .refl s.1
    · split <;> exact .refl s.1
  | _ => exact .refl s.1

/-- Saving left a text in the file that the env names. -/
structure LeftInFile (s : Env × World) (text : String) : Prop where
  succeeded : (saveEnv s).1 = .ok true
  inFile : ∃ path, s.1.get? envFileKey = some path ∧
    (saveEnv s).2.2.files.entry path = .ok (.file (Text.bytes text))

/-- What saving does when it succeeds: there is a session, and the persisted layer is saved as it is
after the copy. -/
theorem saveEnv_of_ok {s : Env × World} (h : (saveEnv s).1 = .ok true) :
    .session ∈ s.1.kinds ∧ ∃ layer target count,
      (saveEnv s).2.1.layer? .persisted = some layer ∧
      s.1.get? envFileKey = some target ∧
      Saved.save s.2.files target layer = (.ok count, (saveEnv s).2.2.files) := by
  obtain ⟨env, w⟩ := s
  cases hsession : env.nearest? .session with
  | none => simp [saveEnv, hsession, refuse] at h
  | some session =>
    cases hpersisted : env.nearest? .persisted with
    | none => simp [saveEnv, hsession, hpersisted, refuse] at h
    | some persisted =>
      cases htarget : env.get? envFileKey with
      | none => simp [saveEnv, hsession, hpersisted, htarget, refuse] at h
      | some target =>
        have hkinds := (keep_spares session.own.texts env).kinds
        obtain ⟨kept, hkept⟩ :
            ∃ kept, (keep session.own.texts env).nearest? .persisted = some kept :=
          Env.exists_nearest?_iff.2 (hkinds ▸ Env.exists_nearest?_iff.1 ⟨persisted, hpersisted⟩)
        have hlayer : (keep session.own.texts env).layer? .persisted = some kept.own := by
          rw [← Env.own_nearest?, hkept, Option.map_some]
        refine ⟨Env.exists_nearest?_iff.1 ⟨session, hsession⟩, kept.own, target, ?_⟩
        simp only [saveEnv, hsession, hpersisted, htarget, hkept, Option.getD_some] at h ⊢
        rcases hsave : Saved.save w.files target kept.own with ⟨_ | count, files⟩
        · simp [hsave] at h
        · exact ⟨count, hlayer, by simp, rfl⟩

/-- A saved file holds the reserved keys that the persisted layer held before, and no others. -/
theorem LeftInFile.values {s : Env × World} {text : String} (h : LeftInFile s text) :
    ∃ values, Saved.read? text = some values ∧
      ∀ key, isReserved key = true → values.contains key = s.1.persists key := by
  obtain ⟨-, layer, target, count, hlayer, htarget, hsave⟩ := saveEnv_of_ok h.succeeded
  obtain ⟨path, hpath, hfile⟩ := h.inFile
  obtain rfl : path = target := Option.some.inj (hpath.symm.trans htarget)
  obtain ⟨-, made, hwritten⟩ := Saved.save_eq_ok hsave
  have hbytes := Files.contents_of_writeBytes hwritten hfile
  obtain rfl : text = Saved.write layer.texts := by
    simpa using congrArg Text.ofBytes? hbytes
  refine ⟨layer.texts, Saved.read?_write _, fun key hkey => ?_⟩
  rw [← (saveEnv_spares s).persists key hkey, Env.persists, hlayer]
  simp [Dict.contains, Layer.texts, Layer.holds_eq, Layer.get?]

end Builtin

/-! ## Command lines -/

namespace Programs

/-- The records in what was printed. -/
def recordsIn (output : Text.Bytes) : List EnvRecord :=
  (Text.byteLines output).filterMap recordOf?

/-- Command lines that print what `printed` says change the env by the records in it, and in no other
way. -/
def ActByRecords (external : String → ArgVals → Env × World → Verdict × Env × World)
    (printed : String → ArgVals → Env × World → Text.Bytes) : Prop :=
  ∀ line args s,
    (external line args s).2.1 = EnvRecord.applyAll (recordsIn (printed line args s)) s.1

/-- What the program of a command line prints; nothing where none could be run. -/
def printedBy (launch : Launcher) (line : String) (args : ArgVals) (s : Env × World) :
    Text.Bytes :=
  match wordsOf (splitMark line).1 with
  | .error _ => []
  | .ok (name, words) =>
    match launch (launchOf none name words args s) s.2.files with
    | .error _ => []
    | .ok o => o.out

/-- Whatever programs are run, they change the env by records. -/
theorem answerLine_actByRecords (launch : Launcher) :
    ActByRecords (answerLine launch) (printedBy launch) := by
  intro line args s
  simp only [answerLine, runLine, printedBy]
  cases wordsOf (splitMark line).1 with
  | error e => rfl
  | ok command =>
    obtain ⟨name, words⟩ := command
    simp only
    cases launch (launchOf none name words args s) s.2.files with
    | error reason => rfl
    | ok o => exact forward_env ..

end Programs

/-! ## Runs -/

/-- The world that the executable at a visit is called with. -/
def Engine.worldAt {α σ : Type} (e : Engine α σ) (v : Visit α σ) : σ :=
  e.handlers.notify
    ⟨.before, v.invocation.displayPath, v.executable.quiet, v.env, v.position⟩ v.machine.world

/-- The records that the call at a visit writes, where command lines print what `printed` says. -/
def Engine.recordsAt (e : Engine Builtin World)
    (printed : String → ArgVals → Env × World → Text.Bytes) (v : Visit Builtin World) :
    List EnvRecord :=
  match v.executable.kind with
  | .external line => Programs.recordsIn (printed line v.args (v.env, e.worldAt v))
  | _ => []

/-- One of the calls wrote a record with a key to the persisted layer. -/
def Engine.Recorded (e : Engine Builtin World)
    (printed : String → ArgVals → Env × World → Text.Bytes) (vs : List (Visit Builtin World))
    (key : String) : Prop :=
  ∃ v ∈ vs, ∃ record ∈ e.recordsAt printed v,
    record.layer = some .persisted ∧ record.key = key

/-- At a visit the env is saved, and afterwards a text is in the file that the env names. -/
structure Engine.SavesAt (e : Engine Builtin World) (v : Visit Builtin World) (text : String) :
    Prop where
  isSave : v.executable.kind = .normal .envSave
  succeeded : (e.answer v).1 = .ok true
  inFile : ∃ path, v.env.get? Builtin.envFileKey = some path ∧
    (e.answer v).2.2.2.2.files.entry path = .ok (.file (Text.bytes text))

theorem kinds_callEnv {α σ : Type} (v : Visit α σ) :
    v.env.kinds = .command :: v.machine.session.kinds :=
  (Env.kinds_writeAll _ _).trans (Env.kinds_push _ _)

theorem persists_of_callEnv {α σ : Type} {v : Visit α σ} {key : String}
    (h : v.env.persists key = true) : v.machine.session.persists key = true := by
  have hcommand : LayerKind.command ≠ .persisted := by decide
  have hpushed := Env.persists_of_writeAll (e := v.machine.session.push .command) hcommand h
  rwa [Env.persists_push _ hcommand] at hpushed

namespace Engine

variable {e : Engine Builtin World} {notify : Event → World → World}
  {external : String → ArgVals → Env × World → Verdict × Env × World}
  {printed : String → ArgVals → Env × World → Text.Bytes}

theorem SavesAt.left (he : e.handlers = Builtin.handlers external notify) {v : Visit Builtin World}
    {text : String} (h : e.SavesAt v text) : Builtin.LeftInFile (v.env, e.worldAt v) text := by
  obtain ⟨hsave, hok, hfile⟩ := h
  have hnormal (s : Env × World) : e.handlers.normal .envSave v.args s = Builtin.saveEnv s := by
    rw [he]
    rfl
  simp only [answer, call, hsave, hnormal] at hok hfile
  exact ⟨hok, hfile⟩

/-- A call leaves the kinds of layers, and brings a reserved key into the persisted layer by a
record only. -/
theorem answer_reserved (he : e.handlers = Builtin.handlers external notify)
    (hrecords : Programs.ActByRecords external printed) (v : Visit Builtin World) :
    (e.answer v).2.1.kinds = v.env.kinds ∧
    ∀ key, Builtin.isReserved key = true → (e.answer v).2.1.persists key = true →
      v.env.persists key = true ∨
        ∃ record ∈ e.recordsAt printed v,
          record.layer = some .persisted ∧ record.key = key := by
  cases hkind : v.executable.kind with
  | normal b =>
    have hanswer : (e.answer v).2.1 = (b.act v.args (v.env, e.worldAt v)).2.1 := by
      simp only [answer, call, hkind, he, worldAt]
      rfl
    have hspares := b.act_spares v.args (v.env, e.worldAt v)
    rw [hanswer]
    exact ⟨hspares.kinds, fun key hkey h => .inl ((hspares.persists key hkey).symm.trans h)⟩
  | power b =>
    have hanswer : (e.answer v).2.1 = v.env := by
      simp only [answer, call, hkind, he]
      rfl
    rw [hanswer]
    exact ⟨rfl, fun _ _ h => .inl h⟩
  | setup b =>
    have hanswer : (e.answer v).2.1 = v.env := by
      simp only [answer, call, hkind, he]
      rfl
    rw [hanswer]
    exact ⟨rfl, fun _ _ h => .inl h⟩
  | external line =>
    have hanswer : (e.answer v).2.1 = EnvRecord.applyAll (e.recordsAt printed v) v.env := by
      have hexternal : e.handlers.external = external := by rw [he, Builtin.handlers]
      simp only [answer, call, hkind, recordsAt, hexternal]
      exact hrecords line v.args (v.env, e.worldAt v)
    have hcommand : v.env.own.kind ≠ .persisted := by
      have hown : v.env.own.kind = .command := (List.cons.inj (kinds_callEnv v)).1
      simp [hown]
    rw [hanswer]
    exact ⟨EnvRecord.kinds_applyAll _ _, fun key _ h => EnvRecord.persists_of_applyAll hcommand h⟩

/-- What one dispatch does to the session. -/
theorem dispatchAt_reserved (he : e.handlers = Builtin.handlers external notify)
    (hrecords : Programs.ActByRecords external printed) (v : Visit Builtin World) :
    (e.dispatchAt v).2.2.session.kinds = v.machine.session.kinds ∧
    ∀ key, Builtin.isReserved key = true → (e.dispatchAt v).2.2.session.persists key = true →
      v.machine.session.persists key = true ∨ e.Recorded printed [v] key := by
  obtain ⟨hkinds, hreserved⟩ := answer_reserved he hrecords v
  obtain ⟨parent, hparent, hsession, hpersists⟩ :=
    Env.parent?_of_kinds (hkinds.trans (kinds_callEnv v)) (by decide)
  rw [dispatchAt_session, hparent, Option.getD_some]
  refine ⟨hsession, fun key hkey h => ?_⟩
  rw [hpersists] at h
  rcases hreserved key hkey h with hold | hrecord
  · exact .inl (persists_of_callEnv hold)
  · exact .inr ⟨v, List.mem_singleton_self v, hrecord⟩

/-- What a trace does to the session. -/
theorem trace_reserved (he : e.handlers = Builtin.handlers external notify)
    (hrecords : Programs.ActByRecords external printed) {m m' : Machine Builtin World}
    {vs : List (Visit Builtin World)} (h : e.Trace m vs m') :
    m'.session.kinds = m.session.kinds ∧
    (m.session.own.kind ≠ .persisted → ∀ key, Builtin.isReserved key = true →
      m'.session.persists key = true →
        m.session.persists key = true ∨ e.Recorded printed vs key) := by
  induction h with
  | done m => exact ⟨rfl, fun _ _ _ h => .inl h⟩
  | @assign m _ _ a _ ih =>
    have hkinds : (m.merged a).session.kinds = m.session.kinds := Env.kinds_writeTo a m.session
    refine ⟨ih.1.trans hkinds, fun hown key hkey h => ?_⟩
    have hmerged : (m.merged a).session.own.kind ≠ .persisted := by
      rwa [Env.own_kind_of_kinds hkinds]
    exact (ih.2 hmerged key hkey h).imp_left (Env.persists_of_writeTo hown)
  | @count m _ _ n _ ih =>
    refine ⟨ih.1, fun hown key hkey h => ?_⟩
    refine (ih.2 hown key hkey h).imp_left fun hcounted => ?_
    exact (Env.persists_set hown ..).symm.trans hcounted
  | @dispatch _ vs v _ _ ih =>
    obtain ⟨hkinds, hreserved⟩ := dispatchAt_reserved he hrecords v
    refine ⟨ih.1.trans hkinds, fun hown key hkey h => ?_⟩
    have hafter : (e.dispatchAt v).2.2.session.own.kind ≠ .persisted := by
      rwa [Env.own_kind_of_kinds hkinds]
    rcases ih.2 hafter key hkey h with hnow | ⟨u, hu, hrecord⟩
    · rcases hreserved key hkey hnow with hold | ⟨u, hu, hrecord⟩
      · exact .inl hold
      · exact .inr ⟨u, List.mem_cons.2 (.inl (List.mem_singleton.1 hu)), hrecord⟩
    · exact .inr ⟨u, List.mem_cons_of_mem v hu, hrecord⟩

end Engine

/-- The session of a machine has the nearest session layer of its chain, if there is one. -/
theorem Machine.own_kind_ofEnv {α σ : Type} {tree : CommandTree α} {env : Env} {world : σ}
    (h : .session ∈ (ofEnv tree env world).session.kinds) :
    (ofEnv tree env world).session.own.kind = .session := by
  cases hsplit : Env.splitAtKind? .session env.layers with
  | none =>
    have hmachine : (ofEnv tree env world).session = env := by rw [ofEnv, hsplit]
    rw [hmachine, ← Env.exists_nearest?_iff] at h
    obtain ⟨found, hfound⟩ := h
    simp [Env.nearest?, hsplit] at hfound
  | some parts =>
    obtain ⟨inner, session⟩ := parts
    have hmachine : (ofEnv tree env world).session = session := by rw [ofEnv, hsplit]
    have hlayer := env.own_nearest? .session
    rw [Env.nearest?, hsplit, Option.map_some, Option.map_some, eq_comm] at hlayer
    rw [hmachine]
    exact Env.kind_of_layer? hlayer

/-- A reserved key is in a saved file exactly if the persisted layer held it. Over any requests that
start without reserved keys in that layer, a command line that was called before wrote it there with
a record, if command lines change the env by records only. -/
theorem saved_reserved_of_record {e : Engine Builtin World}
    {external : String → ArgVals → Env × World → Verdict × Env × World}
    {notify : Event → World → World} (he : e.handlers = Builtin.handlers external notify)
    {printed : String → ArgVals → Env × World → Text.Bytes}
    (hrecords : Programs.ActByRecords external printed)
    (tree : CommandTree Builtin) (env : Env) (world : World) (requests : List Request)
    (hclean : ∀ key, "sys.".toList <+: key.toList →
      (Machine.ofEnv tree env world).session.persists key = false)
    {us ws : List (Visit Builtin World)} {v : Visit Builtin World}
    (hvisits : e.allVisits requests (Machine.ofEnv tree env world) = us ++ v :: ws)
    {text : String} (hsave : e.SavesAt v text) :
    ∃ values, Saved.read? text = some values ∧
      ∀ key, "sys.".toList <+: key.toList →
        values.contains key = v.env.persists key ∧
        (values.contains key = true → e.Recorded printed us key) := by
  have hleft := hsave.left he
  obtain ⟨values, hread, hvalues⟩ := hleft.values
  have htrace := e.trace_serveAll requests (Machine.ofEnv tree env world)
  rw [hvisits] at htrace
  obtain ⟨hkinds, hreserved⟩ := trace_reserved he hrecords htrace.upTo
  -- the session layer that saving found is the session's own layer
  have hown : (Machine.ofEnv tree env world).session.own.kind ≠ .persisted := by
    have hsession := (Builtin.saveEnv_of_ok hleft.succeeded).1
    rw [kinds_callEnv, hkinds, List.mem_cons] at hsession
    rw [Machine.own_kind_ofEnv (hsession.resolve_left (by decide))]
    decide
  refine ⟨values, hread, fun key hkey => ?_⟩
  have hbegins : Builtin.isReserved key = true := List.isPrefixOf_iff_prefix.2 hkey
  refine ⟨hvalues key hbegins, fun hsaved => ?_⟩
  rw [hvalues key hbegins] at hsaved
  refine (hreserved hown key hbegins (persists_of_callEnv hsaved)).resolve_left ?_
  simp [hclean key hkey]

/-! ## A reserved key in a saved file -/

/-- A launcher whose programs all print their arguments on a line. -/
def Programs.echoing : Launcher := fun l files =>
  .ok ⟨0, Text.bytes (Text.join " " l.args ++ "\n"), [], files⟩

/-- The tool without output of its own. -/
def silentTool : Engine Builtin World :=
  ⟨Builtin.handlers (Programs.answerLine Programs.echoing) fun _ w => w, "", 10⟩

/-- A command line that prints a record with a reserved key. -/
def reservingLine : String := "echo 'CMDFLOW_ENV\tsys.x\tv\tpersisted'"

/-- A command that saves, and one that runs the command line. -/
def reservingTree : CommandTree Builtin :=
  (Registration.performAll
    [.addSub CommandTree.root "save" [], .attach ⟨1⟩ "" (.normal .envSave),
     .addSub CommandTree.root "go" [], .attach ⟨2⟩ "" (.external reservingLine)] .empty).2

/-- A session that names a file for its values. -/
def fileSession : Env :=
  Env.newSession.set Builtin.envFileKey "/env.toml"

def reservingStart : Machine Builtin World :=
  .ofEnv reservingTree fileSession Builtin.emptyWorld

def reservingScript : List String := ["go", ":", "save"]

def reservingFlow : Flow :=
  .ofCommands [⟨[⟨none, some ⟨"go", ⟨2⟩⟩⟩]⟩, ⟨[⟨none, some ⟨"save", ⟨1⟩⟩⟩]⟩]

/-- What the script leaves in the file. -/
def reservedText : String := "[env]\n\"sys.x\" = \"v\"\n"

theorem parse_reservingScript : parse reservingStart reservingScript = .ok reservingFlow := by
  have hitems : (Breaker.standard.sequences reservingScript).groups.map
      (fun s => (Walk.start s).runWithin reservingStart.tree 20) =
      [[.command ⟨"go", ⟨2⟩⟩], [.command ⟨"save", ⟨1⟩⟩]].map fun i => some (.ok i) := by
    decide +kernel
  have hglobal : (Breaker.standard.sequences reservingScript).opensGlobal = true := by
    decide +kernel
  rw [parse, CommandTree.readFlow_of_runWithin hitems, hglobal, if_pos rfl]
  rfl

theorem persists_reservingStart (key : String) : reservingStart.session.persists key = false := rfl

theorem contains_reservedText :
    ∃ values, Saved.read? reservedText = some values ∧ values.contains "sys.x" = true := by
  have hread : (Saved.read? reservedText).any (·.contains "sys.x") = true := by decide +kernel
  simpa [Option.any_eq_true] using hread

/-- The script calls the command line and then saves. -/
theorem allVisits_reservingScript :
    ∃ u v, silentTool.allVisits [.script reservingScript] reservingStart = [u, v] ∧
      silentTool.SavesAt v reservedText := by
  have hvisits : silentTool.allVisits [.script reservingScript] reservingStart =
      silentTool.flowVisits reservingFlow reservingStart := by
    simp only [allVisits, requestVisits, scriptVisits, parse_reservingScript, List.append_nil]
  have hcalls : (silentTool.flowVisits reservingFlow reservingStart).map (fun v =>
        (v.executable.kind, (silentTool.answer v).1, v.env.get? Builtin.envFileKey,
          (silentTool.answer v).2.2.2.2.files.entry "/env.toml")) =
      [(.external reservingLine, .ok true, some "/env.toml", .error .notFound),
       (.normal .envSave, .ok true, some "/env.toml", .ok (.file (Text.bytes reservedText)))] := by
    decide +kernel
  obtain ⟨u, vs, huv, -, hafter⟩ := List.map_eq_cons_iff.1 hcalls
  obtain ⟨v, ws, rfl, hsave, hend⟩ := List.map_eq_cons_iff.1 hafter
  obtain rfl := List.map_eq_nil_iff.1 hend
  simp only [Prod.mk.injEq] at hsave
  obtain ⟨hkind, hok, hpath, hfile⟩ := hsave
  exact ⟨u, v, hvisits.trans huv, hkind, hok, "/env.toml", hpath, hfile⟩

/-- The reserved key in the file is one that the command line wrote. -/
theorem saved_reserved_of_record_echo :
    ∃ u v, silentTool.allVisits [.script reservingScript] reservingStart = [u, v] ∧
      silentTool.SavesAt v reservedText ∧ v.env.persists "sys.x" = true ∧
      silentTool.Recorded (Programs.printedBy Programs.echoing) [u] "sys.x" := by
  obtain ⟨u, v, hvisits, hsave⟩ := allVisits_reservingScript
  have hsplit : silentTool.allVisits [.script reservingScript] reservingStart = [u] ++ v :: [] :=
    hvisits
  obtain ⟨values, hread, hreserved⟩ := saved_reserved_of_record (e := silentTool) rfl
    (Programs.answerLine_actByRecords Programs.echoing) reservingTree fileSession
    Builtin.emptyWorld [.script reservingScript] (fun key _ => persists_reservingStart key) hsplit
    hsave
  obtain ⟨values', hread', hcontains⟩ := contains_reservedText
  obtain rfl : values = values' := Option.some.inj (hread.symm.trans hread')
  obtain ⟨hpersists, hrecorded⟩ := hreserved "sys.x" (by decide)
  exact ⟨u, v, hvisits, hsave, hpersists.symm.trans hcontains, hrecorded hcontains⟩

/-- A script that starts with no key in the persisted layer and runs to its end may leave a reserved
key in the file. -/
theorem reserved_key_saved :
    (∀ key, reservingStart.session.persists key = false) ∧
    (silentTool.runTokens reservingScript reservingStart).1 = .ok () ∧
    (silentTool.runTokens reservingScript reservingStart).2.world.files.entry "/env.toml" =
      .ok (.file (Text.bytes reservedText)) ∧
    ∃ values, Saved.read? reservedText = some values ∧ values.contains "sys.x" = true := by
  have hrun : silentTool.runTokens reservingScript reservingStart =
      silentTool.runFlow reservingFlow reservingStart := by
    rw [runTokens, parse_reservingScript]
  have hend : ((silentTool.runFlow reservingFlow reservingStart).1,
      (silentTool.runFlow reservingFlow reservingStart).2.world.files.entry "/env.toml") =
      (.ok (), .ok (.file (Text.bytes reservedText))) := by
    decide +kernel
  obtain ⟨hok, hfile⟩ := Prod.mk.inj hend
  rw [hrun]
  exact ⟨persists_reservingStart, hok, hfile, contains_reservedText⟩

end FlowScript
