import FlowScript.Proofs.Run.Designation
import FlowScript.Proofs.Script.ArgumentForms
import FlowScript.Proofs.Script.PathGrammar
import FlowScript.Proofs.Script.Sequencing

/-!
# Defining a command while a script runs

A definition takes a name, abbreviations and a command line. If the spellings are free
(`Definable`), one command more hangs below the root, and a script that is any one of its spellings
runs it (`Defined`); otherwise the tree stays as it is. Attaching the command line comes after the
command was added, and cannot fail then: a new command has no executable (`run_defineLine`).
-/

namespace FlowScript

variable {α σ : Type} {t : CommandTree α}

/-! ## Reading a name -/

theorem not_mem_of_isName {s : String} (h : isName s = true) {c : Char}
    (hc : isNameChar c = false) : c ∉ s.toList := by
  intro hmem
  simp only [isName, Bool.and_eq_true, List.all_eq_true] at h
  rw [h.2 c hmem] at hc
  cases hc

namespace Breaker

/-- Nothing is cut where no separator begins. -/
theorem reaches_of_not_mem {b : Breaker} {first : Char} {others : List Char}
    (hsep : b.sep.toList = first :: others) {cs : List Char} (h : first ∉ cs)
    (before : List Char) : b.Reaches before cs [] := by
  induction cs generalizing before with
  | nil => exact .stop
  | cons c rest ih =>
    obtain ⟨hne, hrest⟩ := not_or.1 (mt List.mem_cons.2 h)
    refine .skip ?_ (ih hrest (c :: before))
    rw [hsep, List.cons_prefix_cons]
    exact fun hstarts => hne hstarts.1

/-- A name is left as it is when a script is broken into sequences. -/
theorem settled_of_isName {s : String} (h : isName s = true) : standard.Settled s where
  ne_empty := ne_empty_of_isName h
  trimmed := (Text.trimmed?_eq_some (trimmed?_of_isName h)).symm
  ne_sep := by
    rintro rfl
    exact absurd h (by decide)
  uncut := by
    have hsep : standard.sep.toList = [':'] := rfl
    have hcolon : ':' ∉ s.toList := not_mem_of_isName h (by decide)
    exact cutToken_of_reaches standard_stable.sep_ne (ne_empty_of_isName h)
      (reaches_of_not_mem hsep hcolon [])

end Breaker

theorem PathGrammar.isWord_of_isName {s : String} (h : isName s = true) : IsWord s.toList where
  nonempty hnil := ne_empty_of_isName h (by rwa [← String.toList_eq_nil_iff])
  noSep c hc := by
    simp only [isName, Bool.and_eq_true, List.all_eq_true] at h
    have hname := h.2 c hc
    simp_all [isNameChar, isPathSep]

namespace CommandTree

/-- The name of a command below the root is read as a script that runs this command. -/
theorem readFlow_name {s : String} {c : NodeId} (h : isName s = true)
    (hc : t.findChild root s = some c) :
    t.readFlow .standard [s] = .ok (.ofCommands [⟨[⟨none, some ⟨t.name c, c⟩⟩]⟩]) := by
  have hsequences : Breaker.standard.sequences [s] = ⟨[[s]], true⟩ :=
    Breaker.sequences_of_settled (by simp) (by simpa using Breaker.settled_of_isName h)
  have hstart : Walk.start [s] = ⟨[s], [], root, true⟩ := by
    simp [Walk.start, trimmed?_of_isName h]
  have hstep : Walk.step t ⟨[s], [], root, true⟩ =
      .next ⟨[], [.command ⟨t.name c, c⟩], c, false⟩ := by
    have hword : Walk.step t ⟨[String.ofList s.toList], [], root, true⟩ = _ :=
      Walk.step_word (PathGrammar.isWord_of_isName h) (not_mem_of_isName h (by decide)) [] [] root
    rw [String.ofList_toList, Walk.descend, hc] at hword
    exact hword
  have hread : t.readInvocation [s] = .ok ⟨[⟨none, some ⟨t.name c, c⟩⟩]⟩ := by
    rw [readInvocation, readItems, hstart, Walk.run_next hstep, Walk.run_done rfl]
    rfl
  have hall : t.readInvocations (Breaker.standard.sequences [s]).groups =
      .ok [⟨[⟨none, some ⟨t.name c, c⟩⟩]⟩] := by
    rw [hsequences, readInvocations_eq_ok_iff]
    simp [hread]
  rw [readFlow_of_ok hall, hsequences]
  rfl

/-! ## Look-ups after a command was added -/

theorem findChild_eq_none_iff {p : NodeId} {token : String} :
    t.findChild p token = none ↔ token ∉ Label.allSpellings (t.labelsBelow p) := by
  simp [findChild, Label.mem_allSpellings, labelsBelow]

theorem findChild_push (t : CommandTree α) (n : Node α) (p : NodeId) (token : String) :
    (⟨t.nodes ++ [n]⟩ : CommandTree α).findChild p token =
      (t.findChild p token).or
        (if n.parent = some p ∧ token ∈ n.label.spellings then some ⟨t.size⟩ else none) := by
  have hold : (t.children p).find? (fun c =>
      ((⟨t.nodes ++ [n]⟩ : CommandTree α).node c).label.isSpelled token) = t.findChild p token := by
    rw [findChild, ← List.head?_filter, ← List.head?_filter]
    refine congrArg List.head? (List.filter_congr fun c hc => ?_)
    rw [node_push, if_neg (Nat.ne_of_lt (mem_children.1 hc).1)]
  rw [findChild, children_push, List.find?_append, hold]
  congr 1
  by_cases hp : n.parent = some p <;> simp [hp, node_push, Label.isSpelled]

end CommandTree

namespace Builtin

open CommandTree

/-! ## Definitions -/

/-- A command with these spellings that runs this line may be added below the root: there is a line,
every spelling is a name that no command there goes by, and no abbreviation other than the name
itself stands twice. -/
structure Definable (t : CommandTree α) (name script : String) (abbrs : List String) : Prop where
  line : Text.trim script ≠ ""
  names : ∀ s ∈ name :: abbrs, isName s = true
  free : ∀ s ∈ name :: abbrs, s ∉ Label.allSpellings (t.labelsBelow root)
  distinct : (abbrs.filter (· ≠ name)).Nodup

/-- The node of a command that was defined. An abbreviation equal to the name is left out. -/
def definedNode (name line : String) (abbrs : List String) : Node α where
  label := ⟨name, abbrs.filter (· ≠ name)⟩
  parent := some root
  executable := some ⟨.external line, s!"Runs `{line}`.", [], false⟩

/-- What a definition that is not refused makes of a tree: one node more, which every spelling leads
to and is a script for, while all other look-ups give what they gave before. -/
structure Defined (t t' : CommandTree α) (name line : String) (abbrs : List String) : Prop where
  nodes : t'.nodes = t.nodes ++ [definedNode name line abbrs]
  parsed : ∀ s ∈ name :: abbrs, ∀ (σ : Type) (m : Machine α σ), m.tree = t' →
    ∃ i, Engine.parse m [s] = .ok (.ofCommands [i]) ∧ i.leaf? = some ⟨name, ⟨t.size⟩⟩
  found : ∀ p token, t'.findChild p token =
    if p = root ∧ token ∈ name :: abbrs then some ⟨t.size⟩ else t.findChild p token
  kept : ∀ p token c, t.findChild p token = some c → t'.findChild p token = some c
  paths : ∀ path c, t.findPath path = some c → t'.findPath path = some c

theorem mem_cons_filter_iff {name s : String} {abbrs : List String} :
    s ∈ name :: abbrs.filter (· ≠ name) ↔ s ∈ name :: abbrs := by
  by_cases hs : s = name <;> simp [hs]

/-- The label is accepted exactly if the spellings are free names. -/
theorem accept_iff_definable {name script : String} {abbrs : List String} {owner : String}
    (hline : Text.trim script ≠ "") {l : Label} :
    Label.accept .command owner (t.labelsBelow root) name abbrs = .ok l ↔
      l = ⟨name, abbrs.filter (· ≠ name)⟩ ∧ Definable t name script abbrs := by
  rw [Label.accept_eq_ok_iff]
  constructor
  · rintro ⟨rfl, hnd, hall⟩
    exact ⟨rfl, hline, fun s hs => (hall s (mem_cons_filter_iff.2 hs)).1,
      fun s hs => (hall s (mem_cons_filter_iff.2 hs)).2, (List.nodup_cons.1 hnd).2⟩
  · rintro ⟨rfl, h⟩
    exact ⟨rfl, List.nodup_cons.2 ⟨by simp, h.distinct⟩, fun s hs =>
      ⟨h.names s (mem_cons_filter_iff.1 hs), h.free s (mem_cons_filter_iff.1 hs)⟩⟩

theorem run_defineLine_of_definable {name script : String} {abbrs : List String}
    (h : Definable t name script abbrs) (line : String) :
    (defineLine name line abbrs).run.run t =
      (.ok (), ⟨t.nodes ++ [definedNode name line abbrs]⟩) := by
  rw [run_defineLine, (accept_iff_definable h.line).2 ⟨rfl, h⟩]
  rfl

theorem run_defineLine_of_not_definable {name script : String} {abbrs : List String}
    (hline : Text.trim script ≠ "") (h : ¬ Definable t name script abbrs) (line : String) :
    ∃ e, (defineLine name line abbrs).run.run t = (.error e, t) := by
  rw [run_defineLine]
  cases haccept : Label.accept .command (t.displayPath root) (t.labelsBelow root) name abbrs with
  | error e => exact ⟨e, rfl⟩
  | ok l => exact absurd ((accept_iff_definable hline).1 haccept).2 h

namespace Definable

variable {name script : String} {abbrs : List String}

/-- A spelling that is free leads to the new command below the root, and all others where they led
before. -/
theorem findChild (h : Definable t name script abbrs) (line : String) (p : NodeId)
    (token : String) :
    (⟨t.nodes ++ [definedNode name line abbrs]⟩ : CommandTree α).findChild p token =
      if p = root ∧ token ∈ name :: abbrs then some ⟨t.size⟩ else t.findChild p token := by
  have hnew : (definedNode name line abbrs : Node α).parent = some p ∧
      token ∈ (definedNode name line abbrs : Node α).label.spellings ↔
        p = root ∧ token ∈ name :: abbrs := by
    rw [← mem_cons_filter_iff, definedNode, Option.some_inj, eq_comm]
    rfl
  rw [findChild_push]
  simp only [hnew]
  split
  · rename_i hspelled
    obtain ⟨rfl, htoken⟩ := hspelled
    rw [findChild_eq_none_iff.2 (h.free token htoken), Option.none_or]
  · exact Option.or_none

theorem defined (h : Definable t name script abbrs) (line : String) :
    Defined t ⟨t.nodes ++ [definedNode name line abbrs]⟩ name line abbrs where
  nodes := rfl
  parsed := by
    intro s hs σ m hm
    have hfound := h.findChild line root s
    rw [if_pos ⟨rfl, hs⟩] at hfound
    have hname : (⟨t.nodes ++ [definedNode name line abbrs]⟩ : CommandTree α).name ⟨t.size⟩ =
        name := by
      rw [CommandTree.name, node_push, if_pos rfl]
      rfl
    refine ⟨⟨[⟨none, some ⟨name, ⟨t.size⟩⟩⟩]⟩, ?_, rfl⟩
    rw [Engine.parse, hm, readFlow_name (h.names s hs) hfound, hname]
  found := h.findChild line
  kept _ _ _ := (Keeps.push t _).findChild
  paths _ _ := (Keeps.push t _).findPath

end Definable

/-- The abbreviations are the pieces between commas, trimmed, as far as something is left. -/
theorem abbrsOf_eq (text : String) :
    abbrsOf text = ((Text.splitAt ',' text).map Text.trim).filter (· ≠ "") := by
  rw [abbrsOf]
  induction Text.splitAt ',' text with
  | nil => rfl
  | cons piece rest ih =>
    by_cases hpiece : Text.trim piece = "" <;> simp [Text.trimmed?, hpiece, ih]

section Outcomes

variable {args : ArgVals} {line : String}

theorem define_of_no_line (h : Text.trimmed? (args.get "script") = none) (t : CommandTree α) :
    flowDefine.define args t =
      refuse ("no command line given for '" ++ args.get "name" ++ "'") t := by
  simp only [define, h]
  rfl

theorem define_of_refused (hline : Text.trimmed? (args.get "script") = some line)
    {e : RegistrationError} {t' : CommandTree α}
    (h : (defineLine (args.get "name") line (abbrsOf (args.get "abbr"))).run.run t =
      (.error e, t')) :
    flowDefine.define args t = (.error (.ofRegistrationError e), t') := by
  simp only [define, hline, h]

theorem define_of_added (hline : Text.trimmed? (args.get "script") = some line)
    {t' : CommandTree α}
    (h : (defineLine (args.get "name") line (abbrsOf (args.get "abbr"))).run.run t =
      (.ok (), t')) :
    flowDefine.define args t = (.ok true, t') := by
  simp only [define, hline, h]

end Outcomes

/-- Defining a command is all or nothing: it succeeds exactly if the spellings are free names and
there is a line to run, and then the command can be used in the next script; if not, it gives an
error and the tree stays as it is. -/
theorem define_all_or_nothing (t : CommandTree α) (args : ArgVals) :
    let name := args.get "name"
    let script := args.get "script"
    let abbrs := ((Text.splitAt ',' (args.get "abbr")).map Text.trim).filter (· ≠ "")
    (Definable t name script abbrs ∧
      ∃ t', flowDefine.define args t = (.ok true, t') ∧
        Defined t t' name (Text.trim script) abbrs) ∨
    (¬ Definable t name script abbrs ∧
      ∃ cause, flowDefine.define args t = (.error cause, t)) := by
  intro name script abbrs
  have habbrs : abbrsOf (args.get "abbr") = abbrs := abbrsOf_eq _
  by_cases hline : Text.trim script = ""
  · have hnone : Text.trimmed? script = none := by simp [Text.trimmed?, hline]
    exact .inr ⟨fun h => h.line hline, _, define_of_no_line hnone t⟩
  have hsome : Text.trimmed? script = some (Text.trim script) := by simp [Text.trimmed?, hline]
  by_cases h : Definable t name script abbrs
  · have hadded : (defineLine name (Text.trim script) (abbrsOf (args.get "abbr"))).run.run t =
        (.ok (), ⟨t.nodes ++ [definedNode name (Text.trim script) abbrs]⟩) := by
      rw [habbrs]
      exact run_defineLine_of_definable h _
    exact .inl ⟨h, _, define_of_added hsome hadded, h.defined _⟩
  · obtain ⟨e, hrefused⟩ := run_defineLine_of_not_definable hline h (Text.trim script)
    rw [← habbrs] at hrefused
    exact .inr ⟨h, _, define_of_refused hsome hrefused⟩

/-- Of a name and three abbreviations one is the name itself; all spellings lead to the new command.
A spelling that is taken leaves the tree as it is. -/
example :
    let args (abbr : String) : ArgVals := ⟨[("name", "hi"), ("script", " ls "), ("abbr", abbr)]⟩
    let t := (flowDefine.define (args "h, hi ,, h2") definingTree).2
    ["hi", "h", "h2", "say"].map (t.findChild root) = [some ⟨4⟩, some ⟨4⟩, some ⟨4⟩, some ⟨3⟩] ∧
    (flowDefine.define (args "h, say") definingTree).1.toOption = none ∧
    (flowDefine.define (args "h, say") definingTree).2.size = definingTree.size := by
  decide +kernel

end Builtin

end FlowScript
