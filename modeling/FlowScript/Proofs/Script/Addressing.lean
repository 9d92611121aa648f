import FlowScript.Proofs.Run.Arguments
import FlowScript.Proofs.Script.Descent

/-!
# Invocations and the commands they address

An invocation is made of three things that are computed apart: the walk goes from node to node,
folding keeps a path of names in front of argument keys, and the tree has the path of each node.
They agree (`readInvocation_addressed`): the commands of an invocation form a chain of children, its
path is that of the last one, and each argument has the key under which a call of its command looks
for it, and no other call.
-/

namespace FlowScript

open CommandTree

variable {α : Type} {t : CommandTree α}

/-! ## Keys -/

/-- The path in front of the keys of a command's arguments makes these keys. -/
theorem CommandTree.WellFormed.keyPrefix_append (h : t.WellFormed) {id : NodeId}
    (hid : id.index < t.size) (hne : id ≠ root) (a : String) :
    t.keyPrefix id ++ a = Engine.argKey (t.displayPath id) a := by
  rw [h.argKey_eq_join hid hne, keyPrefix, Text.foldl_append_eq_join, String.empty_append]

/-- The arguments after a command have its path in front of the name of one of its parameters. -/
def Segment.Qualified (t : CommandTree α) (s : Segment) : Prop :=
  ∀ m a, s.command = some m → s.env = some a → ∀ e ∈ a.entries, e.2.isArg = true →
    ∃ b, t.Declares m.node b ∧ e.1 = t.keyPrefix m.node ++ b

theorem Segment.Qualified.of_env_none {s : Segment} (h : s.env = none) : s.Qualified t := by
  intro m a _ ha
  rw [h] at ha
  simp at ha

theorem Segment.Qualified.assign {s : Segment} (h : s.Qualified t) {id : NodeId}
    (hid : ∀ m, s.command = some m → m.node = id) (tokens : List String) :
    (s.assign (Invocation.qualify (t.keyPrefix id) (t.readAssignments id tokens).env)).Qualified
      t := by
  intro m a hm ha e he harg
  rcases mem_assign ha he with hnew | ⟨before, hbefore, hold⟩
  · obtain ⟨key, hkey, heq⟩ := Invocation.mem_qualify hnew
    rw [hid m hm]
    exact ⟨key, readAssignments_declared hkey harg, by rw [heq, if_pos harg]⟩
  · exact h m before hm hbefore e hold harg

namespace Invocation.Folding

/-- The segments are qualified, and the current one belongs to the command that was reached. -/
structure Addressed (t : CommandTree α) (id : NodeId) (f : Folding) : Prop where
  current : ∀ m, f.current.command = some m → m.node = id
  finished : ∀ s ∈ f.finished, s.Qualified t
  qualified : f.current.Qualified t

theorem Addressed.segments {id : NodeId} {f : Folding} (h : f.Addressed t id) :
    ∀ s ∈ f.segments, s.Qualified t := by
  intro s hs
  rw [Folding.segments] at hs
  split at hs
  · exact h.finished s hs
  · rcases List.mem_append.1 hs with hs | hs
    · exact h.finished s hs
    · exact List.mem_singleton.1 hs ▸ h.qualified

theorem Addressed.takes {id id' : NodeId} {f : Folding} (h : f.Addressed t id)
    (hpath : f.path = t.keyPrefix id) {more : List PathItem} (hmore : t.Takes id more id') :
    (more.foldl Folding.step f).Addressed t id' := by
  cases hmore with
  | nothing => exact h
  | separator => exact h
  | env =>
    refine ⟨h.current, h.finished, ?_⟩
    have hqualified := h.qualified.assign h.current
    rw [← hpath] at hqualified
    exact hqualified _
  | command hc =>
    refine ⟨?_, h.segments, .of_env_none rfl⟩
    rintro m ⟨⟩
    rfl

end Invocation.Folding

namespace CommandTree

theorem Leads.addressed (hwf : t.WellFormed) {items : List PathItem} {id : NodeId}
    (h : t.Leads items id) :
    (items.foldl Invocation.Folding.step .start).Addressed t id := by
  induction h with
  | start => exact ⟨by rintro m ⟨⟩, by rintro s ⟨⟩, .of_env_none rfl⟩
  | take hitems hmore ih =>
    rw [List.foldl_append]
    exact ih.takes (hitems.path hwf) hmore

/-! ## Invocations -/

/-- What an invocation has to do with the tree it was read for. -/
structure WellAddressed (t : CommandTree α) (i : Invocation) : Prop where
  /-- The first command is a child of the root, each next one a child of the one before. -/
  chain : List.IsChain (fun a b => b ∈ t.children a) (root :: i.commands.map (·.node))
  /-- The path is that of the last command, whatever spellings were used. -/
  path : i.path = t.pathNames i.target
  displayPath : i.displayPath = t.displayPath i.target
  /-- No segment is empty, and only the first may lack a command. -/
  nonempty : ∀ s ∈ i.segments, s.isEmpty = false
  commands : ∀ s ∈ i.segments.tail, s.command.isSome = true
  /-- The arguments after a command have the keys of parameters that it declares. -/
  keys : ∀ s ∈ i.segments, ∀ m a, s.command = some m → s.env = some a →
    ∀ e ∈ a.entries, e.2.isArg = true →
      ∃ b, t.Declares m.node b ∧ e.1 = Engine.argKey (t.displayPath m.node) b

/-- Keys tell the parameters of commands below the root apart, so that what is assigned to one of
them is never passed for another. -/
structure KeysApart (t : CommandTree α) : Prop where
  injective : ∀ m n a b, m ≠ root → n ≠ root → t.Declares m a → t.Declares n b →
    Engine.argKey (t.displayPath m) a = Engine.argKey (t.displayPath n) b → m = n ∧ a = b
  isolated : ∀ m n a b, m ≠ root → n ≠ root → t.Declares m a → t.Declares n b →
    (m, a) ≠ (n, b) → ∀ (x : Executable α) env v,
      (Engine.resolveArgs x (t.displayPath n)
          (env.assign (Engine.argKey (t.displayPath m) a) v)).get? b =
        (Engine.resolveArgs x (t.displayPath n) env).get? b

theorem Leads.wellAddressed (hwf : t.WellFormed) {items : List PathItem} {id : NodeId}
    (h : t.Leads items id) : t.WellAddressed (.ofItems items) := by
  obtain ⟨hchain, hlast⟩ := h.isChain
  rw [← Invocation.commands_ofItems] at hchain hlast
  have htarget : (Invocation.ofItems items).target = id := by
    rw [Invocation.target_eq, hlast]
  have hpath : (Invocation.ofItems items).path = t.pathNames id := by
    rw [Invocation.path, Invocation.commands_ofItems, h.names hwf]
  obtain ⟨hnonempty, hcommands⟩ := Invocation.ofItems_ordered items
  refine ⟨hchain, by rw [htarget, hpath], ?_, ?_, hcommands, ?_⟩
  · rw [Invocation.displayPath, hpath, htarget, CommandTree.displayPath]
  · intro s hs
    exact Bool.eq_false_iff.2 fun he => hnonempty s hs (Segment.isEmpty_iff.1 he)
  · intro s hs m a hm ha e he harg
    obtain ⟨b, hb, heq⟩ := (h.addressed hwf).segments s hs m a hm ha e he harg
    have hmem : m ∈ (Invocation.ofItems items).commands := List.mem_filterMap.2 ⟨s, hs, hm⟩
    rw [Invocation.commands_ofItems] at hmem
    exact ⟨b, hb, heq.trans (hwf.keyPrefix_append hb.lt_size (h.ne_root hwf hmem) b)⟩

/-- What is read for a tree addresses its commands, and no two parameters are addressed alike. -/
theorem readInvocation_addressed (h : t.Reachable) {tokens : List String} {i : Invocation}
    (hi : t.readInvocation tokens = .ok i) : t.WellAddressed i ∧ t.KeysApart := by
  have hwf := h.wellFormed
  constructor
  · cases hitems : t.readItems tokens with
    | error e => simp [readInvocation, hitems, Except.map] at hi
    | ok items =>
      obtain ⟨id, hleads⟩ := leads_of_readItems hitems
      simp only [readInvocation, hitems, Except.map, Except.ok.injEq] at hi
      exact hi ▸ hleads.wellAddressed hwf
  · exact ⟨fun m n a b hm hn ha hb => hwf.argKey_injective hm hn ha hb,
      fun m n a b hm hn ha hb hne => hwf.get?_resolveArgs_assign hm hn ha hb hne⟩

/-- Blocks before, between and after the commands. -/
theorem readInvocation_addressed_deploy :
    ∃ i, sampleTree.readInvocation
        ["\x7b x=1\x7d d", "\x7by=2", "\x7d.p\x7br = us \x7d"] = .ok i ∧
      i.fragments.map (·.entries) = [[("x", ⟨"1", false⟩)], [("y", ⟨"2", false⟩)],
        [("deploy.prod.region", ⟨"us", true⟩)]] ∧
      sampleTree.WellAddressed i ∧ sampleTree.KeysApart := by
  have hrun : ((Walk.start ["\x7b x=1\x7d d", "\x7by=2", "\x7d.p\x7br = us \x7d"]).runWithin
      sampleTree 20).map (·.toOption.map fun items =>
        (Invocation.ofItems items).fragments.map (·.entries)) =
      some (some [[("x", ⟨"1", false⟩)], [("y", ⟨"2", false⟩)],
        [("deploy.prod.region", ⟨"us", true⟩)]]) := by
    decide +kernel
  obtain ⟨result, hresult, hfragments⟩ := Option.map_eq_some_iff.1 hrun
  cases result with
  | error e => simp [Except.toOption] at hfragments
  | ok items =>
    have hi : sampleTree.readInvocation
        ["\x7b x=1\x7d d", "\x7by=2", "\x7d.p\x7br = us \x7d"] = .ok (.ofItems items) := by
      rw [readInvocation, readItems, Walk.run_of_runWithin hresult]
      rfl
    exact ⟨_, hi, Option.some.inj hfragments, readInvocation_addressed sampleTree_reachable hi⟩

end CommandTree

end FlowScript
