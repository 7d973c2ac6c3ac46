import GraphWalk.Proofs.Registry.Way

/-!
# What linking reports

Linking reports every base that is not there, and then the ways on which its depth first visits
come back to a record that they are at. A visit that ends well has linked its record, and no
cycle is reached from what is linked, off the ways that were reported before; a visit that fails
has followed a way (`linkVisit_ends`). So the errors are those of the ways of `Reports`
(`linkAll_reports`).

Main result: `violations_of_link`.
-/

namespace GraphWalk

namespace Registry

open Relation

variable {r r' : Registry} {run run' : LinkRun} {a : Architype} {key : ArchKey}
  {ks ks' vs : List ArchKey} {W : Set ArchKey} {res : LinkRun × Option RegistryError}

/-! ## Runs -/

theorem SameOutlines.baseKeys (h : r.SameOutlines r') (key : ArchKey) :
    r'.baseKeys key = r.baseKeys key := by
  have hbases := congrArg (Option.map fun a => a.bases.map (ArchKey.mk a.kind)) (h.find? key)
  rw [Option.map_map, Option.map_map] at hbases
  exact congrArg (Option.getD · []) hbases

theorem SameOutlines.module (h : r.SameOutlines r') (key : ArchKey) :
    (r'.find? key).map Architype.module = (r.find? key).map Architype.module := by
  have := congrArg (Option.map Architype.module) (h.find? key)
  rwa [Option.map_map, Option.map_map] at this

/-- **The invariant** of a linking run over the records of `r` after the ways along `W` were
reported: they are done, and from what is done no cycle is reached off them. -/
structure Traces (r : Registry) (W : Set ArchKey) (run : LinkRun) : Prop where
  outlines : r.SameOutlines run.registry
  distinct : run.visiting.Nodup
  known : run.visiting ⊆ r.archs.map Architype.key
  apart : ∀ k ∈ run.linked, k ∉ run.visiting
  done : ∀ k ∈ W, k ∈ run.linked
  spared : ∀ k ∈ run.linked, ¬r.Caught W k

/-- From `run` to `run'` the records `ks` were linked, and visits have ended that began. -/
structure Follows (r : Registry) (W : Set ArchKey) (run run' : LinkRun) (ks : List ArchKey) :
    Prop where
  traces : r.Traces W run'
  visiting : run'.visiting = run.visiting
  grown : run.linked ⊆ run'.linked
  done : ks ⊆ run'.linked

/-- A visit has failed: it was on a way that goes on from `vs`, and it is still at all of it. -/
structure Strays (r : Registry) (W : Set ArchKey) (vs : List ArchKey) (run : LinkRun)
    (e : RegistryError) (w : Way) : Prop where
  traces : r.Traces W run
  isWay : r.IsWay W w
  keys : w.keys = run.visiting.reverse
  start : vs <+: w.loop
  error : e = r.wayError w

/-- **How visits end** on the way `vs`: the records `ks` are linked, or a way is reported. -/
def Ends (r : Registry) (W : Set ArchKey) (vs : List ArchKey) (run : LinkRun)
    (ks : List ArchKey) : LinkRun × Option RegistryError → Prop
  | (run', none) => r.Follows W run run' ks
  | (run', some e) => ∃ w, r.Strays W vs run' e w

/-- What is done before a visit stays done. -/
theorem Ends.after (h : r.Ends W vs run' ks res) (hbefore : r.Follows W run run' ks') :
    r.Ends W vs run ks res := by
  obtain ⟨run'', fault⟩ := res
  cases fault with
  | some e => exact h
  | none =>
    refine ⟨h.traces, h.visiting.trans hbefore.visiting, ?_, h.done⟩
    exact fun _ hk => h.grown (hbefore.grown hk)

theorem Ends.shorten {vs' : List ArchKey} (h : r.Ends W vs' run ks res) (hvs : vs <+: vs') :
    r.Ends W vs run ks res := by
  obtain ⟨run', fault⟩ := res
  cases fault with
  | some e =>
    obtain ⟨w, hw⟩ := h
    exact ⟨w, hw.traces, hw.isWay, hw.keys, hvs.trans hw.start, hw.error⟩
  | none => exact h

namespace Traces

theorem keys (h : r.Traces W run) (ok : r.Based) : (run.registry.archs.map Architype.key).Nodup :=
  h.outlines.keys ▸ ok.keys

/-- Fewer records are being visited than there are. -/
theorem visiting_length (h : r.Traces W run) : run.visiting.length ≤ r.archs.length := by
  rw [← List.length_map (f := Architype.key)]
  exact (List.subperm_of_subset h.distinct h.known).length_le

/-- A visit begins. -/
theorem enter (h : r.Traces W run) (hkey : key ∈ r.archs.map Architype.key)
    (hl : key ∉ run.linked) (hv : key ∉ run.visiting) :
    r.Traces W { run with visiting := key :: run.visiting } where
  outlines := h.outlines
  distinct := List.nodup_cons.2 ⟨hv, h.distinct⟩
  known := List.cons_subset.2 ⟨hkey, h.known⟩
  apart := fun k hk hm => by
    rcases List.mem_cons.1 hm with rfl | hm
    · exact hl hk
    · exact h.apart k hk hm
  done := h.done
  spared := h.spared

/-- **A record is linked** after its bases: no cycle is reached from it if none is from them. -/
theorem leave (h : r.Traces W run) (ok : r.Based) (hv : run.visiting = a.key :: vs)
    (ha : (run.registry.find? a.key).map Architype.outline = some a.outline)
    (hbases : r.baseKeys a.key ⊆ run.linked) (bases : List Architype) :
    r.Traces W ⟨run.registry.replace (a.link bases), vs, a.key :: run.linked⟩ where
  outlines := h.outlines.replace (h.keys ok) ha bases
  distinct := (List.nodup_cons.1 (hv ▸ h.distinct)).2
  known := (List.cons_subset.1 (hv ▸ h.known)).2
  apart := fun k hk hm => by
    rcases List.mem_cons.1 hk with rfl | hk
    · exact (List.nodup_cons.1 (hv ▸ h.distinct)).1 hm
    · exact h.apart k hk (hv ▸ List.mem_cons_of_mem _ hm)
  done := fun k hk => List.mem_cons_of_mem _ (h.done k hk)
  spared := fun k hk hcaught => by
    rcases List.mem_cons.1 hk with rfl | hk
    · -- a base is caught then, but all bases are linked
      obtain ⟨k', hstep, hcaught⟩ := caught_iff.1 hcaught
      exact h.spared k' (hbases (ok.mem_baseKeys hstep.1)) hcaught
    · exact h.spared k hk hcaught

/-- A visit that comes back to a record that it is at has followed a way. -/
theorem strays (h : r.Traces W run) (ha : run.registry.find? a.key = some a)
    (hv : a.key ∈ run.visiting)
    (hway : (a.key :: run.visiting).IsChain (flip (r.Tries W))) :
    r.Strays W (a.key :: run.visiting).reverse run
      (.issue .inheritanceCycle (.arch a.key) a.module
        (" -> ".intercalate (a.name :: run.visiting.map ArchKey.name).reverse))
      ⟨run.visiting.reverse, a.key⟩ where
  traces := h
  isWay := by
    -- the record that was entered last stands first, so the way is read backwards
    have hloop := List.isChain_reverse.2 hway
    rw [List.reverse_cons] at hloop
    exact ⟨List.nodup_reverse.2 h.distinct, List.mem_reverse.2 hv,
      fun k hk hW => h.apart k (h.done k hW) (List.mem_reverse.1 hk), hloop⟩
  keys := rfl
  start := by
    rw [List.reverse_cons]
    exact List.prefix_rfl
  error := by
    have hmodule : (r.find? a.key).map Architype.module = some a.module := by
      rw [← h.outlines.module, ha]
      rfl
    unfold wayError Way.loop
    simp only
    rw [hmodule, List.map_append, List.map_reverse, List.reverse_cons]
    rfl

end Traces

/-! ## Visits -/

variable {fuel : Nat} {kind : Kind} {stack : List String}

/-- Visits of the bases of a record end like the single visits. -/
theorem visitBases_ends (hvisit : ∀ run n, r.Traces W run → run.visiting = vs →
      r.Tries W key ⟨kind, n⟩ → r.Ends W vs.reverse run [⟨kind, n⟩]
        (linkVisit fuel run stack ⟨kind, n⟩)) (bases : List String) :
    ∀ run pre, r.Traces W run → run.visiting = vs →
      r.baseKeys key = pre ++ bases.map (ArchKey.mk kind) → pre ⊆ run.linked →
      r.Ends W vs.reverse run (r.baseKeys key) (visitBases fuel kind stack bases (run, none)) := by
  -- the bases before the next one are linked, so the next one is tried
  induction bases with
  | nil =>
    intro run pre h hv hkeys hpre
    rw [List.map_nil, List.append_nil] at hkeys
    exact ⟨h, rfl, List.Subset.refl _, hkeys ▸ hpre⟩
  | cons n bases ih =>
    intro run pre h hv hkeys hpre
    have htries : r.Tries W key ⟨kind, n⟩ := ⟨pre, _, hkeys, fun x hx => h.spared x (hpre hx)⟩
    have hn := hvisit run n h hv htries
    have hstep : visitBases fuel kind stack (n :: bases) (run, none) =
        visitBases fuel kind stack bases (linkVisit fuel run stack ⟨kind, n⟩) := rfl
    rw [hstep]
    generalize linkVisit fuel run stack ⟨kind, n⟩ = res at hn
    obtain ⟨run', fault⟩ := res
    cases fault with
    | some e =>
      rw [visitBases_error]
      exact hn
    | none =>
      have hkeys' : r.baseKeys key = (pre ++ [⟨kind, n⟩]) ++ bases.map (ArchKey.mk kind) := by
        rw [hkeys, List.map_cons, List.append_assoc]
        rfl
      have hpre' : pre ++ [⟨kind, n⟩] ⊆ run'.linked :=
        List.append_subset.2 ⟨fun _ hk => hn.grown (hpre hk), hn.done⟩
      exact (ih run' _ hn.traces (hn.visiting.trans hv) hkeys' hpre').after hn

/-- A visit to a record ends when its bases are linked. -/
theorem leave_ends (ok : r.Based) (h : r.Traces W run) (ha : run.registry.find? a.key = some a)
    (hbases : r.Ends W vs { run with visiting := a.key :: run.visiting } (r.baseKeys a.key) res) :
    r.Ends W vs run [a.key] (leave a a.key res) := by
  obtain ⟨run', fault⟩ := res
  cases fault with
  | some e => exact hbases
  | none =>
    have hv : run'.visiting = a.key :: run.visiting := hbases.visiting
    have herase : run'.visiting.erase a.key = run.visiting := by
      rw [hv, List.erase_cons_head]
    have ha' : (run'.registry.find? a.key).map Architype.outline = some a.outline := by
      rw [hbases.traces.outlines.find?, ← h.outlines.find?, ha]
      rfl
    refine ⟨?_, herase, ?_, ?_⟩
    · exact herase ▸ hbases.traces.leave ok hv ha' hbases.done _
    · exact fun k hk => List.mem_cons_of_mem _ (hbases.grown hk)
    · exact List.cons_subset.2 ⟨List.mem_cons_self, List.nil_subset _⟩

/-- **A visit** links its record, or has followed a way on from the records on the way to it. -/
theorem linkVisit_ends (ok : r.Based) (fuel : Nat) : ∀ (run : LinkRun) (stack : List String)
    (key : ArchKey), r.Traces W run → key ∈ r.archs.map Architype.key →
    stack = run.visiting.map ArchKey.name →
    (key :: run.visiting).IsChain (flip (r.Tries W)) →
    r.archs.length < fuel + run.visiting.length →
    r.Ends W (key :: run.visiting).reverse run [key] (linkVisit fuel run stack key) := by
  -- each record on the way uses up some fuel, and there are no more of them than records
  induction fuel with
  | zero =>
    intro run stack key h _ _ _ hfuel
    have := h.visiting_length
    omega
  | succ fuel ih =>
    intro run stack key h hkey hstack hway hfuel
    cases ha : run.registry.find? key with
    | none =>
      rw [find?_eq_none, h.outlines.keys] at ha
      exact absurd hkey ha
    | some a =>
      obtain rfl := find?_key ha
      by_cases hl : a.key ∈ run.linked
      · rw [linkVisit_linked ha (List.contains_iff_mem.2 hl)]
        exact ⟨h, rfl, List.Subset.refl _, List.cons_subset.2 ⟨hl, List.nil_subset _⟩⟩
      · have hl' : run.linked.contains a.key = false := by simpa using hl
        by_cases hv : a.key ∈ run.visiting
        · rw [linkVisit_cycle ha hl' (List.contains_iff_mem.2 hv), hstack]
          exact ⟨_, h.strays ha hv hway⟩
        · have hv' : run.visiting.contains a.key = false := by simpa using hv
          rw [linkVisit_succ ha hl' hv']
          have hkeys : r.baseKeys a.key = a.bases.map (ArchKey.mk a.kind) := by
            rw [← h.outlines.baseKeys, baseKeys_of_find? ha]
          refine leave_ends ok h ha ?_
          -- a visit to a base goes on from here
          refine visitBases_ends ?_ a.bases _ [] (h.enter hkey hl hv) rfl hkeys
            (List.nil_subset _)
          intro run' n h' hvisiting htries
          have hbase : ⟨a.kind, n⟩ ∈ r.archs.map Architype.key := ok.mem_of_extends htries.extends
          have hon : (⟨a.kind, n⟩ :: run'.visiting).IsChain (flip (r.Tries W)) :=
            hvisiting ▸ List.isChain_cons_cons.2 ⟨htries, hway⟩
          have hends := ih run' (a.name :: stack) ⟨a.kind, n⟩ h' hbase
            (by rw [hvisiting, hstack]; rfl) hon (by rw [hvisiting, List.length_cons]; omega)
          rw [List.reverse_cons, hvisiting] at hends
          exact hends.shorten (List.prefix_append _ _)

/-! ## Linking -/

/-- When a way is reported, all that was being visited is done. -/
theorem Strays.handled {w : Way} {e : RegistryError} (h : r.Strays W vs run e w) :
    r.Traces ({x | x ∈ w.keys} ∪ W)
      { run with visiting := [], linked := run.visiting ++ run.linked } where
  outlines := h.traces.outlines
  distinct := List.nodup_nil
  known := List.nil_subset _
  apart := fun _ _ hm => nomatch hm
  done := by
    rintro k (hk | hk)
    · have hk' : k ∈ run.visiting.reverse := h.keys ▸ hk
      exact List.mem_append_left _ (List.mem_reverse.1 hk')
    · exact List.mem_append_right _ (h.traces.done k hk)
  spared := fun k hk hcaught => by
    rcases List.mem_append.1 hk with hk | hk
    · have hk' : k ∈ w.keys := h.keys ▸ List.mem_reverse.2 hk
      exact hcaught.not_mem (Or.inl hk')
    · exact h.traces.spared k hk (hcaught.anti Set.subset_union_right)

/-- **Linking from one record** reports nothing if no cycle is reached from it, or else the way
from it. -/
theorem linkFrom_reports (ok : r.Based) (h : r.Traces W run) (hv : run.visiting = [])
    (hkey : key ∈ r.archs.map Architype.key) : (linkFrom run key).1.visiting = [] ∧
    ((linkFrom run key).2 = [] ∧ r.Traces W (linkFrom run key).1 ∧ ¬r.Caught W key ∨
      ∃ w, (linkFrom run key).2 = [r.wayError w] ∧ r.IsWay W w ∧ w.loop.head? = some key ∧
        r.Traces ({x | x ∈ w.keys} ∪ W) (linkFrom run key).1) := by
  have hvisit := linkVisit_ends ok (run.registry.archs.length + 1) run [] key h hkey
    (by rw [hv]; rfl) (by rw [hv]; exact List.isChain_singleton _)
    (by rw [h.outlines.length]; omega)
  rw [hv] at hvisit
  unfold linkFrom
  generalize linkVisit (run.registry.archs.length + 1) run [] key = res at hvisit
  obtain ⟨run', fault⟩ := res
  cases fault with
  | none =>
    have hdone : key ∈ run'.linked := hvisit.done (List.mem_singleton_self key)
    exact ⟨hvisit.visiting.trans hv, Or.inl ⟨rfl, hvisit.traces, hvisit.traces.spared key hdone⟩⟩
  | some e =>
    obtain ⟨w, hw⟩ := hvisit
    have hstart : w.loop.head? = some key := by
      obtain ⟨rest, hrest⟩ := hw.start
      rw [← hrest]
      rfl
    exact ⟨rfl, Or.inr ⟨w, congrArg (fun e => [e]) hw.error, hw.isWay, hstart, hw.handled⟩⟩

/-- **Linking all records** reports ways, one after the other. -/
theorem linkAll_reports (ok : r.Based) (ks : List ArchKey) : ∀ W run pre, r.Traces W run →
    run.visiting = [] → r.archs.map Architype.key = pre ++ ks → (∀ k ∈ pre, ¬r.Caught W k) →
    ∃ ws, r.Reports W ws ∧ (linkAll ks run).2 = ws.map r.wayError := by
  induction ks with
  | nil =>
    intro W run pre h hv hkeys hpre
    rw [List.append_nil] at hkeys
    exact ⟨[], .done (hkeys ▸ hpre), rfl⟩
  | cons key ks ih =>
    intro W run pre h hv hkeys hpre
    have hkey : key ∈ r.archs.map Architype.key :=
      hkeys ▸ List.mem_append_right pre List.mem_cons_self
    have hkeys' : r.archs.map Architype.key = (pre ++ [key]) ++ ks := by
      rw [hkeys, List.append_assoc]
      rfl
    have hall : (linkAll (key :: ks) run).2 =
        (linkFrom run key).2 ++ (linkAll ks (linkFrom run key).1).2 := rfl
    obtain ⟨hv', ⟨hnone, htraces, hspared⟩ | ⟨w, herror, hway, hstart, htraces⟩⟩ :=
      linkFrom_reports ok h hv hkey
    · have hpre' : ∀ k ∈ pre ++ [key], ¬r.Caught W k :=
        List.forall_mem_append.2 ⟨hpre, List.forall_mem_singleton.2 hspared⟩
      obtain ⟨ws, hws, herrors⟩ := ih W _ _ htraces hv' hkeys' hpre'
      refine ⟨ws, hws, ?_⟩
      rw [hall, hnone, herrors]
      rfl
    · -- the record that the way starts from is on it, so it is out of bounds from now on
      have hon : key ∈ w.keys := hway.mem_of_loop (List.mem_of_mem_head? hstart)
      have hpre' : ∀ k ∈ pre ++ [key], ¬r.Caught ({x | x ∈ w.keys} ∪ W) k := by
        refine List.forall_mem_append.2 ⟨fun k hk hcaught => ?_, List.forall_mem_singleton.2 ?_⟩
        · exact hpre k hk (hcaught.anti Set.subset_union_right)
        · exact fun hcaught => hcaught.not_mem (Or.inl hon)
      obtain ⟨ws, hws, herrors⟩ := ih _ _ _ htraces hv' hkeys' hpre'
      refine ⟨w :: ws, .next hkeys hpre hstart hway hws, ?_⟩
      rw [hall, herror, herrors]
      rfl

/-- The error for a base name of `a` that no record has. -/
def unknownBase (a : Architype) (n : String) : RegistryError :=
  .issue .unknownBase (.arch a.key) a.module
    (a.kind.text ++ " " ++ Text.quote n ++ " is not declared")

/-- The errors for all base names that no record of their kind has. -/
def unknownBases (r : Registry) : List RegistryError :=
  r.archs.flatMap fun a =>
    (a.baseNames.filter fun n => (r.find? ⟨a.kind, n⟩).isNone).map (unknownBase a)

/-- Linking reports a cycle at the record of `key`. -/
def CycleAt (r : Registry) (key : ArchKey) : Prop :=
  ∃ module detail, .issue .inheritanceCycle (.arch key) module detail ∈ r.link.2

theorem resolveBases_unknown (r : Registry) :
    (r.archs.flatMap fun a => (r.resolveBases a).2) = r.unknownBases := by
  unfold resolveBases unknownBases
  simp only [Option.not_isSome]
  rfl

theorem wayError_based (r : Registry) : r.based.wayError = r.wayError := by
  funext w
  unfold wayError
  rw [find?_based, Option.map_map]
  rfl

theorem Traces.empty (r : Registry) : r.Traces ∅ ⟨r, [], []⟩ where
  outlines := rfl
  distinct := List.nodup_nil
  known := List.nil_subset _
  apart := fun _ hk => nomatch hk
  done := fun _ hk => nomatch hk
  spared := fun _ hk => nomatch hk

/-- **The errors of linking** are those of unknown bases and those of ways. -/
theorem link_errors (ok : r.Tidy) (hf : r.frozen = false) :
    ∃ ws, r.based.Reports ∅ ws ∧ r.link.2 = r.unknownBases ++ ws.map r.wayError := by
  obtain ⟨ws, hws, herrors⟩ := linkAll_reports (based_spec ok.keys) (r.archs.map Architype.key) ∅
    ⟨r.based, [], []⟩ [] (Traces.empty r.based) rfl r.based_keys (fun _ hk => nomatch hk)
  refine ⟨ws, hws, ?_⟩
  rw [link_eq hf, herrors, resolveBases_unknown, wayError_based]

/-- An error of linking is a cycle at the record of `key` if it is that of a way back to it. -/
theorem cycleAt_iff {ws : List Way} (h : r.link.2 = r.unknownBases ++ ws.map r.wayError) :
    r.CycleAt key ↔ ∃ w ∈ ws, w.back = key := by
  unfold CycleAt
  rw [h]
  constructor
  · rintro ⟨module, detail, hmem⟩
    rcases List.mem_append.1 hmem with hmem | hmem
    · obtain ⟨a, -, hmem⟩ := List.mem_flatMap.1 hmem
      obtain ⟨n, -, hn⟩ := List.mem_map.1 hmem
      cases hn
    · obtain ⟨w, hw, herror⟩ := List.mem_map.1 hmem
      unfold wayError at herror
      injection herror with _ hsubject
      injection hsubject with hback
      exact ⟨w, hw, hback⟩
  · rintro ⟨w, hw, rfl⟩
    exact ⟨_, _, List.mem_append_right _ (List.mem_map.2 ⟨w, hw, rfl⟩)⟩

/-- **What linking reports.** Whatever calls were made of a registry that is not frozen, linking
it reports every base name of a record that no record of its kind has, and a way to a cycle for
each of `Reports`. Reported cycles are cycles, and from every cycle one comes to one of them; but
the component of a record has a report of its own exactly if it has a cycle that is met by none
of the ways to cycles of other components. -/
theorem violations_of_link (cs : List Call) (hf : (empty.performs cs).frozen = false) :
    let r := empty.performs cs
    ∃ ws, (∀ ws', r.based.Reports ∅ ws' ↔ ws' = ws) ∧
      r.link.2 = r.unknownBases ++ ws.map r.wayError ∧
      (∀ c, r.CycleAt c → TransGen r.based.Extends c c) ∧
      (∀ k, TransGen r.based.Extends k k →
        ∃ c, r.CycleAt c ∧ ReflTransGen r.based.Extends k c) ∧
      ∀ k, (∃ c, r.CycleAt c ∧ r.based.Mutual k c) ↔
        ∃ c, r.based.Mutual k c ∧
          TransGen (r.based.StepsOff
            {x | ∃ w ∈ ws, ¬r.based.Mutual k w.back ∧ x ∈ w.keys}) c c := by
  intro r
  obtain ⟨ws, hws, herrors⟩ := link_errors (tidy_of_calls cs) hf
  refine ⟨ws, fun ws' => ⟨fun h => h.unique hws, fun h => h ▸ hws⟩, herrors, ?_, ?_, ?_⟩
  · intro c hc
    obtain ⟨w, hw, rfl⟩ := (cycleAt_iff herrors).1 hc
    obtain ⟨V, -, hway⟩ := hws.isWay w hw
    exact (hws.cycle hw hway.closes).1
  · intro k hcycle
    obtain ⟨w, hw, hreach⟩ := hws.exists_back hcycle
    exact ⟨w.back, (cycleAt_iff herrors).2 ⟨w, hw, rfl⟩, hreach⟩
  · intro k
    rw [← hws.back_iff k]
    constructor
    · rintro ⟨c, hc, hmutual⟩
      obtain ⟨w, hw, rfl⟩ := (cycleAt_iff herrors).1 hc
      exact ⟨w, hw, hmutual⟩
    · rintro ⟨w, hw, hmutual⟩
      exact ⟨w.back, (cycleAt_iff herrors).2 ⟨w, hw, rfl⟩, hmutual⟩

/-- Two records that extend each other, and a third that extends itself and is tried first. -/
def tangle : List Call :=
  [.architype "m" ⟨.node, "A"⟩ ⟨["B"], [], false⟩,
    .architype "m" ⟨.node, "B"⟩ ⟨["C", "A"], [], false⟩,
    .architype "m" ⟨.node, "C"⟩ ⟨["C"], [], false⟩]

theorem tangle_cycle :
    TransGen (empty.performs tangle).based.Extends ⟨.node, "A"⟩ ⟨.node, "A"⟩ := by
  refine .tail (b := ⟨.node, "B"⟩) (.single (extends_of_mem ?_)) (extends_of_mem ?_)
  · decide
  · decide

theorem violations_tangle : (empty.performs tangle).frozen = false ∧
    TransGen (empty.performs tangle).based.Extends ⟨.node, "A"⟩ ⟨.node, "A"⟩ ∧
    ∃ c, (empty.performs tangle).CycleAt c ∧
      ReflTransGen (empty.performs tangle).based.Extends ⟨.node, "A"⟩ c := by
  refine ⟨rfl, tangle_cycle, ?_⟩
  obtain ⟨ws, -, -, -, hreported, -⟩ := violations_of_link tangle rfl
  exact hreported ⟨.node, "A"⟩ tangle_cycle

theorem tangle_errors : (empty.performs tangle).link.2 =
    [.issue .inheritanceCycle (.arch ⟨.node, "C"⟩) "m" "A -> B -> C -> C"] := by
  decide

/-- Nothing but itself is reached from the third record. -/
theorem tangle_reach (h : ReflTransGen (empty.performs tangle).based.Extends ⟨.node, "C"⟩ key) :
    key = ⟨.node, "C"⟩ := by
  have ok := based_spec (tidy_of_calls tangle).keys
  have hbases : (empty.performs tangle).based.baseKeys ⟨.node, "C"⟩ = [⟨.node, "C"⟩] := by decide
  induction h with
  | refl => rfl
  | tail _ hstep ih =>
    subst ih
    have hmem := ok.mem_baseKeys hstep
    rw [hbases] at hmem
    exact List.mem_singleton.1 hmem

/-- A cycle on the way to another one is not reported. -/
theorem unreported_tangle : (empty.performs tangle).frozen = false ∧
    TransGen (empty.performs tangle).based.Extends ⟨.node, "A"⟩ ⟨.node, "A"⟩ ∧
    ¬∃ c, (empty.performs tangle).CycleAt c ∧
      (empty.performs tangle).based.Mutual ⟨.node, "A"⟩ c := by
  refine ⟨rfl, tangle_cycle, ?_⟩
  rintro ⟨c, ⟨module, detail, hmem⟩, -, hback⟩
  rw [tangle_errors, List.mem_singleton] at hmem
  injection hmem with _ hsubject
  injection hsubject with hc
  subst hc
  exact absurd (tangle_reach hback) (by decide)

end Registry

end GraphWalk
