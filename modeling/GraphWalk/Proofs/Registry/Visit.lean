import GraphWalk.Proofs.Registry.Hierarchy
import Mathlib.Data.List.Perm.Subperm

/-!
# Linking decides whether bases are in order

Linking visits records depth first, bases before what extends them. A visit that ends well has
linked its record and whatever is reached from it, and has left the records on the way to it
unlinked; a visit that fails has come back to one of these, which is a cycle
(`linkVisit_outcome`). So linking succeeds exactly if every base is declared and there is no
cycle, and then every record inherits from what is reached over its bases.

Main result: `decided_of_link`.
-/

namespace GraphWalk

/-- All of a record that linking it leaves alone. -/
def Architype.outline (a : Architype) : Architype :=
  { a with linkedFields := [], linkedAbilities := [], ancestry := [] }

namespace Registry

open Relation

variable {r r' : Registry} {run run' run'' : LinkRun} {a b : Architype} {key : ArchKey}
  {ks ks' : List ArchKey} {res : LinkRun × Option RegistryError}

/-! ## Outlines -/

theorem find?_link (bases : List Architype) (k : ArchKey) :
    (r.replace (a.link bases)).find? k =
      if k = a.key then (r.find? k).map fun _ => a.link bases else r.find? k :=
  find?_replace (a.link bases) k

/-- The records of `r'` are those of `r`, linked or not. -/
def SameOutlines (r r' : Registry) : Prop :=
  r'.archs.map Architype.outline = r.archs.map Architype.outline

namespace SameOutlines

theorem keys (h : r.SameOutlines r') : r'.archs.map Architype.key = r.archs.map Architype.key := by
  have := congrArg (List.map Architype.key) h
  rwa [List.map_map, List.map_map] at this

theorem length (h : r.SameOutlines r') : r'.archs.length = r.archs.length := by
  have := congrArg List.length h
  rwa [List.length_map, List.length_map] at this

theorem find? (h : r.SameOutlines r') (key : ArchKey) :
    (r'.find? key).map Architype.outline = (r.find? key).map Architype.outline := by
  rw [← find?_map_archs (f := Architype.outline) fun _ => rfl,
    ← find?_map_archs (f := Architype.outline) fun _ => rfl]
  unfold Registry.find?
  rw [h]

theorem mem (h : r.SameOutlines r') (ha : a ∈ r'.archs) : ∃ b ∈ r.archs, b.outline = a.outline := by
  have hm := List.mem_map_of_mem (f := Architype.outline) ha
  rw [h] at hm
  exact List.mem_map.1 hm

theorem extends_of (h : r.SameOutlines r') {key' : ArchKey} (hstep : r'.Extends key key') :
    r.Extends key key' := by
  obtain ⟨a, ha, rfl, n, hn, rfl⟩ := hstep
  obtain ⟨b, hb, hab⟩ := h.mem ha
  have hkey : b.outline.key = a.outline.key := congrArg Architype.key hab
  have hkind : b.outline.kind = a.outline.kind := congrArg Architype.kind hab
  have hbases : b.outline.bases = a.outline.bases := congrArg Architype.bases hab
  exact ⟨b, hb, hkey, n, hbases.symm ▸ hn, congrArg (ArchKey.mk · n) hkind.symm⟩

theorem extends_eq (h : r.SameOutlines r') : r'.Extends = r.Extends := by
  funext key key'
  exact propext ⟨h.extends_of, SameOutlines.extends_of (Eq.symm h)⟩

theorem based (h : r.SameOutlines r') (ok : r.Based) : r'.Based := by
  refine ⟨h.keys ▸ ok.keys, fun a ha n hn => ?_⟩
  have hstep : r'.Extends a.key ⟨a.kind, n⟩ := ⟨a, ha, rfl, n, hn, rfl⟩
  have hmem := ok.mem_of_extends (h.extends_of hstep)
  rw [← h.keys] at hmem
  exact Option.ne_none_iff_exists'.1 fun hnone => find?_eq_none.1 hnone hmem

/-- Linking a record changes no outline. -/
theorem replace (h : r.SameOutlines r') (hk : (r'.archs.map Architype.key).Nodup)
    (ha : (r'.find? a.key).map Architype.outline = some a.outline) (bases : List Architype) :
    r.SameOutlines (r'.replace (a.link bases)) := by
  refine Eq.trans ?_ h
  unfold Registry.replace
  rw [List.map_map]
  apply List.map_congr_left
  intro b hb
  simp only [Function.comp]
  split
  · -- the record that is replaced is the one that is found
    rename_i hkey
    have hfind : r'.find? a.key = some b := (find?_eq_some_of_nodup hk).2 ⟨hb, hkey⟩
    rw [hfind] at ha
    exact (Option.some.inj ha).symm
  · rfl

end SameOutlines

/-! ## Runs -/

/-- **The invariant** of a linking run over the records of `r`: what is linked is linked after
its bases, and is not among the records that are being visited. -/
structure Sound (r : Registry) (run : LinkRun) : Prop where
  outlines : r.SameOutlines run.registry
  distinct : run.visiting.Nodup
  known : run.visiting ⊆ r.archs.map Architype.key
  apart : ∀ k ∈ run.linked, k ∉ run.visiting
  closed : ∀ k ∈ run.linked, ∀ k', r.Extends k k' → k' ∈ run.linked
  founded : ∀ k ∈ run.linked, Acc (fun k k' => r.Extends k' k) k
  settled : ∀ k ∈ run.linked, ∀ a, run.registry.find? k = some a →
    a = a.link (run.registry.basesOf a)

/-- From `run` to `run'` the records `ks` were linked, and visits have ended that began. -/
structure Advances (r : Registry) (run run' : LinkRun) (ks : List ArchKey) : Prop where
  sound : r.Sound run'
  visiting : run'.visiting = run.visiting
  grown : run.linked ⊆ run'.linked
  done : ks ⊆ run'.linked

/-- Some record is reached from itself over its bases. -/
def Cyclic (r : Registry) : Prop := ∃ key, TransGen r.Extends key key

/-- How visits end: the records `ks` are linked, or there is a cycle. -/
def Outcome (r : Registry) (run : LinkRun) (ks : List ArchKey) :
    LinkRun × Option RegistryError → Prop
  | (run', none) => r.Advances run run' ks
  | (_, some _) => r.Cyclic

theorem Advances.refl (h : r.Sound run) (hks : ks ⊆ run.linked) : r.Advances run run ks :=
  ⟨h, rfl, List.Subset.refl _, hks⟩

theorem Advances.append (h : r.Advances run run' ks) (h' : r.Advances run' run'' ks') :
    r.Advances run run'' (ks ++ ks') where
  sound := h'.sound
  visiting := h'.visiting.trans h.visiting
  grown := fun _ hk => h'.grown (h.grown hk)
  done := List.append_subset.2 ⟨fun _ hk => h'.grown (h.done hk), h'.done⟩

theorem Outcome.append (h : r.Advances run run' ks) (h' : r.Outcome run' ks' res) :
    r.Outcome run (ks ++ ks') res := by
  obtain ⟨run'', fault⟩ := res
  cases fault with
  | some e => exact h'
  | none => exact Advances.append h h'

namespace Sound

theorem empty (r : Registry) : r.Sound ⟨r, [], []⟩ where
  outlines := rfl
  distinct := List.nodup_nil
  known := List.nil_subset _
  apart := fun _ hk => nomatch hk
  closed := fun _ hk => nomatch hk
  founded := fun _ hk => nomatch hk
  settled := fun _ hk => nomatch hk

theorem keys (h : r.Sound run) (ok : r.Based) : (run.registry.archs.map Architype.key).Nodup :=
  h.outlines.keys ▸ ok.keys

/-- A visit begins. -/
theorem enter (h : r.Sound run) (hkey : key ∈ r.archs.map Architype.key)
    (hl : key ∉ run.linked) (hv : key ∉ run.visiting) :
    r.Sound { run with visiting := key :: run.visiting } where
  outlines := h.outlines
  distinct := List.nodup_cons.2 ⟨hv, h.distinct⟩
  known := List.cons_subset.2 ⟨hkey, h.known⟩
  apart := fun k hk hm => by
    rcases List.mem_cons.1 hm with rfl | hm
    · exact hl hk
    · exact h.apart k hk hm
  closed := h.closed
  founded := h.founded
  settled := h.settled

/-- Fewer records are being visited than there are. -/
theorem visiting_length (h : r.Sound run) : run.visiting.length ≤ r.archs.length := by
  rw [← List.length_map (f := Architype.key)]
  exact (List.subperm_of_subset h.distinct h.known).length_le

/-- The steps from a record that is found in a run are those to its bases. -/
theorem bases_of_extends (h : r.Sound run) (ok : r.Based)
    (ha : (run.registry.find? a.key).map Architype.outline = some a.outline) {k' : ArchKey}
    (hstep : r.Extends a.key k') : ∃ n ∈ a.bases, k' = ⟨a.kind, n⟩ := by
  obtain ⟨b, hb, hkey, n, hn, rfl⟩ := hstep
  rw [h.outlines.find?, ok.find?.2 ⟨hb, hkey⟩] at ha
  have hab : b.outline = a.outline := Option.some.inj ha
  have hkind : b.outline.kind = a.outline.kind := congrArg Architype.kind hab
  have hbases : b.outline.bases = a.outline.bases := congrArg Architype.bases hab
  exact ⟨n, hbases ▸ hn, congrArg (ArchKey.mk · n) hkind⟩

/-- Linked bases stay as they are when a record is linked that was not. -/
theorem basesOf_replace (hbases : ∀ n ∈ b.bases, ⟨b.kind, n⟩ ∈ run.linked)
    (hl : a.key ∉ run.linked) (bases : List Architype) :
    (run.registry.replace (a.link bases)).basesOf b = run.registry.basesOf b := by
  refine List.filterMap_congr fun n hn => ?_
  rw [find?_link, if_neg]
  exact fun heq => hl (heq ▸ hbases n hn)

/-- **A record is linked** after its bases. -/
theorem link (h : r.Sound run) (ok : r.Based) {vs : List ArchKey}
    (hv : run.visiting = a.key :: vs)
    (ha : (run.registry.find? a.key).map Architype.outline = some a.outline)
    (hbases : ∀ n ∈ a.bases, ⟨a.kind, n⟩ ∈ run.linked) :
    r.Sound ⟨run.registry.replace (a.link (run.registry.basesOf a)), vs, a.key :: run.linked⟩ := by
  -- the record is being visited, so it is not linked yet, and all its steps lead to linked ones
  have hl : a.key ∉ run.linked := fun hl => h.apart _ hl (hv ▸ List.mem_cons_self)
  have hnodup := hv ▸ h.distinct
  have hsteps : ∀ k', r.Extends a.key k' → k' ∈ run.linked := fun k' hstep => by
    obtain ⟨n, hn, rfl⟩ := h.bases_of_extends ok ha hstep
    exact hbases n hn
  refine ⟨h.outlines.replace (h.keys ok) ha _, (List.nodup_cons.1 hnodup).2,
    (List.cons_subset.1 (hv ▸ h.known)).2, ?apart, ?closed, ?founded, ?settled⟩
  case apart =>
    intro k hk
    rcases List.mem_cons.1 hk with rfl | hk
    · exact (List.nodup_cons.1 hnodup).1
    · exact fun hm => h.apart k hk (hv ▸ List.mem_cons_of_mem _ hm)
  case closed =>
    intro k hk k' hstep
    rcases List.mem_cons.1 hk with rfl | hk
    · exact List.mem_cons_of_mem _ (hsteps k' hstep)
    · exact List.mem_cons_of_mem _ (h.closed k hk k' hstep)
  case founded =>
    intro k hk
    rcases List.mem_cons.1 hk with rfl | hk
    · exact Acc.intro _ fun k' hstep => h.founded k' (hsteps k' hstep)
    · exact h.founded k hk
  case settled =>
    intro k hk b hb
    rw [find?_link] at hb
    rcases List.mem_cons.1 hk with rfl | hk
    · rw [if_pos rfl] at hb
      obtain ⟨-, -, rfl⟩ := Option.map_eq_some_iff.1 hb
      exact congrArg a.link (basesOf_replace hbases hl _).symm
    · -- what was linked before looks at linked bases only, and `a` is none of them
      have hne : k ≠ a.key := fun heq => hl (heq ▸ hk)
      rw [if_neg hne] at hb
      rw [basesOf_replace (fun n hn => h.closed k hk _ ?_) hl]
      · exact h.settled k hk b hb
      · rw [← h.outlines.extends_eq]
        exact ⟨b, find?_mem hb, find?_key hb, n, hn, rfl⟩

end Sound

/-! ## Visits -/

variable {fuel : Nat} {kind : Kind} {stack : List String}

/-- After an error no further base is visited. -/
theorem visitBases_error (bases : List String) (e : RegistryError) :
    visitBases fuel kind stack bases (run, some e) = (run, some e) := by
  induction bases with
  | nil => rfl
  | cons n bases ih => exact ih

/-- Visits of bases end like the single visits. -/
theorem visitBases_outcome (fuel : Nat) (stack : List String) {vs : List ArchKey}
    (bases : List String) :
    ∀ run, r.Sound run → run.visiting = vs →
    (∀ n ∈ bases, ∀ run, r.Sound run → run.visiting = vs →
      r.Outcome run [⟨kind, n⟩] (linkVisit fuel run stack ⟨kind, n⟩)) →
    r.Outcome run (bases.map (ArchKey.mk kind)) (visitBases fuel kind stack bases (run, none)) := by
  induction bases with
  | nil => exact fun run h _ _ => Advances.refl h (List.nil_subset _)
  | cons n bases ih =>
    intro run h hv hvisit
    have hn := hvisit n List.mem_cons_self run h hv
    have hstep : visitBases fuel kind stack (n :: bases) (run, none) =
        visitBases fuel kind stack bases (linkVisit fuel run stack ⟨kind, n⟩) := rfl
    rw [hstep]
    generalize linkVisit fuel run stack ⟨kind, n⟩ = res at hn
    obtain ⟨run', fault⟩ := res
    cases fault with
    | some e =>
      rw [visitBases_error]
      exact hn
    | none =>
      refine Outcome.append hn (ih run' hn.sound (hn.visiting.trans hv) fun m hm => ?_)
      exact hvisit m (List.mem_cons_of_mem n hm)

/-- A visit to a record ends when its bases are linked. -/
theorem leave_outcome (ok : r.Based) (h : r.Sound run) (ha : run.registry.find? a.key = some a)
    (hbases : r.Advances { run with visiting := a.key :: run.visiting } run'
      (a.bases.map (ArchKey.mk a.kind))) :
    r.Outcome run [a.key] (leave a a.key (run', none)) := by
  have hv : run'.visiting = a.key :: run.visiting := hbases.visiting
  have herase : run'.visiting.erase a.key = run.visiting := by
    rw [hv, List.erase_cons_head]
  have ha' : (run'.registry.find? a.key).map Architype.outline = some a.outline := by
    rw [hbases.sound.outlines.find?, ← h.outlines.find?, ha]
    rfl
  have hsound := hbases.sound.link ok hv ha' fun n hn => hbases.done (List.mem_map_of_mem hn)
  refine ⟨herase ▸ hsound, herase, fun k hk => ?_, ?_⟩
  · exact List.mem_cons_of_mem _ (hbases.grown hk)
  · exact List.cons_subset.2 ⟨List.mem_cons_self, List.nil_subset _⟩

/-- **A visit** links its record, or has found a cycle. -/
theorem linkVisit_outcome (ok : r.Based) (fuel : Nat) : ∀ (run : LinkRun) (stack : List String)
    (key : ArchKey), r.Sound run → key ∈ r.archs.map Architype.key →
    (∀ k ∈ run.visiting, TransGen r.Extends k key) →
    r.archs.length < fuel + run.visiting.length →
    r.Outcome run [key] (linkVisit fuel run stack key) := by
  -- each record on the way uses up some fuel, and there are no more of them than records
  induction fuel with
  | zero =>
    intro run stack key h _ _ hfuel
    exact absurd h.visiting_length (by omega)
  | succ fuel ih =>
    intro run stack key h hkey hway hfuel
    cases ha : run.registry.find? key with
    | none =>
      rw [find?_eq_none, h.outlines.keys] at ha
      exact absurd hkey ha
    | some a =>
      obtain rfl := find?_key ha
      by_cases hl : a.key ∈ run.linked
      · rw [linkVisit_linked ha (List.contains_iff_mem.2 hl)]
        exact Advances.refl h (List.cons_subset.2 ⟨hl, List.nil_subset _⟩)
      · have hl' : run.linked.contains a.key = false := by simpa using hl
        -- a record on the way is reached from itself
        by_cases hv : a.key ∈ run.visiting
        · rw [linkVisit_cycle ha hl' (List.contains_iff_mem.2 hv)]
          exact ⟨a.key, hway a.key hv⟩
        · have hv' : run.visiting.contains a.key = false := by simpa using hv
          rw [linkVisit_succ ha hl' hv']
          have hsteps : ∀ n ∈ a.bases, r.Extends a.key ⟨a.kind, n⟩ := fun n hn =>
            h.outlines.extends_of ⟨a, find?_mem ha, rfl, n, hn, rfl⟩
          have hbases := visitBases_outcome fuel (a.name :: stack) a.bases
            { run with visiting := a.key :: run.visiting } (h.enter hkey hl hv) rfl
            fun n hn run' h' hv' => by
              refine ih run' _ _ h' (ok.mem_of_extends (hsteps n hn)) (fun k hk => ?_) ?_
              · -- from what is being visited one comes to the record, and on to its base
                rcases List.mem_cons.1 (hv' ▸ hk) with rfl | hk
                · exact TransGen.single (hsteps n hn)
                · exact (hway k hk).tail (hsteps n hn)
              · rw [hv', List.length_cons]
                omega
          generalize visitBases fuel a.kind (a.name :: stack) a.bases _ = res at hbases ⊢
          obtain ⟨run', fault⟩ := res
          cases fault with
          | some e => exact hbases
          | none => exact leave_outcome ok h ha hbases

/-- **All records are linked**, or there is a cycle and it is reported. -/
theorem linkAll_outcome (ok : r.Based) (ks : List ArchKey) : ∀ run, r.Sound run →
    run.visiting = [] → ks ⊆ r.archs.map Architype.key →
    (linkAll ks run).2 = [] ∧ r.Advances run (linkAll ks run).1 ks ∨
      (linkAll ks run).2 ≠ [] ∧ r.Cyclic := by
  induction ks with
  | nil => exact fun run h _ _ => Or.inl ⟨rfl, Advances.refl h (List.nil_subset _)⟩
  | cons key ks ih =>
    intro run h hv hks
    obtain ⟨hkey, hks⟩ := List.cons_subset.1 hks
    have hvisit := linkVisit_outcome ok (run.registry.archs.length + 1) run [] key h hkey
      (by simp [hv]) (by rw [h.outlines.length]; omega)
    have hall : linkAll (key :: ks) run = ((linkAll ks (linkFrom run key).1).1,
        (linkFrom run key).2 ++ (linkAll ks (linkFrom run key).1).2) := rfl
    rw [hall]
    unfold linkFrom
    generalize linkVisit (run.registry.archs.length + 1) run [] key = res at hvisit
    obtain ⟨run', fault⟩ := res
    cases fault with
    | some e => exact Or.inr ⟨by simp, hvisit⟩
    | none =>
      rcases ih run' hvisit.sound (hvisit.visiting.trans hv) hks with ⟨hnil, hrest⟩ | ⟨hne, hcyc⟩
      · exact Or.inl ⟨hnil, Advances.append hvisit hrest⟩
      · exact Or.inr ⟨hne, hcyc⟩

/-! ## Linking -/

/-- A record with the bases that are found for it. -/
def withBases (r : Registry) (a : Architype) : Architype :=
  { a with bases := (r.resolveBases a).1 }

/-- The registry in which records have the bases that are found for them. -/
def based (r : Registry) : Registry := { r with archs := r.archs.map r.withBases }

/-- Every base that is declared is there, as an architype of the same kind. -/
def Known (r : Registry) : Prop :=
  ∀ a ∈ r.archs, ∀ n ∈ a.baseNames, ∃ b, r.find? ⟨a.kind, n⟩ = some b

/-- A step from a record to a base that it declares. -/
def HasBase (r : Registry) (key key' : ArchKey) : Prop :=
  ∃ a ∈ r.archs, a.key = key ∧ ∃ n ∈ a.baseNames, key' = ⟨a.kind, n⟩

/-- **Bases are in order**: they are all there, and nothing is a base of itself over any
number of steps. -/
structure WellBased (r : Registry) : Prop where
  known : r.Known
  acyclic : ∀ key, ¬TransGen r.HasBase key key

/-- Finding the bases of records leaves their keys. -/
theorem based_keys (r : Registry) :
    r.based.archs.map Architype.key = r.archs.map Architype.key := by
  unfold based
  rw [List.map_map]
  rfl

/-- Linking finds the bases first, and then visits all records. -/
theorem link_eq (hf : r.frozen = false) :
    r.link = ((linkAll (r.archs.map Architype.key) ⟨r.based, [], []⟩).1.registry,
      (r.archs.flatMap fun a => (r.resolveBases a).2) ++
        (linkAll (r.archs.map Architype.key) ⟨r.based, [], []⟩).2) := by
  have hf' : ¬r.frozen = true := by simp [hf]
  unfold link
  rw [if_neg hf', ← r.based_keys]
  rfl

/-- An error is reported for every base that is not there. -/
theorem unknown_eq_nil :
    (r.archs.flatMap fun a => (r.resolveBases a).2) = [] ↔ r.Known := by
  unfold Known resolveBases
  simp only [List.flatMap_eq_nil_iff, List.map_eq_nil_iff, List.filter_eq_nil_iff,
    Bool.not_eq_true', Bool.not_eq_false, Option.isSome_iff_exists]

theorem Known.bases (h : r.Known) (ha : a ∈ r.archs) : (r.withBases a).bases = a.baseNames := by
  unfold withBases resolveBases
  exact List.filter_eq_self.2 fun n hn => Option.isSome_iff_exists.2 (h a ha n hn)

theorem Known.declared (h : r.Known) (ha : a ∈ r.based.archs) : a.bases = a.baseNames := by
  obtain ⟨b, hb, rfl⟩ := List.mem_map.1 ha
  exact h.bases hb

theorem find?_based (key : ArchKey) : r.based.find? key = (r.find? key).map r.withBases :=
  find?_map_archs (f := r.withBases) (fun _ => rfl) r key

/-- Bases that were found are there. -/
theorem based_spec (hk : (r.archs.map Architype.key).Nodup) : r.based.Based := by
  refine ⟨r.based_keys.symm ▸ hk, fun a ha n hn => ?_⟩
  obtain ⟨b, hb, rfl⟩ := List.mem_map.1 ha
  obtain ⟨c, hc⟩ := Option.isSome_iff_exists.1 (List.mem_filter.1 hn).2
  exact ⟨_, (find?_based _).trans (congrArg (Option.map _) hc)⟩

/-- If all bases are there, they are those that were found. -/
theorem Known.extends_eq (h : r.Known) : r.based.Extends = r.HasBase := by
  funext key key'
  refine propext ⟨?_, ?_⟩
  · rintro ⟨a, ha, rfl, n, hn, rfl⟩
    obtain ⟨b, hb, rfl⟩ := List.mem_map.1 ha
    exact ⟨b, hb, rfl, n, h.bases hb ▸ hn, rfl⟩
  · rintro ⟨b, hb, rfl, n, hn, rfl⟩
    exact ⟨_, List.mem_map_of_mem hb, rfl, n, (h.bases hb).symm ▸ hn, rfl⟩

/-- A run in which all is linked leaves a linked registry. -/
theorem Sound.linked (h : r.Sound run) (ok : r.Based)
    (hdeclared : ∀ a ∈ r.archs, a.bases = a.baseNames)
    (hall : r.archs.map Architype.key ⊆ run.linked) : run.registry.Linked where
  toBased := h.outlines.based ok
  declared := fun a ha => by
    obtain ⟨b, hb, hab⟩ := h.outlines.mem ha
    have hbases : b.outline.bases = a.outline.bases := congrArg Architype.bases hab
    have hnames : b.outline.baseNames = a.outline.baseNames := congrArg Architype.baseNames hab
    exact hbases.symm.trans ((hdeclared b hb).trans hnames)
  founded := by
    rw [h.outlines.extends_eq]
    refine ⟨fun key => Acc.intro key fun key' hstep => ?_⟩
    exact h.founded key' (hall (ok.mem_of_extends hstep))
  settled := fun a ha => by
    have hkey : a.key ∈ r.archs.map Architype.key := h.outlines.keys ▸ List.mem_map_of_mem ha
    exact h.settled a.key (hall hkey) a ((h.outlines.based ok).find?.2 ⟨ha, rfl⟩)

/-- **Linking succeeds** with a linked registry, or bases are not in order. -/
theorem link_cases (ok : r.Tidy) (hf : r.frozen = false) :
    r.link.2 = [] ∧ r.Known ∧ r.link.1.Linked ∧ r.link.1.Extends = r.HasBase ∨
      r.link.2 ≠ [] ∧ ¬r.WellBased := by
  have hbased := based_spec ok.keys
  -- with all bases there, errors can only tell of cycles
  by_cases hknown : r.Known
  · have hrun := linkAll_outcome hbased (r.archs.map Architype.key) ⟨r.based, [], []⟩
      (Sound.empty r.based) rfl (r.based_keys ▸ List.Subset.refl _)
    rw [link_eq hf, unknown_eq_nil.2 hknown]
    rcases hrun with ⟨hnil, hrun⟩ | ⟨hne, hcyclic⟩
    · refine Or.inl ⟨hnil, hknown, ?_, ?_⟩
      · exact hrun.sound.linked hbased (fun a ha => hknown.declared ha) (r.based_keys ▸ hrun.done)
      · rw [← hknown.extends_eq]
        exact hrun.sound.outlines.extends_eq
    · refine Or.inr ⟨hne, fun hwell => ?_⟩
      obtain ⟨key, hcycle⟩ := hcyclic
      exact hwell.acyclic key (hknown.extends_eq ▸ hcycle)
  · refine Or.inr ⟨fun hnil => hknown ?_, fun hwell => hknown hwell.known⟩
    rw [link_eq hf] at hnil
    exact unknown_eq_nil.1 (List.append_eq_nil_iff.1 hnil).1

/-- A registry that was linked with success is linked, over the bases that were declared. -/
theorem linked_of_link (ok : r.Tidy) (hf : r.frozen = false) (h : r.link.2 = []) :
    r.link.1.Linked ∧ r.link.1.Extends = r.HasBase := by
  obtain ⟨-, -, hlinked⟩ | ⟨hne, -⟩ := link_cases ok hf
  · exact hlinked
  · exact absurd h hne

theorem exists_record {P : ArchKey → Prop} :
    (∃ c ∈ r.archs, P c.key) ↔ ∃ k ∈ r.archs.map Architype.key, P k := by
  simp only [List.mem_map, exists_exists_and_eq_and]

/-- **Linking decides** whether bases are in order. Whatever calls were made of a registry that
is not frozen, linking it succeeds exactly if they are; what was declared stays, and a record
is then what it is named and what is reached over the bases that are declared. -/
theorem decided_of_link (cs : List Call) (hf : (empty.performs cs).frozen = false) :
    let r := empty.performs cs
    (r.link.2 = [] ↔ r.WellBased) ∧ r.link.1.declarations = r.declarations ∧
      (r.link.2 = [] → ∀ a ∈ r.link.1.archs, ∀ n, a.isA n = true ↔
        n = a.name ∨ ∃ c ∈ r.archs, c.name = n ∧ TransGen r.HasBase a.key c.key) := by
  intro r
  have ok : r.Tidy := tidy_of_calls cs
  refine ⟨?_, link_declarations ok.keys, ?_⟩
  · rcases link_cases ok hf with ⟨hnil, hknown, hlinked, hsteps⟩ | ⟨hne, hbad⟩
    · exact iff_of_true hnil ⟨hknown, fun key => hsteps ▸ hlinked.acyclic key⟩
    · exact iff_of_false hne hbad
  · intro hnil a ha n
    obtain ⟨hlinked, hsteps⟩ := linked_of_link ok hf hnil
    rw [hlinked.isA_iff ha, hsteps]
    refine or_congr_right ?_
    calc (∃ c ∈ r.link.1.archs, c.name = n ∧ TransGen r.HasBase a.key c.key)
        ↔ ∃ k ∈ r.link.1.archs.map Architype.key, k.name = n ∧ TransGen r.HasBase a.key k :=
          exists_record (P := fun k => k.name = n ∧ TransGen r.HasBase a.key k)
      _ ↔ ∃ k ∈ r.archs.map Architype.key, k.name = n ∧ TransGen r.HasBase a.key k := by
          rw [link_keys ok.keys]
      _ ↔ ∃ c ∈ r.archs, c.name = n ∧ TransGen r.HasBase a.key c.key :=
          (exists_record (P := fun k => k.name = n ∧ TransGen r.HasBase a.key k)).symm

/-- A child that is declared before its base. -/
def family : List Call :=
  [.architype "m" ⟨.node, "Child"⟩ ⟨["Base"], [], false⟩,
    .declaration "m" ⟨.node, "Base"⟩ ⟨"greet", ⟨[], .entry, []⟩, false⟩]

theorem family_wellBased :
    (empty.performs family).frozen = false ∧ (empty.performs family).WellBased :=
  ⟨rfl, (decided_of_link family rfl).1.1 rfl⟩

end Registry

end GraphWalk
