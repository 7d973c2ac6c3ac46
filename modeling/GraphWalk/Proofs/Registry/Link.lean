import GraphWalk.Proofs.Registry.Register
import GraphWalk.Registry.Link

/-!
# What linking leaves alone

Linking computes what records inherit. It adds and removes no record, changes no slot
and no definition, and every slot that a record inherits is the own slot of some
record: `link_spec`. What linking one record keeps, a visit keeps, whether it ends well or
runs into a cycle, and so does linking as a whole (`link_induction`); the invariant of a
linking run is `Linking`.
-/

namespace GraphWalk

theorem mem_upsert {α : Type} {name : α → String} {x y : α} {xs : List α}
    (h : y ∈ upsert name xs x) : y = x ∨ y ∈ xs := by
  induction xs with
  | nil => exact Or.inl (List.mem_singleton.1 h)
  | cons z zs ih =>
    unfold upsert at h
    split at h
    · rcases List.mem_cons.1 h with h | h
      · exact Or.inl h
      · exact Or.inr (List.mem_cons_of_mem z h)
    · rcases List.mem_cons.1 h with h | h
      · exact Or.inr (h ▸ List.mem_cons_self)
      · exact (ih h).imp_right (List.mem_cons_of_mem z)

/-- Merging members by name invents none. -/
theorem mem_foldl_upsert {α : Type} {name : α → String} {y : α} (xs : List α) :
    ∀ {acc : List α}, y ∈ xs.foldl (upsert name) acc → y ∈ acc ∨ y ∈ xs := by
  induction xs with
  | nil => exact fun h => Or.inl h
  | cons x xs ih =>
    intro acc h
    rcases ih h with h | h
    · rcases mem_upsert h with rfl | h
      · exact Or.inr List.mem_cons_self
      · exact Or.inl h
    · exact Or.inr (List.mem_cons_of_mem x h)

namespace Registry

variable {r r' : Registry} {a b : Architype} {key : ArchKey}

/-- The slots of all records. -/
def slots (r : Registry) : List Ability := r.archs.flatMap (·.abilities)

/-- The keys of the records with their slots. -/
def table (r : Registry) : List (ArchKey × List Ability) :=
  r.archs.map fun a => (a.key, a.abilities)

theorem mem_slots {s : Ability} : s ∈ r.slots ↔ ∃ a ∈ r.archs, s ∈ a.abilities :=
  List.mem_flatMap

theorem table_keys (r : Registry) : r.table.map Prod.fst = r.archs.map Architype.key := by
  unfold table
  rw [List.map_map]
  rfl

theorem mem_table (h : a ∈ r.archs) : (a.key, a.abilities) ∈ r.table :=
  List.mem_map.2 ⟨a, h, rfl⟩

theorem slots_eq_table (r : Registry) : r.slots = r.table.flatMap Prod.snd := by
  unfold slots table
  rw [List.flatMap_map]

/-- **The invariant** of a linking run that started from `r`. -/
structure Linking (r r' : Registry) : Prop where
  table : r'.table = r.table
  defs : r'.defs = r.defs
  frozen : r'.frozen = r.frozen
  inherited : ∀ a ∈ r'.archs, ∀ s ∈ a.linkedAbilities, s ∈ r.slots

theorem Linking.slots (h : r.Linking r') : r'.slots = r.slots := by
  rw [slots_eq_table, slots_eq_table, h.table]

/-- Own and inherited slots are slots of the registry. -/
theorem Linking.effective (h : r.Linking r') (ha : a ∈ r'.archs) {s : Ability}
    (hs : s ∈ a.effectiveAbilities) : s ∈ r.slots := by
  unfold Architype.effectiveAbilities at hs
  split at hs
  · rw [← h.slots]
    exact mem_slots.2 ⟨a, ha, hs⟩
  · exact h.inherited a ha s hs

/-- Two records of one key that were found in a run have the same slots. -/
theorem Linking.abilities_eq (hk : (r.archs.map Architype.key).Nodup) (h : r.Linking r')
    (ha : (a.key, a.abilities) ∈ r.table) (hb : b ∈ r'.archs) (hkey : b.key = a.key) :
    b.abilities = a.abilities := by
  have hb' := mem_table hb
  rw [h.table] at hb'
  rw [← table_keys] at hk
  have := List.inj_on_of_nodup_map hk hb' ha hkey
  exact congrArg Prod.snd this

/-- Linking a record changes only what it inherits. -/
theorem Linking.replace (hk : (r.archs.map Architype.key).Nodup) (h : r.Linking r')
    (ha : (a.key, a.abilities) ∈ r.table) {bases : List Architype}
    (hbases : ∀ b ∈ bases, b ∈ r'.archs) : r.Linking (r'.replace (a.link bases)) := by
  refine ⟨?_, h.defs, h.frozen, fun b hb s hs => ?_⟩
  · rw [← h.table]
    unfold Registry.table Registry.replace
    rw [List.map_map]
    apply List.map_congr_left
    intro b hb
    simp only [Function.comp]
    split
    · -- only the record of this key is replaced, and it had the same slots
      rename_i hkey
      have := h.abilities_eq hk ha hb hkey
      exact Prod.ext hkey.symm this.symm
    · rfl
  · obtain ⟨c, hc, hcb⟩ := List.mem_map.1 hb
    split at hcb
    · subst hcb
      rcases mem_foldl_upsert _ hs with hs | hs
      · cases hs
      · rcases List.mem_append.1 hs with hs | hs
        · obtain ⟨b, hb, hs⟩ := List.mem_flatMap.1 hs
          exact h.effective (hbases b hb) hs
        · rw [slots_eq_table]
          exact List.mem_flatMap.2 ⟨_, ha, hs⟩
    · exact h.inherited c hc s (hcb ▸ hs)

/-! ## Visits -/

/-- Visits bases one by one until one of them fails. -/
def visitBases (fuel : Nat) (kind : Kind) (stack bases : List String)
    (init : LinkRun × Option RegistryError) : LinkRun × Option RegistryError :=
  bases.foldl (fun acc base => match acc.2 with
    | some _ => acc
    | none => linkVisit fuel acc.1 stack ⟨kind, base⟩) init

/-- The end of a visit: if no base failed, the architype is linked. -/
def leave (a : Architype) (key : ArchKey) :
    LinkRun × Option RegistryError → LinkRun × Option RegistryError
  | (run, some e) => (run, some e)
  | (run, none) =>
    ({ registry := run.registry.replace
         (a.link (a.bases.filterMap fun n => run.registry.find? ⟨a.kind, n⟩))
       visiting := run.visiting.erase key
       linked := key :: run.linked }, none)

variable {fuel : Nat} {run : LinkRun} {stack : List String}

/-- What is not there, or linked already, needs no visit. -/
theorem linkVisit_unknown (ha : run.registry.find? key = none) :
    linkVisit (fuel + 1) run stack key = (run, none) := by
  unfold linkVisit
  rw [ha]

theorem linkVisit_linked (ha : run.registry.find? key = some a)
    (hl : run.linked.contains key = true) :
    linkVisit (fuel + 1) run stack key = (run, none) := by
  unfold linkVisit
  rw [ha, hl]
  rfl

/-- A visit on the way to itself is a cycle. -/
theorem linkVisit_cycle (ha : run.registry.find? key = some a)
    (hl : run.linked.contains key = false) (hv : run.visiting.contains key = true) :
    linkVisit (fuel + 1) run stack key =
      (run, some (.issue .inheritanceCycle (.arch key) a.module
        (" -> ".intercalate (a.name :: stack).reverse))) := by
  unfold linkVisit
  rw [ha, hl, hv]
  rfl

/-- A visit to an architype that is not linked yet visits its bases first. -/
theorem linkVisit_succ (ha : run.registry.find? key = some a)
    (hl : run.linked.contains key = false) (hv : run.visiting.contains key = false) :
    linkVisit (fuel + 1) run stack key =
      leave a key (visitBases fuel a.kind (a.name :: stack) a.bases
        ({ run with visiting := key :: run.visiting }, none)) := by
  unfold linkVisit visitBases leave
  rw [ha, hl, hv]
  simp only [Bool.false_eq_true, if_false]
  generalize List.foldl _ (_, none) a.bases = acc
  obtain ⟨run', fault⟩ := acc
  cases fault <;> rfl

/-- What visits keep, visiting bases keeps. -/
theorem visitBases_induction {P : LinkRun → Prop} {fuel : Nat} (kind : Kind)
    {stack : List String} (hvisit : ∀ run key, P run → P (linkVisit fuel run stack key).1)
    (bases : List String) : ∀ init : LinkRun × Option RegistryError, P init.1 →
      P (visitBases fuel kind stack bases init).1 := by
  induction bases with
  | nil => exact fun init h => h
  | cons base bases ih =>
    intro init h
    refine ih _ ?_
    obtain ⟨run, fault⟩ := init
    cases fault with
    | some e => exact h
    | none => exact hvisit run _ h

/-- Linking a record that was found in a run keeps `P`. -/
def LinkKeeps (P : Registry → Prop) : Prop :=
  ∀ {r r' : Registry} {a : Architype} {bases : List Architype}, P r → a ∈ r.archs → P r' →
    (∀ b ∈ bases, b ∈ r'.archs) → P (r'.replace (a.link bases))

/-- **What linking a record keeps, a visit keeps.** -/
theorem linkVisit_induction {P : Registry → Prop} (hkeep : LinkKeeps P) (fuel : Nat) :
    ∀ (run : LinkRun) (stack : List String) (key : ArchKey), P run.registry →
      P (linkVisit fuel run stack key).1.registry := by
  -- bases are visited with less fuel; a visit that is cut short changes nothing
  induction fuel with
  | zero => exact fun run stack key h => h
  | succ fuel ih =>
    intro run stack key h
    cases ha : run.registry.find? key with
    | none =>
      rw [linkVisit_unknown ha]
      exact h
    | some a =>
      by_cases hl : run.linked.contains key = true
      · rw [linkVisit_linked ha hl]
        exact h
      · rw [Bool.not_eq_true] at hl
        by_cases hv : run.visiting.contains key = true
        · rw [linkVisit_cycle ha hl hv]
          exact h
        · rw [Bool.not_eq_true] at hv
          rw [linkVisit_succ ha hl hv]
          have hrun := visitBases_induction (P := fun run => P run.registry) a.kind
            (fun run key h => ih run (a.name :: stack) key h) a.bases
            ({ run with visiting := key :: run.visiting }, none) h
          generalize visitBases fuel a.kind (a.name :: stack) a.bases _ = acc at hrun ⊢
          obtain ⟨run', fault⟩ := acc
          cases fault with
          | some e => exact hrun
          | none =>
            refine hkeep h (find?_mem ha) hrun fun b hb => ?_
            obtain ⟨n, -, hn⟩ := List.mem_filterMap.1 hb
            exact find?_mem hn

/-- Linking all architypes keeps it too, whatever errors it reports. -/
theorem linkAll_induction {P : Registry → Prop} (hkeep : LinkKeeps P) (keys : List ArchKey) :
    ∀ run : LinkRun, P run.registry → P (linkAll keys run).1.registry := by
  induction keys with
  | nil => exact fun run h => h
  | cons key keys ih =>
    intro run h
    refine ih (linkFrom run key).1 ?_
    have := linkVisit_induction hkeep (run.registry.archs.length + 1) run [] key h
    unfold linkFrom
    split
    · rename_i hv
      rwa [hv] at this
    · rename_i hv
      rwa [hv] at this

/-- Linking a frozen registry does nothing. -/
theorem link_frozen (hf : r.frozen = true) : r.link = (r, []) := if_pos hf

/-- **What linking a record keeps, linking keeps**, once the bases are there. -/
theorem link_induction {P : Registry → Prop} (hkeep : LinkKeeps P) (h : P r)
    (hbased : P { r with archs := r.archs.map fun a =>
      { a with bases := (r.resolveBases a).1 } }) : P r.link.1 := by
  unfold link
  split
  · exact h
  · exact linkAll_induction hkeep _ _ hbased

/-- **Linking** keeps records, slots and definitions, and what is inherited is a slot
of the registry. -/
theorem link_spec (hk : (r.archs.map Architype.key).Nodup)
    (hbare : ∀ a ∈ r.archs, a.linkedAbilities = []) : r.Linking r.link.1 := by
  refine link_induction (fun h ha h' hb => ?_) ?_ ?_
  · exact h'.replace hk (h.table ▸ mem_table ha) hb
  · exact ⟨rfl, rfl, rfl, fun a ha s hs => by rw [hbare a ha] at hs; cases hs⟩
  · refine ⟨?_, rfl, rfl, fun a ha s hs => ?_⟩
    · unfold table
      rw [List.map_map]
      rfl
    · obtain ⟨b, hb, rfl⟩ := List.mem_map.1 ha
      have := hbare b hb
      simp only [this] at hs
      cases hs

end Registry

end GraphWalk
