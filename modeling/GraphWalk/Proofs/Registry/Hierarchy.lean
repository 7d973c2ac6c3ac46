import GraphWalk.Proofs.Registry.Again
import Mathlib.Order.WellFounded

/-!
# Calls of a registry, and linked registries

`Call` lists what can be done with a registry; a call that is refused leaves it as it was.
Whatever calls are made of an empty registry, keys, names and paths are distinct, and slots are
owned by their records (`tidy_of_calls`).

A registry is `Linked` if the bases of every record are found, no chain of bases goes on for
ever, and every record is what linking makes of it and its bases. What passes from the bases
of a record to the record then holds of all records (`Linked.induction`), and a record
inherits from exactly those that are reached over its bases (`Linked.isA_iff`).
-/

namespace GraphWalk

/-! ## Calls -/

namespace Registry

inductive Call where
  | architype (module : String) (key : ArchKey) (spec : ArchSpec)
  | declaration (module : String) (key : ArchKey) (spec : AbilitySpec)
  | definition (module : String) (path : Path) (body : Option Body) (origin : Option Origin)
  | link
  | freeze
  | reset

/-- The registry that a call leaves. -/
def perform (r : Registry) : Call → Registry
  | .architype module key spec => match r.registerArchitype module key spec with
    | .ok (r', _) => r'
    | .error _ => r
  | .declaration module key spec => match r.registerDeclaration module key spec with
    | .ok (r', _) => r'
    | .error _ => r
  | .definition module path body origin => match r.registerDefinition module path body origin with
    | .ok r' => r'
    | .error _ => r
  | .link => r.link.1
  | .freeze => r.freeze
  | .reset => r.reset

def performs (r : Registry) (cs : List Call) : Registry := cs.foldl perform r

variable {r r' : Registry} {a : Architype} {key : ArchKey} {module : String}

theorem link_keys (hk : (r.archs.map Architype.key).Nodup) :
    r.link.1.archs.map Architype.key = r.archs.map Architype.key := by
  rw [← declarations_keys, link_declarations hk, declarations_keys]

/-- Linking changes neither slots nor definitions. -/
theorem link_tidy (ok : r.Tidy) : r.link.1.Tidy := by
  have hdeclared := link_declarations ok.keys
  have hdefs : r.link.1.defs = r.defs :=
    link_induction (P := fun r' => r'.defs = r.defs) (fun _ _ h' _ => h') rfl rfl
  refine ⟨?_, fun a ha => ?_, by rw [hdefs]; exact ok.paths⟩
  · rw [link_keys ok.keys]
    exact ok.keys
  · have hm := mem_declarations ha
    rw [hdeclared] at hm
    obtain ⟨b, hb, hab⟩ := List.mem_map.1 hm
    have hkey : b.declared.key = a.declared.key := congrArg Architype.key hab
    have hslots : b.declared.abilities = a.declared.abilities := congrArg Architype.abilities hab
    exact ⟨fun s hs => ((ok.records b hb).owned s (hslots.symm ▸ hs)).trans hkey,
      hslots ▸ (ok.records b hb).named⟩

theorem empty_tidy (epoch : Nat) : ({ empty with epoch } : Registry).Tidy :=
  ⟨List.nodup_nil, (fun _ ha => nomatch ha), List.nodup_nil⟩

/-- **A call keeps a registry tidy.** -/
theorem perform_tidy (ok : r.Tidy) (c : Call) : (r.perform c).Tidy := by
  cases c with
  | architype module key spec =>
    unfold perform
    simp only
    cases h : r.registerArchitype module key spec with
    | error e => exact ok
    | ok p => exact ok.registerArchitype h
  | declaration module key spec =>
    unfold perform
    simp only
    cases h : r.registerDeclaration module key spec with
    | error e => exact ok
    | ok p => exact ok.registerDeclaration h
  | definition module path body origin =>
    unfold perform
    simp only
    cases h : r.registerDefinition module path body origin with
    | error e => exact ok
    | ok r' => exact ok.registerDefinition h
  | link => exact link_tidy ok
  | freeze => exact ⟨ok.keys, ok.records, ok.paths⟩
  | reset =>
    unfold perform reset
    simp only
    split
    · exact ok
    · exact empty_tidy (r.epoch + 1)

theorem performs_tidy (cs : List Call) : ∀ {r : Registry}, r.Tidy → (r.performs cs).Tidy := by
  induction cs with
  | nil => exact id
  | cons c cs ih => exact fun ok => ih (perform_tidy ok c)

/-- **Whatever calls are made** of an empty registry, it is tidy. -/
theorem tidy_of_calls (cs : List Call) : (empty.performs cs).Tidy :=
  performs_tidy cs (empty_tidy 0)

end Registry

/-! ## Linked registries -/

namespace Registry

open Relation

variable {r r' : Registry} {a b c : Architype} {key key' : ArchKey} {n : String}

/-- A step from a record to one of its bases. -/
def Extends (r : Registry) (key key' : ArchKey) : Prop :=
  ∃ a ∈ r.archs, a.key = key ∧ ∃ n ∈ a.bases, key' = ⟨a.kind, n⟩

/-- The bases of a record as they are registered. -/
def basesOf (r : Registry) (a : Architype) : List Architype :=
  a.bases.filterMap fun n => r.find? ⟨a.kind, n⟩

/-- The bases of every record are there. -/
structure Based (r : Registry) : Prop where
  keys : (r.archs.map Architype.key).Nodup
  found : ∀ a ∈ r.archs, ∀ n ∈ a.bases, ∃ b, r.find? ⟨a.kind, n⟩ = some b

/-- **Every record is linked**, after all the bases that it declares. -/
structure Linked (r : Registry) : Prop extends Based r where
  declared : ∀ a ∈ r.archs, a.bases = a.baseNames
  founded : WellFounded fun key key' => r.Extends key' key
  settled : ∀ a ∈ r.archs, a = a.link (r.basesOf a)

theorem mem_basesOf : b ∈ r.basesOf a ↔ ∃ n ∈ a.bases, r.find? ⟨a.kind, n⟩ = some b :=
  List.mem_filterMap

theorem basesOf_mem (h : b ∈ r.basesOf a) : b ∈ r.archs := by
  obtain ⟨n, -, hb⟩ := mem_basesOf.1 h
  exact find?_mem hb

namespace Based

theorem find? (ok : r.Based) : r.find? key = some a ↔ a ∈ r.archs ∧ a.key = key :=
  find?_eq_some_of_nodup ok.keys

theorem eq_of_key (ok : r.Based) (ha : a ∈ r.archs) (hb : b ∈ r.archs) (h : b.key = a.key) :
    b = a :=
  List.inj_on_of_nodup_map ok.keys hb ha h

theorem extends_iff (ok : r.Based) (ha : a ∈ r.archs) :
    r.Extends a.key key ↔ ∃ b ∈ r.basesOf a, b.key = key := by
  constructor
  · rintro ⟨a', ha', hkey, n, hn, rfl⟩
    obtain rfl := ok.eq_of_key ha ha' hkey
    obtain ⟨b, hb⟩ := ok.found a' ha n hn
    exact ⟨b, mem_basesOf.2 ⟨n, hn, hb⟩, find?_key hb⟩
  · rintro ⟨b, hb, rfl⟩
    obtain ⟨n, hn, hfound⟩ := mem_basesOf.1 hb
    exact ⟨a, ha, rfl, n, hn, find?_key hfound⟩

theorem mem_of_extends (ok : r.Based) (h : r.Extends key key') :
    key' ∈ r.archs.map Architype.key := by
  obtain ⟨a, ha, -, n, hn, rfl⟩ := h
  obtain ⟨b, hb⟩ := ok.found a ha n hn
  exact List.mem_map.2 ⟨b, find?_mem hb, find?_key hb⟩

end Based

namespace Linked

/-- **What a record has if its bases have it**, all records have. -/
theorem induction (ok : r.Linked) {P : Architype → Prop}
    (h : ∀ a ∈ r.archs, (∀ b ∈ r.basesOf a, P b) → P a) : ∀ a ∈ r.archs, P a := by
  suffices hkey : ∀ key, ∀ a ∈ r.archs, a.key = key → P a from fun a ha => hkey a.key a ha rfl
  intro key
  induction key using ok.founded.induction with
  | h key ih =>
    rintro a ha rfl
    refine h a ha fun b hb => ih b.key ?_ b (basesOf_mem hb) rfl
    exact (ok.extends_iff ha).2 ⟨b, hb, rfl⟩

/-- No record is among those that are reached over its bases. -/
theorem acyclic (ok : r.Linked) (key : ArchKey) : ¬TransGen r.Extends key key := fun h =>
  ok.founded.transGen.irrefl.irrefl key (transGen_swap.2 h)

/-- What is reached over bases is a base, or reached from one. -/
theorem transGen_iff (ok : r.Linked) (ha : a ∈ r.archs) :
    TransGen r.Extends a.key key ↔ ∃ b ∈ r.basesOf a, ReflTransGen r.Extends b.key key := by
  rw [TransGen.head'_iff]
  constructor
  · rintro ⟨key', hstep, hrest⟩
    obtain ⟨b, hb, rfl⟩ := (ok.extends_iff ha).1 hstep
    exact ⟨b, hb, hrest⟩
  · rintro ⟨b, hb, hrest⟩
    exact ⟨b.key, (ok.extends_iff ha).2 ⟨b, hb, rfl⟩, hrest⟩

/-- A record reaches itself and what is reached over its bases. -/
theorem reflTransGen_iff (ok : r.Linked) (ha : a ∈ r.archs) (hc : c ∈ r.archs) :
    ReflTransGen r.Extends a.key c.key ↔ c = a ∨ TransGen r.Extends a.key c.key := by
  rw [reflTransGen_iff_eq_or_transGen]
  exact or_congr_left ⟨ok.eq_of_key ha hc, congrArg Architype.key⟩

/-- Names of ancestors are names of records that are reached over bases. -/
theorem mem_ancestry (ok : r.Linked) : ∀ a ∈ r.archs,
    (n ∈ a.ancestry ↔ ∃ c ∈ r.archs, c.name = n ∧ TransGen r.Extends a.key c.key) := by
  refine ok.induction fun a ha ih => ?_
  have hancestry : a.ancestry = (r.basesOf a).flatMap fun b => b.name :: b.ancestry :=
    congrArg Architype.ancestry (ok.settled a ha)
  rw [hancestry, List.mem_flatMap]
  constructor
  · rintro ⟨b, hb, hn⟩
    rcases List.mem_cons.1 hn with rfl | hn
    · exact ⟨b, basesOf_mem hb, rfl, (ok.transGen_iff ha).2 ⟨b, hb, .refl⟩⟩
    · obtain ⟨c, hc, hname, hreach⟩ := (ih b hb).1 hn
      exact ⟨c, hc, hname, (ok.transGen_iff ha).2 ⟨b, hb, hreach.to_reflTransGen⟩⟩
  · rintro ⟨c, hc, rfl, hreach⟩
    obtain ⟨b, hb, hreach⟩ := (ok.transGen_iff ha).1 hreach
    rcases (ok.reflTransGen_iff (basesOf_mem hb) hc).1 hreach with rfl | hreach
    · exact ⟨c, hb, List.mem_cons_self⟩
    · exact ⟨b, hb, List.mem_cons_of_mem _ ((ih b hb).2 ⟨c, hc, rfl, hreach⟩)⟩

/-- **A record is what it is named** and what is reached over its bases. -/
theorem isA_iff (ok : r.Linked) (ha : a ∈ r.archs) :
    a.isA n = true ↔
      n = a.name ∨ ∃ c ∈ r.archs, c.name = n ∧ TransGen r.Extends a.key c.key := by
  unfold Architype.isA
  rw [Bool.or_eq_true, decide_eq_true_eq, List.contains_iff_mem, ok.mem_ancestry a ha, eq_comm]

end Linked

end Registry

end GraphWalk
