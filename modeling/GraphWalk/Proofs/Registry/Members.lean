import GraphWalk.Proofs.List.Distinct
import GraphWalk.Proofs.List.Related
import GraphWalk.Proofs.Registry.Visit

/-!
# Effective members

Fields and abilities are inherited alike: linking merges the effective members of the bases, in
the order of the bases, and then the own ones (`Members`). In a merge, names keep the places
where they are first, and stand for the members that are last (`merge_names`, `find?_merge`).

Main result: `effective_of_link`.
-/

namespace GraphWalk

/-- Members one by one, where later ones replace earlier ones of the same name in place. -/
def merge {μ : Type} (name : μ → String) (xs : List μ) : List μ := xs.foldl (upsert name) []

section Merge

variable {μ : Type} {name : μ → String} {x : μ} {xs ys : List μ} {n : String}

theorem merge_concat : merge name (xs ++ [x]) = upsert name (merge name xs) x := by
  unfold merge
  rw [List.foldl_append]
  rfl

theorem upsert_names (xs : List μ) : (upsert name xs x).map name =
    if name x ∈ xs.map name then xs.map name else xs.map name ++ [name x] := by
  induction xs with
  | nil => rfl
  | cons y ys ih =>
    unfold upsert
    by_cases hy : name y = name x
    · simp [hy]
    · rw [if_neg hy, List.map_cons, ih]
      by_cases hm : name x ∈ ys.map name
      · simp [hm]
      · rw [if_neg hm, List.map_cons, if_neg (by simpa [Ne.symm hy] using hm), List.cons_append]

theorem find?_upsert (xs : List μ) : (upsert name xs x).find? (fun y => decide (name y = n)) =
    if name x = n then some x else xs.find? fun y => decide (name y = n) := by
  induction xs with
  | nil =>
    unfold upsert
    rw [List.find?_singleton]
    simp
  | cons y ys ih =>
    unfold upsert
    by_cases hy : name y = name x
    · by_cases hn : name x = n
      · simp [hy, hn]
      · simp [hy, hn]
    · rw [if_neg hy]
      by_cases hn : name y = n
      · have hx : name x ≠ n := fun h => hy (hn.trans h.symm)
        simp [hn, hx]
      · rw [List.find?_cons_of_neg (by simpa using hn), ih,
          List.find?_cons_of_neg (by simpa using hn)]

/-- **Names** keep the places where they are first. -/
theorem merge_names (name : μ → String) (xs : List μ) :
    (merge name xs).map name = (xs.map name).eraseDups := by
  induction xs using List.reverseRecOn with
  | nil => rfl
  | append_singleton xs x ih =>
    rw [merge_concat, upsert_names, ih, List.map_append, List.map_singleton, eraseDups_concat]
    simp only [List.mem_eraseDups]

/-- **The last member** of a name is the one that is found. -/
theorem find?_merge (name : μ → String) (xs : List μ) (n : String) :
    (merge name xs).find? (fun y => decide (name y = n)) =
      xs.reverse.find? fun y => decide (name y = n) := by
  induction xs using List.reverseRecOn with
  | nil => rfl
  | append_singleton xs x ih =>
    rw [merge_concat, find?_upsert, ih, List.reverse_append, List.reverse_singleton,
      List.singleton_append, List.find?_cons]
    by_cases hx : name x = n
    · simp [hx]
    · simp [hx]

theorem merge_eq_nil (h : merge name xs = []) : xs = [] := by
  have hnames := merge_names name xs
  rw [h] at hnames
  cases xs with
  | nil => rfl
  | cons x xs =>
    rw [List.map_cons, List.eraseDups_cons] at hnames
    cases hnames

/-- **How `members` are merged** from inherited and own ones: members of one name keep the place
of the first of them, and the last of them is the one that is found. -/
structure Merges (name : μ → String) (inherited own members : List μ) : Prop where
  names : members.map name = ((inherited ++ own).map name).eraseDups
  last : ∀ n, members.find? (fun x => decide (name x = n)) =
    (inherited ++ own).reverse.find? fun x => decide (name x = n)
  distinct : (members.map name).Nodup
  /-- Names that are inherited come first. -/
  placed : (inherited.map name).eraseDups <+: members.map name
  /-- Own members count before inherited ones. -/
  wins : ∀ n ∈ own.map name, members.find? (fun x => decide (name x = n)) =
    own.reverse.find? fun x => decide (name x = n)

theorem merge_spec (name : μ → String) (inherited own : List μ) :
    Merges name inherited own (merge name (inherited ++ own)) where
  names := merge_names name _
  last := find?_merge name _
  distinct := by
    rw [merge_names]
    exact nodup_eraseDups _
  placed := by
    rw [merge_names, List.map_append, List.eraseDups_append]
    exact List.prefix_append _ _
  wins := fun n hn => by
    obtain ⟨x, hx, hname⟩ := List.mem_map.1 hn
    have hfound : (own.reverse.find? fun x => decide (name x = n)).isSome = true := by
      rw [List.find?_isSome]
      exact ⟨x, List.mem_reverse.2 hx, decide_eq_true hname⟩
    rw [find?_merge, List.reverse_append, List.find?_append, Option.or_of_isSome hfound]

end Merge

/-- A sort of members of architypes, inherited by merging those of the bases and the own ones. -/
structure Members (μ : Type) where
  name : μ → String
  own : Architype → List μ
  effective : Architype → List μ
  effective_link : ∀ a bases,
    effective (a.link bases) = merge name (bases.flatMap effective ++ own a)

namespace Members

/-- Where nothing is merged there is nothing of its own either. -/
theorem merge_or_own {μ : Type} {name : μ → String} (inherited own : List μ) :
    (if (merge name (inherited ++ own)).isEmpty then own else merge name (inherited ++ own)) =
      merge name (inherited ++ own) := by
  split
  · rename_i hnil
    have hnil' := List.isEmpty_iff.1 hnil
    rw [hnil', (List.append_eq_nil_iff.1 (merge_eq_nil hnil')).2]
  · rfl

def fields : Members FieldDef where
  name := FieldDef.name
  own := Architype.fields
  effective := Architype.effectiveFields
  effective_link := fun a bases => merge_or_own (bases.flatMap Architype.effectiveFields) a.fields

def abilities : Members Ability where
  name := Ability.name
  own := Architype.abilities
  effective := Architype.effectiveAbilities
  effective_link := fun a bases =>
    merge_or_own (bases.flatMap Architype.effectiveAbilities) a.abilities

/-- **What `a` inherits** from its bases. -/
structure Inherits {μ : Type} (M : Members μ) (a : Architype) (bases : List Architype) :
    Prop where
  merges : Merges M.name (bases.flatMap M.effective) (M.own a) (M.effective a)
  /-- The names of a single base come first, in their order. -/
  single : ∀ b, bases = [b] → (M.effective b).map M.name <+: (M.effective a).map M.name

end Members

namespace Registry

variable {μ : Type} {r : Registry} {a b : Architype}

namespace Linked

/-- The members of a record are those of its bases and its own. -/
theorem effective (ok : r.Linked) (M : Members μ) (ha : a ∈ r.archs) : M.effective a =
    merge M.name ((r.basesOf a).flatMap M.effective ++ M.own a) := by
  have := M.effective_link a (r.basesOf a)
  rwa [← ok.settled a ha] at this

theorem merges (ok : r.Linked) (M : Members μ) (ha : a ∈ r.archs) :
    Merges M.name ((r.basesOf a).flatMap M.effective) (M.own a) (M.effective a) :=
  ok.effective M ha ▸ merge_spec M.name _ _

theorem inherits (ok : r.Linked) (M : Members μ) (ha : a ∈ r.archs) :
    M.Inherits a (r.basesOf a) := by
  have hmerges := ok.merges M ha
  refine ⟨hmerges, fun b hb => ?_⟩
  have hdistinct := (ok.merges M (basesOf_mem (hb ▸ List.mem_singleton_self b))).distinct
  have hplaced := hmerges.placed
  rwa [hb, List.flatMap_singleton, eraseDups_of_nodup hdistinct] at hplaced

/-- Each name that is declared as a base is that of a base, in the same order. -/
theorem forall₂_basesOf (ok : r.Linked) (ha : a ∈ r.archs) :
    List.Forall₂ (fun n b => r.find? ⟨a.kind, n⟩ = some b) a.baseNames (r.basesOf a) := by
  have hfound := ok.found a ha
  rw [ok.declared a ha] at hfound
  unfold basesOf
  rw [ok.declared a ha]
  exact forall₂_filterMap hfound

/-- The own slots of a record are effective. -/
theorem own_effective (ok : r.Linked) (ha : a ∈ r.archs)
    (hnamed : (a.abilities.map Ability.name).Nodup) {s : Ability} (hs : s ∈ a.abilities) :
    s ∈ a.effectiveAbilities := by
  have hwins := (ok.merges .abilities ha).wins s.name (List.mem_map_of_mem hs)
  have hfound : a.abilities.reverse.find? (fun x => decide (x.name = s.name)) = some s := by
    refine (find?_eq_some_of_nodup ?_).2 ⟨List.mem_reverse.2 hs, rfl⟩
    rw [List.map_reverse]
    exact List.nodup_reverse.2 hnamed
  exact List.mem_of_find?_eq_some (hwins.trans hfound)

end Linked

/-- **What is effective after linking.** Whatever calls were made of a registry, linking it leaves
what was declared. If the registry is frozen, linking succeeds and nothing changes. Otherwise, if
it succeeds, each record has bases of the names it declares, in that order, and its fields and its
abilities are merged from theirs and its own. -/
theorem effective_of_link (cs : List Call) :
    let r := empty.performs cs
    let r' := r.link.1
    r'.declarations = r.declarations ∧ (r.frozen = true → r.link = (r, [])) ∧
      (r.frozen = false → r.link.2 = [] → ∀ a ∈ r'.archs, ∃ bases,
        List.Forall₂ (fun n b => r'.find? ⟨a.kind, n⟩ = some b) a.baseNames bases ∧
          Members.abilities.Inherits a bases ∧ Members.fields.Inherits a bases ∧
          ∀ s ∈ a.abilities, s ∈ a.effectiveAbilities) := by
  intro r r'
  have ok : r.Tidy := tidy_of_calls cs
  refine ⟨link_declarations ok.keys, link_frozen, fun hf hl a ha => ?_⟩
  · obtain ⟨hlinked, -⟩ := linked_of_link ok hf hl
    refine ⟨r'.basesOf a, hlinked.forall₂_basesOf ha, hlinked.inherits _ ha,
      hlinked.inherits _ ha, fun s hs => ?_⟩
    exact hlinked.own_effective ha ((link_tidy ok).records a ha).named hs

theorem family_inherits :
    (empty.performs family).link.2 = [] ∧ (empty.performs family).frozen = false ∧
      ∀ a ∈ (empty.performs family).link.1.archs, ∃ bases, Members.abilities.Inherits a bases :=
  ⟨rfl, rfl, fun a ha => by
    obtain ⟨bases, -, h, -⟩ := (effective_of_link family).2.2 rfl rfl a ha
    exact ⟨bases, h⟩⟩

/-- A registry that is frozen before it is linked. -/
def frozenFamily : List Call := family ++ [.freeze]

/-- **In a frozen registry** linking succeeds, and the child does not inherit the slot of its
base. -/
theorem frozenFamily_bare : ¬∀ cs : List Call, (empty.performs cs).link.2 = [] →
    ∀ a ∈ (empty.performs cs).link.1.archs, ∃ bases,
      List.Forall₂ (fun n b => (empty.performs cs).link.1.find? ⟨a.kind, n⟩ = some b)
        a.baseNames bases ∧ Members.abilities.Inherits a bases := by
  intro h
  obtain ⟨child, hchild, hkind, hnames, hbare⟩ : ∃ a ∈ (empty.performs frozenFamily).link.1.archs,
      a.kind = .node ∧ a.baseNames = ["Base"] ∧ a.effectiveAbilities = [] :=
    ⟨_, List.mem_cons_self, rfl, rfl, rfl⟩
  obtain ⟨bases, hbases, hinherits⟩ := h frozenFamily rfl child hchild
  rw [hkind, hnames] at hbases
  obtain ⟨base, rest, hbase, hrest, rfl⟩ := List.forall₂_cons_left_iff.1 hbases
  obtain rfl := List.forall₂_nil_left_iff.1 hrest
  -- the slot of the base would come first
  have hgreet : ((empty.performs frozenFamily).link.1.find? ⟨.node, "Base"⟩).map
      (fun b => b.effectiveAbilities.map Ability.name) = some ["greet"] := rfl
  rw [hbase] at hgreet
  have hgreet' : base.effectiveAbilities.map Ability.name = ["greet"] := Option.some.inj hgreet
  have hfirst : base.effectiveAbilities.map Ability.name <+:
      child.effectiveAbilities.map Ability.name := hinherits.single base rfl
  rw [hbare, hgreet'] at hfirst
  cases List.prefix_nil.1 hfirst

end Registry

end GraphWalk
