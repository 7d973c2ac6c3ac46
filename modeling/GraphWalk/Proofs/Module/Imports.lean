import GraphWalk.Proofs.Module.Permutation
import GraphWalk.Proofs.Relation.Cycle

/-!
# Imports come first, unless all that is left waits

A module `Waits` while an import of it is not out. The module that comes next is ready, or
everything that is left waits and it has the smallest name (`next?_spec`); the order is made of
such choices (`orderFrom_next`). When everything waits there are cycles among what is left, and
each module leads to one, but the module that is released need not be on a cycle: it may stand
before an import that does not depend on it.

Main result: `early_of_order`. **A module stands before one of its imports exactly if
everything from it on waits**, and never if it depends on no cycle.
-/

namespace GraphWalk

open Relation

namespace ImportGraph

variable {g : ImportGraph} {left left' ms : List Module} {m x : Module} {out : List String}

/-- A step from a module to one that it imports. No module imports itself. -/
def Imports (g : ImportGraph) (n n' : String) : Prop :=
  ∃ m ∈ g.modules, m.name = n ∧ n' ∈ g.depsOf m

/-- Some import of the module is not out. -/
def Waits (g : ImportGraph) (out : List String) (m : Module) : Prop := ∃ d ∈ g.depsOf m, d ∉ out

theorem depsOf_mem {d : String} (h : d ∈ g.depsOf m) : ∃ x ∈ g.modules, x.name = d := by
  unfold depsOf at h
  rw [List.mem_eraseDups, List.mem_filter, Bool.and_eq_true] at h
  obtain ⟨x, hx⟩ := Option.isSome_iff_exists.1 h.2.2
  exact ⟨x, List.mem_of_find?_eq_some hx, by simpa using List.find?_some hx⟩

theorem ready_iff : ((g.depsOf m).all out.contains = true) ↔ ¬g.Waits out m := by
  unfold Waits
  simp

/-- **The next module** is the first one that is ready, or all modules wait and it is the first
of all. -/
theorem next?_spec (hnd : (left.map Module.name).Nodup) (h : g.next? out left = some m) :
    m ∈ left ∧ (g.Waits out m → ∀ x ∈ left, g.Waits out x) ∧
      ∀ x ∈ left, (g.Waits out x → g.Waits out m) → m.name ≤ x.name := by
  refine ⟨next?_mem h, ?_⟩
  rw [next?_eq] at h
  have hready : ((left.filter fun m => (g.depsOf m).all out.contains).map Module.name).Nodup :=
    hnd.sublist (List.filter_sublist.map _)
  cases hfirst : first? (left.filter fun m => (g.depsOf m).all out.contains) with
  | some m' =>
    rw [hfirst, Option.some_or] at h
    cases h
    obtain ⟨hm, hmin⟩ := (first?_eq_some hready).1 hfirst
    have hgo : ¬g.Waits out m := ready_iff.1 (List.mem_filter.1 hm).2
    refine ⟨fun hw => absurd hw hgo, fun x hx hxm => hmin x (List.mem_filter.2 ⟨hx, ?_⟩)⟩
    exact ready_iff.2 fun hw => hgo (hxm hw)
  | none =>
    rw [hfirst, Option.none_or] at h
    have hall : ∀ x ∈ left, g.Waits out x := fun x hx => by
      by_contra hgo
      have hx' : x ∈ left.filter fun m => (g.depsOf m).all out.contains :=
        List.mem_filter.2 ⟨hx, ready_iff.2 hgo⟩
      cases hf : left.filter fun m => (g.depsOf m).all out.contains with
      | nil => exact absurd (hf ▸ hx') List.not_mem_nil
      | cons y ys => rw [hf] at hfirst; cases hfirst
    exact ⟨fun _ => hall, fun x hx _ => ((first?_eq_some hnd).1 h).2 x hx⟩

/-- **The order is made of next modules**: each comes next when those before it are out. -/
theorem orderFrom_next (n : Nat) : ∀ {out : List String} {left pre post : List Module},
    left.length ≤ n → (left.map Module.name).Nodup →
    g.orderFrom n out left = pre ++ m :: post →
    ∃ left', left'.Perm (m :: post) ∧
      g.next? ((pre.map Module.name).reverse ++ out) left' = some m := by
  induction n with
  | zero =>
    intro out left pre post _ _ h
    cases pre <;> cases h
  | succ n ih =>
    intro out left pre post hn hnd h
    have hperm : (g.orderFrom (n + 1) out left).Perm left := orderFrom_perm (n + 1) hn hnd
    unfold orderFrom at h
    cases hnext : g.next? out left with
    | none =>
      rw [hnext] at h
      cases pre <;> cases h
    | some m' =>
      rw [hnext] at h
      cases pre with
      | nil =>
        cases h
        unfold orderFrom at hperm
        rw [hnext] at hperm
        exact ⟨left, hperm.symm, hnext⟩
      | cons m'' pre =>
        obtain ⟨rfl, hrest⟩ := List.cons.inj h
        have hout := perm_of_mem hnd (next?_mem hnext)
        have hlen := hout.length_eq
        rw [List.length_cons] at hlen
        have hnd' : ((left.filter (·.name != m'.name)).map Module.name).Nodup :=
          hnd.sublist (List.filter_sublist.map _)
        obtain ⟨left', hleft', hnext'⟩ := ih (by omega) hnd' hrest
        refine ⟨left', hleft', ?_⟩
        rwa [List.map_cons, List.reverse_cons, List.append_assoc]

/-- Modules that all wait for each other lead to cycles. -/
theorem cycle_of_waits (hall : ∀ x ∈ left, x ∈ g.modules)
    (hrest : ∀ x ∈ g.modules, x.name ∉ out → x ∈ left) (hwait : ∀ x ∈ left, g.Waits out x)
    (hm : m ∈ left) :
    ∃ c ∈ left.map Module.name, ReflTransGen g.Imports m.name c ∧ TransGen g.Imports c c := by
  refine exists_cycle (fun n hn => ?_) (List.mem_map_of_mem hm)
  obtain ⟨x, hx, rfl⟩ := List.mem_map.1 hn
  obtain ⟨d, hd, hout⟩ := hwait x hx
  obtain ⟨y, hy, rfl⟩ := depsOf_mem hd
  exact ⟨y.name, List.mem_map_of_mem (hrest y hy hout), x, hall x hx, rfl, hd⟩

/-- **A module stands before one of its imports** exactly if, when it comes, all that is left
waits. It has the smallest name of these then, and depends on a cycle of them. So a module that
depends on no cycle stands after all its imports. -/
theorem early_of_order (hnd : (g.modules.map Module.name).Nodup) {pre post : List Module}
    (h : g.order = pre ++ m :: post) :
    (g.Waits (pre.map Module.name) m ↔ ∀ x ∈ m :: post, g.Waits (pre.map Module.name) x) ∧
      (g.Waits (pre.map Module.name) m → (∀ x ∈ post, m.name < x.name) ∧
        ∃ c ∈ (m :: post).map Module.name,
          ReflTransGen g.Imports m.name c ∧ TransGen g.Imports c c) ∧
      ((∀ c, ReflTransGen g.Imports m.name c → ¬TransGen g.Imports c c) →
        ∀ d ∈ g.depsOf m, d ∈ pre.map Module.name) := by
  have hperm : (pre ++ m :: post).Perm g.modules := h ▸ order_perm hnd
  have hnd' : ((m :: post).map Module.name).Nodup :=
    ((hperm.map _).nodup_iff.2 hnd).sublist ((List.sublist_append_right _ _).map _)
  obtain ⟨left, hleft, hnext⟩ := orderFrom_next g.modules.length (Nat.le_refl _) hnd h
  obtain ⟨-, hwaits, hmin⟩ := next?_spec ((hleft.map _).nodup_iff.2 hnd') hnext
  have hsame : ∀ x, g.Waits ((pre.map Module.name).reverse ++ []) x ↔
      g.Waits (pre.map Module.name) x := fun x => by simp [Waits]
  simp only [hsame, hleft.mem_iff] at hwaits hmin
  have hcycle : g.Waits (pre.map Module.name) m → ∃ c ∈ (m :: post).map Module.name,
      ReflTransGen g.Imports m.name c ∧ TransGen g.Imports c c := fun hw => by
    refine cycle_of_waits (fun x hx => ?_) (fun x hx hout => ?_) (hwaits hw) List.mem_cons_self
    · exact hperm.mem_iff.1 (List.mem_append_right _ hx)
    · refine (List.mem_append.1 (hperm.mem_iff.2 hx)).resolve_left fun hpre => hout ?_
      exact List.mem_map_of_mem hpre
  refine ⟨⟨hwaits, fun hall => hall m List.mem_cons_self⟩, fun hw => ⟨fun x hx => ?_, hcycle hw⟩,
    fun hno d hd => ?_⟩
  · have hle := hmin x (List.mem_cons_of_mem m hx) fun _ => hw
    have hne : m.name ≠ x.name := fun heq =>
      (List.nodup_cons.1 hnd').1 (heq ▸ List.mem_map_of_mem hx)
    exact String.not_le.1 fun hge => hne (String.le_antisymm hle hge)
  · by_contra hout
    obtain ⟨c, -, hreach, hcyc⟩ := hcycle ⟨d, hd, hout⟩
    exact hno c hreach hcyc

/-- A module of this name that imports others, and does nothing else. -/
def importer (name : String) (imports : List String) : Module :=
  ⟨name, name, imports.map fun n => .imported ⟨⟨name, 1⟩, n⟩, 0⟩

/-- Two modules that import each other, and one that builds on them. -/
def bystander : ImportGraph := ⟨[importer "a" ["b"], importer "b" ["c"], importer "c" ["b"]]⟩

theorem early_bystander :
    (bystander.modules.map Module.name).Nodup ∧
      bystander.order =
        [] ++ importer "a" ["b"] :: [importer "b" ["c"], importer "c" ["b"]] ∧
      bystander.Waits [] (importer "a" ["b"]) ∧
      ∃ c ∈ ["a", "b", "c"], ReflTransGen bystander.Imports "a" c ∧
        TransGen bystander.Imports c c := by
  have hnd : (bystander.modules.map Module.name).Nodup := by decide
  have h : bystander.order =
    [] ++ importer "a" ["b"] :: [importer "b" ["c"], importer "c" ["b"]] := by rfl
  have hw : bystander.Waits [] (importer "a" ["b"]) := ⟨"b", by decide, List.not_mem_nil⟩
  exact ⟨hnd, h, hw, ((early_of_order hnd h).2.1 hw).2⟩

/-- The module that builds on the two comes first, though its import does not depend on it. -/
theorem bystander_first :
    bystander.order.map Module.name = ["a", "b", "c"] ∧ bystander.Imports "a" "b" ∧
      ¬TransGen bystander.Imports "b" "a" := by
  refine ⟨by rfl, ⟨_, List.mem_cons_self, rfl, by decide⟩, fun h => ?_⟩
  have hclosed : ∀ m ∈ bystander.modules, m.name ∈ ["b", "c"] →
    ∀ d ∈ bystander.depsOf m, d ∈ ["b", "c"] := by decide
  have hreach : ∀ n, TransGen bystander.Imports "b" n → n ∈ ["b", "c"] := fun n h => by
    induction h with
    | single hstep =>
      obtain ⟨m, hm, hname, hd⟩ := hstep
      exact hclosed m hm (by rw [hname]; decide) _ hd
    | tail _ hstep ih =>
      obtain ⟨m, hm, hname, hd⟩ := hstep
      exact hclosed m hm (hname ▸ ih) _ hd
  exact absurd (hreach "a" h) (by decide)

end ImportGraph

end GraphWalk
