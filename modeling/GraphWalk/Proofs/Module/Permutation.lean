import GraphWalk.Proofs.Module.Resolve

/-!
# The order in which modules are given

The order of a set of modules depends on what each imports and on their names, and not on
the order in which they are given, also where imports form cycles: `order_eq_of_perm`. All
later phases work in that order.

Main result: `resolve_perm`. **Resolving does not depend on the order of the modules.**
-/

namespace GraphWalk

/-- With distinct keys, what is found by its key does not depend on the order. -/
theorem find?_eq_of_perm {α β : Type} [DecidableEq β] {f : α → β} {xs ys : List α}
    (hp : xs.Perm ys) (hnd : (xs.map f).Nodup) (k : β) :
    xs.find? (fun y => decide (f y = k)) = ys.find? (fun y => decide (f y = k)) := by
  have hnd' : (ys.map f).Nodup := (hp.map f).nodup_iff.1 hnd
  ext x
  rw [find?_eq_some_of_nodup hnd, find?_eq_some_of_nodup hnd', hp.mem_iff]

namespace ImportGraph

variable {g g' : ImportGraph} {left left' ms ms' : List Module} {m : Module}

/-! ## The module with the smallest name -/

theorem smallest_le (ms : List Module) :
    ∀ m : Module, ∀ x ∈ m :: ms, (smallest m ms).name ≤ x.name := by
  induction ms with
  | nil =>
    intro m x hx
    rw [List.mem_singleton.1 hx]
    exact String.le_refl _
  | cons m' ms ih =>
    intro m x hx
    unfold smallest
    split
    · rename_i hlt
      rcases List.mem_cons.1 hx with rfl | hx
      · have hle := ih m' m' List.mem_cons_self
        exact String.le_trans hle (String.not_lt.1 (String.lt_asymm hlt))
      · exact ih m' x hx
    · rename_i hlt
      rcases List.mem_cons.1 hx with rfl | hx
      · exact ih x x List.mem_cons_self
      · rcases List.mem_cons.1 hx with rfl | hx
        · have hle := ih m m List.mem_cons_self
          exact String.le_trans hle (String.not_lt.1 hlt)
        · exact ih m x (List.mem_cons_of_mem m hx)

/-- The module with the smallest name, if there is one. -/
def first? : List Module → Option Module
  | [] => none
  | m :: ms => some (smallest m ms)

/-- With distinct names only one module has the smallest. -/
theorem first?_eq_some (hnd : (ms.map Module.name).Nodup) :
    first? ms = some m ↔ m ∈ ms ∧ ∀ x ∈ ms, m.name ≤ x.name := by
  cases ms with
  | nil => simp [first?]
  | cons m₀ ms =>
    have hmem := smallest_mem m₀ ms
    have hle := smallest_le ms m₀
    constructor
    · intro h
      cases h
      exact ⟨hmem, hle⟩
    · -- two modules that are both smallest have one name, so they are one
      rintro ⟨hm, hmin⟩
      have hname : (smallest m₀ ms).name = m.name :=
        String.le_antisymm (hle m hm) (hmin _ hmem)
      exact congrArg some (List.inj_on_of_nodup_map hnd hmem hm hname)

theorem first?_eq_of_perm (hp : ms.Perm ms') (hnd : (ms.map Module.name).Nodup) :
    first? ms = first? ms' := by
  have hnd' : (ms'.map Module.name).Nodup := (hp.map _).nodup_iff.1 hnd
  ext m
  rw [first?_eq_some hnd, first?_eq_some hnd', hp.mem_iff]
  exact and_congr_right fun _ => forall_congr' fun x => by rw [hp.mem_iff]

/-! ## The order -/

/-- The next module is the first one whose imports are all out, or else the first. -/
theorem next?_eq (g : ImportGraph) (out : List String) (left : List Module) :
    g.next? out left =
      (first? (left.filter fun m => (g.depsOf m).all out.contains)).or (first? left) := by
  unfold next?
  cases left.filter fun m => (g.depsOf m).all out.contains with
  | cons m ms => rfl
  | nil => cases left <;> rfl

theorem next?_eq_of_perm (hd : g.depsOf = g'.depsOf) (out : List String)
    (hp : left.Perm left') (hnd : (left.map Module.name).Nodup) :
    g.next? out left = g'.next? out left' := by
  rw [next?_eq, next?_eq, hd, first?_eq_of_perm hp hnd]
  have hready : ((left.filter fun m => (g'.depsOf m).all out.contains).map Module.name).Nodup :=
    hnd.sublist (List.filter_sublist.map _)
  rw [first?_eq_of_perm (hp.filter _) hready]

theorem orderFrom_eq_of_perm (hd : g.depsOf = g'.depsOf) (n : Nat) :
    ∀ {out : List String} {left left' : List Module}, left.Perm left' →
      (left.map Module.name).Nodup → g.orderFrom n out left = g'.orderFrom n out left' := by
  induction n with
  | zero => exact fun _ _ => rfl
  | succ n ih =>
    intro out left left' hp hnd
    unfold orderFrom
    rw [next?_eq_of_perm hd out hp hnd]
    cases g'.next? out left' with
    | none => rfl
    | some m =>
      -- the same module is taken out of both, so what is left differs only in its order
      have hnd' : ((left.filter (·.name != m.name)).map Module.name).Nodup :=
        hnd.sublist (List.filter_sublist.map _)
      exact congrArg (m :: ·) (ih (hp.filter _) hnd')

theorem find?_eq (hp : g.modules.Perm g'.modules) (hnd : (g.modules.map Module.name).Nodup) :
    g.find? = g'.find? :=
  funext fun name => find?_eq_of_perm hp hnd name

/-- What a module imports depends on which modules there are. -/
theorem depsOf_eq (hp : g.modules.Perm g'.modules) (hnd : (g.modules.map Module.name).Nodup) :
    g.depsOf = g'.depsOf := by
  funext m
  unfold depsOf
  rw [find?_eq hp hnd]

/-- **The order of modules** does not depend on the order in which they are given. -/
theorem order_eq_of_perm (hp : g.modules.Perm g'.modules)
    (hnd : (g.modules.map Module.name).Nodup) : g.order = g'.order := by
  unfold order
  rw [hp.length_eq]
  exact orderFrom_eq_of_perm (depsOf_eq hp hnd) _ hp hnd

/-- The same imports are unknown. -/
theorem unknownImports_perm (hp : g.modules.Perm g'.modules)
    (hnd : (g.modules.map Module.name).Nodup) :
    (g.modules.flatMap g.unknownImports).Perm (g'.modules.flatMap g'.unknownImports) := by
  have hsame : g.unknownImports = g'.unknownImports := by
    funext m
    unfold unknownImports
    rw [find?_eq hp hnd]
  rw [hsame]
  exact hp.flatMap_right _

theorem ofModules_of_nodup {mods : List Module} (hnd : (mods.map Module.name).Nodup) :
    ofModules mods = .ok (⟨mods⟩, mods.flatMap (⟨mods⟩ : ImportGraph).unknownImports) := by
  have hnone : firstRepeated [] (mods.map Module.name) = none :=
    firstRepeated_eq_none.2 ⟨hnd, fun _ _ => List.not_mem_nil⟩
  unfold ofModules
  rw [hnone]

end ImportGraph

/-- Two outcomes of resolving: the same order of modules, or the same faults in some order. -/
inductive SameOutcome : Except Fault ImportGraph → Except Fault ImportGraph → Prop where
  | resolved {g g' : ImportGraph} : g.order = g'.order → SameOutcome (.ok g) (.ok g')
  | failed {fs fs' : List Fault} : fs.Perm fs' →
    SameOutcome (.error (.resolution fs)) (.error (.resolution fs'))

/-- **Resolving does not depend on the order of the modules**: with distinct names, a set of
modules and any permutation of it resolve both, in the same order, or fail both, with the
same faults in some order; and either way the registry is the same afterwards. -/
theorem resolve_perm (r : Registry) {mods mods' : List Module} (hp : mods.Perm mods')
    (hnd : (mods.map Module.name).Nodup) :
    SameOutcome (resolve r mods).outcome (resolve r mods').outcome ∧
      (resolve r mods).registry = (resolve r mods').registry := by
  have hnd' : (mods'.map Module.name).Nodup := (hp.map _).nodup_iff.1 hnd
  obtain ⟨hout, hreg⟩ := resolve_of_graph (r := r) (ImportGraph.ofModules_of_nodup hnd)
  obtain ⟨hout', hreg'⟩ := resolve_of_graph (r := r) (ImportGraph.ofModules_of_nodup hnd')
  have horder : (⟨mods⟩ : ImportGraph).order = (⟨mods'⟩ : ImportGraph).order :=
    ImportGraph.order_eq_of_perm hp hnd
  have hlinked : linked r ⟨mods⟩ = linked r ⟨mods'⟩ := by
    unfold linked
    rw [horder]
  -- of the faults, only those of unknown imports come in the order of the modules
  have hfaults : (faults r ⟨mods⟩ (mods.flatMap (⟨mods⟩ : ImportGraph).unknownImports)).Perm
      (faults r ⟨mods'⟩ (mods'.flatMap (⟨mods'⟩ : ImportGraph).unknownImports)) := by
    unfold faults
    rw [horder, hlinked]
    exact (ImportGraph.unknownImports_perm hp hnd).append_right _
  rw [hout, hout', hreg, hreg', hlinked]
  by_cases hempty : (faults r ⟨mods⟩
      (mods.flatMap (⟨mods⟩ : ImportGraph).unknownImports)).isEmpty = true
  · have hempty' := hfaults.isEmpty_eq.symm.trans hempty
    rw [if_pos hempty, if_pos hempty, if_pos hempty', if_pos hempty']
    exact ⟨.resolved horder, rfl⟩
  · have hempty' : ¬(faults r ⟨mods'⟩
        (mods'.flatMap (⟨mods'⟩ : ImportGraph).unknownImports)).isEmpty = true := fun h =>
      hempty (hfaults.isEmpty_eq.trans h)
    rw [if_neg hempty, if_neg hempty, if_neg hempty', if_neg hempty']
    exact ⟨.failed hfaults, rfl⟩

/-- Two modules that import each other and declare one node, each with its own idea of what
is in it, and a third that builds on both. -/
def ring : List Module :=
  let pos : Pos := ⟨"m", 1⟩
  let city := fun (name : String) (ty : Ty) =>
    Element.arch ⟨pos, .node, "City", [], [⟨name, ty, none⟩], [], false⟩
  [⟨"c", "c", [.imported ⟨pos, "b"⟩, .arch ⟨pos, .node, "Town", ["City"], [], [], false⟩], 0⟩,
    ⟨"b", "b", [.imported ⟨pos, "a"⟩, city "size" .number], 1⟩,
    ⟨"a", "a", [.imported ⟨pos, "b"⟩, city "name" .string], 2⟩]

theorem resolve_perm_ring :
    ring.Perm ring.reverse ∧ (ring.map Module.name).Nodup ∧
      (resolve .empty ring).outcome = .ok ⟨ring⟩ ∧
      (⟨ring⟩ : ImportGraph).order.map Module.name = ["a", "b", "c"] ∧
      SameOutcome (resolve .empty ring).outcome (resolve .empty ring.reverse).outcome ∧
      (resolve .empty ring).registry = (resolve .empty ring.reverse).registry := by
  have hp : ring.Perm ring.reverse := (List.reverse_perm ring).symm
  have hnd : (ring.map Module.name).Nodup := by decide
  obtain ⟨hout, hreg⟩ := resolve_perm .empty hp hnd
  exact ⟨hp, hnd, by rfl, by rfl, hout, hreg⟩

end GraphWalk
