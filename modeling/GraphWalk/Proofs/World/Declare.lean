import GraphWalk.World.Basic
import Mathlib.Data.List.Nodup

/-!
# Declaring the globals of modules

The globals of modules are declared one by one, also after one of them failed. Into a
table without variables of these modules, this fails exactly if a module declares two
globals of one name: `declareModules_eq_nil`. Whatever was declared stays.
-/

namespace GraphWalk

namespace GlobalTable

variable {t t' : GlobalTable} {module module' name name' : String} {value : Value}
  {isPrivate : Bool}

theorem declare_eq (h : t.declare module name value isPrivate = .ok t') :
    t.find? module name = none ∧
      t' = { t with vars := t.vars ++ [⟨module, name, value, isPrivate⟩] } := by
  unfold declare at h
  split at h
  · cases h
  · rename_i hn
    cases h
    exact ⟨hn, rfl⟩

theorem declare_error {e : GlobalError} (h : t.declare module name value isPrivate = .error e) :
    (t.find? module name).isSome = true := by
  unfold declare at h
  split at h
  · rename_i hs
    rw [hs]
    rfl
  · cases h

/-- A declaration takes one name and frees none. -/
theorem find?_declare (h : t.declare module name value isPrivate = .ok t') :
    t'.find? module' name' = none ↔
      t.find? module' name' = none ∧ ¬(module = module' ∧ name = name') := by
  obtain ⟨-, rfl⟩ := declare_eq h
  unfold find?
  rw [List.find?_append, Option.or_eq_none_iff]
  simp

/-- The same variables and imports, maybe with other values. -/
structure SameNames (t t' : GlobalTable) : Prop where
  vars : t'.vars.map (fun g => (g.module, g.name)) = t.vars.map fun g => (g.module, g.name)
  imports : t'.imports = t.imports

/-- **A write** changes values only. -/
theorem set_sameNames (h : t.set module name value = .ok t') : t.SameNames t' := by
  unfold set at h
  cases hr : t.resolve module name with
  | error e => rw [hr] at h; cases h
  | ok g =>
    cases ha : assigned g value with
    | error e =>
      simp only [hr, ha, bind, Except.bind] at h
      cases h
    | ok v =>
      simp only [hr, ha, bind, Except.bind, pure, Except.pure] at h
      cases h
      refine ⟨?_, rfl⟩
      rw [List.map_map]
      apply List.map_congr_left
      intro x _
      simp only [Function.comp]
      split <;> rfl

theorem SameNames.eq_empty (h : empty.SameNames t) : t = empty := by
  obtain ⟨vars, imports⟩ := t
  obtain ⟨hv, hi⟩ := h
  have hv' : vars = [] := List.map_eq_nil_iff.1 hv
  subst hv'
  exact congrArg (GlobalTable.mk []) hi

theorem SameNames.ne_nil (h : t.SameNames t') (hn : t.vars ≠ []) : t'.vars ≠ [] := by
  intro ht
  refine hn (List.map_eq_nil_iff.1 (h.vars.symm.trans ?_))
  rw [ht]
  rfl

end GlobalTable

namespace World

variable {t : GlobalTable} {module : String}

/-- Declaring globals of a module adds variables of that module only. -/
theorem declareGlobals_find? {module' name : String} (hne : module ≠ module')
    (gs : List GlobalDecl) : ∀ t : GlobalTable,
      (declareGlobals module gs t).1.find? module' name = none ↔ t.find? module' name = none := by
  induction gs with
  | nil => exact fun t => Iff.rfl
  | cons g gs ih =>
    intro t
    unfold declareGlobals
    split
    · rename_i t' hd
      rw [ih, GlobalTable.find?_declare hd]
      simp [hne]
    · exact ih t

/-- **Declaring globals** fails exactly if a name is taken or comes twice. -/
theorem declareGlobals_eq_nil (gs : List GlobalDecl) : ∀ t : GlobalTable,
    (declareGlobals module gs t).2 = [] ↔
      (gs.map GlobalDecl.name).Nodup ∧ ∀ g ∈ gs, t.find? module g.name = none := by
  induction gs with
  | nil => intro t; simp [declareGlobals]
  | cons g gs ih =>
    intro t
    unfold declareGlobals
    cases hd : t.declare module g.name g.value g.isPrivate with
    | error e =>
      -- the name is taken, so the fault stands whatever follows
      have hs := GlobalTable.declare_error hd
      simp only [List.mem_cons, reduceCtorEq, false_iff, not_and, not_forall]
      intro _
      exact ⟨g, Or.inl rfl, fun hn => by rw [hn] at hs; cases hs⟩
    | ok t' =>
      -- from here on the name is taken for the globals that follow
      obtain ⟨hn, -⟩ := GlobalTable.declare_eq hd
      simp only [ih, GlobalTable.find?_declare hd, List.map_cons, List.nodup_cons, List.mem_map,
        not_exists, not_and, List.mem_cons, forall_eq_or_imp, true_implies]
      constructor
      · rintro ⟨hnd, hall⟩
        exact ⟨⟨fun g' hg' he => (hall g' hg').2 he.symm, hnd⟩, hn, fun g' hg' => (hall g' hg').1⟩
      · rintro ⟨⟨hfresh, hnd⟩, -, hall⟩
        exact ⟨hnd, fun g' hg' => ⟨hall g' hg', fun he => hfresh g' hg' he.symm⟩⟩

/-- Declaring globals takes none away. -/
theorem declareGlobals_vars (gs : List GlobalDecl) : ∀ t : GlobalTable,
    t.vars <+: (declareGlobals module gs t).1.vars := by
  induction gs with
  | nil => exact fun t => List.prefix_refl _
  | cons g gs ih =>
    intro t
    unfold declareGlobals
    split
    · rename_i t' hd
      obtain ⟨-, rfl⟩ := GlobalTable.declare_eq hd
      refine List.IsPrefix.trans ?_ (ih _)
      exact List.prefix_append _ _
    · exact ih t

/-- Where globals were declared, even in vain, there are variables. -/
theorem declareGlobals_ne_nil {gs : List GlobalDecl} (hgs : gs ≠ []) :
    (declareGlobals module gs t).1.vars ≠ [] := by
  obtain ⟨g, gs, rfl⟩ := List.exists_cons_of_ne_nil hgs
  unfold declareGlobals
  split
  · rename_i t' hd
    obtain ⟨-, rfl⟩ := GlobalTable.declare_eq hd
    exact List.ne_nil_of_mem ((declareGlobals_vars gs _).subset
      (List.mem_append_right _ List.mem_cons_self))
  · rename_i e hd
    have hs := GlobalTable.declare_error hd
    obtain ⟨x, hx⟩ := Option.isSome_iff_exists.1 hs
    exact List.ne_nil_of_mem ((declareGlobals_vars gs t).subset (List.mem_of_find?_eq_some hx))

variable {graph : ImportGraph}

theorem declareModules_vars (mods : List Module) : ∀ t : GlobalTable,
    t.vars <+: (declareModules graph mods t).1.vars := by
  induction mods with
  | nil => exact fun t => List.prefix_refl _
  | cons m mods ih =>
    intro t
    refine List.IsPrefix.trans ?_ (ih _)
    exact declareGlobals_vars m.globals t

/-- Where modules with globals were declared, even in vain, there are variables. -/
theorem declareModules_ne_nil {m : Module} (hg : m.globals ≠ []) (mods : List Module) :
    ∀ t : GlobalTable, m ∈ mods → (declareModules graph mods t).1.vars ≠ [] := by
  induction mods with
  | nil => exact fun t hm => (List.not_mem_nil hm).elim
  | cons m' mods ih =>
    intro t hm
    rcases List.mem_cons.1 hm with rfl | hm
    · refine List.IsPrefix.ne_nil (declareModules_vars mods _) ?_
      exact declareGlobals_ne_nil hg
    · exact ih _ hm

/-- **Declaring the globals of modules** into a table without any of them fails exactly
if a module declares two globals of one name. -/
theorem declareModules_eq_nil (mods : List Module) : ∀ t : GlobalTable,
    (mods.map Module.name).Nodup → (∀ m ∈ mods, ∀ name, t.find? m.name name = none) →
      ((declareModules graph mods t).2 = [] ↔
        ∀ m ∈ mods, (m.globals.map GlobalDecl.name).Nodup) := by
  induction mods with
  | nil => intro t _ _; simp [declareModules]
  | cons m mods ih =>
    intro t hnd ht
    rw [List.map_cons, List.nodup_cons] at hnd
    unfold declareModules
    simp only [List.append_eq_nil_iff, List.mem_cons, forall_eq_or_imp]
    have hrest := ih ((declareGlobals m.name m.globals t).1.setImports m.name
      ((graph.imports? m.name).getD [])) hnd.2 fun m' hm' name => by
        have hne : m.name ≠ m'.name := fun he => hnd.1 (List.mem_map.2 ⟨m', hm', he.symm⟩)
        exact (declareGlobals_find? hne m.globals t).2 (ht m' (List.mem_cons_of_mem m hm') name)
    rw [hrest, declareGlobals_eq_nil]
    exact and_congr_left fun _ =>
      and_iff_left fun g _ => ht m List.mem_cons_self g.name

end World

end GraphWalk
