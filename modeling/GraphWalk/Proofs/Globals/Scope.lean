import GraphWalk.Proofs.List.Distinct
import GraphWalk.Proofs.Value.Keys
import GraphWalk.Proofs.World.Declare

/-!
# What a module sees

A table changes by declarations, import lists and writes. None of these calls lets two
variables share module and name (`distinct_performs`), so that in every table that calls
can lead to, a variable is found by its names (`Distinct.find?_eq_some`).

A name stands for the module's own variable, or else for the public one of the first of
its imports that has one: `seen`. Reading follows this rule from the front
(`resolve_eq_ok`), the list of all that is visible puts the imports down from the last
to the first and the module's own variables on top (`lookupKey_visible`), and both lead
to the same (`get_iff_visible`). A read that fails tells why (`resolve_error`).
-/

namespace GraphWalk

/-! ## Tables that calls can lead to -/

namespace GlobalTable

/-- The calls that change a table. -/
inductive Call where
  | declare (module name : String) (value : Value) (isPrivate : Bool)
  | setImports (module : String) (imports : List String)
  | set (module name : String) (value : Value)

/-- What a call leaves behind; one that fails changes nothing. -/
def perform (t : GlobalTable) : Call → GlobalTable
  | .declare module name value isPrivate =>
    match t.declare module name value isPrivate with
    | .ok t' => t'
    | .error _ => t
  | .setImports module imports => t.setImports module imports
  | .set module name value =>
    match t.set module name value with
    | .ok t' => t'
    | .error _ => t

/-- The table after one call after the other. -/
def performs (t : GlobalTable) (calls : List Call) : GlobalTable := calls.foldl perform t

variable {t t' : GlobalTable} {module name module' name' : String} {value : Value} {g : Global}

/-- No two variables share module and name. -/
def Distinct (t : GlobalTable) : Prop := (t.vars.map fun g => (g.module, g.name)).Nodup

theorem find?_eq_names :
    t.find? module name = t.vars.find? fun g => (g.module, g.name) = (module, name) := by
  unfold find?
  simp only [Prod.mk.injEq]

theorem find?_some (h : t.find? module name = some g) :
    g ∈ t.vars ∧ g.module = module ∧ g.name = name := by
  have hp := List.find?_some h
  exact ⟨List.mem_of_find?_eq_some h, of_decide_eq_true hp⟩

/-- **A variable is found by its names.** -/
theorem Distinct.find?_eq_some (h : t.Distinct) :
    t.find? module name = some g ↔ g ∈ t.vars ∧ g.module = module ∧ g.name = name := by
  rw [find?_eq_names, find?_eq_some_of_nodup h, Prod.mk.injEq]

theorem SameNames.distinct (h : t.SameNames t') : t'.Distinct ↔ t.Distinct := by
  unfold Distinct
  rw [h.vars]

/-- A declaration takes names that no variable has. -/
theorem Distinct.declare (h : t.Distinct) {isPrivate : Bool}
    (hd : t.declare module name value isPrivate = .ok t') : t'.Distinct := by
  obtain ⟨hfree, rfl⟩ := declare_eq hd
  rw [find?_eq_names] at hfree
  exact nodup_append_of_find?_eq_none h hfree

/-- **One call** keeps the names apart. -/
theorem Distinct.perform (h : t.Distinct) (c : Call) : (t.perform c).Distinct := by
  cases c with
  | declare module name value isPrivate =>
    simp only [GlobalTable.perform]
    split
    · rename_i t' hd
      exact h.declare hd
    · exact h
  | setImports module imports => exact h
  | set module name value =>
    simp only [GlobalTable.perform]
    split
    · rename_i t' hs
      exact (set_sameNames hs).distinct.2 h
    · exact h

theorem Distinct.performs (h : t.Distinct) (calls : List Call) : (t.performs calls).Distinct := by
  induction calls generalizing t with
  | nil => exact h
  | cons c calls ih => exact ih (h.perform c)

/-- **Whatever was called**, names are apart. -/
theorem distinct_performs (calls : List Call) : (empty.performs calls).Distinct :=
  Distinct.performs (t := empty) List.nodup_nil calls

end GlobalTable

namespace GlobalTable

variable {t : GlobalTable} {module name : String}

/-- **The variable a name stands for**: the module's own one, or else the public one of
the first import that has one. -/
def seen (t : GlobalTable) (module name : String) : Option Global :=
  (t.find? module name).or
    ((t.importsOf module).findSome? fun m => (t.find? m name).filter fun g => !g.isPrivate)

/-! ## Reading -/

/-- The first public variable among those found is the first found to be public. -/
theorem find?_public (imports : List String) :
    ((imports.filterMap fun m => t.find? m name).find? fun g => !g.isPrivate) =
      imports.findSome? fun m => (t.find? m name).filter fun g => !g.isPrivate := by
  induction imports with
  | nil => rfl
  | cons m imports ih =>
    rw [List.findSome?_cons, ← ih, List.filterMap_cons]
    cases t.find? m name with
    | none => rfl
    | some g =>
      rw [List.find?_cons, Option.filter_some]
      cases g.isPrivate <;> rfl

/-- **Reading** finds what the name stands for. -/
theorem resolve_eq_ok {g : Global} :
    t.resolve module name = .ok g ↔ t.seen module name = some g := by
  unfold resolve seen
  cases t.find? module name with
  | some own => simp
  | none =>
    simp only [Option.none_or, find?_public]
    split
    · rename_i g' hg
      simp [hg]
    · rename_i hnone
      rw [hnone]
      split <;> simp

/-- **A read that fails** tells a private variable of an import from no variable at all. -/
theorem resolve_error {e : GlobalError} (h : t.resolve module name = .error e) :
    ((∃ m ∈ t.importsOf module, ∃ g, t.find? m name = some g ∧ g.isPrivate = true) →
      e = .notVisible module name) ∧
    ((¬∃ m ∈ t.importsOf module, ∃ g, t.find? m name = some g ∧ g.isPrivate = true) →
      e = .unknown module name) := by
  unfold resolve at h
  split at h
  · cases h
  · dsimp only at h
    split at h
    · cases h
    · rename_i hnone
      have hfound : ∀ {m g}, m ∈ t.importsOf module → t.find? m name = some g →
          g ∈ (t.importsOf module).filterMap fun m => t.find? m name :=
        fun hm hg => List.mem_filterMap.2 ⟨_, hm, hg⟩
      split at h
      · rename_i hempty
        cases h
        refine ⟨?_, fun _ => rfl⟩
        rintro ⟨m, hm, g, hg, -⟩
        have hmem := hfound hm hg
        rw [List.isEmpty_iff.1 hempty] at hmem
        exact (List.not_mem_nil hmem).elim
      · rename_i hsome
        cases h
        refine ⟨fun _ => rfl, fun hno => ?_⟩
        -- whatever was found in the imports is private
        obtain ⟨g, hmem⟩ := List.exists_mem_of_ne_nil _ (mt List.isEmpty_iff.2 hsome)
        have hprivate : g.isPrivate = true := by
          simpa using List.find?_eq_none.1 hnone g hmem
        obtain ⟨m, hm, hg⟩ := List.mem_filterMap.1 hmem
        exact absurd ⟨m, hm, g, hg, hprivate⟩ hno

/-! ## Listing -/

/-- Names and values of the variables that satisfy a condition. -/
def rows (t : GlobalTable) (p : Global → Bool) : List (String × Value) :=
  (t.vars.filter p).map fun g => (g.name, g.value)

/-- Within a module, a row is found by its name, from whichever end one looks. -/
theorem Distinct.lookupKey_rows (h : t.Distinct) (m : String) {p : Global → Bool}
    (hp : ∀ g, p g = true → g.module = m) (n : String) :
    lookupKey n (t.rows p).reverse = ((t.find? m n).filter p).map Global.value := by
  have hnames : ((t.rows p).map (·.1)).Nodup := by
    unfold rows
    rw [List.map_map]
    have hvars : (t.vars.filter p).Nodup := (List.Nodup.of_map _ h).filter _
    refine List.Nodup.map_on ?_ hvars
    intro g hg g' hg' hn
    obtain ⟨hgm, hgp⟩ := List.mem_filter.1 hg
    obtain ⟨hgm', hgp'⟩ := List.mem_filter.1 hg'
    exact List.inj_on_of_nodup_map h hgm hgm'
      (Prod.ext ((hp g hgp).trans (hp g' hgp').symm) hn)
  have hrev : ((t.rows p).reverse.map (·.1)).Nodup := by
    rw [List.map_reverse, List.nodup_reverse]
    exact hnames
  refine Option.ext fun v => ?_
  rw [← mem_iff_lookupKey hrev, List.mem_reverse, Option.map_eq_some_iff]
  unfold rows
  rw [List.mem_map]
  constructor
  · rintro ⟨g, hg, heq⟩
    obtain ⟨hgm, hgp⟩ := List.mem_filter.1 hg
    obtain ⟨rfl, rfl⟩ := Prod.mk.inj heq
    have hfound := h.find?_eq_some.2 ⟨hgm, hp g hgp, rfl⟩
    exact ⟨g, by rw [hfound, Option.filter_some, if_pos hgp], rfl⟩
  · rintro ⟨g, hg, rfl⟩
    obtain ⟨hfound, hgp⟩ := Option.filter_eq_some_iff.1 hg
    obtain ⟨hgm, -, hn⟩ := h.find?_eq_some.1 hfound
    exact ⟨g, List.mem_filter.2 ⟨hgm, hgp⟩, by rw [hn]⟩

theorem lookupKey_flatMap (f : String → List (String × Value)) (n : String) (ms : List String) :
    lookupKey n (ms.flatMap f) = ms.findSome? fun m => lookupKey n (f m) := by
  induction ms with
  | nil => rfl
  | cons m ms ih =>
    rw [List.flatMap_cons, lookupKey_append, List.findSome?_cons, ih]
    cases lookupKey n (f m) <;> rfl

/-- **Listing** what is visible finds, under each name, what the name stands for. -/
theorem Distinct.lookupKey_visible (h : t.Distinct) (module name : String) :
    lookupKey name (t.visible module) = (t.seen module name).map Global.value := by
  have hown : lookupKey name (t.rows fun g => g.module = module).reverse =
      (t.find? module name).map Global.value := by
    rw [h.lookupKey_rows module fun g hg => of_decide_eq_true hg]
    cases hf : t.find? module name with
    | none => rfl
    | some g => rw [Option.filter_some, if_pos (decide_eq_true (find?_some hf).2.1)]
  have himported : ∀ m, lookupKey name (t.rows fun g => g.module = m ∧ !g.isPrivate).reverse =
      ((t.find? m name).filter fun g => !g.isPrivate).map Global.value := by
    intro m
    rw [h.lookupKey_rows m fun g hg => (of_decide_eq_true hg).1]
    cases hf : t.find? m name with
    | none => rfl
    | some g => simp [Option.filter_some, (find?_some hf).2.1]
  -- the table is read from its end, so the imports come in their order after all
  have hvisible : lookupKey name (t.visible module) =
      (lookupKey name (t.rows fun g => g.module = module).reverse).or
        ((t.importsOf module).findSome? fun m =>
          lookupKey name (t.rows fun g => g.module = m ∧ !g.isPrivate).reverse) := by
    unfold visible
    rw [lookupKey_sortKeys, List.reverse_append, lookupKey_append, List.reverse_flatMap,
      List.reverse_reverse, lookupKey_flatMap]
    rfl
  rw [hvisible, hown]
  unfold seen
  rw [Option.map_or]
  congr 1
  simp only [himported]
  rw [List.map_findSome?]
  rfl

/-- **Reading and listing agree.** In every table that calls can lead to, a module reads
a value under a name exactly if the list of all it sees has this value there, and has
it once. Where a read fails, the name is private to an import or unknown. -/
theorem get_iff_visible (calls : List Call) (module name : String) :
    (∀ v, (empty.performs calls).get module name = .ok v ↔
      lookupKey name ((empty.performs calls).visible module) = some v) ∧
    (((empty.performs calls).visible module).map (·.1)).Nodup ∧
    ∀ e, (empty.performs calls).get module name = .error e →
      ((∃ m ∈ (empty.performs calls).importsOf module, ∃ g,
          (empty.performs calls).find? m name = some g ∧ g.isPrivate = true) →
        e = .notVisible module name) ∧
      ((¬∃ m ∈ (empty.performs calls).importsOf module, ∃ g,
          (empty.performs calls).find? m name = some g ∧ g.isPrivate = true) →
        e = .unknown module name) := by
  have hd := distinct_performs calls
  refine ⟨fun v => ?_, (ordered_sortKeys _).nodup, fun e he => ?_⟩
  · rw [hd.lookupKey_visible, Option.map_eq_some_iff]
    simp only [← resolve_eq_ok]
    unfold get
    cases (empty.performs calls).resolve module name <;> simp [Except.map]
  · apply resolve_error
    unfold get at he
    cases hr : (empty.performs calls).resolve module name with
    | error e' =>
      rw [hr] at he
      cases he
      rfl
    | ok g =>
      rw [hr] at he
      cases he

end GlobalTable

end GraphWalk
