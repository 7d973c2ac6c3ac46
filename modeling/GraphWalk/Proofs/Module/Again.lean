import GraphWalk.Proofs.Module.Failure
import GraphWalk.Proofs.Registry.Again

/-!
# Resolving once more

Modules that were resolved can be resolved again into the registry that they have filled: it
is frozen, so nothing changes (`resolve_of_frozen`), and every registration that was accepted
is accepted again, unless a declaration has two fields of one name and different types.
Such a declaration is accepted only once, since its fields are compared with those that are
registered and not with each other.

Main result: `again_of_resolve`. **Modules that resolved resolve again into their registry**,
in the same order and without any change, exactly if the fields of each declaration are
uniform.
-/

namespace GraphWalk

/-- Of an architype, the fields of one name are of one type. -/
def Element.Uniform : Element → Prop
  | .arch d => GraphWalk.Uniform d.fields
  | _ => True

def Module.Uniform (m : Module) : Prop := ∀ el ∈ m.elements, el.Uniform

instance : DecidablePred Element.Uniform
  | .arch d => inferInstanceAs (Decidable (GraphWalk.Uniform d.fields))
  | .imported _ | .impl _ | .global _ | .test _ | .graph _ => .isTrue trivial

instance (m : Module) : Decidable m.Uniform :=
  inferInstanceAs (Decidable (∀ el ∈ m.elements, el.Uniform))

namespace Registry

variable {r r' R : Registry} {m : Module} {element : Nat}

/-! ## Collecting -/

/-- **The slots of an architype** that were collected are collected again. -/
theorem collectAbilities_again {d : ArchDecl} (hf : R.frozen = true) (abs : List AbilityDecl) :
    ∀ {i : Nat} {r r' : Registry}, r.Clean → collectAbilities m element d i abs r = (r', []) →
      r'.Into R → r.Into r' ∧ collectAbilities m element d i abs R = (R, []) := by
  induction abs with
  | nil =>
    intro i r r' _ h _
    cases h
    exact ⟨Into.refl _, rfl⟩
  | cons ab abs ih =>
    intro i r r' ok h hi
    unfold collectAbilities at h
    cases hd : r.registerDeclaration m.name ⟨d.kind, d.name⟩
        ⟨ab.name, ab.signature, ab.isAbstract⟩ with
    | error e => simp [hd] at h
    | ok p =>
      obtain ⟨r₁, slot⟩ := p
      obtain ⟨ok₁, -⟩ := ok.registerDeclaration hd
      have hinto := (registerDeclaration_into ok.tidy hd).2
      cases hb : ab.body with
      | none =>
        have hrest : collectAbilities m element d (i + 1) abs r₁ = (r', []) := by
          simpa [hd, hb, Prod.ext_iff] using h
        obtain ⟨hinto', hagain⟩ := ih ok₁ hrest hi
        obtain ⟨slot', hd'⟩ := registerDeclaration_again ok.tidy hd hf (hinto'.trans hi)
        refine ⟨hinto.trans hinto', ?_⟩
        unfold collectAbilities
        simp only [hd', hb, hagain, List.append_nil]
      | some b =>
        cases hdef : r₁.registerDefinition m.name ⟨d.kind, d.name, ab.name⟩ (some b)
            (some ⟨m.name, m.stamp, element, i + 1⟩) with
        | error e => simp [hd, hb, hdef] at h
        | ok r₂ =>
          have hrest : collectAbilities m element d (i + 1) abs r₂ = (r', []) := by
            simpa [hd, hb, hdef, Prod.ext_iff] using h
          have hinto₂ := (registerDefinition_into hdef).1
          obtain ⟨hinto', hagain⟩ := ih (ok₁.registerDefinition hdef).1 hrest hi
          -- the slot and its body are still there when all is collected
          obtain ⟨slot', hd'⟩ :=
            registerDeclaration_again ok.tidy hd hf (hinto₂.trans (hinto'.trans hi))
          have hdef' := registerDefinition_again hdef (hinto'.trans hi)
          refine ⟨hinto.trans (hinto₂.trans hinto'), ?_⟩
          unfold collectAbilities
          simp only [hd', hb, hdef', hagain, List.append_nil]

/-- **An element** that was collected is collected again if it is uniform, and at fault
otherwise. -/
theorem collectElement_again (hf : R.frozen = true) {el : Element} (ok : r.Clean)
    (h : collectElement m element r el = (r', [])) (hi : r'.Into R) :
    r.Into r' ∧ ∃ es, collectElement m element R el = (R, es) ∧ (es = [] ↔ el.Uniform) := by
  cases el with
  | arch d =>
    simp only [collectElement] at h ⊢
    cases ha : r.registerArchitype m.name ⟨d.kind, d.name⟩ ⟨d.bases, d.fields, d.directed⟩ with
    | error e => simp [ha] at h
    | ok p =>
      rw [ha] at h
      obtain ⟨ok₁, -⟩ := ok.registerArchitype ha
      have hinto := registerArchitype_into ok.tidy ha
      obtain ⟨hinto', hagain⟩ := collectAbilities_again hf d.abilities ok₁ h hi
      obtain ⟨haccept, hrefuse⟩ := registerArchitype_again ok.tidy ha hf (hinto'.trans hi)
      refine ⟨hinto.trans hinto', ?_⟩
      by_cases hu : GraphWalk.Uniform d.fields
      · obtain ⟨b, hb⟩ := haccept hu
        rw [hb]
        exact ⟨[], hagain, iff_of_true rfl hu⟩
      · obtain ⟨e, he⟩ := hrefuse hu
        rw [he]
        exact ⟨[e], rfl, iff_of_false (List.cons_ne_nil e []) hu⟩
  | impl d =>
    simp only [collectElement] at h ⊢
    cases hd : r.registerDefinition m.name d.path d.body
        (some ⟨m.name, m.stamp, element, 0⟩) with
    | error e => simp [hd] at h
    | ok r₁ =>
      rw [hd] at h
      cases h
      rw [registerDefinition_again hd hi]
      exact ⟨(registerDefinition_into hd).1, [], rfl, iff_of_true rfl trivial⟩
  | _ =>
    cases h
    exact ⟨Into.refl _, [], rfl, iff_of_true rfl trivial⟩

theorem collectElements_again (hf : R.frozen = true) (els : List Element) :
    ∀ {element : Nat} {r r' : Registry}, r.Clean → collectElements m element els r = (r', []) →
      r'.Into R → r.Into r' ∧ ∃ es, collectElements m element els R = (R, es) ∧
        (es = [] ↔ ∀ el ∈ els, el.Uniform) := by
  induction els with
  | nil =>
    intro element r r' _ h _
    cases h
    exact ⟨Into.refl _, [], rfl, iff_of_true rfl fun el hm => by cases hm⟩
  | cons el els ih =>
    intro element r r' ok h hi
    have ok₁ : (collectElement m element r el).1.Clean := kept_clean.collectElement el ok
    unfold collectElements at h
    cases hel : collectElement m element r el with
    | mk r₁ es =>
      rw [hel] at ok₁
      simp only [hel, Prod.ext_iff, List.append_eq_nil_iff] at h
      obtain ⟨hr, rfl, hes⟩ := h
      -- the rest first, since it says that what this element has left is still in `R`
      obtain ⟨hinto', es', hagain', hes'⟩ := ih ok₁ (Prod.ext hr hes) hi
      obtain ⟨hinto, es, hagain, hes⟩ := collectElement_again hf ok hel (hinto'.trans hi)
      refine ⟨hinto.trans hinto', es ++ es', ?_, ?_⟩
      · unfold collectElements
        simp only [hagain, hagain']
      · rw [List.append_eq_nil_iff, hes, hes', List.forall_mem_cons]

/-- **Modules** that were collected are collected again if they are uniform. -/
theorem collect_again (hf : R.frozen = true) (mods : List Module) :
    ∀ {r r' : Registry}, r.Clean → collect mods r = (r', []) → r'.Into R →
      r.Into r' ∧ ∃ es, collect mods R = (R, es) ∧ (es = [] ↔ ∀ m ∈ mods, m.Uniform) := by
  induction mods with
  | nil =>
    intro r r' _ h _
    cases h
    exact ⟨Into.refl _, [], rfl, iff_of_true rfl fun m hm => by cases hm⟩
  | cons m mods ih =>
    intro r r' ok h hi
    have ok₁ : (collectElements m 0 m.elements r).1.Clean :=
      kept_clean.collectElements m.elements ok
    unfold collect at h
    cases hel : collectElements m 0 m.elements r with
    | mk r₁ es =>
      rw [hel] at ok₁
      simp only [hel, Prod.ext_iff, List.append_eq_nil_iff] at h
      obtain ⟨hr, rfl, hes⟩ := h
      obtain ⟨hinto', es', hagain', hes'⟩ := ih ok₁ (Prod.ext hr hes) hi
      obtain ⟨hinto, es, hagain, hes⟩ :=
        collectElements_again hf m.elements ok hel (hinto'.trans hi)
      refine ⟨hinto.trans hinto', es ++ es', ?_, ?_⟩
      · unfold collect
        simp only [hagain, hagain']
      · rw [List.append_eq_nil_iff, hes, hes', List.forall_mem_cons]
        rfl

/-! ## Binding -/

/-- **Binding** gives slots their bodies, and leaves alone what was declared of them. -/
theorem bindAll_into (r : Registry) : r.Into r.bindAll := by
  refine ⟨fun key a ha => ?_, fun path d hd => ⟨d, hd, rfl⟩⟩
  have hfind := find?_map_archs (f := fun a : Architype => { a with
    abilities := a.abilities.map r.bindSlot
    linkedAbilities := a.linkedAbilities.map r.bindSlot }) (fun _ => rfl) r key
  rw [ha] at hfind
  refine ⟨_, hfind, Or.inr rfl, List.prefix_refl _, id, fun name s hs => ⟨r.bindSlot s, ?_, ?_⟩⟩
  · unfold Architype.ability? at hs ⊢
    rw [List.find?_map]
    simp only [Function.comp_def, bindSlot_name, hs, Option.map_some]
  · rw [bindSlot_eq]
    exact ⟨rfl, rfl⟩

/-- Nothing is at fault in a registry that was bound. -/
theorem bindErrors_bindAll (ok : r.Tidy) (h : r.bindErrors = []) : r.bindAll.bindErrors = [] := by
  obtain ⟨hfit, hmissing⟩ := bindErrors_eq_nil.1 h
  refine bindErrors_eq_nil.2 ⟨fun d hd => ?_, fun s hs => ?_⟩
  · obtain ⟨s, hs⟩ := Option.isSome_iff_exists.1 (hfit d hd)
    rw [bindAll_slotAt? ok hs]
    rfl
  · rw [bindAll_slots] at hs
    obtain ⟨t, ht, rfl⟩ := List.mem_map.1 hs
    have hdef : r.bindAll.definition? t.path = r.definition? t.path := rfl
    rw [bindSlot_path, hdef]
    rcases hmissing t ht with hd | habs | hbound
    · exact Or.inl hd
    · exact Or.inr (Or.inl (by rw [bindSlot_eq]; exact habs))
    · refine Or.inr (Or.inr ?_)
      unfold bindSlot
      split
      · rfl
      · exact hbound

end Registry

open Registry (emptied)

variable {mods : List Module} {g : ImportGraph}

/-- **Resolving once more**: the registry stays as it is, and the modules resolve again, in
the same order, exactly if the fields of each declaration are uniform. -/
theorem again_of_resolve (n : Nat) (mods : List Module) (g : ImportGraph)
    (h : (resolve (emptied n) mods).outcome = .ok g) :
    let again := resolve (resolve (emptied n) mods).registry mods
    again.registry = (resolve (emptied n) mods).registry ∧
      ((∀ m ∈ mods, m.Uniform) → again.outcome = .ok g) ∧
      (¬(∀ m ∈ mods, m.Uniform) → ∃ f, again.outcome = .error f) := by
  obtain ⟨-, hperm, hcollect, hbind, hr⟩ := resolve_eq_ok h
  have hfrozen := resolve_frozen h
  have hclean := Registry.collect_clean g.order (Registry.emptied_clean n)
  have hlink := linking_emptied n g
  have htidy : (linked (emptied n) g).Tidy := hclean.tidy.of_table hlink.table hlink.defs
  rw [linked_emptied_frozen, if_neg Bool.false_ne_true] at hr
  generalize (resolve (emptied n) mods).registry = R at hr hfrozen
  -- what was collected is in the registry that was linked, bound and frozen
  have hinto : (Registry.collect g.order (emptied n)).1.Into R := by
    rw [hr]
    exact (Registry.link_into hclean.tidy.keys hlink.defs).trans
      ⟨(Registry.bindAll_into _).records, (Registry.bindAll_into _).definitions⟩
  obtain ⟨-, es, hagain, hes⟩ := Registry.collect_again hfrozen g.order
    (Registry.emptied_clean n) (Prod.ext rfl hcollect) hinto
  have herrors : R.bindErrors = [] := by
    rw [hr]
    exact Registry.bindErrors_bindAll htidy hbind
  have hfaults : faults R g [] = es.map .registry := by
    unfold faults
    rw [linked_frozen hfrozen, hagain, Registry.link_frozen hfrozen, herrors]
    simp
  obtain ⟨hout, -⟩ := resolve_of_graph (r := R) (ofModules_of_resolve h)
  rw [hfaults] at hout
  have hall : es = [] ↔ ∀ m ∈ mods, m.Uniform :=
    hes.trans (forall_congr' fun m => by rw [hperm.mem_iff])
  refine ⟨resolve_of_frozen hfrozen mods, fun hu => ?_, fun hu => ?_⟩
  · -- nothing is at fault, so the outcome is the graph of the modules again
    rw [hout, hall.2 hu]
    rfl
  · refine ⟨_, hout.trans (if_neg ?_)⟩
    rw [List.isEmpty_iff, List.map_eq_nil_iff, hall]
    exact hu

/-- A node with two fields of one name, the one a text, the other of type `ty`. -/
def paired (ty : Ty) : List Module :=
  let pos : Pos := ⟨"m", 1⟩
  [⟨"m", "m", [.arch ⟨pos, .node, "City", [], [⟨"size", .string, none⟩, ⟨"size", ty, none⟩], [],
    false⟩], 0⟩]

theorem again_paired_string :
    (resolve (emptied 0) (paired .string)).outcome = .ok ⟨paired .string⟩ ∧
      (∀ m ∈ paired .string, m.Uniform) ∧
      let again := resolve (resolve (emptied 0) (paired .string)).registry (paired .string)
      again.registry = (resolve (emptied 0) (paired .string)).registry ∧
        again.outcome = .ok ⟨paired .string⟩ := by
  have h : (resolve (emptied 0) (paired .string)).outcome = .ok ⟨paired .string⟩ := by rfl
  have hu : ∀ m ∈ paired .string, m.Uniform := by decide
  obtain ⟨hreg, hagain, -⟩ := again_of_resolve 0 (paired .string) ⟨paired .string⟩ h
  exact ⟨h, hu, hreg, hagain hu⟩

theorem paired_number_not_again :
    (resolve (emptied 0) (paired .number)).outcome = .ok ⟨paired .number⟩ ∧
      ∃ f, (resolve (resolve (emptied 0) (paired .number)).registry (paired .number)).outcome =
        .error f :=
  ⟨by rfl, _, by rfl⟩

end GraphWalk
