import Mathlib.Data.Fintype.Card
import Mathlib.Data.Set.Finite.List
import Mathlib.Logic.Relation

/-!
# Cycles of a relation

What never stops in a finite set comes to a cycle (`exists_cycle`). All that a cycle goes over is
reached from any of its members and leads back, so what holds of all such members holds along it
(`cycle_within`).
-/

namespace GraphWalk

open Relation

variable {α : Type} {R : α → α → Prop}

/-- If each member leads on to a member, each leads to a cycle of members. -/
theorem exists_cycle {xs : List α} (h : ∀ x ∈ xs, ∃ y ∈ xs, R x y) {x : α} (hx : x ∈ xs) :
    ∃ c ∈ xs, ReflTransGen R x c ∧ TransGen R c c := by
  by_contra hno
  push Not at hno
  -- what is reached is a finite set, and without a cycle some member of it leads nowhere
  let Reached := {y : α // y ∈ xs ∧ ReflTransGen R x y}
  have hfinite : Finite Reached :=
    ((List.finite_toSet xs).subset fun y hy => hy.1 : Set.Finite {y | y ∈ xs ∧ _}).to_subtype
  have htrans : IsTrans Reached fun y y' => TransGen R y'.1 y.1 :=
    ⟨fun _ _ _ h h' => h'.trans h⟩
  have hirrefl : Std.Irrefl fun y y' : Reached => TransGen R y'.1 y.1 :=
    ⟨fun y hy => hno y.1 y.2.1 y.2.2 hy⟩
  have hwf : WellFounded fun y y' : Reached => TransGen R y'.1 y.1 :=
    Finite.wellFounded_of_trans_of_irrefl _
  obtain ⟨y, -, hlast⟩ := hwf.has_min Set.univ ⟨⟨x, hx, .refl⟩, trivial⟩
  obtain ⟨y', hy', hstep⟩ := h y.1 y.2.1
  exact hlast ⟨y', hy', y.2.2.tail hstep⟩ trivial (.single hstep)

/-- **A cycle stays within** what holds of all that is reached from its start and leads back. -/
theorem cycle_within {P : α → Prop} {x : α}
    (h : ∀ y, ReflTransGen R x y → ReflTransGen R y x → P y) (hcycle : TransGen R x x) :
    TransGen (fun y z => R y z ∧ P y ∧ P z) x x := by
  suffices hreach : ∀ y, TransGen R x y → ReflTransGen R y x →
      TransGen (fun y z => R y z ∧ P y ∧ P z) x y from hreach x hcycle .refl
  intro y hy
  induction hy with
  | single hstep =>
    intro hback
    exact .single ⟨hstep, h x .refl .refl, h _ (.single hstep) hback⟩
  | tail hy hstep ih =>
    intro hback
    have hback' := hback.head hstep
    refine (ih hback').tail ⟨hstep, h _ hy.to_reflTransGen hback', ?_⟩
    exact h _ (hy.tail hstep).to_reflTransGen hback

end GraphWalk
