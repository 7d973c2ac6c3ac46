import GraphWalk.Proofs.Module.Imports
import GraphWalk.Proofs.Text.Bytes

/-!
# The order of modules is canonical

Each round of ordering looks at the modules that are left in whatever order it meets them, and
takes the first that is ready by name, or the first of all. What it meets first makes no
difference, so all runs of rounds end with the same order (`rounds_iff`). Where imports form no
cycle, some module is always ready; every order in which imports come first begins with a ready
module, and the round takes the one with the smallest name (`orderFrom_least`).

Main result: `canonical_of_order`. **The order of a set of modules** holds each of them once,
depends on nothing but the set, and is the smallest of those in which imports come first.
-/

namespace GraphWalk

open Relation

namespace ImportGraph

variable {g g' : ImportGraph} {left left' ms : List Module} {m x : Module} {out : List String}

/-! ## Rounds -/

/-- The rounds that are left once `out` is out, and what they put out. A round goes through the
modules that are left twice, in any order: for those that are ready, and for all. -/
inductive Rounds (g : ImportGraph) : List String → List Module → List Module → Prop where
  | done {out : List String} : Rounds g out [] []
  | round {out : List String} {left seen seen' ms : List Module} {m : Module} :
    left.Perm seen → left.Perm seen' →
    (first? (seen.filter fun x => (g.depsOf x).all out.contains)).or (first? seen') = some m →
    Rounds g (m.name :: out) (left.filter (·.name != m.name)) ms → Rounds g out left (m :: ms)

/-- A round takes the next module, in whatever order it meets those that are left. -/
theorem round_eq {seen seen' : List Module} (hnd : (left.map Module.name).Nodup)
    (hseen : left.Perm seen) (hseen' : left.Perm seen') :
    (first? (seen.filter fun x => (g.depsOf x).all out.contains)).or (first? seen') =
      g.next? out left := by
  have hready : ((left.filter fun x => (g.depsOf x).all out.contains).map Module.name).Nodup :=
    hnd.sublist (List.filter_sublist.map _)
  rw [next?_eq, first?_eq_of_perm (hseen.filter _) hready, first?_eq_of_perm hseen' hnd]

/-- **Rounds end**, and put out the modules that are left in one order only. -/
theorem rounds_iff (n : Nat) : ∀ {out : List String} {left ms : List Module}, left.length ≤ n →
    (left.map Module.name).Nodup → (g.Rounds out left ms ↔ ms = g.orderFrom n out left) := by
  induction n with
  | zero =>
    intro out left ms hn hnd
    obtain rfl : left = [] := List.length_eq_zero_iff.1 (by omega)
    refine ⟨fun h => ?_, fun h => h ▸ .done⟩
    cases h with
    | done => rfl
    | round hseen hseen' hm _ =>
      rw [round_eq hnd hseen hseen'] at hm
      exact absurd (next?_mem hm) List.not_mem_nil
  | succ n ih =>
    intro out left ms hn hnd
    unfold orderFrom
    cases hnext : g.next? out left with
    | none =>
      obtain rfl := next?_eq_none hnext
      refine ⟨fun h => ?_, fun h => h ▸ .done⟩
      cases h with
      | done => rfl
      | round hseen hseen' hm _ =>
        rw [round_eq hnd hseen hseen', hnext] at hm
        cases hm
    | some m =>
      have hlen := (perm_of_mem hnd (next?_mem hnext)).length_eq
      rw [List.length_cons] at hlen
      have hnd' : ((left.filter (·.name != m.name)).map Module.name).Nodup :=
        hnd.sublist (List.filter_sublist.map _)
      have hrest : ∀ ms, g.Rounds (m.name :: out) (left.filter (·.name != m.name)) ms ↔
          ms = g.orderFrom n (m.name :: out) (left.filter (·.name != m.name)) :=
        fun ms => ih (by omega) hnd'
      constructor
      · intro h
        cases h with
        | done => exact absurd (next?_mem hnext) List.not_mem_nil
        | round hseen hseen' hm hms =>
          rw [round_eq hnd hseen hseen', hnext] at hm
          cases hm
          rw [(hrest _).1 hms]
      · rintro rfl
        refine .round (List.Perm.refl left) (List.Perm.refl left) ?_ ((hrest _).2 rfl)
        rw [round_eq hnd (List.Perm.refl left) (List.Perm.refl left), hnext]

/-! ## The smallest order -/

/-- Every import comes before its importer, or is among `out`. -/
def ImportsFirst (g : ImportGraph) (out : List String) (ms : List Module) : Prop :=
  ∀ pre m post, ms = pre ++ m :: post → ∀ d ∈ g.depsOf m, d ∈ out ∨ d ∈ pre.map Module.name

theorem importsFirst_nil : g.ImportsFirst out [] := by
  intro pre m post h
  cases pre <;> cases h

/-- The first module is ready, and the others come first once it is out. -/
theorem importsFirst_cons : g.ImportsFirst out (m :: ms) ↔
    (∀ d ∈ g.depsOf m, d ∈ out) ∧ g.ImportsFirst (m.name :: out) ms := by
  constructor
  · intro h
    refine ⟨fun d hd => ?_, ?_⟩
    · exact (h [] m ms rfl d hd).resolve_right List.not_mem_nil
    · rintro pre x post rfl d hd
      have hmem := h (m :: pre) x post rfl d hd
      rw [List.map_cons, List.mem_cons] at hmem
      rw [List.mem_cons]
      tauto
  · rintro ⟨hready, h⟩ pre x post heq d hd
    cases pre with
    | nil =>
      cases heq
      exact Or.inl (hready d hd)
    | cons m' pre =>
      cases heq
      have hmem := h pre x post rfl d hd
      rw [List.mem_cons] at hmem
      rw [List.map_cons, List.mem_cons]
      tauto

/-- The bytes of the name of a module. -/
def nameBytes (m : Module) : List UInt8 := Text.bytes m.name.toList

/-- **No order in which imports come first is smaller**, compared name by name. -/
theorem orderFrom_least (n : Nat) : ∀ {out : List String} {left ms : List Module},
    left.length ≤ n → (left.map Module.name).Nodup → ms.Perm left → g.ImportsFirst out ms →
    (g.orderFrom n out left).map nameBytes ≤ ms.map nameBytes := by
  induction n with
  | zero => exact fun _ _ _ _ => List.nil_le _
  | succ n ih =>
    intro out left ms hn hnd hperm h
    unfold orderFrom
    cases hnext : g.next? out left with
    | none => exact List.nil_le _
    | some m =>
      obtain ⟨hm, hwaits, hmin⟩ := next?_spec hnd hnext
      cases ms with
      | nil => exact absurd (hperm.mem_iff.2 hm) List.not_mem_nil
      | cons x xs =>
        -- the other order begins with a ready module, so the round has taken a ready one
        have hx : x ∈ left := hperm.mem_iff.1 List.mem_cons_self
        obtain ⟨hready, hrest⟩ := importsFirst_cons.1 h
        have hgo : ¬g.Waits out x := by
          rintro ⟨d, hd, hout⟩
          exact hout (hready d hd)
        have hle := hmin x hx fun hwait => absurd hwait hgo
        rw [List.map_cons, List.map_cons, List.cons_le_cons_iff]
        by_cases hlt : m.name < x.name
        · exact Or.inl (Text.bytes_lt_iff.2 hlt)
        · have hname : m.name = x.name := String.le_antisymm hle hlt
          obtain rfl := List.inj_on_of_nodup_map hnd hm hx hname
          have hout := perm_of_mem hnd hm
          have hlen := hout.length_eq
          rw [List.length_cons] at hlen
          have hnd' : ((left.filter (·.name != m.name)).map Module.name).Nodup :=
            hnd.sublist (List.filter_sublist.map _)
          refine Or.inr ⟨rfl, ih (by omega) hnd' ?_ hrest⟩
          exact (hperm.trans hout.symm).cons_inv

/-- Where imports form no cycle, they come first. -/
theorem importsFirst_order (hnd : (g.modules.map Module.name).Nodup)
    (hno : ∀ n, ¬TransGen g.Imports n n) : g.ImportsFirst [] g.order := by
  intro pre m post h d hd
  exact Or.inr ((early_of_order hnd h).2.2 (fun c _ => hno c) d hd)

/-- **The order of modules is canonical.** Rounds end with every module put out once, and always
in the same order, however the modules are listed and whichever a round meets first. If imports
form no cycle, imports come first in it, and it is the smallest of all orders of the modules in
which they do, compared name by name and byte by byte. -/
theorem canonical_of_order (hnd : (g.modules.map Module.name).Nodup) :
    g.order.Perm g.modules ∧
      (∀ g' : ImportGraph, g.modules.Perm g'.modules →
        g'.order = g.order ∧ ∀ ms, g'.Rounds [] g'.modules ms ↔ ms = g.order) ∧
      ((∀ n, ¬TransGen g.Imports n n) → g.ImportsFirst [] g.order ∧
        ∀ ms, ms.Perm g.modules → g.ImportsFirst [] ms →
          g.order.map nameBytes ≤ ms.map nameBytes) := by
  refine ⟨order_perm hnd, fun g' hp => ?_, fun hno => ⟨importsFirst_order hnd hno, ?_⟩⟩
  · have horder := order_eq_of_perm hp hnd
    refine ⟨horder.symm, fun ms => ?_⟩
    rw [horder]
    exact rounds_iff g'.modules.length (Nat.le_refl _) ((hp.map _).nodup_iff.1 hnd)
  · exact fun ms hp h => orderFrom_least g.modules.length (Nat.le_refl _) hnd hp h

/-- A program with its libraries, each before what it imports, and a tool on its own. -/
def workshop : ImportGraph :=
  ⟨[importer "app" ["lib", "zip"], importer "lib" ["zip"], importer "cli" [],
    importer "zip" ["zip"]]⟩

theorem canonical_workshop :
    (workshop.modules.map Module.name).Nodup ∧ (∀ n, ¬TransGen workshop.Imports n n) ∧
      workshop.order.map Module.name = ["cli", "zip", "lib", "app"] ∧
      (⟨workshop.modules.reverse⟩ : ImportGraph).Rounds [] workshop.modules.reverse
        workshop.order ∧
      workshop.ImportsFirst [] workshop.order ∧
      workshop.ImportsFirst [] workshop.modules.reverse ∧
      workshop.order.map nameBytes ≤ workshop.modules.reverse.map nameBytes := by
  have hnd : (workshop.modules.map Module.name).Nodup := by decide
  -- here imports have greater names than their importers
  have hup : ∀ m ∈ workshop.modules, ∀ d ∈ workshop.depsOf m, m.name < d := by decide
  have hlt : ∀ {n n'}, TransGen workshop.Imports n n' → n < n' := fun h => by
    induction h with
    | single hstep =>
      obtain ⟨m, hm, rfl, hd⟩ := hstep
      exact hup m hm _ hd
    | tail _ hstep ih =>
      obtain ⟨m, hm, rfl, hd⟩ := hstep
      exact String.lt_trans ih (hup m hm _ hd)
  have hno : ∀ n, ¬TransGen workshop.Imports n n := fun n h => String.lt_irrefl n (hlt h)
  have hp : workshop.modules.reverse.Perm workshop.modules := List.reverse_perm _
  have hlate : workshop.ImportsFirst [] workshop.modules.reverse := by
    repeat' refine importsFirst_cons.2 ⟨by decide, ?_⟩
    exact importsFirst_nil
  obtain ⟨-, hsame, hleast⟩ := canonical_of_order hnd
  obtain ⟨hfirst, hmin⟩ := hleast hno
  have hrounds := ((hsame ⟨workshop.modules.reverse⟩ hp.symm).2 workshop.order).2 rfl
  exact ⟨hnd, hno, by rfl, hrounds, hfirst, hlate, hmin _ hp hlate⟩

end ImportGraph

end GraphWalk
