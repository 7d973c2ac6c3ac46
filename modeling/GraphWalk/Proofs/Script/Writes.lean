import GraphWalk.Proofs.Architype.Start
import GraphWalk.Proofs.Globals.Writes
import GraphWalk.Proofs.Script.Breakdown
import GraphWalk.Proofs.Value.Merged

/-!
# What a statement sees of the ones before it

Writes go to the fields of an instance and to the table of the global variables; what a statement
finds is made of both anew. `fieldWritten` and `Tabled.globalWritten` say what a write does to
them, `finds` what a statement reads of them.

`seen_by_next`: **a statement sees the writes before it**, and only those. It does not where two
fields have names that are composed alike (`unseen_twinned`).
-/

namespace GraphWalk

/-- The name under which a statement finds the fields of a target. -/
def Target.name : Target → String
  | .here => "here"
  | .visitor => "visitor"
  | .self => "self"

namespace Visit

variable {o : Occasion} {side : Side} {u v : Visit} {file : String} {st : Statement}

/-- What a statement reads for an attribute of one of its variables. -/
def reading (u : Visit) (o : Occasion) (side : Side) (root name : String) (line : Nat) : Outcome :=
  (Expr.reference root [.attr name line] line).eval (u.context o side)

/-- A traversal of one step is that step. -/
theorem applyAll_singleton {s : Step} {x y : Value} :
    Step.applyAll [s] x = .ok y ↔ s.apply x = .ok y := by
  simp only [Step.applyAll]
  rcases s.apply x with ⟨value, issue⟩
  cases issue with
  | none => exact Iff.rfl
  | some i => exact iff_of_false (fun h => by cases h) fun h => by cases h

theorem reading_fields {t : Target} {n : String} {line : Nat} {x : Value} :
    u.reading o side t.name n line = .ok x ↔
      (u.fieldsOf side t).object.attributeAt n line = .ok x := by
  cases t <;> exact applyAll_singleton

theorem reading_global {n : String} {line : Nat} {x : Value} :
    u.reading o side "global" n line = .ok x ↔
      (Value.ofAttrs (u.globalsSeen o.module)).attributeAt n line = .ok x :=
  applyAll_singleton

theorem ordered_globalsSeen (u : Visit) (module : String) : Ordered (u.globalsSeen module) := by
  unfold globalsSeen
  split
  · exact List.Pairwise.nil
  · exact ordered_sortKeys _

/-- What a statement finds in the visit `u`: its variables are made of `u`, and show what the fields
and the global variables hold just if no different values have names that are composed alike. -/
structure Finds (o : Occasion) (side : Side) (u : Visit) : Prop where
  found : u.run o side (Script.scope o) = (u, .ok (u.context o side))
  fields : ∀ t line, (∀ n x, (u.fieldsOf side t).get n = .ok x →
    u.reading o side t.name n line = .ok x) ↔ Unmixed (u.fieldsOf side t).toEntries
  globals : ∀ line, (∀ n x, lookupKey n (u.globalsSeen o.module) = some x →
    u.reading o side "global" n line = .ok x) ↔ Unmixed (u.globalsSeen o.module)

theorem finds (o : Occasion) (side : Side) (u : Visit) : Finds o side u := by
  refine ⟨run_scope, fun t line => ?_, fun line => ?_⟩
  · simp only [reading_fields, Fields.get_eq_ok]
    exact shown_iff_unmixed (ordered_sortKeys _)
  · simp only [reading_global]
    exact shown_iff_unmixed (ordered_globalsSeen u o.module)

/-- The fields of the targets that denote one instance change together. -/
theorem fieldsOf_withFields (t t' : Target) (f : Fields) :
    (v.withFields o side t f).fieldsOf side t' =
      if onWalker side t' = onWalker side t then f else v.fieldsOf side t' := by
  unfold withFields fieldsOf
  by_cases ht : onWalker side t = true <;> by_cases ht' : onWalker side t' = true <;>
    simp [ht, ht', withStore]

theorem globals_withFields (t : Target) (f : Fields) :
    (v.withFields o side t f).engine.globals = v.engine.globals := by
  unfold withFields
  split <;> rfl

variable {target : Target} {field name : String} {x : Value}

/-- `u` is `v` after `x` was written to a field of a target. -/
structure FieldWritten (side : Side) (target : Target) (field : String) (x : Value)
    (v u : Visit) : Prop where
  value : ∃ s w, (v.fieldsOf side target).slot? field = some s ∧
    x.convert s.field.type = .ok w ∧
    ∀ t n, (u.fieldsOf side t).get n =
      if onWalker side t = onWalker side target ∧ n = field then .ok w
      else (v.fieldsOf side t).get n
  globals : ∀ module, u.globalsSeen module = v.globalsSeen module

/-- `u` is `v` after a module wrote `x` to a global variable. -/
structure GlobalWritten (side : Side) (module name : String) (x : Value) (v u : Visit) :
    Prop where
  value : ∃ old w, lookupKey name (v.globalsSeen module) = some old ∧
    (if old.isNull || old.type == .dynamic then .ok x else x.convert old.type) = .ok w ∧
    ∀ n, lookupKey n (u.globalsSeen module) =
      if n = name then some w else lookupKey n (v.globalsSeen module)
  fields : ∀ t, u.fieldsOf side t = v.fieldsOf side t

theorem fieldWritten {g : Fields} (h : (v.fieldsOf side target).set field x = .ok g) :
    FieldWritten side target field x v (v.withFields o side target g) := by
  obtain ⟨s, w, hs, hw, -, hslot⟩ := Fields.slot?_set h
  refine ⟨⟨s, w, hs, hw, fun t n => ?_⟩, fun module => ?_⟩
  · rw [fieldsOf_withFields]
    -- targets that denote the same instance share its fields; all others keep theirs
    by_cases ht : onWalker side t = onWalker side target
    · have hsame : v.fieldsOf side t = v.fieldsOf side target := by
        unfold fieldsOf
        rw [ht]
      rw [if_pos ht, hsame]
      unfold Fields.get
      rw [hslot]
      by_cases hn : field = n
      · rw [if_pos hn, if_pos ⟨ht, hn.symm⟩]
      · rw [if_neg hn, if_neg fun h => hn h.2.symm]
    · rw [if_neg ht, if_neg fun h => ht h.1]
  · unfold globalsSeen
    rw [globals_withFields]

/-- The table of the global variables, if there is one, came about by calls. -/
def Tabled (v : Visit) : Prop :=
  ∀ t, v.engine.globals = some t → ∃ calls, t = GlobalTable.empty.performs calls

theorem Tabled.globalWritten {t t' : GlobalTable} {module : String} (hv : v.Tabled)
    (ht : v.engine.globals = some t) (h : t.set module name x = .ok t') :
    GlobalWritten side module name x v
      { v with engine := { v.engine with globals := some t' } } := by
  -- in a table that came about by calls a name stands for one variable of a module
  obtain ⟨calls, rfl⟩ := hv t ht
  have hseen : ∀ module, v.globalsSeen module =
      (GlobalTable.empty.performs calls).visible module := by
    intro module
    unfold globalsSeen
    rw [ht]
  refine ⟨?_, fun _ => rfl⟩
  obtain ⟨old, w, hold, hw, hlookup⟩ := (GlobalTable.distinct_performs calls).lookupKey_set h
  rw [hseen]
  exact ⟨old, w, hold, hw, hlookup⟩

/-- No answer to a request makes a table that did not come about by calls. -/
theorem Tabled.answer (o : Occasion) (side : Side) (hv : v.Tabled) (r : Request) :
    (v.answer o side r).1.Tabled := by
  -- creation has nothing to do with the table
  have hcreated : ∀ key create, (v.createdBy key create).1.Tabled := by
    intro key create
    unfold createdBy
    split
    · exact hv
    · split <;> exact hv
  cases r with
  | setField t name value =>
    simp only [Visit.answer]
    split
    · intro t ht
      rw [globals_withFields] at ht
      exact hv t ht
    · exact hv
  | visit first targets =>
    simp only [Visit.answer]
    split <;> exact hv
  | createNode arch init => exact hcreated _ _
  | connect arch source target init => exact hcreated _ _
  | delete h =>
    simp only [Visit.answer]
    split <;> exact hv
  | global name =>
    simp only [Visit.answer]
    split <;> exact hv
  | setGlobal name value =>
    simp only [Visit.answer]
    split
    · exact hv
    · rename_i t ht
      split
      · rename_i t' hset
        obtain ⟨calls, rfl⟩ := hv t ht
        rintro t'' heq
        cases heq
        -- the write is one call more
        refine ⟨calls ++ [.set o.module name value], ?_⟩
        rw [GlobalTable.performs_concat]
        simp only [GlobalTable.perform, hset]
      · exact hv
  | _ => exact hv

theorem Tabled.run {α : Type} (o : Occasion) (side : Side) (p : Program α) :
    ∀ {v : Visit}, v.Tabled → (v.run o side p).1.Tabled := by
  induction p with
  | ask r next ih => exact fun hv => ih _ (hv.answer o side r)
  | _ => exact fun hv => hv

end Visit

namespace Script

variable {file : String} {o : Occasion} {side : Side} {s : Scope} {u v : Visit} {st : Statement}

/-- **A write to a field** fails before anything is changed, or replaces the fields. -/
theorem run_set {target : Target} {field : String} {e : Expr} :
    v.run o side (perform file o s (.set target field e)) = match value file s e with
      | .error f => (v, .error f)
      | .ok x => match (v.fieldsOf side target).set field x with
        | .ok g => (v.withFields o side target g, .ok true)
        | .error err => (v, .error (.field err)) := by
  unfold perform
  rw [Visit.run_bind, Visit.run_ofExcept]
  cases value file s e with
  | error f => rfl
  | ok x =>
    dsimp only
    rw [Visit.run_bind, Visit.run_setField]
    simp only [Visit.answer]
    cases (v.fieldsOf side target).set field x <;> rfl

/-- **A write to a global variable** fails before anything is changed, or replaces the table. -/
theorem run_setGlobal {name : String} {e : Expr} :
    v.run o side (perform file o s (.setGlobal name e)) = match value file s e with
      | .error f => (v, .error f)
      | .ok x => match v.engine.globals with
        | none => (v, .error .noGlobals)
        | some t => match t.set o.module name x with
          | .ok t' => ({ v with engine := { v.engine with globals := some t' } }, .ok true)
          | .error err => (v, .error (.global err)) := by
  unfold perform
  rw [Visit.run_bind, Visit.run_ofExcept]
  cases value file s e with
  | error f => rfl
  | ok x =>
    dsimp only
    rw [Visit.run_bind, Visit.run_setGlobal]
    simp only [Visit.answer]
    cases v.engine.globals with
    | none => rfl
    | some t =>
      dsimp only
      cases t.set o.module name x <;> rfl

/-- The statements before leave a table that came about by calls. -/
theorem tabled_passes (sts : List Statement) : ∀ {v : Visit}, v.Tabled →
    Passes file o side sts v u → u.Tabled := by
  induction sts with
  | nil => rintro v hv rfl; exact hv
  | cons st sts ih =>
    rintro v hv ⟨v', hst, hpasses⟩
    refine ih ?_ hpasses
    have hrun := hv.run o side (step file o st)
    rwa [hst] at hrun

/-- What becomes of a script at its next statement `st`, in the visit `u`: the statement fails,
has changed nothing, and no later statement runs, or the script goes on from another visit. -/
def Settles (file : String) (o : Occasion) (side : Side) (before : List Statement) (v u : Visit)
    (st : Statement) (fails : Fault → Prop) (goes : Visit → Prop) : Prop :=
  (∃ f, fails f ∧ ∀ after, v.run o side (runAll file o (before ++ st :: after)) =
    (u, .error (.within (st.span.text file) f))) ∨
  ∃ u', goes u' ∧ ∀ after, v.run o side (runAll file o (before ++ st :: after)) =
    u'.run o side (runAll file o after)

/-- What a script does at its next statement is what the statement does there, with the position put
on its fault. -/
theorem settles {before : List Statement} {fails : Fault → Prop} {goes : Visit → Prop}
    (hpasses : Passes file o side before v u)
    (hguard : truth file (u.context o side) st.guard true = .ok true)
    (hcalm : st.deed.selection? = none)
    (hperform : (∃ f, fails f ∧
        u.run o side (perform file o (u.context o side) st.deed) = (u, .error f)) ∨
      ∃ u', goes u' ∧
        u.run o side (perform file o (u.context o side) st.deed) = (u', .ok true)) :
    Settles file o side before v u st fails goes := by
  have hstep : u.run o side (step file o st) =
      ((u.run o side (perform file o (u.context o side) st.deed)).1,
        (u.run o side (perform file o (u.context o side) st.deed)).2.mapError
          (.within (st.span.text file))) := by
    rw [run_step, hguard]
    refine Visit.run_within_of_calm fun hp => ?_
    -- only statements that select neighbours break down
    obtain ⟨sel, hsel, -⟩ := (panics_perform _).1 hp
    rw [hcalm] at hsel
    cases hsel
  refine hperform.imp ?_ ?_
  · rintro ⟨f, hf, hrun⟩
    refine ⟨f, hf, fun after => ?_⟩
    rw [run_passes before hpasses, runAll_cons, Visit.run_bind, hstep, hrun]
    rfl
  · rintro ⟨u', hu', hrun⟩
    refine ⟨u', hu', fun after => ?_⟩
    rw [run_passes before hpasses, runAll_cons, Visit.run_bind, hstep, hrun]
    rfl

/-- Why a write to a field fails: there is no value, or the field refuses it. -/
def FieldRefused (file : String) (s : Scope) (side : Side) (target : Target) (field : String)
    (e : Expr) (u : Visit) (f : Fault) : Prop :=
  value file s e = .error f ∨ ∃ x err, value file s e = .ok x ∧
    (u.fieldsOf side target).set field x = .error err ∧ f = .field err

/-- Why a write to a global variable fails. -/
def GlobalRefused (file : String) (s : Scope) (module name : String) (e : Expr) (u : Visit)
    (f : Fault) : Prop :=
  value file s e = .error f ∨ ∃ x, value file s e = .ok x ∧
    (u.engine.globals = none ∧ f = .noGlobals ∨ ∃ t err, u.engine.globals = some t ∧
      t.set module name x = .error err ∧ f = .global err)

/-- **A statement sees the writes before it.** A write that fails has changed nothing, and no later
statement runs. After one that succeeds the next statement finds the new value under the name that
was written and what was there before under all others (`Visit.FieldWritten`,
`Visit.GlobalWritten`); it reads them as they are, unless different values stand under names that
are composed alike (`Visit.Finds`). -/
theorem seen_by_next {before : List Statement} (hv : v.Tabled)
    (hpasses : Passes file o side before v u)
    (hguard : truth file (u.context o side) st.guard true = .ok true) :
    (∀ target field e, st.deed = .set target field e →
      Settles file o side before v u st
        (FieldRefused file (u.context o side) side target field e u)
        fun u' => ∃ x, value file (u.context o side) e = .ok x ∧
          Visit.FieldWritten side target field x u u') ∧
    (∀ name e, st.deed = .setGlobal name e →
      Settles file o side before v u st
        (GlobalRefused file (u.context o side) o.module name e u)
        fun u' => ∃ x, value file (u.context o side) e = .ok x ∧
          Visit.GlobalWritten side o.module name x u u') ∧
    ∀ u', Visit.Finds o side u' := by
  refine ⟨fun target field e hdeed => ?_, fun name e hdeed => ?_, Visit.finds o side⟩
  · refine settles hpasses hguard (by rw [hdeed]; rfl) ?_
    rw [hdeed, run_set]
    cases hx : value file (u.context o side) e with
    | error f => exact Or.inl ⟨f, Or.inl hx, rfl⟩
    | ok x =>
      dsimp only
      cases hset : (u.fieldsOf side target).set field x with
      | error err => exact Or.inl ⟨_, Or.inr ⟨x, err, hx, hset, rfl⟩, rfl⟩
      | ok g => exact Or.inr ⟨_, ⟨x, rfl, Visit.fieldWritten hset⟩, rfl⟩
  · refine settles hpasses hguard (by rw [hdeed]; rfl) ?_
    rw [hdeed, run_setGlobal]
    cases hx : value file (u.context o side) e with
    | error f => exact Or.inl ⟨f, Or.inl hx, rfl⟩
    | ok x =>
      dsimp only
      cases hglobals : u.engine.globals with
      | none => exact Or.inl ⟨_, Or.inr ⟨x, hx, Or.inl ⟨hglobals, rfl⟩⟩, rfl⟩
      | some t =>
        dsimp only
        cases hset : t.set o.module name x with
        | error err =>
          exact Or.inl ⟨_, Or.inr ⟨x, hx, Or.inr ⟨t, err, hglobals, hset, rfl⟩⟩, rfl⟩
        | ok t' =>
          have hu := tabled_passes before hv hpasses
          exact Or.inr ⟨_, ⟨x, rfl, hu.globalWritten hglobals hset⟩, rfl⟩

/-- A walker with two fields whose names are composed alike. -/
def twinned : Visit :=
  ⟨default, { (default : Walker) with
    fields := ⟨[⟨⟨"K", .bool, none⟩, .bool false⟩,
      ⟨⟨"\u212a", .bool, none⟩, .bool false⟩]⟩ }, .empty⟩

/-- Writes to the first of them. -/
def ticked : Statement := ⟨default, none, .set .visitor "K" (.literal (.bool true) 1)⟩

theorem seen_by_next_twinned :
    twinned.Tabled ∧ Passes "w.hcl" default .walker [] twinned twinned ∧
    truth "w.hcl" (twinned.context default .walker) ticked.guard true = .ok true ∧
    Settles "w.hcl" default .walker [] twinned twinned ticked
      (FieldRefused "w.hcl" (twinned.context default .walker) .walker .visitor "K"
        (.literal (.bool true) 1) twinned)
      fun u => ∃ x, value "w.hcl" (twinned.context default .walker) (.literal (.bool true) 1) =
        .ok x ∧ Visit.FieldWritten .walker .visitor "K" x twinned u := by
  have hv : twinned.Tabled := nofun
  have hpasses : Passes "w.hcl" default .walker [] twinned twinned := rfl
  exact ⟨hv, hpasses, rfl, (seen_by_next hv hpasses rfl).1 _ _ _ rfl⟩

/-- **A write may stay unseen**: what is read is the value of a field of which the name is composed
alike. -/
theorem unseen_twinned :
    ¬∀ (file : String) (o : Occasion) (side : Side) (v u : Visit) (st : Statement)
      (target : Target) (field : String) (e : Expr) (x w : Value) (s : FieldSlot) (line : Nat),
      v.Tabled → st.guard = none → st.deed = .set target field e →
      value file (v.context o side) e = .ok x →
      (v.fieldsOf side target).slot? field = some s → x.convert s.field.type = .ok w →
      v.run o side (step file o st) = (u, .ok true) →
      u.reading o side target.name field line = .ok w := by
  intro hseen
  have hread := hseen "w.hcl" default .walker twinned
    (twinned.run default .walker (step "w.hcl" default ticked)).1 ticked .visitor "K"
    (.literal (.bool true) 1) (.bool true) (.bool true) ⟨⟨"K", .bool, none⟩, .bool false⟩ 1
    nofun rfl rfl rfl rfl rfl rfl
  -- the other name comes later among the entries, and stands for both
  have hentries : ((twinned.run default .walker (step "w.hcl" default ticked)).1.fieldsOf .walker
      .visitor).toEntries = [("K", .bool true), ("\u212a", .bool false)] := rfl
  rw [Visit.reading_fields, Fields.object, hentries, attributeAt_ofAttrs, List.map_cons,
    List.map_singleton, Text.canonical_kelvin, List.reverse_cons, List.reverse_singleton,
    List.singleton_append, lookupKey_cons, if_pos rfl] at hread
  cases hread

end Script

end GraphWalk
