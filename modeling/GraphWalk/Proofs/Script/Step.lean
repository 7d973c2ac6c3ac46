import GraphWalk.Script.Run
import GraphWalk.Walker.Step

/-!
# Scripts, statement by statement

`run_bind` and `run_within` say what a program that is run leaves by what its parts leave.

`Script.step` runs one statement and says whether the script goes on: `runAll_cons` takes a
script apart into its statements. What a statement does is settled by the variables it finds
(`Visit.context`, `run_step`).
-/

namespace GraphWalk

namespace Program

variable {α β γ : Type}

/-- It does not matter how programs are grouped. -/
theorem bind_assoc (p : Program α) (f : α → Program β) (g : β → Program γ) :
    p >>= f >>= g = p >>= fun a => f a >>= g := by
  induction p with
  | ask r next ih => exact congrArg (ask r) (funext fun answer => ih answer)
  | _ => rfl

theorem done_bind (a : α) (k : α → Program β) : (done a : Program α) >>= k = k a := rfl

end Program

namespace Visit

variable {α β : Type} {o : Occasion} {side : Side} {v u : Visit} {f : Fault}

/-- **One program after the other.** -/
theorem run_bind (p : Program α) (k : α → Program β) : ∀ v : Visit,
    v.run o side (p >>= k) = match v.run o side p with
      | (u, .ok a) => u.run o side (k a)
      | (u, .error f) => (u, .error f) := by
  induction p with
  | ask r next ih => exact fun v => ih _ _
  | _ => exact fun v => rfl

/-- **A label** is put on the fault of a program, unless that is a breakdown. -/
theorem run_within (label : String) (p : Program α) : ∀ v : Visit,
    v.run o side (p.within label) =
        ((v.run o side p).1, (v.run o side p).2.mapError (.within label)) ∨
      (∃ m, (v.run o side p).2 = .error (.panicked m)) ∧
        v.run o side (p.within label) = v.run o side p := by
  induction p with
  | ask r next ih => exact fun v => ih _ _
  | crash m => exact fun v => Or.inr ⟨⟨m, rfl⟩, rfl⟩
  | _ => exact fun v => Or.inl rfl

theorem run_ofExcept (r : Except Fault α) : v.run o side (.ofExcept r) = (v, r) := by
  cases r <;> rfl

/-- The result of a labelled evaluation. -/
theorem run_ofExcept_within (label : String) (r : Except Fault α) :
    v.run o side ((Program.ofExcept r).within label) = (v, r.mapError (.within label)) := by
  cases r <;> rfl

/-! A request that is answered with a result. -/

section Requests

variable (arch : String) (init : List (String × Value))

theorem run_setField (t : Target) (n : String) (x : Value) :
    v.run o side (Program.setField t n x) = v.answer o side (.setField t n x) := run_ofExcept _

theorem run_setGlobal (n : String) (x : Value) :
    v.run o side (Program.setGlobal n x) = v.answer o side (.setGlobal n x) := run_ofExcept _

theorem run_hops (f : HopFilter) :
    v.run o side (Program.hops f) = v.answer o side (.hops f) := run_ofExcept _

theorem run_visit (first : Bool) (targets : List Handle) :
    v.run o side (Program.visit first targets) = v.answer o side (.visit first targets) :=
  run_ofExcept _

theorem run_createNode :
    v.run o side (Program.createNode arch init) = v.answer o side (.createNode arch init) :=
  run_ofExcept _

theorem run_connect (source target : Handle) :
    v.run o side (Program.connect arch source target init) =
      v.answer o side (.connect arch source target init) := run_ofExcept _

theorem run_delete (h : Handle) :
    v.run o side (Program.delete h) = v.answer o side (.delete h) := run_ofExcept _

end Requests

/-- The global variables that the module of a body sees. -/
def globalsSeen (v : Visit) (module : String) : List (String × Value) :=
  match v.engine.globals with
  | none => []
  | some t => t.visible module

/-- The variables that a statement finds. -/
def context (v : Visit) (o : Occasion) (side : Side) : Scope :=
  .ofNames
    [("here", (v.fieldsOf side .here).object), ("visitor", (v.fieldsOf side .visitor).object),
      ("self", (v.fieldsOf side .self).object), ("global", .ofAttrs (v.globalsSeen o.module)),
      ("args", o.args), ("event", .text o.event.text), ("ability", .text o.path.text),
      ("position", .ofAttrs
        [("id", .text o.position.text), ("arch", .text o.here.name),
          ("kind", .text (if o.position.isEdge then "edge" else "node"))])]

/-- Looking at the variables changes nothing. -/
theorem run_scope : v.run o side (Script.scope o) = (v, .ok (v.context o side)) := rfl

/-- The fault of an invocation is that of the body, with the ability it belongs to. -/
theorem invoke_eq_some {here : ArchKey} {event : Event} {inv : Invocation} {body : Body} :
    (v.invoke here event inv body).2 = some f ↔ ∃ g,
      ((v.observed v.walker.position (.ability inv.ability.path event inv.side)).run
        (v.occasion here event inv) inv.side (body.run (v.occasion here event inv))).2 = .error g ∧
      .ability inv.ability.path event v.walker.position g = f := by
  unfold invoke
  simp only [occasion]
  split <;> simp_all

end Visit

namespace Script

variable {file : String} {o : Occasion} {side : Side} {v u : Visit} {st : Statement}
  {rest : List Statement}

/-- Runs one statement; the answer says whether the script goes on. -/
def step (file : String) (o : Occasion) (st : Statement) : Program Bool := do
  let s ← scope o
  let pos := st.span.text file
  if ← (Program.ofExcept (truth file s st.guard true)).within (pos ++ ": when") then
    (perform file o s st.deed).within pos
  else return true

/-- **A script** is its first statement and then the others, if it goes on. -/
theorem runAll_cons : runAll file o (st :: rest) =
    step file o st >>= fun go => if go then runAll file o rest else .done () := by
  unfold step
  rw [Program.bind_assoc]
  -- under the same variables, the guard decides: what is not executed is passed over
  refine congrArg (scope o >>= ·) (funext fun s => ?_)
  simp only [Program.bind_assoc]
  refine congrArg (Program.bind _) (funext fun guard => ?_)
  cases guard <;> rfl

/-- **What a statement does** is settled by the variables it finds. -/
theorem run_step : v.run o side (step file o st) =
    match truth file (v.context o side) st.guard true with
    | .ok true =>
      v.run o side ((perform file o (v.context o side) st.deed).within (st.span.text file))
    | .ok false => (v, .ok true)
    | .error f => (v, .error (.within (st.span.text file ++ ": when") f)) := by
  unfold step
  -- looking at the variables changes nothing, so the guard is evaluated in the visit itself
  rw [Visit.run_bind, Visit.run_scope]
  simp only [Visit.run_bind, Visit.run_ofExcept_within]
  cases truth file (v.context o side) st.guard true with
  | error f => rfl
  | ok guard => cases guard <;> rfl

end Script

end GraphWalk
