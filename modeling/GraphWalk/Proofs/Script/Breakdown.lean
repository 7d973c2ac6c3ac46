import GraphWalk.Proofs.Script.Step
import GraphWalk.Proofs.Value.Conversion

/-!
# What breaks a script

A breakdown leaves a mark in the fault of a program: `Fault.Calm` faults have none, and a program
`Panics` where its fault has one. Evaluation (`Calmly`) and all that a statement asks for
(`Program.Calm`) fail by calm faults only. A null among names has no text to look for, and breaks
the script that reads it.

* `names_cases`: reading names asks nothing, and breaks down just at a list with an item that is
  no text (`Nameless`).
* `panics_perform`, `panics_runAll`: a statement breaks down where it selects neighbours by such
  names, and a script where it comes to such a statement.
* `panics_by_names`: **a script that is invoked fails by faults**, but for that one way to break
  down.
-/

namespace GraphWalk

namespace Fault

variable {f : Fault} {k : FaultKind}

/-- A fault has just the kinds that are found in it. -/
theorem mem_kinds : k ∈ f.kinds ↔ k ∈ f.kindsIn := by
  unfold kinds
  rw [List.mem_filter, List.contains_iff_mem, and_iff_right_iff_imp]
  intro
  cases k <;> decide

/-- A fault that no breakdown is a cause of. -/
def Calm (f : Fault) : Prop := FaultKind.abilityPanic ∉ f.kindsIn

theorem calm_text (m : String) : (text m).Calm := List.not_mem_nil

theorem calm_gaveUp (m : Option String) : (gaveUp m).Calm := by simp [Calm, kindsIn]

theorem Calm.within (h : f.Calm) (label : String) : (within label f).Calm := h

theorem calm_fieldKind (e : FieldError) : FaultKind.abilityPanic ∉ fieldKind e := by
  cases e <;> simp [fieldKind]

theorem calm_storeKind (e : StoreError) : FaultKind.abilityPanic ∉ storeKind e := by
  cases e with
  | badFields key why => exact calm_fieldKind why
  | _ => simp [storeKind]

theorem calm_globalKind (e : GlobalError) : FaultKind.abilityPanic ∉ globalKind e := by
  cases e <;> simp [globalKind]

/-- Of the errors of the registry, none is of the kind of a breakdown. -/
theorem calm_registryKind (e : RegistryError) : FaultKind.abilityPanic ∉ registryKind e := by
  cases e with
  | issue cause => cases cause <;> simp [registryKind]
  | _ => simp [registryKind]

end Fault

section Calmly

variable {α β : Type}

/-- An evaluation whose faults are calm. -/
def Calmly (r : Except Fault α) : Prop := ∀ f, r = .error f → f.Calm

theorem calmly_ok (a : α) : Calmly (.ok a) := nofun

theorem calmly_error {f : Fault} (h : f.Calm) : Calmly (.error f : Except Fault α) :=
  fun _ hf => Except.error.inj hf ▸ h

theorem Calmly.bind {r : Except Fault α} {k : α → Except Fault β} (h : Calmly r)
    (hk : ∀ a, Calmly (k a)) : Calmly (r >>= k) := by
  cases r with
  | ok a => exact hk a
  | error f => exact calmly_error (h f rfl)

theorem calmly_mapError {ε : Type} {r : Except ε α} {g : ε → Fault} (h : ∀ e, (g e).Calm) :
    Calmly (r.mapError g) := by
  cases r with
  | ok a => exact calmly_ok _
  | error e => exact calmly_error (h e)

end Calmly

namespace Script

variable {file : String} {s : Scope}

/-- An expression without a value has a text as its fault. -/
theorem calmly_value (e : Expr) : Calmly (value file s e) := by
  unfold value
  dsimp only
  split
  · exact calmly_error (Fault.calm_text _)
  · split
    · exact calmly_ok _
    · exact calmly_error (Fault.calm_text _)

theorem calmly_asType (v : Value) (ty : Ty) (wanted : String) : Calmly (asType v ty wanted) :=
  calmly_mapError fun _ => (Fault.calm_text _).within _

theorem calmly_truth (e : Option Expr) (fallback : Bool) : Calmly (truth file s e fallback) := by
  cases e with
  | none => exact calmly_ok _
  | some e =>
    refine (calmly_value e).bind fun v => ?_
    split
    · exact calmly_ok _
    · exact (calmly_asType v _ _).bind fun _ => calmly_ok _

theorem calmly_text (e : Expr) : Calmly (text file s e) := by
  refine (calmly_value e).bind fun v => ?_
  split
  · exact calmly_ok _
  · refine (calmly_asType v _ _).bind fun w => ?_
    split <;> exact calmly_ok _

theorem calmly_entries (e : Option Expr) : Calmly (entries file s e) := by
  cases e with
  | none => exact calmly_ok _
  | some e =>
    refine (calmly_value e).bind fun v => ?_
    split
    · exact calmly_ok _
    · exact calmly_ok _
    · exact calmly_ok _
    · exact calmly_error (Fault.calm_text _)

end Script

namespace Visit

variable {α β : Type} {o : Occasion} {side : Side} {v u : Visit} {f : Fault}

/-- A program that is run breaks down: a breakdown is a cause of its fault. -/
def Panics (o : Occasion) (side : Side) (p : Program α) (v : Visit) : Prop :=
  ∃ f, (v.run o side p).2 = .error f ∧ ¬f.Calm

theorem panics_bind {p : Program α} {k : α → Program β} : v.Panics o side (p >>= k) ↔
    v.Panics o side p ∨ ∃ u a, v.run o side p = (u, .ok a) ∧ u.Panics o side (k a) := by
  unfold Panics
  rw [run_bind]
  rcases v.run o side p with ⟨u, f | a⟩ <;> dsimp only
  · -- `p` fails, so `k` is not run at all
    constructor
    · rintro ⟨g, hg, hno⟩
      cases hg
      exact Or.inl ⟨f, rfl, hno⟩
    · rintro (⟨g, hg, hno⟩ | ⟨u', a, hr, -⟩)
      · cases hg
        exact ⟨f, rfl, hno⟩
      · cases hr
  · -- `p` is done, so a breakdown is one of what goes on
    constructor
    · exact fun hp => Or.inr ⟨u, a, rfl, hp⟩
    · rintro (⟨f, hf, -⟩ | ⟨u', a', hr, hp⟩)
      · cases hf
      · cases hr
        exact hp

/-- A label does not hide a breakdown, and makes none. -/
theorem panics_within {label : String} {p : Program α} :
    v.Panics o side (p.within label) ↔ v.Panics o side p := by
  unfold Panics
  rcases run_within label p v with h | ⟨-, h⟩ <;> rw [h]
  rcases v.run o side p with ⟨u, f | a⟩
  · simp [Except.mapError, Fault.Calm, Fault.kindsIn]
  · simp [Except.mapError]

/-- The label of a program that does not break down. -/
theorem run_within_of_calm {label : String} {p : Program α} (h : ¬v.Panics o side p) :
    v.run o side (p.within label) =
      ((v.run o side p).1, (v.run o side p).2.mapError (.within label)) := by
  rcases run_within label p v with hw | ⟨⟨m, hm⟩, -⟩
  · exact hw
  · exact (h ⟨_, hm, by simp [Fault.Calm, Fault.kindsIn]⟩).elim

end Visit

namespace Program

variable {α β : Type} {p : Program α}

/-- A program that never breaks down. -/
def Calm (p : Program α) : Prop := ∀ o side (v : Visit), ¬v.Panics o side p

theorem Calm.bind {k : α → Program β} (h : p.Calm) (hk : ∀ a, (k a).Calm) : (p >>= k).Calm := by
  intro o side v hp
  rcases Visit.panics_bind.1 hp with hp | ⟨u, a, -, hp⟩
  · exact h o side v hp
  · exact hk a o side u hp

theorem Calm.within (h : p.Calm) (label : String) : (p.within label).Calm :=
  fun o side v hp => h o side v (Visit.panics_within.1 hp)

/-- What goes on calmly breaks down at the start or not at all. -/
theorem panics_bind_calm {o : Occasion} {side : Side} {v : Visit} {k : α → Program β}
    (h : ∀ a, (k a).Calm) : v.Panics o side (p >>= k) ↔ v.Panics o side p := by
  rw [Visit.panics_bind, or_iff_left]
  rintro ⟨u, a, -, hp⟩
  exact h a o side u hp

theorem calm_done (a : α) : (done a).Calm := fun _ _ _ ⟨_, hf, _⟩ => by cases hf

theorem calm_ofExcept {r : Except Fault α} (h : Calmly r) : (ofExcept r).Calm := by
  rintro o side v ⟨f, hf, hno⟩
  rw [Visit.run_ofExcept] at hf
  exact hno (h f hf)

theorem calm_fail {f : Fault} (h : f.Calm) : (fail f : Program α).Calm := by
  rintro o side v ⟨g, hg, hno⟩
  cases hg
  exact hno h

theorem calm_question (r : Request) : (question r).Calm := fun _ _ _ ⟨_, hf, _⟩ => by cases hf

/-- A request that is answered with a result: its faults are those of the answer. -/
theorem calm_asked (r : Request) (answer : r.Response → Except Fault β)
    (h : ∀ o side (v : Visit), Calmly (answer (v.answer o side r).2)) :
    (question r >>= fun a => ofExcept (answer a)).Calm := by
  rintro o side v ⟨f, hf, hno⟩
  rw [Visit.run_bind] at hf
  simp only [Visit.run, question, Visit.run_ofExcept] at hf
  exact hno (h o side v f hf)

theorem calm_setField (t : Target) (name : String) (x : Value) : (setField t name x).Calm := by
  refine calm_asked (.setField t name x) id fun o side v => ?_
  simp only [Visit.answer]
  split
  · exact calmly_ok _
  · exact calmly_error (Fault.calm_fieldKind _)

theorem calm_hops (f : HopFilter) : (hops f).Calm :=
  calm_asked (.hops f) id fun _ _ _ => calmly_mapError Fault.calm_storeKind

theorem calm_visit (first : Bool) (targets : List Handle) : (visit first targets).Calm := by
  refine calm_asked (.visit first targets) id fun o side v => ?_
  simp only [Visit.answer]
  split
  · exact calmly_error (by simp [Fault.Calm, Fault.kindsIn])
  · exact calmly_ok _

/-- Creation fails by an error of the registry, or by one of the store. -/
theorem calmly_createdBy (v : Visit) (key : ArchKey)
    (create : Architype → Except StoreError (Store × Handle)) :
    Calmly (v.createdBy key create).2 := by
  unfold Visit.createdBy
  split
  · exact calmly_error (Fault.calm_registryKind _)
  · split
    · exact calmly_error (Fault.calm_storeKind _)
    · exact calmly_ok _

theorem calm_createNode (arch : String) (init : List (String × Value)) :
    (createNode arch init).Calm :=
  calm_asked (.createNode arch init) id fun _ _ v => calmly_createdBy v _ _

theorem calm_connect (arch : String) (source target : Handle) (init : List (String × Value)) :
    (connect arch source target init).Calm :=
  calm_asked (.connect arch source target init) id fun _ _ v => calmly_createdBy v _ _

theorem calm_delete (h : Handle) : (delete h).Calm := by
  refine calm_asked (.delete h) id fun o side v => ?_
  simp only [Visit.answer]
  split
  · exact calmly_ok _
  · exact calmly_error (Fault.calm_storeKind _)

theorem calm_setGlobal (name : String) (x : Value) : (setGlobal name x).Calm := by
  refine calm_asked (.setGlobal name x) id fun o side v => ?_
  simp only [Visit.answer]
  split
  · exact calmly_error (by simp [Fault.Calm, Fault.kindsIn])
  · split
    · exact calmly_ok _
    · exact calmly_error (Fault.calm_globalKind _)

end Program

namespace Script

variable {file : String} {s : Scope} {o : Occasion} {side : Side} {v u : Visit}

/-! ## Names -/

/-- An expression for names that gives a list with an item that is no text. -/
def Nameless (file : String) (s : Scope) (e : Option Expr) : Prop :=
  ∃ x, e = some x ∧ ∃ v, value file s x = .ok v ∧ v.isNull = false ∧ ∃ elem items,
    v.convert (.list .string) = .ok (.list elem items) ∧ ∃ item ∈ items, ∀ t, item ≠ .string t

theorem texts?_eq_none {elem : Ty} {items : List Value} :
    texts? (.list elem items) = none ↔ ∃ item ∈ items, ∀ t, item ≠ .string t := by
  unfold texts? Function.itemsOfValue
  dsimp only
  -- one item after the other, as the items are read
  induction items with
  | nil => simp
  | cons item items ih =>
    rw [List.mapM_cons, List.exists_mem_cons_iff, ← ih]
    generalize List.mapM (m := Option) _ items = read
    cases item with
    | string t => cases read <;> simp
    | _ => simp

/-- Values are wholly known. -/
theorem isWhollyKnown_value {e : Expr} {x : Value} (h : value file s e = .ok x) :
    x.isWhollyKnown = true := by
  unfold value at h
  dsimp only at h
  split at h
  · cases h
  · split at h
    · rename_i hknown
      cases h
      exact hknown
    · cases h

/-- Names that are not given as a single text are read from a list. -/
theorem names_list {e : Expr} {x : Value} (hv : value file s e = .ok x) (hnull : x.isNull = false)
    (hlist : ∀ t, x ≠ .string t) : names file s (some e) =
      match asType x (.list .string) "a string or a list of strings" with
      | .error f => .fail f
      | .ok list => match texts? list with
        | some ts => .done ts
        | none => .crash "value is null" := by
  -- reading starts with the value, which is there
  have hread : names file s (some e) = Program.ofExcept (value file s e) >>= _ := rfl
  rw [hread, hv]
  cases x with
  | null ty => cases hnull
  | string t => exact (hlist t rfl).elim
  | _ =>
    show Program.ofExcept (asType _ _ _) >>= _ = _
    cases asType _ (.list .string) "a string or a list of strings" <;> rfl

/-- The value decides whether there are names to be read. -/
theorem nameless_iff {e : Expr} {x : Value} (hv : value file s e = .ok x) :
    Nameless file s (some e) ↔ x.isNull = false ∧ ∃ elem items,
      x.convert (.list .string) = .ok (.list elem items) ∧
        ∃ item ∈ items, ∀ t, item ≠ .string t := by
  simp [Nameless, hv]

/-- **Reading names** asks nothing, and breaks down just at a list with an item that is no
text. -/
theorem names_cases (file : String) (s : Scope) (e : Option Expr) :
    (∃ ns, names file s e = .done ns) ∧ ¬Nameless file s e ∨
      (∃ f, f.Calm ∧ names file s e = .fail f) ∧ ¬Nameless file s e ∨
        (∃ m, names file s e = .crash m) ∧ Nameless file s e := by
  cases e with
  | none =>
    refine Or.inl ⟨⟨[], rfl⟩, ?_⟩
    rintro ⟨x, hx, -⟩
    cases hx
  | some e =>
    cases hv : value file s e with
    | error f =>
      refine Or.inr (Or.inl ⟨⟨f, calmly_value e f hv, ?_⟩, by simp [Nameless, hv]⟩)
      unfold names
      simp only [hv]
      rfl
    | ok x =>
      rw [nameless_iff hv]
      cases hnull : x.isNull with
      | true =>
        refine Or.inl ⟨⟨[], ?_⟩, by simp⟩
        unfold names
        simp only [hv]
        show (if x.isNull = true then _ else _) = _
        rw [if_pos hnull]
        rfl
      | false =>
        by_cases hlist : ∃ t, x = .string t
        · obtain ⟨t, rfl⟩ := hlist
          refine Or.inl ⟨⟨[t], ?_⟩, ?_⟩
          · unfold names
            simp only [hv]
            rfl
          · -- no conversion leads from texts to lists
            rintro ⟨-, elem, items, hc, -⟩
            rcases convert_known rfl rfl hc with ⟨htype, -⟩ | ⟨e, conv, hstep, -⟩
            · cases htype
            · cases hstep
        · rw [not_exists] at hlist
          rw [names_list hv hnull hlist]
          unfold asType
          cases hc : x.convert (.list .string) with
          | error err =>
            exact Or.inr (Or.inl ⟨⟨_, (Fault.calm_text _).within _, rfl⟩, by simp⟩)
          | ok w =>
            obtain ⟨elem, items, rfl⟩ := list_of_convert hnull (isWhollyKnown_value hv) hc
            have hitems : (∃ elem' items', Except.ok (Value.list elem items) =
                (.ok (.list elem' items') : Except ConversionError Value) ∧
                  ∃ item ∈ items', ∀ t, item ≠ .string t) ↔ texts? (.list elem items) = none := by
              simp [texts?_eq_none]
            rw [hitems]
            simp only [Except.mapError]
            cases texts? (.list elem items) with
            | some ts => exact Or.inl ⟨⟨ts, rfl⟩, by simp⟩
            | none => exact Or.inr (Or.inr ⟨⟨_, rfl⟩, trivial, rfl⟩)

theorem panics_names {e : Option Expr} : v.Panics o side (names file s e) ↔ Nameless file s e := by
  rcases names_cases file s e with
    ⟨⟨ns, hn⟩, hno⟩ | ⟨⟨f, hf, hn⟩, hno⟩ | ⟨⟨m, hn⟩, hyes⟩
  · rw [hn]
    exact iff_of_false (Program.calm_done ns o side v) hno
  · rw [hn]
    exact iff_of_false (Program.calm_fail hf o side v) hno
  · rw [hn]
    exact iff_of_true ⟨_, rfl, by simp [Fault.Calm, Fault.kindsIn]⟩ hyes

/-- Names that are read are there from the start. -/
theorem names_of_run {e : Option Expr} {ns : List String} {label : String}
    (h : v.run o side ((names file s e).within label) = (u, .ok ns)) :
    names file s e = .done ns ∧ u = v := by
  rcases names_cases file s e with
    ⟨⟨ns', hn⟩, -⟩ | ⟨⟨f, -, hn⟩, -⟩ | ⟨⟨m, hn⟩, -⟩ <;> rw [hn] at h <;> cases h
  exact ⟨hn, rfl⟩

/-! ## Statements -/

/-- A selection by names that cannot be read: names of edges, or of nodes where those of the
edges are fine. -/
def Unreadable (file : String) (s : Scope) (sel : Selection) : Prop :=
  Nameless file s sel.edge ∨ (∃ ns, names file s sel.edge = .done ns) ∧ Nameless file s sel.node

/-- **A selection breaks down** at its names only. -/
theorem panics_filter {sel : Selection} :
    v.Panics o side (filter file s sel) ↔ Unreadable file s sel := by
  -- past the names, the direction is read calmly
  obtain ⟨rest, hrest, hfilter⟩ : ∃ rest : List String → List String → Program HopFilter,
      (∀ edge node, (rest edge node).Calm) ∧ filter file s sel =
        (names file s sel.edge).within "edge" >>= fun edge =>
          (names file s sel.node).within "node" >>= fun node => rest edge node := by
    refine ⟨_, fun edge node => ?_, rfl⟩
    cases sel.direction with
    | none => exact Program.calm_done _
    | some e =>
      refine ((Program.calm_ofExcept (calmly_text _)).within _).bind fun raw => ?_
      cases Direction.parse? raw with
      | none => exact Program.calm_fail ((Fault.calm_text _).within _)
      | some d => exact Program.calm_done _
  rw [hfilter, Visit.panics_bind, Visit.panics_within, panics_names]
  refine or_congr Iff.rfl ?_
  have hnode : ∀ ns (u : Visit), u.Panics o side ((names file s sel.node).within "node" >>= _) ↔
      Nameless file s sel.node := fun ns u =>
    (Program.panics_bind_calm (hrest ns)).trans (Visit.panics_within.trans panics_names)
  constructor
  · rintro ⟨u, ns, hrun, hp⟩
    exact ⟨⟨ns, (names_of_run hrun).1⟩, (hnode ns u).1 hp⟩
  · rintro ⟨⟨ns, hn⟩, hp⟩
    exact ⟨v, ns, by rw [hn]; rfl, (hnode ns v).2 hp⟩

end Script

/-- The neighbours that a statement selects, if it does. -/
def Deed.selection? : Deed → Option Selection
  | .visit sel _ _ | .ignore sel | .delete sel _ => some sel
  | _ => none

namespace Script

variable {file : String} {s : Scope} {o : Occasion} {side : Side} {v u : Visit}

/-- Deleting asks for one neighbour after the other, each once. -/
theorem calm_deleteAll (hs : List Handle) : ∀ seen, (deleteAll seen hs).Calm := by
  induction hs with
  | nil => exact fun _ => Program.calm_done ()
  | cons h hs ih =>
    intro seen
    unfold deleteAll
    split
    · exact ih seen
    · exact (Program.calm_delete h).bind fun _ => ih _

/-- **A statement breaks down** just where it selects neighbours by names that cannot be
read. -/
theorem panics_perform (d : Deed) : v.Panics o side (perform file o s d) ↔
    ∃ sel, d.selection? = some sel ∧ Unreadable file s sel := by
  -- a statement without a selection is calm in all its parts
  have hcalm : ∀ {p : Program Bool}, p.Calm → d.selection? = none →
      (v.Panics o side p ↔ ∃ sel, d.selection? = some sel ∧ Unreadable file s sel) :=
    fun hp hd => iff_of_false (hp o side v) (by rw [hd]; rintro ⟨sel, hs, -⟩; cases hs)
  -- one with a selection starts with it, and is calm from then on
  have hselects : ∀ {sel : Selection} {k : HopFilter → Program Bool}, (∀ f, (k f).Calm) →
      d.selection? = some sel → (v.Panics o side (filter file s sel >>= k) ↔
        ∃ sel, d.selection? = some sel ∧ Unreadable file s sel) := by
    intro sel k hk hd
    rw [Program.panics_bind_calm hk, panics_filter, hd]
    simp
  cases d with
  | set target field e =>
    refine hcalm ((Program.calm_ofExcept (calmly_value e)).bind fun x => ?_) rfl
    exact (Program.calm_setField _ _ _).bind fun _ => Program.calm_done _
  | setGlobal name e =>
    refine hcalm ((Program.calm_ofExcept (calmly_value e)).bind fun x => ?_) rfl
    exact (Program.calm_setGlobal _ _).bind fun _ => Program.calm_done _
  | report e =>
    refine hcalm ((Program.calm_ofExcept (calmly_value e)).bind fun x => ?_) rfl
    exact (Program.calm_question _).bind fun _ => Program.calm_done _
  | log e =>
    refine hcalm ((Program.calm_ofExcept (calmly_text e)).bind fun x => ?_) rfl
    exact (Program.calm_question _).bind fun _ => Program.calm_done _
  | visit sel first viaEdges =>
    refine hselects (fun f => ?_) rfl
    refine ((Program.calm_ofExcept (calmly_truth _ _)).within _).bind fun first => ?_
    refine ((Program.calm_ofExcept (calmly_truth _ _)).within _).bind fun viaEdges => ?_
    refine (Program.calm_hops f).bind fun hops => ?_
    exact (Program.calm_visit _ _).bind fun _ => Program.calm_done _
  | ignore sel =>
    refine hselects (fun f => (Program.calm_hops f).bind fun hops => ?_) rfl
    exact (Program.calm_question _).bind fun _ => Program.calm_done _
  | connect node edge fields edgeFields visit =>
    refine hcalm (((Program.calm_ofExcept (calmly_text edge)).within _).bind fun arch => ?_) rfl
    refine ((Program.calm_ofExcept (calmly_entries _)).within _).bind fun fields => ?_
    refine ((Program.calm_ofExcept (calmly_entries _)).within _).bind fun edgeFields => ?_
    refine ((Program.calm_ofExcept (calmly_truth _ _)).within _).bind fun visit => ?_
    refine (Program.calm_createNode _ _).bind fun h => ?_
    refine (Program.calm_connect _ _ _ _).bind fun _ => ?_
    split
    · exact (Program.calm_visit _ _).bind fun _ => Program.calm_done _
    · exact Program.calm_done _
  | delete sel edges =>
    refine hselects (fun f => ?_) rfl
    refine ((Program.calm_ofExcept (calmly_truth _ _)).within _).bind fun edges => ?_
    refine (Program.calm_hops f).bind fun hops => ?_
    exact (calm_deleteAll _ _).bind fun _ => Program.calm_done _
  | disengage =>
    exact hcalm ((Program.calm_question _).bind fun _ => Program.calm_done _) rfl
  | fail e =>
    cases e with
    | none => exact hcalm (Program.calm_fail (Fault.calm_gaveUp _)) rfl
    | some e =>
      exact hcalm ((Program.calm_ofExcept (calmly_text e)).bind fun m =>
        Program.calm_fail (Fault.calm_gaveUp _)) rfl

/-! ## Scripts -/

/-- The statements run from one visit to another, and the script goes on after each. -/
def Passes (file : String) (o : Occasion) (side : Side) : List Statement → Visit → Visit → Prop
  | [], v, u => u = v
  | st :: rest, v, u => ∃ v', v.run o side (step file o st) = (v', .ok true) ∧
      Passes file o side rest v' u

/-- What is left of a script after the statements that it has passed. -/
theorem run_passes {rest : List Statement} (sts : List Statement) : ∀ {v : Visit},
    Passes file o side sts v u →
      v.run o side (runAll file o (sts ++ rest)) = u.run o side (runAll file o rest) := by
  induction sts with
  | nil => rintro v rfl; rfl
  | cons st sts ih =>
    rintro v ⟨v', hst, hpasses⟩
    rw [List.cons_append, runAll_cons, Visit.run_bind, hst]
    exact ih hpasses

/-- A statement that is executed and selects neighbours by names that cannot be read. -/
def Stumbles (file : String) (s : Scope) (st : Statement) : Prop :=
  truth file s st.guard true = .ok true ∧
    ∃ sel, st.deed.selection? = some sel ∧ Unreadable file s sel

/-- A statement that is run breaks down just if it stumbles. -/
theorem panics_step {st : Statement} :
    v.Panics o side (step file o st) ↔ Stumbles file (v.context o side) st := by
  unfold Stumbles Visit.Panics
  rw [run_step]
  cases hguard : truth file (v.context o side) st.guard true with
  | error f =>
    refine iff_of_false ?_ nofun
    rintro ⟨g, hg, hno⟩
    cases hg
    exact hno ((calmly_truth _ _ f hguard).within _)
  | ok guard =>
    cases guard with
    | false => exact iff_of_false nofun nofun
    | true => exact (Visit.panics_within.trans (panics_perform _)).trans (and_iff_right rfl).symm

/-- **A script breaks down** just where one of its statements stumbles. -/
theorem panics_runAll (sts : List Statement) : ∀ {v : Visit},
    v.Panics o side (runAll file o sts) ↔ ∃ before st after u, sts = before ++ st :: after ∧
      Passes file o side before v u ∧ Stumbles file (u.context o side) st := by
  induction sts with
  | nil =>
    refine fun {v} => iff_of_false (Program.calm_done () o side v) ?_
    rintro ⟨before, st, after, -, hsts, -⟩
    exact List.append_ne_nil_of_right_ne_nil _ (List.cons_ne_nil _ _) hsts.symm
  | cons st rest ih =>
    intro v
    rw [runAll_cons, Visit.panics_bind, panics_step]
    constructor
    · -- either this statement stumbles, or one behind it
      rintro (hst | ⟨v', go, hrun, hp⟩)
      · exact ⟨[], st, rest, v, rfl, rfl, hst⟩
      · cases go with
        | false => exact (Program.calm_done () o side v' hp).elim
        | true =>
          obtain ⟨before, st', after, u, rfl, hpasses, hst⟩ := ih.1 hp
          exact ⟨st :: before, st', after, u, rfl, ⟨v', hrun, hpasses⟩, hst⟩
    · rintro ⟨before, st', after, u, hsts, hpasses, hst⟩
      cases before with
      | nil =>
        cases hsts
        obtain rfl : u = v := hpasses
        exact Or.inl hst
      | cons st'' before =>
        cases hsts
        obtain ⟨v', hrun, hpasses⟩ := hpasses
        exact Or.inr ⟨v', true, hrun, ih.2 ⟨before, st', after, u, rfl, hpasses, hst⟩⟩

/-- **Scripts fail by faults**, but for one way to break down: the fault of an invocation tells of
a breakdown just if the script comes to a statement that is to be executed and selects neighbours
by a list of names with an item that is no text. Apart from that, whatever is made of a value has
the form it is taken for. -/
theorem panics_by_names (sc : Script) (v : Visit) (here : ArchKey) (event : Event)
    (inv : Invocation) :
    ((∃ f, (v.invoke here event inv sc.body).2 = some f ∧ FaultKind.abilityPanic ∈ f.kinds) ↔
      ∃ before st after u, sc.statements = before ++ st :: after ∧
        Passes sc.file (v.occasion here event inv) inv.side before
          (v.observed v.walker.position (.ability inv.ability.path event inv.side)) u ∧
        Stumbles sc.file (u.context (v.occasion here event inv) inv.side) st) ∧
    ∀ file s e x, value file s e = .ok x → x.isNull = false →
      (∀ w, asType x .bool "bool" = .ok w → ∃ b, w = .bool b) ∧
      (∀ w, asType x .string "string" = .ok w → ∃ t, w = .string t) ∧
      ∀ w, asType x (.list .string) "a string or a list of strings" = .ok w →
        ∃ elem items, w = .list elem items := by
  refine ⟨?_, fun file s e x hx hnull => ?_⟩
  · rw [← panics_runAll]
    simp only [Fault.mem_kinds, Visit.invoke_eq_some]
    constructor
    · rintro ⟨f, ⟨g, hg, rfl⟩, hf⟩
      exact ⟨g, hg, fun hcalm => hcalm ((List.mem_cons.1 hf).resolve_left nofun)⟩
    · rintro ⟨g, hg, hno⟩
      exact ⟨_, ⟨g, hg, rfl⟩, List.mem_cons_of_mem _ (not_not.1 hno)⟩
  · -- values of expressions are known, and such a value becomes what it is brought to
    have hwhole := isWhollyKnown_value hx
    have hknown : x.isKnown = true := by cases x <;> first | rfl | cases hwhole
    exact ⟨fun w hw => bool_of_convert hnull hknown (of_mapError_ok hw),
      fun w hw => string_of_convert hnull hknown (of_mapError_ok hw),
      fun w hw => list_of_convert hnull hwhole (of_mapError_ok hw)⟩

/-- Visits the neighbours over edges of an architype without a name. -/
def nameless : Source.Block :=
  .mk "visit" ⟨⟨1, 1, 0⟩, ⟨1, 6, 5⟩⟩ [] 1 1
    [⟨"edge", ⟨⟨1, 9, 8⟩, ⟨1, 22, 21⟩⟩, .tuple [.literal (.null .dynamic) 1] 1⟩] []

theorem panics_nameless : ∃ sts f, Statement.ofBlocks [nameless] = .ok sts ∧
    (Visit.invoke ⟨default, default, .empty⟩ default default default
      (body ⟨"w.hcl", "w", sts⟩)).2 = some f ∧
    FaultKind.abilityPanic ∈ f.kinds := by
  refine ⟨_, .ability (default : Invocation).ability.path default (default : Walker).position
    (.panicked "value is null"), rfl, ?_, by decide⟩
  cbv

end Script

end GraphWalk
