import GraphWalk.Proofs.Globals.Scope
import GraphWalk.Proofs.Value.Conversion

/-!
# What a variable holds after writes

A write goes to the variable its name stands for and leaves all others (`find?_set`).
So one call either leaves what a variable holds or has put a value there that was
written to it (`value?_perform`), and a module sees the new value under the name of the variable
only (`lookupKey_set`).

The type of a variable is that of its value. A write converts to it, so it is kept
(`type_kept`) until a null was written: the null has that type still, but what is
written next is not converted (`type_lost`).
-/

namespace GraphWalk

namespace GlobalTable

variable {t t' : GlobalTable} {module name module' name' : String} {v w x : Value} {g : Global}

/-- What a variable holds. -/
def value? (t : GlobalTable) (module name : String) : Option Value :=
  (t.find? module name).map Global.value

/-- In module `module'`, the name `name'` stands for the variable `name` of `module`. -/
def Reaches (t : GlobalTable) (module' name' module name : String) : Prop :=
  ∃ g, t.resolve module' name' = .ok g ∧ g.module = module ∧ g.name = name

/-! ## One call -/

/-- A name stands for a variable of the table. -/
theorem find?_of_resolve (h : t.resolve module' name' = .ok g) :
    t.find? g.module g.name = some g := by
  have hself : ∀ {m n}, t.find? m n = some g → t.find? g.module g.name = some g := by
    intro m n hf
    obtain ⟨-, rfl, rfl⟩ := find?_some hf
    exact hf
  unfold resolve at h
  split at h
  · rename_i g' hown
    cases h
    exact hself hown
  · dsimp only at h
    split at h
    · rename_i g' hfound
      cases h
      obtain ⟨m, -, hm⟩ := List.mem_filterMap.1 (List.mem_of_find?_eq_some hfound)
      exact hself hm
    · split at h <;> cases h

/-- **A write** changes the value of the variable its name stands for. -/
theorem find?_set (h : t.set module' name' x = .ok t') :
    ∃ g w, t.resolve module' name' = .ok g ∧ assigned g x = .ok w ∧
      ∀ m n, t'.find? m n =
        if g.module = m ∧ g.name = n then some { g with value := w } else t.find? m n := by
  obtain ⟨g, hg, h⟩ := of_bind_ok h
  obtain ⟨w, hw, h⟩ := of_bind_ok h
  cases h
  refine ⟨g, w, hg, hw, fun m n => ?_⟩
  -- a variable keeps its names, so the first found is found at the same place
  have hplace : ((fun h : Global => decide (h.module = m ∧ h.name = n)) ∘ fun h =>
      if h.module = g.module ∧ h.name = g.name then { h with value := w } else h) =
        fun h => decide (h.module = m ∧ h.name = n) := by
    funext h
    simp only [Function.comp]
    split <;> rfl
  unfold find?
  rw [List.find?_map, hplace]
  change (t.find? m n).map _ = if g.module = m ∧ g.name = n then _ else t.find? m n
  split
  · rename_i hnames
    obtain ⟨rfl, rfl⟩ := hnames
    rw [find?_of_resolve hg, Option.map_some, if_pos ⟨rfl, rfl⟩]
  · rename_i hnames
    cases hf : t.find? m n with
    | none => rfl
    | some g' =>
      obtain ⟨-, rfl, rfl⟩ := find?_some hf
      rw [Option.map_some, if_neg fun he => hnames ⟨he.1.symm, he.2.symm⟩]

/-- A declaration takes no variable away and changes none. -/
theorem find?_of_declare {isPrivate : Bool} (h : t.declare module' name' x isPrivate = .ok t')
    (hf : t.find? module name = some g) : t'.find? module name = some g := by
  obtain ⟨-, rfl⟩ := declare_eq h
  unfold find?
  rw [List.find?_append]
  change (t.find? module name).or _ = some g
  rw [hf, Option.some_or]

/-- What a write from a module does to a variable. -/
theorem value?_set (h : t.set module' name' x = .ok t') (hv : t.value? module name = some v) :
    t'.value? module name = some v ∨
      ∃ g w, t.resolve module' name' = .ok g ∧ g.module = module ∧ g.name = name ∧
        g.value = v ∧ assigned g x = .ok w ∧ t'.value? module name = some w := by
  obtain ⟨g, w, hg, hw, hfind⟩ := find?_set h
  unfold value? at hv ⊢
  rw [hfind]
  split
  · rename_i hnames
    obtain ⟨rfl, rfl⟩ := hnames
    rw [find?_of_resolve hg, Option.map_some] at hv
    exact Or.inr ⟨g, w, hg, rfl, rfl, Option.some.inj hv, hw, rfl⟩
  · exact Or.inl hv

/-- **One call** leaves what a variable holds, unless it is a write that reaches it. -/
theorem value?_perform (c : Call) (hv : t.value? module name = some v) :
    (t.perform c).value? module name = some v ∨
      ∃ m n x g w, c = .set m n x ∧ t.resolve m n = .ok g ∧ g.module = module ∧
        g.name = name ∧ g.value = v ∧ assigned g x = .ok w ∧
        (t.perform c).value? module name = some w := by
  obtain ⟨g, hf, hgv⟩ := Option.map_eq_some_iff.1 hv
  cases c with
  | declare m n x isPrivate =>
    simp only [perform]
    split
    · rename_i t' hd
      unfold value?
      rw [find?_of_declare hd hf, Option.map_some, hgv]
      exact Or.inl rfl
    · exact Or.inl hv
  | setImports m imports => exact Or.inl hv
  | set m n x =>
    simp only [perform]
    split
    · rename_i t' hs
      refine (value?_set hs hv).imp id ?_
      rintro ⟨g, w, hreach⟩
      exact ⟨m, n, x, g, w, rfl, hreach⟩
    · exact Or.inl hv

/-! ## What a write that reaches a variable puts there -/

/-- Where the variable is null or of dynamic type, the value itself. -/
theorem assigned_open (h : g.value.isNull = true ∨ g.value.type = .dynamic) :
    assigned g x = .ok x := by
  unfold assigned
  rw [if_pos]
  rw [Bool.or_eq_true, beq_iff_eq]
  exact h

/-- Otherwise the value converted to the type that the variable has. -/
theorem assigned_typed (hnull : g.value.isNull = false) (hdyn : g.value.type ≠ .dynamic) :
    assigned g x = (x.convert g.value.type).mapError
      (.wrongType g.module g.name g.value.type) := by
  unfold assigned
  rw [if_neg]
  · cases x.convert g.value.type <;> rfl
  · rw [Bool.or_eq_true, beq_iff_eq, hnull]
    rintro (h | h)
    · cases h
    · exact hdyn h

/-- The table after a write that reaches a variable. -/
theorem value?_of_assigned (hg : t.resolve module' name' = .ok g) (hw : assigned g x = .ok w) :
    (t.perform (.set module' name' x)).value? g.module g.name = some w := by
  have hs : ∃ t', t.set module' name' x = .ok t' := by
    unfold set
    rw [hg]
    simp only [bind, Except.bind, hw]
    exact ⟨_, rfl⟩
  obtain ⟨t', hs⟩ := hs
  obtain ⟨g', w', hg', hw', hfind⟩ := find?_set hs
  obtain rfl : g = g' := Except.ok.inj (hg.symm.trans hg')
  obtain rfl : w = w' := Except.ok.inj (hw.symm.trans hw')
  simp only [perform, hs]
  unfold value?
  rw [hfind, if_pos ⟨rfl, rfl⟩]
  rfl

theorem set_of_assigned_error {e : GlobalError} (hg : t.resolve module' name' = .ok g)
    (hw : assigned g x = .error e) : t.set module' name' x = .error e := by
  unfold set
  rw [hg]
  simp only [bind, Except.bind, hw]

/-! ## What a module sees after a write -/

/-- A variable, with a value where `g` was written. -/
def written (g : Global) (w : Value) (h : Global) : Global :=
  if h.module = g.module ∧ h.name = g.name then { h with value := w } else h

/-- **A write is seen** by all modules that see the variable. -/
theorem seen_set (h : t.set module name x = .ok t') :
    ∃ g w, t.seen module name = some g ∧ assigned g x = .ok w ∧
      ∀ m n, t'.seen m n = (t.seen m n).map (written g w) := by
  obtain ⟨g, w, hg, hw, hfind⟩ := find?_set h
  have himports : ∀ m, t'.importsOf m = t.importsOf m := by
    obtain ⟨g', -, h⟩ := of_bind_ok h
    obtain ⟨w', -, h⟩ := of_bind_ok h
    cases h
    exact fun _ => rfl
  have hmap : ∀ m n, t'.find? m n = (t.find? m n).map (written g w) := by
    intro m n
    rw [hfind]
    split
    · rename_i hnames
      obtain ⟨rfl, rfl⟩ := hnames
      rw [find?_of_resolve hg, Option.map_some, written, if_pos ⟨rfl, rfl⟩]
    · rename_i hnames
      cases hf : t.find? m n with
      | none => rfl
      | some g' =>
        obtain ⟨-, rfl, rfl⟩ := find?_some hf
        rw [Option.map_some, written, if_neg fun he => hnames ⟨he.1.symm, he.2.symm⟩]
  refine ⟨g, w, resolve_eq_ok.1 hg, hw, fun m n => ?_⟩
  unfold seen
  rw [hmap, himports, Option.map_or, List.map_findSome?]
  congr 2
  funext m'
  -- a write makes nothing private
  rw [hmap, Function.comp]
  cases t.find? m' n with
  | none => rfl
  | some g' =>
    have hprivate : (written g w g').isPrivate = g'.isPrivate := by
      unfold written
      split <;> rfl
    rw [Option.map_some, Option.filter_some, Option.filter_some, hprivate]
    split <;> rfl

theorem name_of_seen (h : t.seen module name = some g) : g.name = name := by
  rcases Option.or_eq_some_iff.1 h with hown | ⟨-, himported⟩
  · exact (find?_some hown).2.2
  · obtain ⟨m, -, hm⟩ := List.exists_of_findSome?_eq_some himported
    exact (find?_some (Option.filter_eq_some_iff.1 hm).1).2.2

/-- **The list of what is visible** after a write. -/
theorem Distinct.lookupKey_set (hd : t.Distinct) (h : t.set module name x = .ok t') :
    ∃ old w, lookupKey name (t.visible module) = some old ∧
      (if old.isNull || old.type == .dynamic then .ok x else x.convert old.type) = .ok w ∧
      ∀ n, lookupKey n (t'.visible module) =
        if n = name then some w else lookupKey n (t.visible module) := by
  obtain ⟨g, w, hg, hw, hseen⟩ := seen_set h
  have hperform : t.perform (.set module name x) = t' := by
    simp only [GlobalTable.perform, h]
  have hd' : t'.Distinct := hperform ▸ hd.perform (.set module name x)
  refine ⟨g.value, w, by rw [hd.lookupKey_visible, hg]; rfl, ?_, fun n => ?_⟩
  · unfold assigned at hw
    split at hw
    · rename_i hopen
      rw [if_pos hopen]
      cases hw
      rfl
    · rename_i htyped
      rw [if_neg htyped]
      split at hw
      · cases hw
        assumption
      · cases hw
  · rw [hd'.lookupKey_visible, hd.lookupKey_visible, hseen, Option.map_map]
    split
    · rename_i hn
      subst hn
      rw [hg, Option.map_some, Function.comp, written, if_pos ⟨rfl, rfl⟩]
    · rename_i hn
      cases hf : t.seen module n with
      | none => rfl
      | some g' =>
        -- another name stands for another variable
        have hne : ¬(g'.module = g.module ∧ g'.name = g.name) := fun he =>
          hn ((name_of_seen hf).symm.trans (he.2.trans (name_of_seen hg)))
        rw [Option.map_some, Option.map_some, Function.comp, written, if_neg hne]
/-! ## Runs -/

variable {calls : List Call}

theorem performs_concat (t : GlobalTable) (calls : List Call) (c : Call) :
    t.performs (calls ++ [c]) = (t.performs calls).perform c := by
  unfold performs
  rw [List.foldl_append]
  rfl

/-- The variable held null of type `ty`, and what was written next was put there as it
is. -/
def Loosened (t : GlobalTable) (calls : List Call) (module name : String) (ty : Ty) : Prop :=
  ∃ before m n x after, calls = before ++ .set m n x :: after ∧
    (t.performs before).value? module name = some (.null ty) ∧
    (t.performs (before ++ [.set m n x])).value? module name = some x

theorem Loosened.concat {ty : Ty} (h : t.Loosened calls module name ty) (c : Call) :
    t.Loosened (calls ++ [c]) module name ty := by
  obtain ⟨before, m, n, x, after, rfl, hnull, hx⟩ := h
  exact ⟨before, m, n, x, after ++ [c], by simp, hnull, hx⟩

/-- **A run** keeps the type of a variable, or has loosened it after a null. -/
theorem type_performs (h : t.value? module name = some v) (hdyn : v.type ≠ .dynamic)
    (hlands : ∀ m n x, Call.set m n x ∈ calls → Lands v.type x) :
    ∃ w, (t.performs calls).value? module name = some w ∧
      (w.type = v.type ∨ t.Loosened calls module name v.type) := by
  induction calls using List.reverseRecOn with
  | nil => exact ⟨v, h, Or.inl rfl⟩
  | append_singleton calls c ih =>
    obtain ⟨w, hw, hkept⟩ := ih fun m n x hm => hlands m n x (List.mem_append_left _ hm)
    rw [performs_concat]
    rcases value?_perform c hw with hsame | ⟨m, n, x, g, w', rfl, -, -, -, rfl, hassigned, hw'⟩
    · exact ⟨w, hsame, hkept.imp id fun hl => hl.concat c⟩
    refine ⟨w', hw', ?_⟩
    rcases hkept with htype | hloose
    · cases hnull : g.value.isNull with
      | true =>
        -- the value is null of the type, so what is written is put there as it is
        have hopen := assigned_open (x := x) (Or.inl hnull)
        obtain rfl : x = w' := Except.ok.inj (hopen.symm.trans hassigned)
        have hheld : g.value = .null v.type := by
          rw [← htype]
          cases hv : g.value with
          | null ty => rfl
          | _ => rw [hv] at hnull; cases hnull
        refine Or.inr ⟨calls, m, n, x, [], rfl, hheld ▸ hw, ?_⟩
        rw [performs_concat]
        exact hw'
      | false =>
        rw [assigned_typed hnull (htype.symm ▸ hdyn), htype] at hassigned
        have hlast := hlands m n x (List.mem_append_right _ List.mem_cons_self)
        exact Or.inl (hlast w' (of_mapError_ok hassigned))
    · exact Or.inr (hloose.concat _)

/-- **A global keeps its type up to the first null.** After any calls, a variable that
held a value of a type that is not open holds a value of that type still, unless it was
null in between and a value was put there as it is. A write that reaches the variable
puts the converted value there, null for null, or fails and changes nothing; after a
null it puts the value there as it is. -/
theorem type_kept (h : t.value? module name = some v) (hdyn : v.type ≠ .dynamic)
    (hlands : ∀ m n x, Call.set m n x ∈ calls → Lands v.type x) :
    ∃ w, (t.performs calls).value? module name = some w ∧
      (w.type = v.type ∨ t.Loosened calls module name v.type) ∧
      ∀ m n x, (t.performs calls).Reaches m n module name →
        (w.isNull = true →
          ((t.performs calls).perform (.set m n x)).value? module name = some x) ∧
        (w.isNull = false → w.type = v.type →
          (∀ y, x.convert v.type = .ok y →
            ((t.performs calls).perform (.set m n x)).value? module name = some y ∧
              y.isNull = x.isNull ∧ (Lands v.type x → y.type = v.type)) ∧
          ∀ e, x.convert v.type = .error e →
            (t.performs calls).set m n x = .error (.wrongType module name v.type e) ∧
              (t.performs calls).perform (.set m n x) = t.performs calls) := by
  obtain ⟨w, hw, hkept⟩ := type_performs h hdyn hlands
  refine ⟨w, hw, hkept, ?_⟩
  rintro m n x ⟨g, hg, rfl, rfl⟩
  obtain rfl : g.value = w := by
    unfold value? at hw
    rw [find?_of_resolve hg] at hw
    exact Option.some.inj hw
  refine ⟨fun hnull => value?_of_assigned hg (assigned_open (Or.inl hnull)), ?_⟩
  intro hnull htype
  have hassigned := assigned_typed (x := x) hnull (htype.symm ▸ hdyn)
  rw [htype] at hassigned
  refine ⟨fun y hy => ?_, fun e he => ?_⟩
  · rw [hy] at hassigned
    exact ⟨value?_of_assigned hg hassigned, isNull_convert hy, fun hl => hl y hy⟩
  · rw [he] at hassigned
    have hfails := set_of_assigned_error hg hassigned
    refine ⟨hfails, ?_⟩
    simp only [perform, hfails]

/-- One variable of a module, with a truth value. -/
def flag : GlobalTable := empty.performs [.declare "m" "g" (.bool true) false]

/-- A truth value that another one replaced, and then none at all. -/
theorem type_kept_flag : flag.value? "m" "g" = some (.bool true) ∧
    (Value.bool true).type ≠ .dynamic ∧
    ∃ w, (flag.performs [.set "m" "g" (.string "false"), .set "m" "g" (.null .bool)]).value?
        "m" "g" = some w ∧
      (w.type = .bool ∨ flag.Loosened
        [.set "m" "g" (.string "false"), .set "m" "g" (.null .bool)] "m" "g" .bool) := by
  have hheld : flag.value? "m" "g" = some (.bool true) := rfl
  have hdyn : (Value.bool true).type ≠ .dynamic := by decide
  have hlands : ∀ m n x, Call.set m n x ∈ [.set "m" "g" (.string "false"),
      .set "m" "g" (.null .bool)] → Lands (Value.bool true).type x :=
    fun _ _ x _ => lands_of_isPrimitive rfl x
  obtain ⟨w, hw, hkept, -⟩ := type_kept hheld hdyn hlands
  exact ⟨hheld, hdyn, w, hw, hkept⟩

/-- **The type is lost after a null**: a truth value, then null, then a text. -/
theorem type_lost :
    ¬∀ (t : GlobalTable) (calls : List Call) (module name : String) (v w : Value),
      t.value? module name = some v → v.isNull = false → v.type ≠ .dynamic →
      (∀ m n x, Call.set m n x ∈ calls → Lands v.type x) →
      (t.performs calls).value? module name = some w → w.type = v.type := by
  intro hkept
  have htext : (Value.string "x").type = (Value.bool true).type :=
    hkept flag [.set "m" "g" (.null .bool), .set "m" "g" (.string "x")] "m" "g" (.bool true)
      (.string "x") rfl rfl (by decide) (fun _ _ x _ => lands_of_isPrimitive rfl x) rfl
  cases htext

end GlobalTable

end GraphWalk
