import GraphWalk.Proofs.Module.Resolve
import GraphWalk.Proofs.Registry.Hierarchy

/-!
# What modules ask of a registry

Collecting a module is a list of calls of the registry, one after the other (`Module.calls`), and
collecting without an error means that all of them were accepted (`accepts_of_collect`). What is
said of a registry that was filled is then proved by going through accepted calls: a slot is there
as the first declaration of its path has it (`Accepts.slotAt?`), and a record is there if a call
was about it (`Accepts.isSome_find?`).
-/

namespace GraphWalk

open Registry (Call)

/-! ## Calls -/

/-- The calls for a slot, with its body if it has one. -/
def AbilityDecl.calls (m : Module) (element : Nat) (d : ArchDecl) (i : Nat) (ab : AbilityDecl) :
    List Call :=
  .declaration m.name ⟨d.kind, d.name⟩ ⟨ab.name, ab.signature, ab.isAbstract⟩ ::
    if ab.body.isSome then
      [.definition m.name ⟨d.kind, d.name, ab.name⟩ ab.body
        (some ⟨m.name, m.stamp, element, i + 1⟩)]
    else []

def Element.calls (m : Module) (element : Nat) : Element → List Call
  | .arch d => .architype m.name ⟨d.kind, d.name⟩ ⟨d.bases, d.fields, d.directed⟩ ::
      d.abilities.zipIdx.flatMap fun p => p.1.calls m element d p.2
  | .impl d => [.definition m.name d.path d.body (some ⟨m.name, m.stamp, element, 0⟩)]
  | _ => []

def Module.calls (m : Module) : List Call := m.elements.zipIdx.flatMap fun p => p.1.calls m p.2

/-- The slots that an element declares, and whether it has them abstract. -/
def Element.slots : Element → List (Path × Bool)
  | .arch d => d.abilities.map fun ab => (⟨d.kind, d.name, ab.name⟩, ab.isAbstract)
  | _ => []

def Module.slots (m : Module) : List (Path × Bool) := m.elements.flatMap Element.slots

/-- The architypes that an element declares. -/
def Element.keys : Element → List ArchKey
  | .arch d => [⟨d.kind, d.name⟩]
  | _ => []

def Module.keys (m : Module) : List ArchKey := m.elements.flatMap Element.keys

theorem Module.mem_slots {m : Module} {p : Path} {b : Bool} (h : (p, b) ∈ m.slots) :
    ∃ d ∈ m.architypes, ∃ ab ∈ d.abilities, p = ⟨d.kind, d.name, ab.name⟩ ∧ b = ab.isAbstract := by
  obtain ⟨el, hel, h⟩ := List.mem_flatMap.1 h
  cases el with
  | arch d =>
    obtain ⟨ab, hab, he⟩ := List.mem_map.1 h
    cases he
    exact ⟨d, List.mem_filterMap.2 ⟨_, hel, rfl⟩, ab, hab, rfl, rfl⟩
  | _ => cases h

namespace Registry

variable {r r' r'' : Registry} {a : Architype} {key : ArchKey} {m : Module} {module : String}
  {p : Path} {cs cs' : List Call}

/-- Calls that are made of `r` one after the other and are all accepted. -/
inductive Accepts : Registry → List Call → Registry → Prop where
  | nil {r : Registry} : Accepts r [] r
  | architype {r r' r'' : Registry} {cs : List Call} {module : String} {key : ArchKey}
    {spec : ArchSpec} {a : Architype} : r.registerArchitype module key spec = .ok (r', a) →
    Accepts r' cs r'' → Accepts r (.architype module key spec :: cs) r''
  | declaration {r r' r'' : Registry} {cs : List Call} {module : String} {key : ArchKey}
    {spec : AbilitySpec} {slot : Ability} :
    r.registerDeclaration module key spec = .ok (r', slot) →
    Accepts r' cs r'' → Accepts r (.declaration module key spec :: cs) r''
  | definition {r r' r'' : Registry} {cs : List Call} {module : String} {path : Path}
    {body : Option Body} {origin : Option Origin} :
    r.registerDefinition module path body origin = .ok r' →
    Accepts r' cs r'' → Accepts r (.definition module path body origin :: cs) r''

theorem Accepts.append (h : Accepts r cs r') (h' : Accepts r' cs' r'') :
    Accepts r (cs ++ cs') r'' := by
  induction h with
  | nil => exact h'
  | architype ha _ ih => exact .architype ha (ih h')
  | declaration hd _ ih => exact .declaration hd (ih h')
  | definition hd _ ih => exact .definition hd (ih h')

/-! ## Collecting -/

theorem accepts_of_collectAbilities {element : Nat} {d : ArchDecl} (abs : List AbilityDecl) :
    ∀ {i : Nat} {r r' : Registry}, collectAbilities m element d i abs r = (r', []) →
      Accepts r ((abs.zipIdx i).flatMap fun p => p.1.calls m element d p.2) r' := by
  induction abs with
  | nil =>
    intro i r r' h
    cases h
    exact .nil
  | cons ab abs ih =>
    intro i r r' h
    unfold collectAbilities at h
    rw [List.zipIdx_cons, List.flatMap_cons]
    cases hd : r.registerDeclaration m.name ⟨d.kind, d.name⟩
        ⟨ab.name, ab.signature, ab.isAbstract⟩ with
    | error e => simp [hd] at h
    | ok res =>
      obtain ⟨r₁, slot⟩ := res
      refine .declaration hd ?_
      cases hb : ab.body with
      | none => exact ih (by simpa [hd, hb, Prod.ext_iff] using h)
      | some b =>
        cases hdef : r₁.registerDefinition m.name ⟨d.kind, d.name, ab.name⟩ (some b)
            (some ⟨m.name, m.stamp, element, i + 1⟩) with
        | error e => simp [hd, hb, hdef] at h
        | ok r₂ =>
          exact .definition hdef (ih (by simpa [hd, hb, hdef, Prod.ext_iff] using h))

theorem accepts_of_collectElement {element : Nat} {el : Element}
    (h : collectElement m element r el = (r', [])) : Accepts r (el.calls m element) r' := by
  cases el with
  | arch d =>
    simp only [collectElement] at h
    split at h
    · cases h
    · rename_i ha
      exact .architype ha (accepts_of_collectAbilities d.abilities h)
  | impl d =>
    simp only [collectElement] at h
    split at h
    · rename_i hd
      cases h
      exact .definition hd .nil
    · cases h
  | _ =>
    cases h
    exact .nil

theorem accepts_of_collectElements (els : List Element) :
    ∀ {element : Nat} {r r' : Registry}, collectElements m element els r = (r', []) →
      Accepts r ((els.zipIdx element).flatMap fun p => p.1.calls m p.2) r' := by
  induction els with
  | nil =>
    intro element r r' h
    cases h
    exact .nil
  | cons el els ih =>
    intro element r r' h
    unfold collectElements at h
    rw [List.zipIdx_cons, List.flatMap_cons]
    cases hel : collectElement m element r el with
    | mk r₁ es =>
      simp only [hel, Prod.ext_iff, List.append_eq_nil_iff] at h
      obtain ⟨hr, rfl, hes⟩ := h
      exact (accepts_of_collectElement hel).append (ih (Prod.ext hr hes))

/-- **Collecting without an error** makes the calls of the modules, and all are accepted. -/
theorem accepts_of_collect (mods : List Module) :
    ∀ {r r' : Registry}, collect mods r = (r', []) → Accepts r (mods.flatMap Module.calls) r' := by
  induction mods with
  | nil =>
    intro r r' h
    cases h
    exact .nil
  | cons m mods ih =>
    intro r r' h
    unfold collect at h
    cases hel : collectElements m 0 m.elements r with
    | mk r₁ es =>
      simp only [hel, Prod.ext_iff, List.append_eq_nil_iff] at h
      obtain ⟨hr, rfl, hes⟩ := h
      exact (accepts_of_collectElements m.elements hel).append (ih (Prod.ext hr hes))

/-! ## What is there afterwards -/

theorem slotAt?_put (r : Registry) (a : Architype) (p : Path) :
    (r.put a).slotAt? p = if p.key = a.key then a.ability? p.ability else r.slotAt? p := by
  unfold slotAt?
  rw [find?_put]
  split <;> rfl

theorem record_ability? (r : Registry) (module : String) (p : Path) :
    (r.record module p.key).ability? p.ability = r.slotAt? p := by
  unfold record slotAt?
  cases r.find? p.key <;> rfl

theorem registerArchitype_slotAt? (ok : r.Tidy) {spec : ArchSpec}
    (h : r.registerArchitype module key spec = .ok (r', a)) (p : Path) :
    r'.slotAt? p = r.slotAt? p := by
  obtain ⟨rfl, rfl, hab, -⟩ := registerArchitype_eq ok h
  rw [slotAt?_put]
  split
  · rename_i hkey
    rw [← record_ability? r module p, hkey]
    exact congrArg (List.find? _) hab
  · rfl

/-- **Declaring a slot** leaves the one that is there, or puts the new one at its path. -/
theorem registerDeclaration_slotAt? (ok : r.Tidy) {spec : AbilitySpec} {slot : Ability}
    (h : r.registerDeclaration module key spec = .ok (r', slot)) (p : Path) :
    r'.slotAt? p =
      (r.slotAt? p).or (if p = ⟨key.kind, key.name, spec.name⟩ then some slot else none) := by
  obtain ⟨a, rfl, rfl, -, hslot, -, -, hab⟩ := registerDeclaration_eq ok h
  rw [slotAt?_put]
  by_cases hkey : p.key = a.key
  · rw [if_pos hkey, ← record_ability? r module p, hkey]
    by_cases hname : p.ability = spec.name
    · have hp : p = ⟨a.key.kind, a.key.name, spec.name⟩ := by rw [← hkey, ← hname]; rfl
      rw [if_pos hp, hname, hslot]
      rcases hab with hab | ⟨hnone, -⟩
      · have hold : (r.record module a.key).ability? spec.name = some slot :=
          (congrArg (List.find? _) hab.symm).trans hslot
        rw [hold, Option.some_or]
      · rw [hnone, Option.none_or]
    · have hp : ¬p = ⟨a.key.kind, a.key.name, spec.name⟩ := fun hp => hname (by rw [hp])
      rw [if_neg hp, Option.or_none]
      unfold Architype.ability?
      rcases hab with hab | ⟨-, hnew, -, -, hab⟩
      · rw [hab]
      · have hne : ¬slot.name = p.ability := fun heq => hname (heq.symm.trans hnew)
        rw [hab, List.find?_append, List.find?_singleton]
        simp [hne]
  · rw [if_neg hkey, if_neg (fun hp => hkey (by rw [hp]; rfl)), Option.or_none]

/-- A slot that was not there comes from the module that declares it. -/
theorem registerDeclaration_declModule (ok : r.Tidy) {spec : AbilitySpec} {slot : Ability}
    (h : r.registerDeclaration module key spec = .ok (r', slot))
    (hnone : r.slotAt? ⟨key.kind, key.name, spec.name⟩ = none) : slot.declModule = module := by
  rw [← record_ability? r module] at hnone
  unfold registerDeclaration at h
  cases ha : r.registerArchitype module key ⟨[], [], false⟩ with
  | error e => rw [ha] at h; cases h
  | ok res =>
    obtain ⟨r₁, a⟩ := res
    obtain ⟨-, -, hab, -⟩ := registerArchitype_eq ok ha
    have hnone' : a.ability? spec.name = none := (congrArg (List.find? _) hab).trans hnone
    rw [ha] at h
    simp only [bind, Except.bind, hnone'] at h
    obtain ⟨-, h⟩ := of_ite_error h
    cases h
    rfl

/-- The slot that a call declares, with the module that does and whether it is abstract. -/
def Call.slot? : Call → Option (Path × String × Bool)
  | .declaration module key spec =>
    some (⟨key.kind, key.name, spec.name⟩, module, spec.isAbstract)
  | _ => none

/-- The record that a call is about. -/
def Call.record? : Call → Option ArchKey
  | .architype _ key _ => some key
  | .declaration _ key _ => some key
  | _ => none

/-- **A slot is there** as it was, or as the first call that declares it has it. -/
theorem Accepts.slotAt? (ok : r.Tidy) (h : Accepts r cs r') (p : Path) :
    (r'.slotAt? p).map (fun s => (s.declModule, s.isAbstract)) =
      ((r.slotAt? p).map fun s => (s.declModule, s.isAbstract)).or
        (((cs.filterMap Call.slot?).find? (·.1 = p)).map Prod.snd) := by
  induction h with
  | nil => simp
  | architype ha _ ih =>
    rw [ih (ok.registerArchitype ha), registerArchitype_slotAt? ok ha]
    rfl
  | @declaration r r' _ cs module key spec slot hd _ ih =>
    rw [ih (ok.registerDeclaration hd), registerDeclaration_slotAt? ok hd]
    have hdecl : ((Call.declaration module key spec :: cs).filterMap Call.slot?) =
        (⟨key.kind, key.name, spec.name⟩, module, spec.isAbstract) ::
          cs.filterMap Call.slot? := rfl
    rw [hdecl]
    by_cases hp : p = ⟨key.kind, key.name, spec.name⟩
    · rw [if_pos hp, List.find?_cons_of_pos (by simp [hp])]
      obtain ⟨-, -, -, -, -, -, habs, -⟩ := registerDeclaration_eq ok hd
      cases hs : r.slotAt? p with
      | some s => rfl
      | none =>
        have hmod := registerDeclaration_declModule ok hd (hp ▸ hs)
        simp [hmod, habs]
    · rw [if_neg hp, Option.or_none, List.find?_cons_of_neg (by simpa using Ne.symm hp)]
  | definition hd _ ih =>
    rw [ih (ok.registerDefinition hd)]
    obtain ⟨b, rfl, ⟨old, -, -, -, rfl⟩ | ⟨-, rfl⟩⟩ := registerDefinition_eq hd
    · rfl
    · rfl

/-- **A record is there** if it was, or if a call was about it. -/
theorem Accepts.isSome_find? (ok : r.Tidy) (h : Accepts r cs r') (k : ArchKey) :
    (r'.find? k).isSome = true ↔ (r.find? k).isSome = true ∨ k ∈ cs.filterMap Call.record? := by
  have hput : ∀ (r : Registry) (a : Architype),
      ((r.put a).find? k).isSome = true ↔ (r.find? k).isSome = true ∨ k = a.key := fun r a => by
    rw [find?_put]
    split <;> simp [*]
  induction h with
  | nil => simp
  | @architype r r' _ cs module key spec a ha _ ih =>
    have hcs : (Call.architype module key spec :: cs).filterMap Call.record? =
        key :: cs.filterMap Call.record? := rfl
    refine (ih (ok.registerArchitype ha)).trans ?_
    obtain ⟨rfl, rfl, -⟩ := registerArchitype_eq ok ha
    rw [hput, hcs, List.mem_cons, or_assoc]
  | @declaration r r' _ cs module key spec slot hd _ ih =>
    have hcs : (Call.declaration module key spec :: cs).filterMap Call.record? =
        key :: cs.filterMap Call.record? := rfl
    refine (ih (ok.registerDeclaration hd)).trans ?_
    obtain ⟨a, rfl, rfl, -⟩ := registerDeclaration_eq ok hd
    rw [hput, hcs, List.mem_cons, or_assoc]
  | definition hd _ ih =>
    refine (ih (ok.registerDefinition hd)).trans ?_
    obtain ⟨b, rfl, ⟨old, -, -, -, rfl⟩ | ⟨-, rfl⟩⟩ := registerDefinition_eq hd
    · rfl
    · rfl

end Registry

/-! ## What modules declare -/

theorem flatMap_zipIdx {α β : Type} (f : α → List β) (xs : List α) (n : Nat) :
    (xs.zipIdx n).flatMap (fun p => f p.1) = xs.flatMap f := by
  rw [← List.flatMap_map, List.zipIdx_map_fst]

/-- The calls of a module declare its slots. -/
theorem Module.calls_slots (m : Module) :
    m.calls.filterMap Registry.Call.slot? = m.slots.map fun s => (s.1, m.name, s.2) := by
  have hslot : ∀ element d i (ab : AbilityDecl),
      (ab.calls m element d i).filterMap Registry.Call.slot? =
        [(⟨d.kind, d.name, ab.name⟩, m.name, ab.isAbstract)] := fun element d i ab => by
    unfold AbilityDecl.calls
    split <;> rfl
  have hel : ∀ el i, (Element.calls m i el).filterMap Registry.Call.slot? =
      el.slots.map fun s => (s.1, m.name, s.2) := fun el i => by
    cases el with
    | arch d =>
      unfold Element.calls Element.slots
      rw [List.filterMap_cons_none rfl, List.filterMap_flatMap]
      simp only [hslot]
      rw [flatMap_zipIdx fun ab : AbilityDecl => [((⟨d.kind, d.name, ab.name⟩ : Path), m.name,
        ab.isAbstract)], List.map_map, ← List.map_eq_flatMap]
      rfl
    | _ => rfl
  unfold Module.calls Module.slots
  rw [List.filterMap_flatMap, List.map_flatMap]
  simp only [hel]
  exact flatMap_zipIdx (fun el : Element => el.slots.map fun s => (s.1, m.name, s.2)) _ _

/-- The calls of a module are about the architypes that it declares. -/
theorem Module.calls_keys (m : Module) (k : ArchKey) :
    k ∈ m.calls.filterMap Registry.Call.record? ↔ k ∈ m.keys := by
  have hslot : ∀ element d i (ab : AbilityDecl),
      (ab.calls m element d i).filterMap Registry.Call.record? = [⟨d.kind, d.name⟩] :=
    fun element d i ab => by
      unfold AbilityDecl.calls
      split <;> rfl
  have hel : ∀ el i, k ∈ (Element.calls m i el).filterMap Registry.Call.record? ↔
      k ∈ el.keys := fun el i => by
    cases el with
    | arch d =>
      have hcalls : (Element.calls m i (.arch d)).filterMap Registry.Call.record? =
          ⟨d.kind, d.name⟩ :: (d.abilities.zipIdx.flatMap fun p =>
            p.1.calls m i d p.2).filterMap Registry.Call.record? := rfl
      have hkeys : Element.keys (.arch d) = [⟨d.kind, d.name⟩] := rfl
      rw [hcalls, hkeys, List.mem_cons, List.mem_singleton, List.filterMap_flatMap,
        List.mem_flatMap, or_iff_left_iff_imp]
      rintro ⟨p, -, hk⟩
      rw [hslot] at hk
      exact List.mem_singleton.1 hk
    | _ => rfl
  unfold Module.calls Module.keys
  rw [List.filterMap_flatMap, ← flatMap_zipIdx Element.keys m.elements 0, List.mem_flatMap,
    List.mem_flatMap]
  exact exists_congr fun p => and_congr_right fun _ => hel p.1 p.2

end GraphWalk
