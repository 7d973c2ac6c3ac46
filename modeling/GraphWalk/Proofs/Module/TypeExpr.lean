import GraphWalk.Module.TypeExpr
import GraphWalk.Proofs.List.Related
import GraphWalk.Proofs.Value.Merged

/-!
# Types as they are written

The grammar of type expressions is a predicate on expression trees (`Spelled`), and what they
may mean is a relation to types (`Denotes`). Neither looks at how an expression is read. One step
of reading is a word, a collection of what is read from its argument, or an object of what is read
from its items (`asType_eq_ok_iff`), and the relation follows these steps.

Of the items of one key the last counts. Keys that are written differently may be composed alike,
and then the attribute has the type of one of them (`Composes`). Which one, the order decides in
which a map is visited, so an expression is read in some order as just the types that it denotes
(`denotes_iff`). It denotes one type just if keys that are composed alike always agree
(`Spelled.one_iff`, `Unmixed`).

Main result: `asType_of_grammar`. **Just the expressions of the grammar are read**, as types that
they denote; in every order as the same one just if they are unmixed; and each type is read back
from the expression that spells it (`spelling`).
-/

namespace GraphWalk.Expr

variable {e k : Expr} {ty : Ty} {key name : String} {args : List Expr} {o : MapOrders}
  {items : List (Expr × Expr)} {attrs fields entries : List (String × Ty)}

/-! ### Grammar and meaning -/

/-- The key of an item names an attribute: it is a single word, or a constant text. -/
inductive Names : Expr → String → Prop
  | word (name : String) (line : Nat) : name ≠ "" → Names (.reference name [] line) name
  | text (s : String) (line line' : Nat) :
    s ≠ "" → Names (.template [.literal (.string s) line] line') s

/-- The expression is the word `any`. -/
def IsAny (e : Expr) : Prop := ∃ line, e = .reference "any" [] line

/-- The grammar of type expressions: a word, a collection of anything but `any`, or an object
whose keys are names. Whether the last argument of a call is spread makes no difference. -/
inductive Spelled : Expr → Prop
  | word (name : String) (line : Nat) :
    name ∈ ["string", "number", "bool", "any"] → Spelled (.reference name [] line)
  | collection (name : String) (elem : Expr) (spread : Bool) (line closeLine : Nat) :
    name ∈ ["list", "map", "set"] → Spelled elem → ¬elem.IsAny →
      Spelled (.call name [elem] spread line closeLine)
  | object (items : List (Expr × Expr)) (spread : Bool) (line closeLine itemsLine : Nat) :
    (∀ item ∈ items, ∃ key, Names item.1 key) → (∀ item ∈ items, Spelled item.2) →
      Spelled (.call "object" [.object items itemsLine] spread line closeLine)

/-- The last attribute of a key has this type. -/
def Last (attrs : List (String × Ty)) (key : String) (ty : Ty) : Prop :=
  ∃ before after, attrs = before ++ (key, ty) :: after ∧ ∀ attr ∈ after, attr.1 ≠ key

/-- **The fields that attributes may be composed to.** They are in the order of their names, each
of them is the last attribute of a key that is composed to its name, and no attribute is left
out. -/
structure Composes (attrs fields : List (String × Ty)) : Prop where
  ordered : Ordered fields
  last : ∀ name ty, (name, ty) ∈ fields → ∃ key, Text.canonical key = name ∧ Last attrs key ty
  all : ∀ attr ∈ attrs, Text.canonical attr.1 ∈ fields.map (·.1)

mutual

/-- A type that an expression denotes. -/
inductive Denotes : Expr → Ty → Prop
  | string (line : Nat) : Denotes (.reference "string" [] line) .string
  | number (line : Nat) : Denotes (.reference "number" [] line) .number
  | bool (line : Nat) : Denotes (.reference "bool" [] line) .bool
  | any (line : Nat) : Denotes (.reference "any" [] line) .dynamic
  | list {elem : Expr} {ty : Ty} (spread : Bool) (line closeLine : Nat) :
    Denotes elem ty → ty ≠ .dynamic → Denotes (.call "list" [elem] spread line closeLine) (.list ty)
  | map {elem : Expr} {ty : Ty} (spread : Bool) (line closeLine : Nat) :
    Denotes elem ty → ty ≠ .dynamic → Denotes (.call "map" [elem] spread line closeLine) (.map ty)
  | set {elem : Expr} {ty : Ty} (spread : Bool) (line closeLine : Nat) :
    Denotes elem ty → ty ≠ .dynamic → Denotes (.call "set" [elem] spread line closeLine) (.set ty)
  | object {items : List (Expr × Expr)} {attrs fields : List (String × Ty)} (spread : Bool)
    (line closeLine itemsLine : Nat) : Declares items attrs → Composes attrs fields →
      Denotes (.call "object" [.object items itemsLine] spread line closeLine) (.object fields)

/-- The attributes that items declare, in their order. -/
inductive Declares : List (Expr × Expr) → List (String × Ty) → Prop
  | nil : Declares [] []
  | cons {k v : Expr} {items : List (Expr × Expr)} {key : String} {ty : Ty}
    {attrs : List (String × Ty)} : Names k key → Denotes v ty → Declares items attrs →
      Declares ((k, v) :: items) ((key, ty) :: attrs)

end

/-- What counts for a key: the value of the last item whose key names it. -/
def Counts (items : List (Expr × Expr)) (key : String) (v : Expr) : Prop :=
  ∃ before k after, items = before ++ (k, v) :: after ∧ Names k key ∧
    ∀ item ∈ after, ¬Names item.1 key

/-- **Keys that are composed alike agree**: in every object whose type counts, the types under
two different keys are the same if their names are. -/
inductive Unmixed : Expr → Prop
  | word (name : String) (line : Nat) : Unmixed (.reference name [] line)
  | collection (name : String) (elem : Expr) (spread : Bool) (line closeLine : Nat) :
    name ≠ "object" → Unmixed elem → Unmixed (.call name [elem] spread line closeLine)
  | object (items : List (Expr × Expr)) (spread : Bool) (line closeLine itemsLine : Nat) :
    (∀ key v, Counts items key v → Unmixed v) →
    (∀ key key' v v' ty ty', Counts items key v → Counts items key' v' → key ≠ key' →
      Text.canonical key = Text.canonical key' → Denotes v ty → Denotes v' ty' → ty = ty') →
      Unmixed (.call "object" [.object items itemsLine] spread line closeLine)

/-! ### One step of reading -/

theorem typeKey?_eq_some_iff : typeKey? k = some key ↔ Names k key := by
  constructor
  · intro h
    simp only [typeKey?, Option.filter_eq_some_iff, decide_eq_true_eq] at h
    obtain ⟨hk, hne⟩ := h
    split at hk
    · cases hk
      exact .word key _ hne
    · unfold constantText? at hk
      split at hk
      · cases hk
        exact .text key _ _ hne
      · cases hk
  · rintro (⟨_, _, hne⟩ | ⟨_, _, _, hne⟩) <;> simp [typeKey?, constantText?, hne]

theorem wordType?_eq_some_iff : wordType? name = some ty ↔
    name = "string" ∧ ty = .string ∨ name = "number" ∧ ty = .number ∨
      name = "bool" ∧ ty = .bool ∨ name = "any" ∧ ty = .dynamic := by
  constructor
  · intro h
    unfold wordType? at h
    split at h <;> cases h <;> simp
  · rintro (⟨rfl, rfl⟩ | ⟨rfl, rfl⟩ | ⟨rfl, rfl⟩ | ⟨rfl, rfl⟩) <;> rfl

theorem collectionType?_eq_some_iff {elem : Ty} : collectionType? name elem = some ty ↔
    name = "list" ∧ ty = .list elem ∨ name = "map" ∧ ty = .map elem ∨
      name = "set" ∧ ty = .set elem := by
  constructor
  · intro h
    unfold collectionType? at h
    split at h <;> cases h <;> simp
  · rintro (⟨rfl, rfl⟩ | ⟨rfl, rfl⟩ | ⟨rfl, rfl⟩) <;> rfl

theorem onlyArgument_eq_ok_iff : onlyArgument o args = .ok ty ↔
    ∃ elem, args = [elem] ∧ elem.asType o = .ok ty := by
  constructor
  · intro h
    unfold onlyArgument at h
    split at h
    · exact ⟨_, rfl, h⟩
    · cases h
  · rintro ⟨elem, rfl, h⟩
    exact h

theorem objectArguments_eq_ok_iff : objectArguments o args = .ok ty ↔
    ∃ items line attrs, args = [.object items line] ∧ attributeTypes o 0 items = .ok attrs ∧
      Ty.ofAttrs (o.visit [] (sortKeys attrs)) = ty := by
  constructor
  · intro h
    unfold objectArguments at h
    split at h
    · unfold objectItems at h
      split at h
      · obtain ⟨attrs, hattrs, hty⟩ := of_bind_ok h
        exact ⟨_, _, attrs, rfl, hattrs, Except.ok.inj hty⟩
      · cases h
    · cases h
  · rintro ⟨items, line, attrs, rfl, hattrs, rfl⟩
    rw [objectArguments, objectItems, hattrs]
    rfl

theorem attributeTypes_cons_iff {v : Expr} {place : Nat} :
    attributeTypes o place ((k, v) :: items) = .ok attrs ↔ ∃ key ty rest, typeKey? k = some key ∧
      v.asType (o.inside place) = .ok ty ∧ attributeTypes o (place + 1) items = .ok rest ∧
        attrs = (key, ty) :: rest := by
  rw [attributeTypes]
  constructor
  · intro h
    split at h
    · cases h
    · rename_i key hkey
      obtain ⟨ty, hty, h⟩ := of_bind_ok h
      obtain ⟨rest, hrest, h⟩ := of_bind_ok h
      exact ⟨key, ty, rest, hkey, of_mapError_ok hty, hrest, (Except.ok.inj h).symm⟩
  · rintro ⟨key, ty, rest, hkey, hty, hrest, rfl⟩
    rw [hkey, hty, hrest]
    rfl

/-- A call that is no object is a collection, of what its only argument is read as. -/
theorem asType_collection_iff {spread : Bool} {line closeLine : Nat} (hname : name ≠ "object") :
    (call name args spread line closeLine).asType o = .ok ty ↔
      ∃ elemTy, onlyArgument o args = .ok elemTy ∧ elemTy ≠ .dynamic ∧
        collectionType? name elemTy = some ty := by
  rw [asType]
  · constructor
    · intro h
      obtain ⟨elemTy, hargs, hcall⟩ := of_bind_ok h
      simp only at hcall
      split at hcall
      · cases hcall
      · rename_i hany
        split at hcall
        · rename_i hcoll
          cases hcall
          exact ⟨elemTy, hargs, by simpa using hany, hcoll⟩
        · cases hcall
    · rintro ⟨elemTy, hargs, hany, hcoll⟩
      have hdyn : (elemTy == Ty.dynamic) = false := beq_eq_false_iff_ne.2 hany
      rw [hargs]
      simp only [bind, Except.bind, hdyn, hcoll]
      rfl
  · exact hname

/-- **What is read** is a word, a collection or an object. -/
theorem asType_eq_ok_iff : e.asType o = .ok ty ↔
    (∃ name line, e = .reference name [] line ∧ wordType? name = some ty) ∨
    (∃ name elem spread line closeLine elemTy, e = .call name [elem] spread line closeLine ∧
      elem.asType o = .ok elemTy ∧ elemTy ≠ .dynamic ∧ collectionType? name elemTy = some ty) ∨
    ∃ items itemsLine spread line closeLine attrs,
      e = .call "object" [.object items itemsLine] spread line closeLine ∧
        attributeTypes o 0 items = .ok attrs ∧ Ty.ofAttrs (o.visit [] (sortKeys attrs)) = ty := by
  constructor
  · intro h
    cases e with
    | reference name steps line =>
      -- with steps behind it a word is none
      cases steps with
      | nil =>
        rw [asType] at h
        split at h
        · rename_i hword
          cases h
          exact .inl ⟨name, line, rfl, hword⟩
        · cases h
      | cons => simp [asType] at h
    | call name args spread line closeLine =>
      by_cases hname : name = "object"
      · subst hname
        rw [asType] at h
        obtain ⟨items, itemsLine, attrs, rfl, hattrs, hty⟩ := objectArguments_eq_ok_iff.1 h
        exact .inr (.inr ⟨items, itemsLine, _, _, _, attrs, rfl, hattrs, hty⟩)
      · obtain ⟨elemTy, hargs, hany, hcoll⟩ := (asType_collection_iff hname).1 h
        obtain ⟨elem, rfl, helem⟩ := onlyArgument_eq_ok_iff.1 hargs
        exact .inr (.inl ⟨name, elem, _, _, _, elemTy, rfl, helem, hany, hcoll⟩)
    | _ => simp [asType] at h
  · rintro (⟨name, line, rfl, hword⟩ | ⟨name, elem, spread, line, closeLine, elemTy, rfl, helem,
      hany, hcoll⟩ | ⟨items, itemsLine, spread, line, closeLine, attrs, rfl, hattrs, rfl⟩)
    · rw [asType, hword]
    · -- there is no collection of that name
      have hname : name ≠ "object" := by
        rintro rfl
        cases hcoll
      exact (asType_collection_iff hname).2
        ⟨elemTy, onlyArgument_eq_ok_iff.2 ⟨elem, rfl, helem⟩, hany, hcoll⟩
    · rw [asType]
      exact objectArguments_eq_ok_iff.2 ⟨items, itemsLine, attrs, rfl, hattrs, rfl⟩

/-! ### Attributes and fields -/

theorem last_iff : Last attrs key ty ↔ (key, ty) ∈ sortKeys attrs := mem_sortKeys_iff.symm

/-- Among names that are composed alike the one visited last counts. -/
theorem mem_ofAttrs_iff : (name, ty) ∈ sortKeys (entries.map fun p => (Text.canonical p.1, p.2)) ↔
    ∃ before key after, entries = before ++ (key, ty) :: after ∧ Text.canonical key = name ∧
      ∀ p ∈ after, Text.canonical p.1 ≠ name := by
  rw [mem_sortKeys_iff]
  constructor
  · rintro ⟨_, _, hmap, hafter⟩
    obtain ⟨before, rest, rfl, rfl, hrest⟩ := List.map_eq_append_iff.1 hmap
    obtain ⟨⟨key, ty'⟩, after, rfl, hattr, rfl⟩ := List.map_eq_cons_iff.1 hrest
    cases hattr
    exact ⟨before, key, after, rfl, rfl, fun p hp => hafter _ (List.mem_map_of_mem hp)⟩
  · rintro ⟨before, key, after, rfl, rfl, hafter⟩
    refine ⟨_, _, by rw [List.map_append, List.map_cons], fun p hp => ?_⟩
    obtain ⟨attr, hattr, rfl⟩ := List.mem_map.1 hp
    exact hafter attr hattr

/-- In whatever order the map is visited, its entries are composed to the fields. -/
theorem composes_of_perm (hperm : entries.Perm (sortKeys attrs))
    (hfields : Ty.ofAttrs entries = .object fields) : Composes attrs fields := by
  obtain rfl : sortKeys (entries.map fun p => (Text.canonical p.1, p.2)) = fields :=
    Ty.object.inj hfields
  refine ⟨ordered_sortKeys _, fun name ty h => ?_, fun attr h => ?_⟩
  · obtain ⟨before, key, after, rfl, hname, -⟩ := mem_ofAttrs_iff.1 h
    exact ⟨key, hname, last_iff.2 (hperm.mem_iff.1 (List.mem_append_right _ List.mem_cons_self))⟩
  · have hkey : attr.1 ∈ entries.map (·.1) := by
      rw [(hperm.map _).mem_iff, mem_keys_sortKeys]
      exact List.mem_map_of_mem h
    obtain ⟨p, hp, hpkey⟩ := List.mem_map.1 hkey
    rw [mem_keys_sortKeys, List.map_map, ← hpkey]
    exact List.mem_map_of_mem (f := fun p => Text.canonical p.1) hp

/-- **Each way to compose attributes** belongs to an order of the map: that in which the entries
that become fields are visited after the others. -/
theorem Composes.exists_perm (h : Composes attrs fields) :
    ∃ entries, entries.Perm (sortKeys attrs) ∧ Ty.ofAttrs entries = .object fields := by
  let wins (p : String × Ty) : Bool := decide ((Text.canonical p.1, p.2) ∈ fields)
  have hperm : ((sortKeys attrs).filter (fun p => !wins p) ++
      (sortKeys attrs).filter wins).Perm (sortKeys attrs) :=
    List.perm_append_comm.trans (List.filter_append_perm wins _)
  refine ⟨_, hperm, congrArg Ty.object ?_⟩
  -- under the name of a field, a winner is found, and all winners are fields
  have hback : ∀ n t, (n, t) ∈ fields → (n, t) ∈ sortKeys (((sortKeys attrs).filter
      (fun p => !wins p) ++ (sortKeys attrs).filter wins).map
        fun p => (Text.canonical p.1, p.2)) := by
    intro n t hm
    obtain ⟨key, hkey, hlast⟩ := h.last n t hm
    have hwin : (n, t) ∈ (((sortKeys attrs).filter wins).map
        fun p => (Text.canonical p.1, p.2)).reverse := by
      rw [List.mem_reverse, List.mem_map]
      refine ⟨(key, t), List.mem_filter.2 ⟨last_iff.1 hlast, decide_eq_true ?_⟩, by rw [hkey]⟩
      rw [hkey]
      exact hm
    obtain ⟨t', ht'⟩ := exists_lookupKey (List.mem_map_of_mem (f := (·.1)) hwin)
    obtain ⟨p, hp, hpair⟩ := List.mem_map.1 (List.mem_reverse.1 (mem_of_lookupKey ht'))
    have hfield := of_decide_eq_true (List.mem_filter.1 hp).2
    rw [hpair] at hfield
    obtain rfl := h.ordered.eq_of_mem hm hfield
    rw [mem_iff_lookupKey (ordered_sortKeys _).nodup, lookupKey_sortKeys, List.map_append,
      List.reverse_append, lookupKey_append, ht']
    rfl
  refine (ordered_sortKeys _).ext h.ordered fun ⟨n, t⟩ => ⟨fun hm => ?_, hback n t⟩
  obtain ⟨key, hkey, hlast⟩ := (composes_of_perm hperm rfl).last n t hm
  obtain ⟨before, after, hattrs, -⟩ := hlast
  have hname := h.all (key, t) (hattrs ▸ List.mem_append_right _ List.mem_cons_self)
  obtain ⟨⟨n', t'⟩, hfield, hn'⟩ := List.mem_map.1 hname
  obtain rfl : n' = n := hn'.trans hkey
  obtain rfl := (ordered_sortKeys _).eq_of_mem hm (hback _ t' hfield)
  exact hfield

/-! ### Orders -/

end Expr

namespace MapOrders

/-- Orders of which one visits the entries `l` of the outermost map as `entries`. -/
def visiting (o : MapOrders) (l entries : List (String × Ty)) (h : entries.Perm l) : MapOrders where
  visit
    | [], l' => if l' = l then entries else o.visit [] l'
    | place :: path, l' => o.visit (place :: path) l'
  perm
    | [], l' => by
      dsimp only
      split
      · rename_i hl
        rw [hl]
        exact h
      · exact o.perm [] l'
    | place :: path, l' => o.perm (place :: path) l'

/-- Orders with given ones inside the item at a place. -/
def within (o : MapOrders) (place : Nat) (o' : MapOrders) : MapOrders where
  visit
    | [], l => o.visit [] l
    | i :: path, l => if i = place then o'.visit path l else o.visit (i :: path) l
  perm
    | [], l => o.perm [] l
    | i :: path, l => by
      dsimp only
      split
      · exact o'.perm path l
      · exact o.perm (i :: path) l

theorem visit_visiting {o : MapOrders} {l entries : List (String × Ty)} (h : entries.Perm l) :
    (o.visiting l entries h).visit [] l = entries := if_pos rfl

theorem inside_within (o : MapOrders) (place : Nat) (o' : MapOrders) (i : Nat) :
    (o.within place o').inside i = if i = place then o' else o.inside i := by
  unfold inside within
  split
  · rename_i h
    simp only [h, if_true]
  · rename_i h
    simp only [h, if_false]

end MapOrders

namespace Expr

variable {e k : Expr} {ty : Ty} {key name : String} {args : List Expr} {o : MapOrders}
  {items : List (Expr × Expr)} {attrs fields entries : List (String × Ty)}

/-! ### Expressions and the types they denote -/

/-- Only the word `any` denotes the dynamic type. -/
theorem Denotes.isAny_iff (h : Denotes e ty) : e.IsAny ↔ ty = .dynamic := by
  constructor
  · rintro ⟨line, he⟩
    cases h <;> simp_all
  · rintro rfl
    cases h with
    | any line => exact ⟨line, rfl⟩

-- The induction is on the size of the expression: an object reads the items of its argument, which
-- is no expression to be read itself.
mutual

/-- **What is read is denoted**, in whatever order maps are visited. -/
theorem denotes_of_asType (o : MapOrders) (e : Expr) (ty : Ty) (h : e.asType o = .ok ty) :
    Denotes e ty := by
  rcases asType_eq_ok_iff.1 h with ⟨name, line, he, hword⟩ | ⟨name, elem, spread, line, closeLine,
    elemTy, he, helem, hany, hcoll⟩ | ⟨items, itemsLine, spread, line, closeLine, attrs, he,
    hattrs, hty⟩
  · rw [he]
    rcases wordType?_eq_some_iff.1 hword with ⟨rfl, rfl⟩ | ⟨rfl, rfl⟩ | ⟨rfl, rfl⟩ | ⟨rfl, rfl⟩
    · exact .string line
    · exact .number line
    · exact .bool line
    · exact .any line
  · have hsize : sizeOf elem < sizeOf e := by
      rw [he]
      simp
      omega
    have helem' := denotes_of_asType o elem elemTy helem
    rw [he]
    rcases collectionType?_eq_some_iff.1 hcoll with ⟨rfl, rfl⟩ | ⟨rfl, rfl⟩ | ⟨rfl, rfl⟩
    · exact .list spread line closeLine helem' hany
    · exact .map spread line closeLine helem' hany
    · exact .set spread line closeLine helem' hany
  · have hsize : sizeOf items < sizeOf e := by
      rw [he]
      simp
      omega
    have hitems := declares_of_attributeTypes o 0 items attrs hattrs
    rw [he, ← hty]
    exact .object spread line closeLine itemsLine hitems (composes_of_perm (o.perm [] _) rfl)
termination_by sizeOf e

theorem declares_of_attributeTypes (o : MapOrders) (place : Nat) (items : List (Expr × Expr))
    (attrs : List (String × Ty)) (h : attributeTypes o place items = .ok attrs) :
    Declares items attrs := by
  match items, h with
  | [], h =>
    cases h
    exact .nil
  | (k, v) :: items, h =>
    obtain ⟨key, ty, rest, hkey, hty, hrest, rfl⟩ := attributeTypes_cons_iff.1 h
    exact .cons (typeKey?_eq_some_iff.1 hkey) (denotes_of_asType (o.inside place) v ty hty)
      (declares_of_attributeTypes o (place + 1) items rest hrest)
termination_by sizeOf items

end

/-- Only the orders inside the items count for their types. -/
theorem attributeTypes_congr {o o' : MapOrders} (items : List (Expr × Expr)) :
    ∀ place, (∀ i, place ≤ i → o.inside i = o'.inside i) →
      attributeTypes o place items = attributeTypes o' place items := by
  induction items with
  | nil => exact fun _ _ => rfl
  | cons item items ih =>
    intro place h
    obtain ⟨k, v⟩ := item
    rw [attributeTypes, attributeTypes, h place le_rfl,
      ih (place + 1) fun i hi => h i ((Nat.le_succ place).trans hi)]

theorem attributeTypes_visiting {l : List (String × Ty)} (h : entries.Perm l) {place : Nat} :
    attributeTypes (o.visiting l entries h) place items = attributeTypes o place items :=
  attributeTypes_congr items place fun _ _ => rfl

mutual

/-- **What is denoted is read** in an order. -/
theorem Denotes.exists_orders :
    ∀ {e : Expr} {ty : Ty}, Denotes e ty → ∃ o, e.asType o = .ok ty
  | _, _, .string _ | _, _, .number _ | _, _, .bool _ | _, _, .any _ => ⟨.byKey, rfl⟩
  | _, _, .list _ _ _ helem hany | _, _, .map _ _ _ helem hany | _, _, .set _ _ _ helem hany => by
    obtain ⟨o, ho⟩ := helem.exists_orders
    exact ⟨o, asType_eq_ok_iff.2 (.inr (.inl ⟨_, _, _, _, _, _, rfl, ho, hany, rfl⟩))⟩
  | _, _, .object _ _ _ _ hitems hfields => by
    obtain ⟨o, ho⟩ := hitems.exists_orders 0
    obtain ⟨entries, hperm, hentries⟩ := hfields.exists_perm
    refine ⟨o.visiting _ entries hperm, asType_eq_ok_iff.2 (.inr (.inr
      ⟨_, _, _, _, _, _, rfl, (attributeTypes_visiting hperm).trans ho, ?_⟩))⟩
    rw [MapOrders.visit_visiting]
    exact hentries

theorem Declares.exists_orders : ∀ {items : List (Expr × Expr)} {attrs : List (String × Ty)},
    Declares items attrs → ∀ place, ∃ o, attributeTypes o place items = .ok attrs
  | _, _, .nil, _ => ⟨.byKey, rfl⟩
  | _, _, .cons hkey hv hitems, place => by
    obtain ⟨o, ho⟩ := hv.exists_orders
    obtain ⟨o', ho'⟩ := hitems.exists_orders (place + 1)
    refine ⟨o'.within place o, attributeTypes_cons_iff.2
      ⟨_, _, _, typeKey?_eq_some_iff.2 hkey, ?_, ?_, rfl⟩⟩
    · rw [MapOrders.inside_within, if_pos rfl]
      exact ho
    · rw [← ho']
      refine attributeTypes_congr _ (place + 1) fun i hi => ?_
      rw [MapOrders.inside_within, if_neg (by omega)]

end

/-- **An expression is read** in some order as just the types that it denotes. -/
theorem denotes_iff : (∃ o, e.asType o = .ok ty) ↔ Denotes e ty :=
  ⟨fun ⟨o, h⟩ => denotes_of_asType o e ty h, Denotes.exists_orders⟩

/-! ### The grammar -/

mutual

theorem Denotes.spelled : ∀ {e : Expr} {ty : Ty}, Denotes e ty → Spelled e
  | _, _, .string line => .word "string" line (by simp)
  | _, _, .number line => .word "number" line (by simp)
  | _, _, .bool line => .word "bool" line (by simp)
  | _, _, .any line => .word "any" line (by simp)
  | _, _, .list spread line closeLine helem hany =>
    .collection "list" _ spread line closeLine (by simp) helem.spelled (hany ∘ helem.isAny_iff.1)
  | _, _, .map spread line closeLine helem hany =>
    .collection "map" _ spread line closeLine (by simp) helem.spelled (hany ∘ helem.isAny_iff.1)
  | _, _, .set spread line closeLine helem hany =>
    .collection "set" _ spread line closeLine (by simp) helem.spelled (hany ∘ helem.isAny_iff.1)
  | _, _, .object spread line closeLine itemsLine hitems _ =>
    .object _ spread line closeLine itemsLine (fun item h => (hitems.spelled item h).1)
      fun item h => (hitems.spelled item h).2

theorem Declares.spelled : ∀ {items : List (Expr × Expr)} {attrs : List (String × Ty)},
    Declares items attrs → ∀ item ∈ items, (∃ key, Names item.1 key) ∧ Spelled item.2
  | _, _, .nil, _, h => absurd h List.not_mem_nil
  | _, _, .cons hkey hv hitems, item, h => by
    rcases List.mem_cons.1 h with rfl | h
    · exact ⟨⟨_, hkey⟩, hv.spelled⟩
    · exact hitems.spelled item h

end

/-- Items are read if their keys are names and their values can be read in every order. -/
theorem exists_attributeTypes (o : MapOrders) (hkeys : ∀ item ∈ items, ∃ key, Names item.1 key)
    (htypes : ∀ item ∈ items, ∀ o, ∃ ty, item.2.asType o = .ok ty) :
    ∀ place, ∃ attrs, attributeTypes o place items = .ok attrs := by
  induction items with
  | nil => exact fun _ => ⟨[], rfl⟩
  | cons item items ih =>
    intro place
    obtain ⟨key, hkey⟩ := hkeys item List.mem_cons_self
    obtain ⟨ty, hty⟩ := htypes item List.mem_cons_self (o.inside place)
    obtain ⟨attrs, hattrs⟩ := ih (fun i hi => hkeys i (List.mem_cons_of_mem _ hi))
      (fun i hi => htypes i (List.mem_cons_of_mem _ hi)) (place + 1)
    exact ⟨_, attributeTypes_cons_iff.2
      ⟨key, ty, attrs, typeKey?_eq_some_iff.2 hkey, hty, hattrs, rfl⟩⟩

/-- **Each expression of the grammar** is read, whatever the order. -/
theorem Spelled.exists_asType (h : Spelled e) : ∀ o, ∃ ty, e.asType o = .ok ty := by
  induction h with
  | word name line hname =>
    intro o
    simp only [List.mem_cons, List.not_mem_nil, or_false] at hname
    rcases hname with rfl | rfl | rfl | rfl <;> exact ⟨_, rfl⟩
  | collection name elem spread line closeLine hname _ hany ih =>
    intro o
    obtain ⟨ty, hty⟩ := ih o
    -- only the word itself denotes what `any` denotes
    have hne : ty ≠ .dynamic := fun h => hany ((denotes_of_asType o elem ty hty).isAny_iff.2 h)
    simp only [List.mem_cons, List.not_mem_nil, or_false] at hname
    rcases hname with rfl | rfl | rfl <;>
      exact ⟨_, asType_eq_ok_iff.2 (.inr (.inl ⟨_, _, _, _, _, _, rfl, hty, hne, rfl⟩))⟩
  | object items spread line closeLine itemsLine hkeys _ ih =>
    intro o
    obtain ⟨attrs, hattrs⟩ := exists_attributeTypes o hkeys ih 0
    exact ⟨_, asType_eq_ok_iff.2 (.inr (.inr ⟨_, _, _, _, _, attrs, rfl, hattrs, rfl⟩))⟩

/-! ### One type -/

section Object

variable {v v' : Expr} {spread : Bool} {line closeLine itemsLine : Nat}

/-- What an object denotes is composed of the attributes that its items declare. -/
theorem denotes_object_iff :
    Denotes (call "object" [.object items itemsLine] spread line closeLine) ty ↔
      ∃ attrs fields, Declares items attrs ∧ Composes attrs fields ∧ ty = .object fields := by
  constructor
  · intro h
    generalize he : call "object" [.object items itemsLine] spread line closeLine = e at h
    cases h with
    | object _ _ _ _ hitems hfields =>
      cases he
      exact ⟨_, _, hitems, hfields, rfl⟩
    | _ => simp at he
  · rintro ⟨attrs, fields, hitems, hfields, rfl⟩
    exact .object spread line closeLine itemsLine hitems hfields

/-- Items and attributes go together one by one. -/
theorem Declares.forall₂ (h : Declares items attrs) :
    List.Forall₂ (fun item attr => Names item.1 attr.1 ∧ Denotes item.2 attr.2) items attrs := by
  induction items generalizing attrs with
  | nil =>
    cases h
    exact .nil
  | cons item items ih =>
    cases h with
    | cons hkey hv hitems => exact .cons ⟨hkey, hv⟩ (ih hitems)

theorem declares_of_forall₂ (h : List.Forall₂
    (fun item attr => Names item.1 attr.1 ∧ Denotes item.2 attr.2) items attrs) :
    Declares items attrs := by
  induction h with
  | nil => exact .nil
  | cons hitem _ ih => exact .cons hitem.1 hitem.2 ih

/-- A key names one attribute. -/
theorem Names.eq {key' : String} (h : Names k key) (h' : Names k key') : key = key' :=
  Option.some.inj ((typeKey?_eq_some_iff.2 h).symm.trans (typeKey?_eq_some_iff.2 h'))

/-- One item counts for a key. -/
theorem Counts.eq (h : Counts items key v) (h' : Counts items key v') : v = v' := by
  obtain ⟨before, k, after, rfl, hk, hafter⟩ := h
  obtain ⟨before', k', after', heq, hk', hafter'⟩ := h'
  -- the item that comes first would be followed by one of its key
  rcases List.append_eq_append_iff.1 heq with ⟨as, -, has⟩ | ⟨as, -, has⟩
  · cases as with
    | nil =>
      cases has
      rfl
    | cons a as =>
      obtain ⟨-, rfl⟩ := List.cons.inj has
      exact absurd hk' (hafter (k', v') (List.mem_append_right _ List.mem_cons_self))
  · cases as with
    | nil =>
      cases has
      rfl
    | cons a as =>
      obtain ⟨-, rfl⟩ := List.cons.inj has
      exact absurd hk (hafter' (k, v) (List.mem_append_right _ List.mem_cons_self))

theorem Counts.mem (h : Counts items key v) : ∃ k, (k, v) ∈ items ∧ Names k key := by
  obtain ⟨before, k, after, rfl, hk, -⟩ := h
  exact ⟨k, List.mem_append_right _ List.mem_cons_self, hk⟩

/-- The last attribute of a key is what the item declares that counts for it. -/
theorem Declares.exists_counts (h : Declares items attrs) (hlast : Last attrs key ty) :
    ∃ v, Counts items key v ∧ Denotes v ty := by
  obtain ⟨before, after, rfl, hafter⟩ := hlast
  have hdrop := List.forall₂_drop_append _ _ _ h.forall₂
  obtain ⟨item, rest, ⟨hkey, hv⟩, hrest, hitems⟩ := List.forall₂_cons_right_iff.1 hdrop
  refine ⟨item.2, ⟨items.take before.length, item.1, rest, ?_, hkey, fun i hi hname => ?_⟩, hv⟩
  · rw [← hitems, List.take_append_drop]
  · obtain ⟨attr, hattr, hattrkey, -⟩ := exists_of_mem_left hrest hi
    exact hafter attr hattr (hattrkey.eq hname)

/-- **A field of an object** is what the item denotes that counts for a key composed to its
name. -/
theorem exists_counts_of_mem
    (h : Denotes (call "object" [.object items itemsLine] spread line closeLine) (.object fields))
    (hmem : (name, ty) ∈ fields) :
    ∃ key v, Text.canonical key = name ∧ Counts items key v ∧ Denotes v ty := by
  obtain ⟨attrs, _, hitems, hfields, heq⟩ := denotes_object_iff.1 h
  cases heq
  obtain ⟨key, hkey, hlast⟩ := hfields.last name ty hmem
  obtain ⟨v, hcounts, hv⟩ := hitems.exists_counts hlast
  exact ⟨key, v, hkey, hcounts, hv⟩

/-- There is a field for every item that counts. -/
theorem Counts.mem_names (hc : Counts items key v)
    (h : Denotes (call "object" [.object items itemsLine] spread line closeLine)
      (.object fields)) : Text.canonical key ∈ fields.map (·.1) := by
  obtain ⟨attrs, _, hitems, hfields, heq⟩ := denotes_object_iff.1 h
  cases heq
  obtain ⟨k, hk, hname⟩ := hc.mem
  obtain ⟨attr, hattr, hattrkey, -⟩ := exists_of_mem_left hitems.forall₂ hk
  rw [hname.eq hattrkey]
  exact hfields.all attr hattr

variable (spread line closeLine itemsLine) in
/-- **Whatever an item denotes that counts** may become the field of its name: its entry of the
map may be visited last. -/
theorem Counts.exists_field (hc : Counts items key v)
    (hkeys : ∀ item ∈ items, ∃ key, Names item.1 key) (htypes : ∀ item ∈ items, Spelled item.2)
    (hv : Denotes v ty) : ∃ fields,
      Denotes (call "object" [.object items itemsLine] spread line closeLine) (.object fields) ∧
        (Text.canonical key, ty) ∈ fields := by
  -- what the other items declare makes no difference
  have hdeclares : ∀ part ⊆ items, ∃ attrs, Declares part attrs := by
    intro part hpart
    obtain ⟨attrs, hattrs⟩ := exists_attributeTypes .byKey
      (fun item h => hkeys item (hpart h)) (fun item h => (htypes item (hpart h)).exists_asType) 0
    exact ⟨attrs, declares_of_attributeTypes _ 0 part attrs hattrs⟩
  obtain ⟨before, k, after, rfl, hk, hafter⟩ := hc
  obtain ⟨as, has⟩ := hdeclares before (List.subset_append_left _ _)
  obtain ⟨bs, hbs⟩ := hdeclares after
    (List.Subset.trans (List.subset_cons_self _ _) (List.subset_append_right _ _))
  have hlast : Last (as ++ (key, ty) :: bs) key ty := by
    refine ⟨as, bs, rfl, fun attr hattr hkey => ?_⟩
    obtain ⟨item, hitem, hname, -⟩ := exists_of_mem_right hbs.forall₂ hattr
    exact hafter item hitem (hkey ▸ hname)
  have hperm : ((sortKeys (as ++ (key, ty) :: bs)).erase (key, ty) ++ [(key, ty)]).Perm
      (sortKeys (as ++ (key, ty) :: bs)) :=
    (List.perm_append_singleton _ _).trans (List.perm_cons_erase (last_iff.1 hlast)).symm
  refine ⟨_, denotes_object_iff.2 ⟨_, _, declares_of_forall₂ (List.rel_append has.forall₂
    (.cons ⟨hk, hv⟩ hbs.forall₂)), composes_of_perm hperm rfl, rfl⟩, ?_⟩
  exact mem_ofAttrs_iff.2 ⟨_, key, [], rfl, rfl, fun _ h => absurd h List.not_mem_nil⟩

/-- **An object denotes one type** just if the items that count denote one each, and the same under
keys that are composed alike. -/
theorem object_one_iff (hkeys : ∀ item ∈ items, ∃ key, Names item.1 key)
    (htypes : ∀ item ∈ items, Spelled item.2)
    (ih : ∀ item ∈ items,
      (∀ ty ty', Denotes item.2 ty → Denotes item.2 ty' → ty = ty') ↔ Unmixed item.2) :
    (∀ ty ty', Denotes (call "object" [.object items itemsLine] spread line closeLine) ty →
      Denotes (call "object" [.object items itemsLine] spread line closeLine) ty' → ty = ty') ↔
        Unmixed (call "object" [.object items itemsLine] spread line closeLine) := by
  constructor
  · intro hone
    -- either type may become the field, and the fields of one type are in the order of their names
    have hagree : ∀ key key' v v' ty ty', Counts items key v → Counts items key' v' →
        Text.canonical key = Text.canonical key' → Denotes v ty → Denotes v' ty' → ty = ty' := by
      intro key key' v v' ty ty' hc hc' hkey hv hv'
      obtain ⟨fields, hfields, hmem⟩ :=
        hc.exists_field spread line closeLine itemsLine hkeys htypes hv
      obtain ⟨fields', hfields', hmem'⟩ :=
        hc'.exists_field spread line closeLine itemsLine hkeys htypes hv'
      obtain rfl := Ty.object.inj (hone _ _ hfields hfields')
      obtain ⟨_, _, -, hcomposes, heq⟩ := denotes_object_iff.1 hfields
      cases heq
      exact hcomposes.ordered.eq_of_mem hmem (hkey ▸ hmem')
    refine .object items spread line closeLine itemsLine (fun key v hc => ?_)
      fun key key' v v' ty ty' hc hc' _ => hagree key key' v v' ty ty' hc hc'
    obtain ⟨k, hmem, -⟩ := hc.mem
    exact (ih (k, v) hmem).1 fun ty ty' => hagree key key v v ty ty' hc hc rfl
  · intro hmixed
    generalize he : call "object" [.object items itemsLine] spread line closeLine = e at hmixed
    cases hmixed with
    | word => cases he
    | collection _ _ _ _ _ hname => exact absurd (by cases he; rfl) hname
    | object _ _ _ _ _ hinner hagree =>
      cases he
      have hsame : ∀ {key key' v v' ty ty'}, Counts items key v → Counts items key' v' →
          Text.canonical key = Text.canonical key' → Denotes v ty → Denotes v' ty' → ty = ty' := by
        intro key key' v v' ty ty' hc hc' hkey hv hv'
        by_cases h : key = key'
        · subst h
          obtain rfl := hc.eq hc'
          obtain ⟨k, hmem, -⟩ := hc.mem
          exact (ih (k, v) hmem).2 (hinner key v hc) ty ty' hv hv'
        · exact hagree key key' v v' ty ty' hc hc' h hkey hv hv'
      -- a field comes from an item, and the item that has the same name there agrees with it
      have hsub : ∀ fields fields', Denotes (call "object" [.object items itemsLine] spread line
          closeLine) (.object fields) → Denotes (call "object" [.object items itemsLine] spread line
          closeLine) (.object fields') → ∀ p ∈ fields, p ∈ fields' := by
        rintro fields fields' h h' ⟨name, ty⟩ hmem
        obtain ⟨key, v, rfl, hc, hv⟩ := exists_counts_of_mem h hmem
        obtain ⟨⟨_, ty'⟩, hmem', rfl⟩ := List.mem_map.1 (hc.mem_names h')
        obtain ⟨key', v', hkey, hc', hv'⟩ := exists_counts_of_mem h' hmem'
        rwa [hsame hc hc' hkey.symm hv hv']
      intro ty ty' h h'
      obtain ⟨_, fields, -, hfields, rfl⟩ := denotes_object_iff.1 h
      obtain ⟨_, fields', -, hfields', rfl⟩ := denotes_object_iff.1 h'
      exact congrArg Ty.object (hfields.ordered.ext hfields'.ordered fun p =>
        ⟨hsub _ _ h h' p, hsub _ _ h' h p⟩)

end Object

/-- What a collection denotes is a collection of what its argument denotes. -/
theorem denotes_collection_iff {spread : Bool} {line closeLine : Nat} {elem : Expr}
    (hname : name ≠ "object") : Denotes (call name [elem] spread line closeLine) ty ↔ ∃ elemTy,
      Denotes elem elemTy ∧ elemTy ≠ .dynamic ∧ collectionType? name elemTy = some ty := by
  simp only [← denotes_iff, asType_collection_iff hname, onlyArgument_eq_ok_iff]
  constructor
  · rintro ⟨o, elemTy, ⟨_, heq, helem⟩, h⟩
    cases heq
    exact ⟨elemTy, ⟨o, helem⟩, h⟩
  · rintro ⟨elemTy, ⟨o, helem⟩, h⟩
    exact ⟨o, elemTy, ⟨elem, rfl, helem⟩, h⟩

theorem collectionType?_inj {ty' : Ty} {t : Ty} (h : collectionType? name ty = some t)
    (h' : collectionType? name ty' = some t) : ty = ty' := by
  rcases collectionType?_eq_some_iff.1 h with ⟨rfl, rfl⟩ | ⟨rfl, rfl⟩ | ⟨rfl, rfl⟩ <;>
    cases h' <;> rfl

/-- **An expression of the grammar denotes one type** just if it is unmixed. -/
theorem Spelled.one_iff (h : Spelled e) :
    (∀ ty ty', Denotes e ty → Denotes e ty' → ty = ty') ↔ Unmixed e := by
  induction h with
  | word name line =>
    refine ⟨fun _ => .word name line, fun _ ty ty' h h' => ?_⟩
    obtain ⟨o, ho⟩ := denotes_iff.2 h
    obtain ⟨o', ho'⟩ := denotes_iff.2 h'
    exact Except.ok.inj (ho.symm.trans ho')
  | collection name elem spread line closeLine hname helem hany ih =>
    have hobject : name ≠ "object" := by
      rintro rfl
      simp at hname
    constructor
    · intro hone
      refine .collection name elem spread line closeLine hobject (ih.1 fun ty ty' h h' => ?_)
      -- different elements would make different collections
      have hcoll : ∀ ty, Denotes elem ty → ∃ t, collectionType? name ty = some t ∧
          Denotes (call name [elem] spread line closeLine) t := by
        intro ty hty
        obtain ⟨t, ht⟩ : ∃ t, collectionType? name ty = some t := by
          simp only [List.mem_cons, List.not_mem_nil, or_false] at hname
          rcases hname with rfl | rfl | rfl <;> exact ⟨_, rfl⟩
        exact ⟨t, ht, (denotes_collection_iff hobject).2
          ⟨ty, hty, fun hdyn => hany (hty.isAny_iff.2 hdyn), ht⟩⟩
      obtain ⟨t, ht, hdenotes⟩ := hcoll ty h
      obtain ⟨t', ht', hdenotes'⟩ := hcoll ty' h'
      obtain rfl := hone t t' hdenotes hdenotes'
      exact collectionType?_inj ht ht'
    · intro hmixed t t' h h'
      have helem' : Unmixed elem := by
        cases hmixed with
        | collection _ _ _ _ _ _ helem' => exact helem'
        | object => exact absurd rfl hobject
      obtain ⟨ty, hty, -, ht⟩ := (denotes_collection_iff hobject).1 h
      obtain ⟨ty', hty', -, ht'⟩ := (denotes_collection_iff hobject).1 h'
      obtain rfl := ih.2 helem' ty ty' hty hty'
      exact Option.some.inj (ht.symm.trans ht')
  | object items spread line closeLine itemsLine hkeys htypes ih =>
    exact object_one_iff hkeys htypes ih


/-! ### Types spelled out -/

mutual

/-- The expression that spells a type, on one line. Nothing spells a tuple type. -/
def spelling : Ty → Expr
  | .dynamic => .reference "any" [] 1
  | .bool => .reference "bool" [] 1
  | .number => .reference "number" [] 1
  | .string => .reference "string" [] 1
  | .list elem => .call "list" [spelling elem] false 1 1
  | .set elem => .call "set" [spelling elem] false 1 1
  | .map elem => .call "map" [spelling elem] false 1 1
  | .object attrs => .call "object" [.object (spellings attrs) 1] false 1 1
  | .tuple _ => .tuple [] 1

/-- The items that spell attributes; the keys are texts, so a name may have any characters. -/
def spellings : List (String × Ty) → List (Expr × Expr)
  | [] => []
  | (name, ty) :: attrs =>
    (.template [.literal (.string name) 1] 1, spelling ty) :: spellings attrs

end

/-- The types that have a spelling: the primitive ones, the dynamic one, collections of others
than that, and objects whose attributes have names. As in every type, attributes are in the order
of their names, which are composed. -/
inductive Spellable : Ty → Prop
  | dynamic : Spellable .dynamic
  | bool : Spellable .bool
  | number : Spellable .number
  | string : Spellable .string
  | list {elem : Ty} : Spellable elem → elem ≠ .dynamic → Spellable (.list elem)
  | set {elem : Ty} : Spellable elem → elem ≠ .dynamic → Spellable (.set elem)
  | map {elem : Ty} : Spellable elem → elem ≠ .dynamic → Spellable (.map elem)
  | object {attrs : List (String × Ty)} : Ordered attrs →
    (∀ attr ∈ attrs, Text.canonical attr.1 = attr.1) → (∀ attr ∈ attrs, attr.1 ≠ "") →
      (∀ attr ∈ attrs, Spellable attr.2) → Spellable (.object attrs)

theorem declares_spellings (hnames : ∀ attr ∈ attrs, attr.1 ≠ "")
    (htypes : ∀ attr ∈ attrs, Denotes (spelling attr.2) attr.2) :
    Declares (spellings attrs) attrs := by
  induction attrs with
  | nil => exact .nil
  | cons attr attrs ih =>
    exact .cons (.text _ 1 1 (hnames attr List.mem_cons_self)) (htypes attr List.mem_cons_self)
      (ih (fun a ha => hnames a (List.mem_cons_of_mem _ ha))
        fun a ha => htypes a (List.mem_cons_of_mem _ ha))

/-- Attributes in order, with composed names, are composed to themselves. -/
theorem composes_self (hordered : Ordered attrs)
    (hcomposed : ∀ attr ∈ attrs, Text.canonical attr.1 = attr.1) : Composes attrs attrs := by
  refine ⟨hordered, fun name ty h => ⟨name, hcomposed (name, ty) h, last_iff.2 ?_⟩,
    fun attr h => ?_⟩
  · rw [hordered.sortKeys_eq]
    exact h
  · rw [hcomposed attr h]
    exact List.mem_map_of_mem h

/-- **The spelling of a type denotes it.** -/
theorem Spellable.denotes (h : Spellable ty) : Denotes (spelling ty) ty := by
  induction h with
  | dynamic => exact .any 1
  | bool => exact .bool 1
  | number => exact .number 1
  | string => exact .string 1
  | list _ hne ih => exact .list false 1 1 ih hne
  | set _ hne ih => exact .set false 1 1 ih hne
  | map _ hne ih => exact .map false 1 1 ih hne
  | object hordered hcomposed hnames _ ih =>
    exact .object false 1 1 1 (declares_spellings hnames ih) (composes_self hordered hcomposed)

/-- An item that spells an attribute has its name for the key. -/
theorem mem_spellings {item : Expr × Expr} (h : item ∈ spellings attrs) (hkey : Names item.1 key) :
    ∃ ty, (key, ty) ∈ attrs ∧ item.2 = spelling ty := by
  induction attrs with
  | nil => cases h
  | cons attr attrs ih =>
    rcases List.mem_cons.1 h with rfl | h
    · cases hkey with
      | text => exact ⟨attr.2, List.mem_cons_self, rfl⟩
    · obtain ⟨ty, hmem, hty⟩ := ih h
      exact ⟨ty, List.mem_cons_of_mem _ hmem, hty⟩

/-- **Spellings are unmixed**: composed keys that are composed alike are one key. -/
theorem Spellable.unmixed (h : Spellable ty) : Unmixed (spelling ty) := by
  induction h with
  | dynamic => exact .word "any" 1
  | bool => exact .word "bool" 1
  | number => exact .word "number" 1
  | string => exact .word "string" 1
  | list _ _ ih => exact .collection "list" _ false 1 1 (by simp) ih
  | set _ _ ih => exact .collection "set" _ false 1 1 (by simp) ih
  | map _ _ ih => exact .collection "map" _ false 1 1 (by simp) ih
  | object _ hcomposed _ _ ih =>
    refine .object _ false 1 1 1 (fun key v hc => ?_)
      fun key key' v v' _ _ hc hc' hne hkey _ _ => ?_
    · obtain ⟨k, hmem, hname⟩ := hc.mem
      obtain ⟨ty, hty, rfl⟩ := mem_spellings hmem hname
      exact ih (key, ty) hty
    · obtain ⟨k, hmem, hname⟩ := hc.mem
      obtain ⟨k', hmem', hname'⟩ := hc'.mem
      obtain ⟨ty, hty, -⟩ := mem_spellings hmem hname
      obtain ⟨ty', hty', -⟩ := mem_spellings hmem' hname'
      rw [hcomposed _ hty, hcomposed _ hty'] at hkey
      exact absurd hkey hne

/-- In every order an expression that denotes one type is read as that type. -/
theorem Denotes.asType_eq (h : Denotes e ty) (hmixed : Unmixed e) (o : MapOrders) :
    e.asType o = .ok ty := by
  obtain ⟨ty', hty'⟩ := h.spelled.exists_asType o
  rw [hty', h.spelled.one_iff.2 hmixed ty ty' h (denotes_of_asType o e ty' hty')]

/-- **Reading types.** In whatever order maps are visited, an expression is read just if it is of
the grammar. What it is read as in some order are the types that it denotes, and it is read as one
of them in every order just if keys that are composed alike agree. In particular each type that has
a spelling is always read back from it. -/
theorem asType_of_grammar (e : Expr) (ty : Ty) :
    (∀ o : MapOrders, (∃ ty, e.asType o = .ok ty) ↔ Spelled e) ∧
    ((∃ o, e.asType o = .ok ty) ↔ Denotes e ty) ∧
    ((∀ o, e.asType o = .ok ty) ↔ Denotes e ty ∧ Unmixed e) ∧
    (Spellable ty → ∀ o, (spelling ty).asType o = .ok ty) := by
  refine ⟨fun o => ⟨fun ⟨ty, h⟩ => (denotes_of_asType o e ty h).spelled,
    fun h => h.exists_asType o⟩, denotes_iff, ⟨fun h => ?_, fun h o => h.1.asType_eq h.2 o⟩,
    fun h o => h.denotes.asType_eq h.unmixed o⟩
  have hdenotes := denotes_of_asType .byKey e ty (h _)
  refine ⟨hdenotes, hdenotes.spelled.one_iff.1 fun t t' ht ht' => ?_⟩
  -- each type that is denoted is read in some order, and so is the one that always is
  obtain ⟨o, ho⟩ := denotes_iff.2 ht
  obtain ⟨o', ho'⟩ := denotes_iff.2 ht'
  rw [h o] at ho
  rw [h o'] at ho'
  exact Except.ok.inj (ho.symm.trans ho')

/-- Of two attributes of one name the last counts, and a spread argument is as good as any. -/
example : (call "object" [.object [(.reference "a" [] 1, .reference "string" [] 1),
    (.template [.literal (.string "a") 2] 2, .call "list" [.reference "bool" [] 2] true 2 2)] 1]
    false 1 3).asType .byKey = .ok (.object [("a", .list .bool)]) := by rfl

/-- Crates by their labels, with an attribute whose name is no identifier. -/
def crates : Ty :=
  .map (.object [("gross weight", .number), ("marks", .set (.list .string)), ("note", .dynamic)])

theorem asType_of_crates : Spellable crates ∧ ∀ o, (spelling crates).asType o = .ok crates := by
  have hobject : Spellable (.object [("gross weight", .number), ("marks", .set (.list .string)),
      ("note", .dynamic)]) := by
    refine .object ?_ ?_ ?_ ?_
    · unfold Ordered
      decide
    · decide
    · decide
    · simp only [List.forall_mem_cons]
      exact ⟨.number, .set (.list .string (by simp)) (by simp), .dynamic, by simp⟩
  have h : Spellable crates := .map hobject (by simp)
  exact ⟨h, (asType_of_grammar (spelling crates) crates).2.2.2 h⟩

/-- An object with the key `K` twice, and between them the sign for kelvin. -/
def kelvins : Expr :=
  .call "object" [.object [(.reference "K" [] 1, .reference "number" [] 1),
    (.reference "\u212a" [] 1, .reference "number" [] 1),
    (.reference "K" [] 1, .reference "string" [] 1)] 1] false 1 1

/-- Every map in the order of its keys from behind. -/
def backwards : MapOrders := ⟨fun _ entries => entries.reverse, fun _ l => List.reverse_perm l⟩

/-- Of the letter and the sign the one visited last counts. -/
theorem ofAttrs_kelvin (letter sign : Ty) :
    Ty.ofAttrs [("K", letter), ("\u212a", sign)] = .object [("K", sign)] ∧
      Ty.ofAttrs [("\u212a", sign), ("K", letter)] = .object [("K", letter)] := by
  have hletter : Text.canonical "K" = "K" := by rfl
  simp only [Ty.ofAttrs, List.map_cons, List.map_nil, Text.canonical_kelvin, hletter]
  exact ⟨rfl, rfl⟩

/-- **The type depends on the order**: the last `K` is a text, but in the order of the keys the
attribute is a number. -/
theorem kelvins_mixed : Spelled kelvins ∧
    kelvins.asType .byKey = .ok (.object [("K", .number)]) ∧
    kelvins.asType backwards = .ok (.object [("K", .string)]) := by
  have hsorted : kelvins.asType .byKey =
      .ok (.ofAttrs [("K", .string), ("\u212a", .number)]) := rfl
  have hback : kelvins.asType backwards =
      .ok (.ofAttrs [("\u212a", .number), ("K", .string)]) := rfl
  rw [(ofAttrs_kelvin _ _).1] at hsorted
  rw [(ofAttrs_kelvin _ _).2] at hback
  exact ⟨(denotes_of_asType _ _ _ hsorted).spelled, hsorted, hback⟩

end GraphWalk.Expr
