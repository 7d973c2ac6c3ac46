import GraphWalk.Proofs.Store.Shift

/-!
# Handles of removed instances

The generation of a slot rises with each removal until it wraps to zero, and there it
stays: what sits in a slot of generation zero is found by no handle, so it is never
removed (`Arena.Ages`). A handle whose slot is past its generation (`Arena.Outlived`)
is therefore outlived for good.

Main result: `gone_of_run`. **Once an instance has been removed, its handle never
resolves again**, along runs of any length, through every wrap of a generation and
also where an arena has more slots than there are indices.
-/

namespace GraphWalk

namespace Arena

variable {α β : Type} {kept : α → β} {a b c : Arena α} {i g : UInt32}

/-- The slots of `a` are still there, as old as they were or older. A slot that has
reached generation zero stays there. -/
def Ages (a b : Arena α) : Prop :=
  ∀ (j : Nat) (slot : Slot α), a.slots[j]? = some slot → ∃ slot', b.slots[j]? = some slot' ∧
    (slot'.gen = 0 ∨ slot.gen ≠ 0 ∧ slot.gen ≤ slot'.gen)

/-- The slot is past a generation: it has counted on, or has wrapped to zero. -/
def Outlived (a : Arena α) (i g : UInt32) : Prop :=
  ∃ slot, a.slots[i.toNat]? = some slot ∧ (slot.gen = 0 ∨ g < slot.gen)

theorem Ages.refl (a : Arena α) : a.Ages a := by
  intro j slot hs
  refine ⟨slot, hs, ?_⟩
  by_cases h0 : slot.gen = 0
  · exact Or.inl h0
  · exact Or.inr ⟨h0, UInt32.le_refl _⟩

theorem Ages.trans (h : a.Ages b) (h' : b.Ages c) : a.Ages c := by
  intro j slot hs
  obtain ⟨slot', hs', hg⟩ := h j slot hs
  obtain ⟨slot'', hs'', hg'⟩ := h' j slot' hs'
  refine ⟨slot'', hs'', ?_⟩
  rcases hg' with hg' | ⟨h0', hle'⟩
  · exact Or.inl hg'
  · rcases hg with hg | ⟨h0, hle⟩
    · exact absurd hg h0'
    · exact Or.inr ⟨h0, UInt32.le_trans hle hle'⟩

/-- Where no generation changes, nothing ages. -/
theorem Ages.of_gen (h : ∀ (j : Nat) (slot : Slot α), a.slots[j]? = some slot →
    ∃ slot', b.slots[j]? = some slot' ∧ slot'.gen = slot.gen) : a.Ages b := by
  intro j slot hs
  obtain ⟨slot', hs', hg⟩ := h j slot hs
  obtain ⟨_, ho, hage⟩ := Ages.refl a j slot hs
  rw [hs] at ho
  cases ho
  exact ⟨slot', hs', by rw [hg]; exact hage⟩

theorem ages_update (i : UInt32) (f : α → α) : a.Ages (a.update i f) := by
  refine Ages.of_gen fun j slot hs => ?_
  simp only [update, Array.getElem?_modify]
  split
  · exact ⟨{ slot with item := slot.item.map f }, by rw [hs]; rfl, rfl⟩
  · exact ⟨slot, hs, rfl⟩

/-- An insertion leaves all generations, also where it puts its item into a slot that is
not empty because the arena has run out of indices. -/
theorem ages_insert (make : UInt32 → UInt32 → α) : a.Ages (a.insert make).1 := by
  have hfill : ∀ (b : Arena α) (i : UInt32) (x : α), b.Ages (b.fill i x) := by
    intro b i x
    refine Ages.of_gen fun j slot hs => ?_
    simp only [fill, Array.getElem?_modify]
    split
    · exact ⟨{ slot with item := some x }, by rw [hs]; rfl, rfl⟩
    · exact ⟨slot, hs, rfl⟩
  have hreserve : a.Ages a.reserve.1 := by
    unfold reserve
    split
    · exact Ages.refl a
    · refine Ages.of_gen fun j slot hs => ⟨slot, ?_, rfl⟩
      have hj := lt_size hs
      rw [Array.getElem?_push_lt hj, ← Array.getElem?_eq_getElem hj]
      exact hs
  exact hreserve.trans (hfill _ _ _)

/-- Removing what a handle names takes its slot past the handle's generation. -/
theorem outlived_remove {x : α} (hx : a.get? i g = some x) : (a.remove i).Outlived i g := by
  obtain ⟨hs, -⟩ := get?_eq_some.1 hx
  refine ⟨⟨g + 1, none⟩, by simp [remove, Array.getElem?_modify, hs], ?_⟩
  -- the largest generation wraps to zero, every other one rises
  by_cases hg : g.toNat + 1 < UInt32.size
  · refine Or.inr (UInt32.lt_iff_toNat_lt.2 ?_)
    rw [succ_toNat hg]
    exact Nat.lt_succ_self _
  · refine Or.inl (UInt32.toNat_inj.1 ?_)
    have := g.toNat_lt_size
    rw [UInt32.toNat_add, show g.toNat + UInt32.toNat 1 = UInt32.size by
      rw [UInt32.toNat_one]; omega]
    rfl

theorem ages_remove {x : α} (hx : a.get? i g = some x) : a.Ages (a.remove i) := by
  intro j slot hs
  by_cases hij : j = i.toNat
  · subst hij
    obtain ⟨hi, h0⟩ := get?_eq_some.1 hx
    rw [hi] at hs
    cases hs
    obtain ⟨slot', hs', hg⟩ := outlived_remove hx
    exact ⟨slot', hs', hg.imp id fun hlt => ⟨h0, UInt32.le_of_lt hlt⟩⟩
  · obtain ⟨_, ho, hage⟩ := Ages.refl a j slot hs
    refine ⟨slot, ?_, ?_⟩
    · simp only [remove, Array.getElem?_modify]
      rw [if_neg (Ne.symm hij)]
      exact hs
    · rw [hs] at ho
      cases ho
      exact hage

theorem Worn.ages (h : a.Worn kept b) : a.Ages b := by
  induction h with
  | refl => exact Ages.refl a
  | update i _ _ ih => exact ih.trans (ages_update i _)
  | remove _ hx ih => exact ih.trans (ages_remove hx)

/-- **What is outlived stays outlived.** -/
theorem Outlived.mono (h : a.Outlived i g) (hab : a.Ages b) : b.Outlived i g := by
  obtain ⟨slot, hs, hg⟩ := h
  obtain ⟨slot', hs', hage⟩ := hab _ slot hs
  refine ⟨slot', hs', ?_⟩
  rcases hage with h0' | ⟨h0, hle⟩
  · exact Or.inl h0'
  · rcases hg with hg | hg
    · exact absurd hg h0
    · exact Or.inr (UInt32.lt_of_lt_of_le hg hle)

/-- **What is outlived is not found.** Generation zero is found nowhere. -/
theorem Outlived.get? (h : a.Outlived i g) : a.get? i g = none := by
  obtain ⟨slot, hs, hg⟩ := h
  unfold Arena.get?
  rw [hs]
  simp only
  rw [if_neg]
  rintro ⟨rfl, h0⟩
  rcases hg with hg | hg
  · exact h0 hg
  · exact UInt32.lt_irrefl _ hg

end Arena

namespace Store

variable {s s' : Store} {h : Handle} {r : Option Handle} {as : List Architype}

/-- A change takes away the instance that `h` names: it is accepted, and deletes it or the
node at which it is listed. -/
inductive Removes (s : Store) (h : Handle) : Edit → Prop where
  | node {s' : Store} (hd : s.deleteNode h = .ok s') : Removes s h (.deleteNode h)
  | edge {s' : Store} (hd : s.deleteEdge h = .ok s') : Removes s h (.deleteEdge h)
  | delete {s' : Store} (hd : s.delete h = .ok s') : Removes s h (.delete h)
  | incident {v : Handle} {n : Node} {s' : Store} (hd : s.deleteNode v = .ok s')
      (hn : s.node? v = some n) (hm : h ∈ n.edges) (hlive : (s.edge? h).isSome = true) :
      Removes s h (.deleteNode v)
  | incidentDelete {v : Handle} {n : Node} {s' : Store} (hd : s.delete v = .ok s')
      (hn : s.node? v = some n) (hm : h ∈ n.edges) (hlive : (s.edge? h).isSome = true) :
      Removes s h (.delete v)

/-- No question about a handle is answered, and it cannot be pinned. -/
structure Gone (h : Handle) (s : Store) : Prop where
  node : s.node h = .error (.dangling false h)
  edge : s.edge h = .error (.dangling true h)
  instanceAt : s.instanceAt h = .error (.dangling (h.kind = .edge) h)
  contains : s.contains h = false
  pin : s.pin h = .error (.dangling (h.kind = .edge) h)

/-- The slot that a handle names is past the handle's generation. -/
def Outlived (h : Handle) (s : Store) : Prop :=
  (h.kind = .node → s.nodes.Outlived h.index h.gen) ∧
    (h.kind = .edge → s.edges.Outlived h.index h.gen)

/-- Every operation ages both arenas. -/
theorem Shift.ages (h : Shift as s s' r) : s.nodes.Ages s'.nodes ∧ s.edges.Ages s'.edges := by
  cases h with
  | worn hn he => exact ⟨hn.ages, he.ages⟩
  | node make _ _ hn he => exact ⟨hn ▸ Arena.ages_insert make, he ▸ Arena.Ages.refl _⟩
  | edge make _ _ hn he => exact ⟨hn.ages, he ▸ Arena.ages_insert make⟩

/-- **A run ages both arenas.** -/
theorem run_ages (ops : List Operation) :
    ∀ s : Store, s.nodes.Ages (s.run ops).nodes ∧ s.edges.Ages (s.run ops).edges := by
  induction ops with
  | nil => exact fun s => ⟨Arena.Ages.refl _, Arena.Ages.refl _⟩
  | cons op ops ih =>
    intro s
    obtain ⟨hn, he⟩ := (perform_shift s op).ages
    obtain ⟨hn', he'⟩ := ih (s.perform op)
    exact ⟨hn.trans hn', he.trans he'⟩

theorem Outlived.run (ho : s.Outlived h) (ops : List Operation) : (s.run ops).Outlived h :=
  ⟨fun hk => (ho.1 hk).mono (run_ages ops s).1, fun hk => (ho.2 hk).mono (run_ages ops s).2⟩

/-- **What is not found is gone.** -/
theorem gone_of_dead (hnode : s.node? h = none) (hedge : s.edge? h = none) : s.Gone h := by
  have hn : s.node h = .error (.dangling false h) := by unfold node; rw [hnode]
  have he : s.edge h = .error (.dangling true h) := by unfold edge; rw [hedge]
  have hi : s.instanceAt h = .error (.dangling (h.kind = .edge) h) := by
    unfold instanceAt
    by_cases hk : h.kind = .edge
    · rw [if_pos hk, he]; simp [Except.map, hk]
    · rw [if_neg hk, hn]; simp [Except.map, hk]
  refine ⟨hn, he, hi, ?_, by unfold pin; rw [hi]⟩
  rw [Bool.eq_false_iff, ne_eq, contains_iff, hnode, hedge]
  simp

/-- **A handle that is outlived is gone.** -/
theorem Outlived.gone (ho : s.Outlived h) : s.Gone h := by
  refine gone_of_dead ?_ ?_
  · unfold node?
    split
    · rename_i hk
      exact (ho.1 hk).get?
    · rfl
  · unfold edge?
    split
    · rename_i hk
      exact (ho.2 hk).get?
    · rfl

/-! ## Removals -/

theorem outlived_removeEdge {e : Edge} (he : s.edge? h = some e) : (s.removeEdge h).Outlived h := by
  obtain ⟨hk, hg⟩ := edge?_eq_some.1 he
  rcases removeEdge_edges (s := s) h with ⟨hn, -⟩ | ⟨_, -, hs⟩
  · rw [he] at hn; cases hn
  · refine ⟨fun hk' => ?_, fun _ => hs ▸ Arena.outlived_remove hg⟩
    rw [hk] at hk'
    cases hk'

/-- Of edges that are removed one after the other, each live one is outlived at the end. -/
theorem outlived_removeEdges (hs : List Handle) :
    ∀ {s : Store} {e : Edge}, h ∈ hs → s.edge? h = some e →
      (hs.foldl removeEdge s).Outlived h := by
  induction hs with
  | nil => intro s e hm; cases hm
  | cons k hs ih =>
    intro s e hm he
    by_cases hkh : k = h
    · -- it is removed now, and what is left ages its slot further
      subst hkh
      obtain ⟨hn, hed⟩ := removeEdges_worn hs (s.removeEdge k)
      have ho := outlived_removeEdge he
      exact ⟨fun hk => (ho.1 hk).mono hn.ages, fun hk => (ho.2 hk).mono hed.ages⟩
    · have hm' : h ∈ hs := by
        rcases List.mem_cons.1 hm with rfl | hm
        · exact absurd rfl hkh
        · exact hm
      refine ih (e := e) hm' ?_
      rcases removeEdge_edges (s := s) k with ⟨-, hs⟩ | ⟨x, hx, hs⟩
      · rw [hs]; exact he
      · rw [edge?_congr (t := { s with edges := s.edges.remove k.index }) hs, edge?_remove hx,
          if_neg (Ne.symm hkh)]
        exact he

theorem outlived_deleteEdge (hd : s.deleteEdge h = .ok s') : s'.Outlived h := by
  obtain ⟨hl, -, rfl⟩ := deleteEdge_eq hd
  obtain ⟨e, he⟩ := Option.isSome_iff_exists.1 hl
  exact outlived_removeEdge he

/-- Deleting a node outlives the node, and the live edges on its list. -/
theorem outlived_deleteNode {v : Handle} (hd : s.deleteNode v = .ok s') :
    s'.Outlived v ∧
      ∀ n, s.node? v = some n → ∀ k ∈ n.edges, (s.edge? k).isSome = true → s'.Outlived k := by
  obtain ⟨n, hn, -, -, rfl⟩ := deleteNode_eq hd
  have hlive := removeEdges_node? n.edges v s
  rw [hn, Option.isSome_some] at hlive
  obtain ⟨x, hx⟩ := Option.isSome_iff_exists.1 hlive
  obtain ⟨hk, hg⟩ := node?_eq_some.1 hx
  refine ⟨⟨fun _ => Arena.outlived_remove hg, fun hk' => ?_⟩, fun n' hn' k hm hc => ?_⟩
  · rw [hk] at hk'
    cases hk'
  · rw [hn] at hn'
    cases hn'
    obtain ⟨e, he⟩ := Option.isSome_iff_exists.1 hc
    refine ⟨fun hk' => ?_, (outlived_removeEdges n.edges hm he).2⟩
    rw [(edge?_eq_some.1 he).1] at hk'
    cases hk'

/-- **Whatever is removed is outlived.** -/
theorem Removes.outlived {e : Edit} (hr : s.Removes h e) : (s.edit e).Outlived h := by
  have hdelete : ∀ {v t}, s.delete v = .ok t → v.kind = .edge ∧ s.deleteEdge v = .ok t ∨
      v.kind ≠ .edge ∧ s.deleteNode v = .ok t := by
    intro v t hd
    unfold Store.delete at hd
    split at hd
    · exact Or.inl ⟨‹_›, hd⟩
    · exact Or.inr ⟨‹_›, hd⟩
  cases hr with
  | node hd =>
    rw [edit, hd]
    exact (outlived_deleteNode hd).1
  | edge hd =>
    rw [edit, hd]
    exact outlived_deleteEdge hd
  | delete hd =>
    rw [edit, hd]
    rcases hdelete hd with ⟨-, hd⟩ | ⟨-, hd⟩
    · exact outlived_deleteEdge hd
    · exact (outlived_deleteNode hd).1
  | incident hd hn hm hlive =>
    rw [edit, hd]
    exact (outlived_deleteNode hd).2 _ hn _ hm hlive
  | incidentDelete hd hn hm hlive =>
    rw [edit, hd]
    rcases hdelete hd with ⟨hk, -⟩ | ⟨-, hd⟩
    · -- what is on a node's list goes with a node only
      rw [(node?_eq_some.1 hn).1] at hk
      cases hk
    · exact (outlived_deleteNode hd).2 _ hn _ hm hlive

/-- **A removed instance never comes back**: after a removal, however many operations
follow and however often the slot is used again, the handle resolves to nothing and
cannot be pinned. -/
theorem gone_of_run (before after : List Operation) (e : Edit) (h : Handle)
    (hr : (empty.run before).Removes h e) : (empty.run (before ++ .edit e :: after)).Gone h := by
  rw [run_append]
  exact (Outlived.run hr.outlived after).gone

/-- An edge goes with one of its nodes; its slot and the node's are used again. -/
theorem gone_incident :
    let node := Architype.new "m" ⟨.node, "N"⟩
    let edge := Architype.new "m" ⟨.edge, "E"⟩
    let before : List Operation := [.edit (.createNode node []), .edit (.createNode node []),
      .edit (.createEdge edge (.node 0 1) (.node 1 1) true [])]
    let after : List Operation := [.edit (.createNode node []),
      .edit (.createEdge edge (.node 0 1) (.node 1 2) true [])]
    (empty.run before).Removes (.edge 0 1) (.delete (.node 1 1)) ∧
      (empty.run (before ++ .edit (.delete (.node 1 1)) :: after)).Gone (.edge 0 1) := by
  intro node edge before after
  have hr : (empty.run before).Removes (.edge 0 1) (.delete (.node 1 1)) :=
    .incidentDelete rfl rfl (by decide) rfl
  exact ⟨hr, gone_of_run before after (.delete (.node 1 1)) (.edge 0 1) hr⟩

end Store

end GraphWalk
