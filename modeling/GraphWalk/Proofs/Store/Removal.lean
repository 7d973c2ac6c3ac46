import GraphWalk.Proofs.Store.Deletion
import GraphWalk.Proofs.Store.Hops

/-!
# Deleting one after the other

`Cleared s t hs` says that `t` is `s` without the handles `hs` and the edges at them. Items that
nothing holds on to can be deleted in any order: no deletion takes another target along or holds
it (`Cleared.occupied_iff`, `Cleared.item`), and what several deletions remove adds up
(`Cleared.trans`).

Main results: `OK.deleteEach_free` and `OK.deleteEach_held`. **Deletions go on** up to the first
target that is occupied.
-/

namespace GraphWalk

namespace Store

variable {s t u : Store} {h k v : Handle} {hs hs' : List Handle} {x : Node} {e : Edge}
  {created : List Handle} {n m : Nat} {f : HopFilter} {hops : List Hop}

/-- Deletes items in order, up to the first deletion that is refused. -/
def deleteEach (s : Store) : List Handle → Store × Option StoreError
  | [] => (s, none)
  | h :: rest => match s.delete h with
    | .ok t => t.deleteEach rest
    | .error err => (s, some err)

/-- The item, or an edge at it, is pinned. -/
def Occupied (s : Store) (h : Handle) : Prop := ∃ k ∈ s.pins, k = h ∨ s.touches h k = true

/-- The edges that go with `hs`: those among them, and those that have one of them as an end. -/
def cuts (hs : List Handle) (e : Edge) : Bool :=
  hs.contains e.id || hs.contains e.source || hs.contains e.target

theorem cuts_iff : cuts hs e = true ↔ ∃ h ∈ hs, e.id = h ∨ e.source = h ∨ e.target = h := by
  unfold cuts
  simp only [Bool.or_eq_true, List.contains_iff_mem, or_assoc]
  constructor
  · rintro (hm | hm | hm)
    · exact ⟨_, hm, Or.inl rfl⟩
    · exact ⟨_, hm, Or.inr (Or.inl rfl)⟩
    · exact ⟨_, hm, Or.inr (Or.inr rfl)⟩
  · rintro ⟨h, hm, rfl | rfl | rfl⟩
    · exact Or.inl hm
    · exact Or.inr (Or.inl hm)
    · exact Or.inr (Or.inr hm)

/-- **`t` is `s` without `hs`** and the edges at them. -/
def Cleared (s t : Store) (hs : List Handle) : Prop := Without s t hs.contains (cuts hs)

/-! ## One deletion -/

/-- It does not matter how the nodes and edges are told that are gone. -/
theorem Without.congr {gone gone' : Handle → Bool} {cut cut' : Edge → Bool}
    (hw : Without s t gone cut) (ok : s.Slots n) (ok' : t.Slots m)
    (hgone : ∀ v x, s.node? v = some x → gone v = gone' v)
    (hcut : ∀ k e, s.edge? k = some e → cut e = cut' e) : Without s t gone' cut' := by
  refine ok.without ok' hw.pins (fun v => ?_) fun k => ?_
  · rw [hw.node?]
    cases hx : s.node? v with
    | none => simp
    | some x =>
      have hspared : s.spared cut x = s.spared cut' x := by
        unfold spared
        congr 1
        refine List.filter_congr fun k _ => ?_
        cases he : s.edge? k with
        | none => rfl
        | some e => rw [Option.any_some, Option.any_some, hcut k e he]
      rw [hgone v x hx, Option.map_some, Option.map_some, hspared]
  · rw [hw.edge?]
    cases he : s.edge? k with
    | none => rfl
    | some e => rw [Option.filter_some, Option.filter_some, hcut k e he]

/-- The ends of an edge are nodes. -/
theorem Joined.end_ne (hj : s.Joined created) (he : s.edge? k = some e) (hk : h.kind = .edge) :
    e.source ≠ h ∧ e.target ≠ h := by
  obtain ⟨x, hx⟩ := Option.isSome_iff_exists.1 (hj.source he)
  obtain ⟨y, hy⟩ := Option.isSome_iff_exists.1 (hj.target he)
  constructor <;> rintro rfl
  · exact absurd ((node?_eq_some.1 hx).1.symm.trans hk) nofun
  · exact absurd ((node?_eq_some.1 hy).1.symm.trans hk) nofun

theorem Joined.not_touches_edge (hj : s.Joined created) (hk : h.kind = .edge) :
    s.touches h k = false := by
  refine hj.not_touches ?_
  unfold node?
  rw [if_neg (by rw [hk]; exact nofun)]

/-- What a deletion comes to where something is removed under its own name. -/
theorem Deletes.cleared {live : Prop} {edge : Bool} {gone : Handle → Bool} {cut : Edge → Bool}
    {r : Except StoreError Store} (hd : Deletes s h live edge gone cut r) (hlive : live)
    (hremoved : ∀ k ∈ s.pins, s.Removed gone cut k ↔ k = h ∨ s.touches h k = true)
    (hcleared : ∀ t, r = .ok t → Without s t gone cut → Cleared s t [h]) :
    (¬s.Occupied h → ∃ t, r = .ok t ∧ Cleared s t [h]) ∧
      (s.Occupied h → ∃ k, r = .error (.pinned h k)) := by
  constructor
  · intro hfree
    obtain ⟨t, ht⟩ := hd.succeeds.2
      ⟨hlive, fun k hk hr => hfree ⟨k, hk, (hremoved k hk).1 hr⟩⟩
    exact ⟨t, ht, hcleared t ht (hd.removes t ht)⟩
  · rintro ⟨k, hk, hh⟩
    exact hd.pinned.2 ⟨hlive, k, hk, (hremoved k hk).2 hh⟩

/-- **A live item** is deleted with the edges at it just if it is not occupied. -/
theorem OK.delete_live (ok : s.OK n created) (hn : n < UInt32.size - 1)
    (hlive : s.contains h = true) :
    (¬s.Occupied h → ∃ t, s.delete h = .ok t ∧ Cleared s t [h]) ∧
      (s.Occupied h → ∃ k, s.delete h = .error (.pinned h k)) := by
  unfold Store.delete
  by_cases hk : h.kind = .edge
  · rw [if_pos hk]
    obtain ⟨e, he⟩ : ∃ e, s.edge? h = some e := by
      rcases contains_iff.1 hlive with hx | he
      · obtain ⟨x, hx⟩ := Option.isSome_iff_exists.1 hx
        exact absurd ((node?_eq_some.1 hx).1.symm.trans hk) nofun
      · exact Option.isSome_iff_exists.1 he
    refine (ok.deletesEdge hn h).cleared ⟨e, ok.slots.edge?_iff.1 he⟩ (fun k _ => ?_)
      fun t ht hw => ?_
    · unfold Removed
      rw [ok.joined.not_touches_edge hk, or_iff_right Bool.false_ne_true,
        or_iff_left Bool.false_ne_true, Option.any_eq_true]
      constructor
      · rintro ⟨e', he', hid⟩
        exact (ok.slots.edge_id he').symm.trans (beq_iff_eq.1 hid)
      · rintro rfl
        exact ⟨e, he, beq_iff_eq.2 (ok.slots.edge_id he)⟩
    · refine hw.congr ok.slots (ok.deleteEdge hn ht).slots (fun v x hx => ?_) fun k e' he' => ?_
      · have hne : v ≠ h := by
          rintro rfl
          exact absurd ((node?_eq_some.1 hx).1.symm.trans hk) nofun
        simp [hne]
      · obtain ⟨hs, ht⟩ := ok.joined.end_ne he' hk
        rw [Bool.eq_iff_iff, cuts_iff]
        simp [hs, ht]
  · rw [if_neg hk]
    obtain ⟨x, hx⟩ : ∃ x, s.node? h = some x := by
      rcases contains_iff.1 hlive with hx | he
      · exact Option.isSome_iff_exists.1 hx
      · obtain ⟨e, he⟩ := Option.isSome_iff_exists.1 he
        exact absurd (edge?_eq_some.1 he).1 hk
    refine (ok.deletesNode hn h).cleared ⟨x, ok.slots.node?_iff.1 hx⟩
      (fun k _ => or_congr beq_iff_eq Iff.rfl) fun t ht hw => ?_
    refine hw.congr ok.slots (ok.deleteNode hn ht).slots (fun v x hx => ?_) fun k e he => ?_
    · rw [Bool.eq_iff_iff]
      simp
    · have hne : e.id ≠ h := by
        rw [ok.slots.edge_id he]
        rintro rfl
        exact hk (edge?_eq_some.1 he).1
      rw [Bool.eq_iff_iff, cuts_iff]
      simp [hne]

/-! ## Several deletions -/

theorem cuts_append : cuts (hs ++ hs') e = (cuts hs e || cuts hs' e) := by
  rw [Bool.eq_iff_iff, Bool.or_eq_true]
  simp only [cuts_iff, List.mem_append, or_and_right, exists_or]

theorem Slots.cleared_nil (ok : s.Slots n) : Cleared s s [] := by
  refine ok.without ok rfl (fun v => ?_) fun k => ?_
  · have hspared : s.spared (cuts []) = id := by
      funext x
      unfold spared
      congr 1
      refine List.filter_eq_self.2 fun k _ => ?_
      cases s.edge? k <;> rfl
    rw [hspared, Option.map_id]
    rfl
  · cases s.edge? k <;> rfl

/-- **What is removed adds up.** -/
theorem Cleared.trans (hst : Cleared s t hs) (htu : Cleared t u hs') (ok : s.Slots n)
    (ok' : u.Slots m) : Cleared s u (hs ++ hs') := by
  refine ok.without ok' (htu.pins.trans hst.pins) (fun v => ?_) fun k => ?_
  · have hgone : (hs ++ hs').contains v = (hs.contains v || hs'.contains v) := by
      rw [Bool.eq_iff_iff, Bool.or_eq_true]
      simp only [List.contains_iff_mem, List.mem_append]
    have hspared : t.spared (cuts hs') ∘ s.spared (cuts hs) = s.spared (cuts (hs ++ hs')) := by
      funext x
      unfold spared
      simp only [Function.comp, List.filter_filter]
      congr 1
      refine List.filter_congr fun k _ => ?_
      rw [hst.edge?]
      cases s.edge? k with
      | none => rfl
      | some e =>
        rw [Option.filter_some, Option.any_some, Option.any_some, cuts_append]
        cases cuts hs e <;> simp
    rw [htu.node?, hst.node?, hgone]
    cases hs.contains v with
    | true => simp
    | false =>
      cases hs'.contains v with
      | true => rfl
      | false =>
        rw [← hspared, ← Option.map_map]
        rfl
  · rw [htu.edge?, hst.edge?, Option.filter_filter]
    congr 1
    funext e
    rw [cuts_append, Bool.not_or, Bool.and_comm]

/-- Where nothing that goes was occupied, what is left is occupied as it was. -/
theorem Cleared.occupied_iff (hst : Cleared s t hs) (ok : s.Slots n)
    (hfree : ∀ h ∈ hs, ¬s.Occupied h) : t.Occupied h ↔ s.Occupied h := by
  unfold Occupied
  rw [hst.pins]
  refine exists_congr fun k => and_congr_right fun hk => or_congr Iff.rfl ?_
  -- an edge that is pinned has stayed
  have hkept : t.edge? k = s.edge? k := by
    rw [hst.edge?]
    cases he : s.edge? k with
    | none => rfl
    | some e =>
      rw [Option.filter_some, if_pos]
      rw [Bool.not_eq_true', Bool.eq_false_iff]
      intro hcut
      obtain ⟨h', hmem, hid | hend⟩ := cuts_iff.1 hcut
      · exact hfree h' hmem ⟨k, hk, Or.inl ((ok.edge_id he).symm.trans hid)⟩
      · exact hfree h' hmem ⟨k, hk, Or.inr (touches_iff.2 ⟨e, he, hend⟩)⟩
  rw [touches_iff, touches_iff, hkept]

/-- Items of one kind do not go with each other. -/
theorem Cleared.contains (hst : Cleared s t hs) (ok : s.OK n created)
    (hkind : ∀ k ∈ hs, k.kind = h.kind) (hmem : h ∉ hs) (hlive : s.contains h = true) :
    t.contains h = true := by
  rw [contains_iff] at hlive ⊢
  rcases hlive with hx | he
  · left
    rw [hst.node?, if_neg (by simpa using hmem), Option.isSome_map]
    exact hx
  · right
    obtain ⟨e, he⟩ := Option.isSome_iff_exists.1 he
    have hedge := (edge?_eq_some.1 he).1
    rw [hst.edge?, he, Option.filter_some, if_pos, Option.isSome_some]
    rw [Bool.not_eq_true', Bool.eq_false_iff]
    intro hcut
    obtain ⟨k, hk, hid | hend⟩ := cuts_iff.1 hcut
    · rw [ok.slots.edge_id he] at hid
      exact hmem (hid ▸ hk)
    · obtain ⟨hs, ht⟩ := ok.joined.end_ne he ((hkind k hk).trans hedge)
      exact hend.elim hs ht

/-- **Items of one kind** that are not occupied are deleted one after the other. -/
theorem deleteEach_append (hn : n < UInt32.size - 1) (hs hs' : List Handle) :
    ∀ {s : Store}, s.OK n created → (hs ++ hs').Nodup →
      (∀ h ∈ hs ++ hs', s.contains h = true) →
      (∀ h ∈ hs ++ hs', ∀ k ∈ hs ++ hs', h.kind = k.kind) → (∀ h ∈ hs, ¬s.Occupied h) →
      ∃ t, t.OK n created ∧ Cleared s t hs ∧ s.deleteEach (hs ++ hs') = t.deleteEach hs' := by
  induction hs with
  | nil => exact fun ok _ _ _ _ => ⟨_, ok, ok.slots.cleared_nil, rfl⟩
  | cons h hs ih =>
    intro s ok hnodup hlive hkind hfree
    rw [List.cons_append] at hnodup hlive hkind
    obtain ⟨hnot, hnodup⟩ := List.nodup_cons.1 hnodup
    obtain ⟨t, ht, hst⟩ := (ok.delete_live hn (hlive h List.mem_cons_self)).1
      (hfree h List.mem_cons_self)
    have okt := ok.delete hn ht
    have hoccupied : ∀ k, t.Occupied k ↔ s.Occupied k := fun k =>
      hst.occupied_iff ok.slots fun h' hm => List.mem_singleton.1 hm ▸ hfree h List.mem_cons_self
    obtain ⟨u, oku, htu, hrun⟩ := ih okt hnodup
      (fun k hk => hst.contains ok
        (fun h' hm => List.mem_singleton.1 hm ▸
          hkind h List.mem_cons_self k (List.mem_cons_of_mem h hk))
        (fun hm => hnot (List.mem_singleton.1 hm ▸ hk)) (hlive k (List.mem_cons_of_mem h hk)))
      (fun k hk k' hk' => hkind k (List.mem_cons_of_mem h hk) k' (List.mem_cons_of_mem h hk'))
      (fun k hk hocc => hfree k (List.mem_cons_of_mem h hk) ((hoccupied k).1 hocc))
    refine ⟨u, oku, hst.trans htu ok.slots oku.slots, ?_⟩
    rw [List.cons_append, deleteEach, ht]
    exact hrun

/-- **Deletions of `hs`** from `s` lead to `t`: all are done, or they have stopped at the first that
is occupied. -/
structure Sweeps (s : Store) (hs : List Handle) (t : Store) (err : Option StoreError) : Prop where
  done : (∀ h ∈ hs, ¬s.Occupied h) → err = none ∧ Cleared s t hs
  stopped : ∀ before h after, hs = before ++ h :: after → (∀ k ∈ before, ¬s.Occupied k) →
    s.Occupied h → (∃ k, err = some (.pinned h k)) ∧ Cleared s t before

/-- **Deletions go on** up to the first item that is occupied. -/
theorem OK.sweeps (ok : s.OK n created) (hn : n < UInt32.size - 1) (hnodup : hs.Nodup)
    (hlive : ∀ h ∈ hs, s.contains h = true) (hkind : ∀ h ∈ hs, ∀ k ∈ hs, h.kind = k.kind) :
    Sweeps s hs (s.deleteEach hs).1 (s.deleteEach hs).2 := by
  refine ⟨fun hfree => ?_, ?_⟩
  · rw [← List.append_nil hs] at hnodup hlive hkind
    obtain ⟨t, -, hst, hrun⟩ := deleteEach_append hn hs [] ok hnodup hlive hkind hfree
    rw [List.append_nil] at hrun
    rw [hrun]
    exact ⟨rfl, hst⟩
  · rintro before h after rfl hfree hocc
    obtain ⟨t, okt, hst, hrun⟩ := deleteEach_append hn before (h :: after) ok hnodup hlive hkind
      hfree
    have hmem : h ∈ before ++ h :: after := List.mem_append_right _ List.mem_cons_self
    have hnot : h ∉ before := fun hm =>
      (List.nodup_append.1 hnodup).2.2 h hm h List.mem_cons_self rfl
    have hliveh : t.contains h = true := hst.contains ok
      (fun k hk => hkind k (List.mem_append_left _ hk) h hmem) hnot (hlive h hmem)
    obtain ⟨k, hk⟩ := (okt.delete_live hn hliveh).2 ((hst.occupied_iff ok.slots hfree).2 hocc)
    rw [hrun, deleteEach, hk]
    exact ⟨⟨k, rfl⟩, hst⟩

/-! ## The neighbours as targets -/

/-- A hop tells a live edge and a live node. -/
theorem OK.hop_live (ok : s.OK n created) (hlive : s.contains v = true)
    (hh : s.hops v f = .ok hops) {p : Hop} (hp : p ∈ hops) :
    (∃ e, s.edge? p.edge = some e) ∧ ∃ y, s.node? p.node = some y := by
  rcases contains_iff.1 hlive with hx | he
  · obtain ⟨x, hx⟩ := Option.isSome_iff_exists.1 hx
    cases hh.symm.trans (hops_node hx)
    obtain ⟨e, he, y, hy, rfl, -⟩ := (mem_hops ok hx).1 hp
    exact ⟨⟨e, ok.slots.mem_allEdges.1 he⟩, y, ok.slots.node?_iff.2 ⟨hy, rfl⟩⟩
  · obtain ⟨e, he⟩ := Option.isSome_iff_exists.1 he
    obtain ⟨hops', hh', hmem⟩ := hops_edge (f := f) ok.slots he
    cases hh.symm.trans hh'
    obtain ⟨y, hy, rfl, -⟩ := (hmem p).1 hp
    exact ⟨⟨e, by rw [ok.slots.edge_id he]; exact he⟩, y, ok.slots.node?_iff.2 ⟨hy, rfl⟩⟩

/-- The targets of a deletion among the neighbours: edges or nodes, each once, in the order in which
they are listed first. -/
def targets (edges : Bool) (hops : List Hop) : List Handle :=
  (hops.map fun p => if edges then p.edge else p.node).eraseDups

/-- **The neighbours of a live item** can be found, and deleted up to the first that is occupied. -/
theorem OK.sweeps_hops (ok : s.OK n created) (hn : n < UInt32.size - 1)
    (hlive : s.contains v = true) (edges : Bool) : ∃ hops, s.hops v f = .ok hops ∧
      Sweeps s (targets edges hops) (s.deleteEach (targets edges hops)).1
        (s.deleteEach (targets edges hops)).2 := by
  obtain ⟨inst, hinst⟩ := contains_instanceAt hlive
  obtain ⟨hops, hh⟩ : ∃ hops, s.hops v f = .ok hops := by
    unfold Store.hops
    rw [hinst]
    exact ⟨_, rfl⟩
  have htarget : ∀ h ∈ targets edges hops, s.contains h = true ∧
      h.kind = if edges then .edge else .node := by
    intro h hm
    obtain ⟨p, hp, rfl⟩ := List.mem_map.1 (List.mem_eraseDups.1 hm)
    obtain ⟨⟨e, he⟩, y, hy⟩ := ok.hop_live hlive hh hp
    cases edges with
    | true => exact ⟨contains_iff.2 (Or.inr (by rw [if_pos rfl, he]; rfl)), (edge?_eq_some.1 he).1⟩
    | false => exact ⟨contains_iff.2 (Or.inl (by rw [if_neg nofun, hy]; rfl)),
        (node?_eq_some.1 hy).1⟩
  exact ⟨hops, hh, ok.sweeps hn (nodup_eraseDups _) (fun h hm => (htarget h hm).1)
    fun h hm k hk => (htarget h hm).2.trans (htarget k hk).2.symm⟩

end Store

end GraphWalk
