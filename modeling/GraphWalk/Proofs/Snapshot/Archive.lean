import GraphWalk.Proofs.List.Distinct
import GraphWalk.Proofs.Time.Text
import GraphWalk.Snapshot.Archive

/-!
# Archives are lists of snapshots

The tables of an archive are the rows of a list of snapshots with different ids, one
snapshot after the other (`Archive.Keeps`). All rows of a new snapshot go in unless it
clashes (`Keeps.write_of_not_clashes`, `Keeps.not_clashes_of_write`), and a snapshot that
clashes leaves the tables as they were, however many of its rows went in before the refused
one (`put_of_isSome`). So after any number of savings the archive shows just the snapshots
that did not clash (`shows_of_saves`): each is read back as it was, and the list has them in
the order of their times.

That order is the order of texts. The row of a saved snapshot has the text of its time
(`snapshots_of_save`), and in the years 0 to 9999 **earlier times have smaller texts**, of one
length, each of which is read back as its time (`times_sort_as_texts`).
-/

namespace GraphWalk.Archive

section Rows

variable {α κ : Type} [DecidableEq κ] {refers : α → Bool} {key : α → κ} {table rows : List α}

/-- A row goes in if it refers to something and its key is free. -/
theorem insertRow_eq (row : α) : insertRow refers key table row =
    if refers row ∧ key row ∉ table.map key then some (table ++ [row]) else none := by
  simp only [insertRow, Bool.or_eq_true, Bool.not_eq_true', List.any_eq_true, decide_eq_true_eq,
    List.mem_map]
  grind

/-- **Rows go in** just if all refer to something and their keys are free and differ. -/
theorem insertRows_eq_none_iff : (insertRows refers key table rows).2 = none ↔
    (∀ r ∈ rows, refers r) ∧ (rows.map key).Nodup ∧ ∀ r ∈ rows, key r ∉ table.map key := by
  induction rows generalizing table with
  | nil => simp [insertRows]
  | cons row rows ih =>
    rw [insertRows, insertRow_eq]
    split_ifs with h
    · simp only [ih, List.map_append, List.map_cons, List.map_nil, List.mem_append,
        List.mem_singleton, List.forall_mem_cons, List.nodup_cons, List.mem_map]
      grind
    · simp only [List.forall_mem_cons, false_iff]
      grind

/-- Rows that all go in stand behind those of the table, in order. -/
theorem insertRows_of_none (h : (insertRows refers key table rows).2 = none) :
    insertRows refers key table rows = (table ++ rows, none) := by
  induction rows generalizing table with
  | nil => simp [insertRows]
  | cons row rows ih =>
    rw [insertRows, insertRow_eq] at h ⊢
    split_ifs at h ⊢
    · simp only at h ⊢
      rw [ih h, List.append_assoc, List.singleton_append]

end Rows

/-! ### Rows of snapshots -/

/-- What is told of each copy alone does not depend on its position. -/
theorem map_mapIdx {α β γ : Type} {f : Nat → α → β} {g : β → γ} {h : α → γ}
    (hf : ∀ i x, g (f i x) = h x) (xs : List α) : (xs.mapIdx f).map g = xs.map h :=
  List.ext_getElem (by simp) (by simp [hf])

@[simp] theorem copy_ofCopy_node (id : String) (i : Nat) (n : NodeCopy) :
    (NodeRow.ofCopy id i n).copy = n := rfl

@[simp] theorem copy_ofCopy_edge (id : String) (i : Nat) (e : EdgeCopy) :
    (EdgeRow.ofCopy id i e).copy = e := by
  obtain ⟨handle, arch, source, target, directed, fields⟩ := e
  cases directed <;> rfl

theorem map_copy_nodeRows (s : Snapshot) : (nodeRows s).map (·.copy) = s.nodes := by
  rw [nodeRows, map_mapIdx (copy_ofCopy_node s.id), List.map_id']

theorem map_copy_edgeRows (s : Snapshot) : (edgeRows s).map (·.copy) = s.edges := by
  rw [edgeRows, map_mapIdx (copy_ofCopy_edge s.id), List.map_id']

/-- The rows of each snapshot have its id, with its handles as keys, in the order of their
positions. -/
structure Laid {α : Type} (snapshotId : α → String) (seq : α → Nat) (key : α → String × String)
    (handles : Snapshot → List String) (rows : Snapshot → List α) : Prop where
  id : ∀ s, ∀ r ∈ rows s, snapshotId r = s.id
  seq : ∀ s, (rows s).Pairwise fun r r' => seq r ≤ seq r'
  keys : ∀ s, (rows s).map key = (handles s).map fun h => (s.id, h)

/-- Rows are laid so when each is made of the id, the position and the copy there. -/
theorem laid_mapIdx {α γ : Type} {snapshotId : α → String} {seq : α → Nat}
    {key : α → String × String} {ofCopy : String → Nat → γ → α} {handle : γ → String}
    (copies : Snapshot → List γ) (hid : ∀ id i x, snapshotId (ofCopy id i x) = id)
    (hseq : ∀ id i x, seq (ofCopy id i x) = i)
    (hkey : ∀ id i x, key (ofCopy id i x) = (id, handle x)) :
    Laid snapshotId seq key (fun s => (copies s).map handle)
      fun s => (copies s).mapIdx (ofCopy s.id) where
  id s r hr := by
    obtain ⟨i, hi, rfl⟩ := List.mem_mapIdx.1 hr
    exact hid s.id i _
  seq s := by
    simp only [List.pairwise_iff_getElem, List.getElem_mapIdx, hseq]
    exact fun i j _ _ hij => hij.le
  keys s := by
    rw [List.map_map]
    exact map_mapIdx (hkey s.id) (copies s)

theorem nodes_laid : Laid NodeRow.snapshotId NodeRow.seq NodeRow.key
    (fun s => s.nodes.map (·.handle)) nodeRows :=
  laid_mapIdx (·.nodes) (fun _ _ _ => rfl) (fun _ _ _ => rfl) fun _ _ _ => rfl

theorem edges_laid : Laid EdgeRow.snapshotId EdgeRow.seq EdgeRow.key
    (fun s => s.edges.map (·.handle)) edgeRows :=
  laid_mapIdx (·.edges) (fun _ _ _ => rfl) (fun _ _ _ => rfl) fun _ _ _ => rfl

section Laid

variable {α : Type} {snapshotId : α → String} {seq : α → Nat} {key : α → String × String}
  {handles : Snapshot → List String} {rows : Snapshot → List α} {kept : List Snapshot}
  {s : Snapshot}

/-- **The rows of one snapshot** are found among those of all. -/
theorem Laid.filter_flatMap (h : Laid snapshotId seq key handles rows)
    (hids : (kept.map (·.id)).Nodup) (hs : s ∈ kept) :
    (kept.flatMap rows).filter (snapshotId · = s.id) = rows s := by
  obtain ⟨before, after, rfl⟩ := List.append_of_mem hs
  -- rows carry the id of their snapshot, so those of the others are left out
  have hother : ∀ others : List Snapshot, (∀ s' ∈ others, s'.id ≠ s.id) →
      (others.flatMap rows).filter (snapshotId · = s.id) = [] := by
    intro others hne
    simp only [List.filter_eq_nil_iff, List.mem_flatMap, decide_eq_true_eq]
    rintro r ⟨s', hs', hr⟩
    rw [h.id s' r hr]
    exact hne s' hs'
  have hown : (rows s).filter (snapshotId · = s.id) = rows s :=
    List.filter_eq_self.2 fun r hr => decide_eq_true (h.id s r hr)
  simp only [List.map_append, List.map_cons, List.nodup_append, List.nodup_cons, List.mem_cons,
    List.mem_map] at hids
  rw [List.flatMap_append, List.flatMap_cons, List.filter_append, List.filter_append, hown,
    hother before (by grind), hother after (by grind), List.nil_append, List.append_nil]

/-- They are in order already, so sorting by position leaves them as they are. -/
theorem Laid.rowsOf_flatMap (h : Laid snapshotId seq key handles rows)
    (hids : (kept.map (·.id)).Nodup) (hs : s ∈ kept) :
    rowsOf snapshotId seq (kept.flatMap rows) s.id = rows s := by
  rw [rowsOf, h.filter_flatMap hids hs]
  exact List.mergeSort_of_pairwise ((h.seq s).imp fun hle => decide_eq_true hle)

/-- So they can be counted. -/
theorem Laid.countP_flatMap (h : Laid snapshotId seq key handles rows)
    (hids : (kept.map (·.id)).Nodup) (hs : s ∈ kept) :
    (kept.flatMap rows).countP (snapshotId · = s.id) = (rows s).length := by
  rw [List.countP_eq_length_filter, h.filter_flatMap hids hs]

/-- **The rows of a new snapshot** go into a table just if its handles differ. -/
theorem Laid.insertRows_eq_none_iff (h : Laid snapshotId seq key handles rows)
    {refers : α → Bool} (hnew : s.id ∉ kept.map (·.id))
    (hrefers : ∀ r, snapshotId r = s.id → refers r) :
    (insertRows refers key (kept.flatMap rows) (rows s)).2 = none ↔ (handles s).Nodup := by
  -- keys begin with the id, so no row of another snapshot is in the way
  have hkey : ∀ s' : Snapshot, ∀ r ∈ rows s', (key r).1 = s'.id := by
    intro s' r hr
    have hmem := List.mem_map_of_mem (f := key) hr
    rw [h.keys] at hmem
    obtain ⟨handle, -, hr⟩ := List.mem_map.1 hmem
    rw [← hr]
  have hfree : ∀ r ∈ rows s, key r ∉ (kept.flatMap rows).map key := by
    simp only [List.mem_map, List.mem_flatMap, not_exists, not_and]
    rintro r hr r' ⟨s', hs', hr'⟩ heq
    have hid : s'.id = s.id := by rw [← hkey s' r' hr', heq, hkey s r hr]
    exact hnew (List.mem_map.2 ⟨s', hs', hid⟩)
  have hrefers' : ∀ r ∈ rows s, refers r := fun r hr => hrefers r (h.id s r hr)
  have hnodup : ((rows s).map key).Nodup ↔ (handles s).Nodup := by
    rw [h.keys]
    exact List.nodup_map_iff fun _ _ heq => (Prod.mk.inj heq).2
  rw [Archive.insertRows_eq_none_iff, hnodup]
  exact ⟨fun hall => hall.2.1, fun hdiffer => ⟨hrefers', hdiffer, hfree⟩⟩

end Laid

/-! ### Saving -/

variable {a : Archive} {kept : List Snapshot} {s : Snapshot}

/-- A snapshot cannot be saved beside others: its id is taken, or two of its nodes or two of
its edges share a handle. -/
def Clashes (kept : List Snapshot) (s : Snapshot) : Prop :=
  s.id ∈ kept.map (·.id) ∨ ¬ (s.nodes.map (·.handle)).Nodup ∨ ¬ (s.edges.map (·.handle)).Nodup

instance (kept : List Snapshot) (s : Snapshot) : Decidable (Clashes kept s) :=
  inferInstanceAs (Decidable (_ ∨ _ ∨ _))

/-- The tables hold the rows of snapshots with different ids. -/
structure Keeps (a : Archive) (kept : List Snapshot) : Prop where
  snapshots : a.snapshots = kept.map .ofSnapshot
  nodes : a.nodes = kept.flatMap nodeRows
  edges : a.edges = kept.flatMap edgeRows
  ids : (kept.map (·.id)).Nodup

theorem keeps_empty : Keeps empty [] := ⟨rfl, rfl, rfl, List.nodup_nil⟩

theorem put_of_write_isSome (h : (write s a).2.isSome) : (a.put s).2.isSome := by
  unfold put transact
  split
  · rfl
  · simp_all

/-- A transaction that does not fail leaves what it has written. -/
theorem put_of_write_none {changed : Archive} (h : write s a = (changed, none)) :
    a.put s = (changed, none) := by
  rw [put, transact, h]

/-- **A transaction that fails** leaves the archive as it was. -/
theorem put_of_isSome (h : (a.put s).2.isSome) : (a.put s).1 = a := by
  unfold put transact at *
  split at h
  · rfl
  · cases h

/-- The tables with the rows of one more snapshot. -/
def extended (a : Archive) (s : Snapshot) : Archive :=
  ⟨a.snapshots ++ [.ofSnapshot s], a.nodes ++ nodeRows s, a.edges ++ edgeRows s⟩

/-- The tables keep one more snapshot, if its id is new. -/
theorem Keeps.extend (h : Keeps a kept) (hnew : s.id ∉ kept.map (·.id)) :
    Keeps (a.extended s) (kept ++ [s]) where
  snapshots := by simp [Archive.extended, h.snapshots]
  nodes := by simp [Archive.extended, h.nodes]
  edges := by simp [Archive.extended, h.edges]
  ids := by
    rw [List.map_append, List.nodup_append]
    exact ⟨h.ids, by simp, by simp_all⟩

theorem Keeps.id_free_iff (h : Keeps a kept) (s : Snapshot) :
    (SnapshotRow.ofSnapshot s).id ∉ a.snapshots.map SnapshotRow.id ↔
      s.id ∉ kept.map (·.id) := by
  rw [h.snapshots, List.map_map]
  exact Iff.rfl

/-- Rows of a snapshot refer to the row that has gone in before. -/
theorem holds_of_append (h : a.snapshots = b ++ [.ofSnapshot s]) {id : String} (hid : id = s.id) :
    a.holds id := by
  simp [holds, h, hid, SnapshotRow.ofSnapshot]

/-- After the row of a new snapshot, its nodes go in just if their handles differ, and so do
its edges. -/
theorem Keeps.insertRows_iff (h : Keeps a kept) (hnew : s.id ∉ kept.map (·.id)) {b : Archive}
    (hb : b.snapshots = a.snapshots ++ [.ofSnapshot s]) :
    ((insertRows (b.holds ·.snapshotId) NodeRow.key a.nodes (nodeRows s)).2 = none ↔
      (s.nodes.map (·.handle)).Nodup) ∧
    ((insertRows (b.holds ·.snapshotId) EdgeRow.key a.edges (edgeRows s)).2 = none ↔
      (s.edges.map (·.handle)).Nodup) := by
  rw [h.nodes, h.edges]
  exact ⟨nodes_laid.insertRows_eq_none_iff hnew fun r => holds_of_append hb,
    edges_laid.insertRows_eq_none_iff hnew fun r => holds_of_append hb⟩

/-- **A snapshot that does not clash** is written with all of its rows. -/
theorem Keeps.write_of_not_clashes (h : Keeps a kept) (hs : ¬ Clashes kept s) :
    write s a = (a.extended s, none) := by
  simp only [Clashes, not_or, not_not] at hs
  obtain ⟨hnew, hnodes, hedges⟩ := hs
  -- the row of the snapshot goes in first, and the other rows refer to it
  have hinsert : ∀ b : Archive, b.snapshots = a.snapshots ++ [.ofSnapshot s] →
      insertRows (b.holds ·.snapshotId) NodeRow.key a.nodes (nodeRows s) =
        (a.nodes ++ nodeRows s, none) ∧
      insertRows (b.holds ·.snapshotId) EdgeRow.key a.edges (edgeRows s) =
        (a.edges ++ edgeRows s, none) := fun b hb =>
    ⟨insertRows_of_none ((h.insertRows_iff hnew hb).1.2 hnodes),
      insertRows_of_none ((h.insertRows_iff hnew hb).2.2 hedges)⟩
  rw [Archive.write, insertRow_eq, if_pos ⟨rfl, (h.id_free_iff s).2 hnew⟩]
  simp only [hinsert, Archive.extended]

/-- **A snapshot that is written** does not clash. -/
theorem Keeps.not_clashes_of_write (h : Keeps a kept) (hnone : (write s a).2 = none) :
    ¬ Clashes kept s := by
  simp only [Clashes, not_or, not_not]
  rw [Archive.write, insertRow_eq] at hnone
  -- without an error each of the three tables has taken its rows
  split_ifs at hnone with hrow
  have hnew := (h.id_free_iff s).1 hrow.2
  simp only at hnone
  split at hnone
  · cases hnone
  · rename_i nodes hnodes
    split at hnone
    · cases hnone
    · rename_i edges hedges
      exact ⟨hnew, (h.insertRows_iff hnew rfl).1.1 (congrArg Prod.snd hnodes),
        (h.insertRows_iff hnew rfl).2.1 (congrArg Prod.snd hedges)⟩

/-- **A snapshot is refused** just if it clashes with those that are kept. -/
theorem Keeps.put_isSome_iff (h : Keeps a kept) : (a.put s).2.isSome ↔ Clashes kept s := by
  by_cases hs : Clashes kept s
  · refine iff_of_true (put_of_write_isSome ?_) hs
    rw [Option.isSome_iff_ne_none]
    exact fun hnone => h.not_clashes_of_write hnone hs
  · rw [put_of_write_none (h.write_of_not_clashes hs)]
    exact iff_of_false (by simp) hs

/-- The snapshots that are kept after one more is given. -/
def keep (kept : List Snapshot) (s : Snapshot) : List Snapshot :=
  if Clashes kept s then kept else kept ++ [s]

/-- **One saving** keeps the snapshot unless it clashes. -/
theorem Keeps.put (h : Keeps a kept) (s : Snapshot) : Keeps (a.put s).1 (keep kept s) := by
  unfold keep
  split_ifs with hs
  · rw [put_of_isSome (h.put_isSome_iff.2 hs)]
    exact h
  · rw [put_of_write_none (h.write_of_not_clashes hs)]
    exact h.extend fun hid => hs (.inl hid)

/-- The archive after saving snapshots one after the other, as far as they can be saved. -/
def saves (a : Archive) (ss : List Snapshot) : Archive := ss.foldl (fun a s => (a.put s).1) a

/-- **Any number of savings** keeps the snapshots that do not clash with earlier ones. -/
theorem Keeps.saves (h : Keeps a kept) (ss : List Snapshot) :
    Keeps (a.saves ss) (ss.foldl keep kept) := by
  induction ss generalizing a kept with
  | nil => exact h
  | cons s ss ih => exact ih (h.put s)

theorem mem_of_mem_foldl_keep {ss : List Snapshot} (hs : s ∈ ss.foldl keep kept) :
    s ∈ kept ∨ s ∈ ss := by
  induction ss generalizing kept with
  | nil => exact .inl hs
  | cons s' ss ih =>
    rcases ih hs with hs | hs
    · unfold keep at hs
      split_ifs at hs
      · exact .inl hs
      · rcases List.mem_append.1 hs with hs | hs
        · exact .inl hs
        · exact .inr (by simp_all)
    · exact .inr (List.mem_cons_of_mem _ hs)

/-! ### Reading back -/

theorem Keeps.row_ids (h : Keeps a kept) : (a.snapshots.map (·.id)).Nodup := by
  rw [h.snapshots, List.map_map]
  exact h.ids

/-- **A kept snapshot is read back** as it was. -/
theorem Keeps.load_of_mem (h : Keeps a kept) (hs : s ∈ kept) (ht : s.created.InRange) :
    a.load s.id = .ok s := by
  have hfind : a.snapshots.find? (·.id = s.id) = some (.ofSnapshot s) := by
    refine (find?_eq_some_of_nodup h.row_ids).2 ⟨?_, rfl⟩
    rw [h.snapshots]
    exact List.mem_map_of_mem hs
  have hnodes : rowsOf NodeRow.snapshotId NodeRow.seq a.nodes s.id = nodeRows s := by
    rw [h.nodes, nodes_laid.rowsOf_flatMap h.ids hs]
  have hedges : rowsOf EdgeRow.snapshotId EdgeRow.seq a.edges s.id = edgeRows s := by
    rw [h.edges, edges_laid.rowsOf_flatMap h.ids hs]
  simp only [load, hfind, SnapshotRow.ofSnapshot, Instant.parseFixed_fixedText ht, hnodes, hedges,
    map_copy_nodeRows, map_copy_edgeRows]

/-- An id that no kept snapshot has is not found. -/
theorem Keeps.load_of_not_mem (h : Keeps a kept) {id : String} (hid : id ∉ kept.map (·.id)) :
    a.load id = .error (.snapshotNotFound id) := by
  have hfind : a.snapshots.find? (·.id = id) = none := by
    rw [h.snapshots, List.find?_map, Option.map_eq_none_iff, List.find?_eq_none]
    intro s hs
    simp only [Function.comp_apply, SnapshotRow.ofSnapshot]
    exact fun heq => hid (List.mem_map.2 ⟨s, hs, of_decide_eq_true heq⟩)
  rw [load, hfind]

/-- What is told of a row is what is told of its snapshot. -/
theorem Keeps.infoOf_of_mem (h : Keeps a kept) (hs : s ∈ kept) (ht : s.created.InRange) :
    a.infoOf (.ofSnapshot s) = s.info := by
  have hnodes := nodes_laid.countP_flatMap h.ids hs
  have hedges := edges_laid.countP_flatMap h.ids hs
  rw [← h.nodes, nodeRows, List.length_mapIdx] at hnodes
  rw [← h.edges, edgeRows, List.length_mapIdx] at hedges
  rw [infoOf, SnapshotRow.ofSnapshot, Instant.parseFixed_fixedText ht, hnodes, hedges]
  rfl

/-- The order of the list: by falling times, and by rising ids where these are the same. -/
theorem newerFirst_iff {r s : SnapshotRow} : r.newerFirst s ↔
    s.createdAt < r.createdAt ∨ r.createdAt = s.createdAt ∧ r.id ≤ s.id := by
  simp only [SnapshotRow.newerFirst, Bool.or_eq_true, Bool.and_eq_true, Bool.not_eq_true',
    decide_eq_true_eq, decide_eq_false_iff_not, String.not_lt]

theorem newerFirst_trans (r s t : SnapshotRow) (hrs : r.newerFirst s) (hst : s.newerFirst t) :
    r.newerFirst t := by
  rw [newerFirst_iff] at *
  rcases hrs with hrs | ⟨hrs, hrs'⟩ <;> rcases hst with hst | ⟨hst, hst'⟩
  · exact .inl (String.lt_trans hst hrs)
  · exact .inl (hst ▸ hrs)
  · exact .inl (hrs ▸ hst)
  · exact .inr ⟨hrs.trans hst, String.le_trans hrs' hst'⟩

theorem newerFirst_total (r s : SnapshotRow) : r.newerFirst s || s.newerFirst r := by
  rw [Bool.or_eq_true, newerFirst_iff, newerFirst_iff]
  rcases Std.lt_trichotomy r.createdAt s.createdAt with h | h | h
  · exact .inr (.inl h)
  · exact (String.le_total r.id s.id).imp (fun hid => .inr ⟨h, hid⟩) fun hid =>
      .inr ⟨h.symm, hid⟩
  · exact .inl (.inl h)

/-- A snapshot that was made after another comes before it, and those of one time come by
their ids. -/
def Precedes (i j : SnapshotInfo) : Prop :=
  j.created.Before i.created ∨ i.created = j.created ∧ i.id < j.id

theorem Precedes.of_rows {s t : Snapshot} (hs : s.created.InRange) (ht : t.created.InRange)
    (hne : s.id ≠ t.id) (h : (SnapshotRow.ofSnapshot s).newerFirst (.ofSnapshot t)) :
    Precedes s.info t.info := by
  rcases newerFirst_iff.1 h with h | ⟨htime, hid⟩
  · exact .inl (Instant.before_of_fixedText_lt ht hs h)
  · have hlt : s.id < t.id := String.not_le.1 fun hge => hne (String.le_antisymm hid hge)
    exact .inr ⟨Instant.fixedText_inj hs ht htime, hlt⟩

/-- The archive shows just the snapshots that are kept: it refuses those that clash with them
and stays as it is then, reads each of them back as it was, and lists each of them once, the
newest first. -/
structure Shows (a : Archive) (kept : List Snapshot) : Prop where
  refused : ∀ s, (a.put s).2.isSome ↔ Clashes kept s
  unchanged : ∀ s, (a.put s).2.isSome → (a.put s).1 = a
  loaded : ∀ s ∈ kept, a.load s.id = .ok s
  notFound : ∀ id, id ∉ kept.map (·.id) → a.load id = .error (.snapshotNotFound id)
  listed : a.list.Perm (kept.map (·.info))
  once : (a.list.map (·.id)).Nodup
  ordered : a.list.Pairwise Precedes

theorem Keeps.list_perm (h : Keeps a kept) (ht : ∀ s ∈ kept, s.created.InRange) :
    a.list.Perm (kept.map (·.info)) := by
  have hinfo : (kept.map SnapshotRow.ofSnapshot).map a.infoOf = kept.map (·.info) := by
    rw [List.map_map]
    exact List.map_congr_left fun s hs => h.infoOf_of_mem hs (ht s hs)
  rw [← hinfo, ← h.snapshots]
  exact (List.mergeSort_perm _ _).map _

theorem Keeps.list_ordered (h : Keeps a kept) (ht : ∀ s ∈ kept, s.created.InRange) :
    a.list.Pairwise Precedes := by
  have hsorted := List.pairwise_mergeSort newerFirst_trans newerFirst_total a.snapshots
  have hperm := List.mergeSort_perm a.snapshots SnapshotRow.newerFirst
  have hdistinct := List.pairwise_map.1 ((hperm.map SnapshotRow.id).nodup_iff.2 h.row_ids)
  refine List.pairwise_map.2 ((hsorted.and hdistinct).imp_of_mem ?_)
  intro r r' hr hr' hboth
  rw [hperm.mem_iff, h.snapshots, List.mem_map] at hr hr'
  obtain ⟨s, hs, rfl⟩ := hr
  obtain ⟨s', hs', rfl⟩ := hr'
  rw [h.infoOf_of_mem hs (ht s hs), h.infoOf_of_mem hs' (ht s' hs')]
  exact Precedes.of_rows (ht s hs) (ht s' hs') hboth.2 hboth.1

/-- **After any number of savings** on a new archive, it shows the snapshots that did not
clash with earlier ones. -/
theorem shows_of_saves (ss : List Snapshot) (ht : ∀ s ∈ ss, s.created.InRange) :
    Shows (empty.saves ss) (ss.foldl keep []) := by
  have h := keeps_empty.saves ss
  have ht' : ∀ s ∈ ss.foldl keep [], s.created.InRange := fun s hs =>
    (mem_of_mem_foldl_keep hs).elim (fun hs => absurd hs List.not_mem_nil) (ht s)
  have hlisted := h.list_perm ht'
  refine ⟨fun s => h.put_isSome_iff, fun s => put_of_isSome, fun s hs => h.load_of_mem hs (ht' s hs),
    fun id => h.load_of_not_mem, hlisted, ?_, h.list_ordered ht'⟩
  rw [(hlisted.map _).nodup_iff, List.map_map]
  exact h.ids

/-- A logbook with two snapshots of one time and a later one, an id that comes again, and a
snapshot with two nodes of one handle. -/
def logbook : List Snapshot :=
  [⟨"s2", "evening", ⟨1700000000, 5⟩, [⟨"n1.1", "Town", "null"⟩], []⟩,
    ⟨"s1", "evening", ⟨1700000000, 5⟩, [], []⟩,
    ⟨"s3", "night", ⟨1700000000, 6⟩, [⟨"n2.1", "Town", "null"⟩, ⟨"n1.1", "Town", "null"⟩],
      [⟨"e1.1", "Road", "n1.1", "n2.1", true, "null"⟩]⟩,
    ⟨"s2", "again", ⟨1700000001, 0⟩, [], []⟩,
    ⟨"s4", "twins", ⟨1700000002, 0⟩, [⟨"n1.1", "Town", "null"⟩, ⟨"n1.1", "Town", "null"⟩], []⟩]

theorem shows_logbook : (∀ s ∈ logbook, s.created.InRange) ∧
    (logbook.foldl keep []).map (·.id) = ["s2", "s1", "s3"] ∧
    Shows (empty.saves logbook) (logbook.foldl keep []) :=
  ⟨by decide, by decide, shows_of_saves logbook (by decide)⟩

/-! ### Times as texts -/

theorem write_of_save {a' : Archive} (h : a.save s = .ok a') : write s a = (a', none) := by
  rcases hw : write s a with ⟨b, _ | e⟩
  · simp only [save, put, transact, hw, Except.ok.injEq] at h
    rw [h]
  · simp only [save, put, transact, hw, reduceCtorEq] at h

/-- **Saving a snapshot** adds its row, with the text of its time. -/
theorem snapshots_of_save {a' : Archive} (h : a.save s = .ok a') :
    a'.snapshots = a.snapshots ++ [⟨s.id, s.name, s.created.fixedText⟩] := by
  have hwrite := write_of_save h
  rw [write, insertRow_eq] at hwrite
  split_ifs at hwrite
  · simp only at hwrite
    split at hwrite
    · cases hwrite
    · split at hwrite
      · cases hwrite
      · cases hwrite
        rfl
  · cases hwrite

/-- **Times sort as texts.** A snapshot that is saved is stored with the text of its time. In the
years 0 to 9999 the text of an earlier time is smaller, byte by byte, all texts are of one
length, and each is read back as its time. -/
theorem times_sort_as_texts :
    (∀ a s a', save a s = .ok a' →
      a'.snapshots = a.snapshots ++ [⟨s.id, s.name, s.created.fixedText⟩]) ∧
    (∀ t u : Instant, t.InRange → u.InRange → t.Before u →
      Text.bytes t.fixedText.toList < Text.bytes u.fixedText.toList) ∧
    (∀ t : Instant, t.InRange → (Text.bytes t.fixedText.toList).length = 30 ∧
      Instant.parseFixed t.fixedText = .ok t) ∧
    ∀ t : Instant, t.InRange ↔
      (-62167219200 ≤ t.seconds ∧ t.seconds < 253402300800) ∧ t.nanos < 1000000000 :=
  ⟨fun _ _ _ => snapshots_of_save, fun _ _ ht hu h => Text.bytes_lt_iff.2
    (Instant.fixedText_lt ht hu h), fun _ ht => ⟨ht.length_bytes_fixedText,
    Instant.parseFixed_fixedText ht⟩, fun _ => Instant.inRange_iff⟩

/-- The last instant of a leap year against the first of the next year. -/
theorem new_year_sorts_as_text :
    (∃ a', save empty ⟨"s", "eve", ⟨1735689599, 999999999⟩, [], []⟩ = .ok a' ∧
      a'.snapshots = [⟨"s", "eve", "2024-12-31T23:59:59.999999999Z"⟩]) ∧
    Text.bytes "2024-12-31T23:59:59.999999999Z".toList <
      Text.bytes "2025-01-01T00:00:00.000000000Z".toList ∧
    Instant.parseFixed "0000-01-01T00:00:00.000000000Z" = .ok ⟨-62167219200, 0⟩ := by
  obtain ⟨hrow, hlt, hback, -⟩ := times_sort_as_texts
  have heve : (⟨1735689599, 999999999⟩ : Instant).InRange := by decide
  have hnew : (⟨1735689600, 0⟩ : Instant).InRange := by decide
  have hfirst : (⟨-62167219200, 0⟩ : Instant).InRange := by decide
  have heveText : (⟨1735689599, 999999999⟩ : Instant).fixedText =
      "2024-12-31T23:59:59.999999999Z" := by decide
  have hnewText : (⟨1735689600, 0⟩ : Instant).fixedText = "2025-01-01T00:00:00.000000000Z" := by
    decide
  have hfirstText : (⟨-62167219200, 0⟩ : Instant).fixedText =
      "0000-01-01T00:00:00.000000000Z" := by decide
  refine ⟨⟨_, rfl, ?_⟩, ?_, ?_⟩
  · rw [hrow empty ⟨"s", "eve", ⟨1735689599, 999999999⟩, [], []⟩ _ rfl, heveText]
    rfl
  · rw [← heveText, ← hnewText]
    exact hlt _ _ heve hnew (.inl (by decide))
  · rw [← hfirstText]
    exact (hback _ hfirst).2

end GraphWalk.Archive
