import GraphWalk.Proofs.Text.Bytes
import GraphWalk.Proofs.Time.Short
import GraphWalk.Snapshot.GraphDatabase

/-!
# The list of a graph database

A snapshot that is saved is sent to the database with the short text of its time
(`filterMap_sent`). The database keeps the texts and answers the query for the list with the
records in their order, the greatest text first (`Answers`); the list is as it answers
(`list_eq_of_answers`).

Main result: `newest_first_iff`. **The list has the newest snapshot first** just if the text of
no time begins that of a later one: short texts sort like time for all other times, and the other
way round for these (`halves_misplaced`).
-/

namespace GraphWalk.GraphDatabase

variable {s : Snapshot} {database : String} {replies : List Reply}
  {saves : List (Snapshot × List Reply)}

/-! ### What the database is told -/

/-- What the database keeps of an id and a time. -/
def stored (r : String × Instant) : String × String := (r.1, r.2.shortText)

/-- The id and the time that are read from what the database keeps. -/
def restored (r : String × String) : String × Instant := (r.1, (Instant.parse? r.2).getD .zero)

theorem restored_stored {r : String × Instant} (h : r.2.InRange) : restored (stored r) = r := by
  rw [restored, stored, Instant.parse?_shortText h]
  rfl

/-- **What is kept of ids and times** is read back. -/
theorem map_restored {rows : List (String × Instant)} (h : ∀ r ∈ rows, r.2.InRange) :
    (rows.map stored).map restored = rows := by
  rw [List.map_map]
  exact (List.map_congr_left fun r hr => restored_stored (h r hr)).trans (List.map_id rows)

/-- The query that creates the node of a snapshot. -/
def createQuery : String := "CREATE (s:Snapshot \x7bid: $id, name: $name, created: $created\x7d)"

/-- What the query that creates the node of a snapshot is sent with: its id and its time. -/
def sent? : Call → Option (String × String)
  | .query .write text (some (.obj params)) =>
    if text = createQuery then some (textOf params "id", textOf params "created") else none
  | _ => none

/-- A query that succeeds is sent, and the queries behind it. -/
theorem writeAll_cons {what q : String} {params : Json} {rest : List (String × String × Json)}
    {d : Dialogue} (h : (writeAll ((what, q, params) :: rest) d).2 = .ok ()) :
    ∃ d', d'.calls = d.calls ++ [.query .write q (some params)] ∧
      writeAll ((what, q, params) :: rest) d = writeAll rest d' := by
  obtain ⟨replies, calls⟩ := d
  cases replies with
  | nil => exact ⟨_, rfl, rfl⟩
  | cons r replies =>
    cases hr : r.error with
    | some e =>
      simp only [writeAll, Dialogue.send, hr] at h
      cases h
    | none =>
      refine ⟨⟨replies, _⟩, rfl, ?_⟩
      simp only [writeAll, Dialogue.send, hr]

/-- **Queries that succeed** have all been sent, in order. -/
theorem writeAll_calls (queries : List (String × String × Json)) {d : Dialogue}
    (h : (writeAll queries d).2 = .ok ()) : (writeAll queries d).1.calls =
      d.calls ++ queries.map fun q => .query .write q.2.1 (some q.2.2) := by
  induction queries generalizing d with
  | nil => exact (List.append_nil _).symm
  | cons q rest ih =>
    obtain ⟨what, q, params⟩ := q
    obtain ⟨d', hcalls, heq⟩ := writeAll_cons h
    rw [heq] at h ⊢
    rw [ih h, hcalls, List.append_assoc]
    rfl

/-- **A snapshot that is saved** is sent once, with the short text of its time. -/
theorem filterMap_sent (h : (save database replies s).1 = .ok ()) :
    (save database replies s).2.filterMap sent? = [stored (s.id, s.created)] := by
  have hcalls := writeAll_calls (saveQueries s) h
  have hsave : (save database replies s).2 =
      (writeAll (saveQueries s) (.start replies database)).1.calls ++ [.closeSession] := rfl
  rw [hsave, hcalls]
  simp [saveQueries, Dialogue.start, List.filterMap_cons, sent?, createQuery, textOf, lookupKey,
    stored]

/-- The id and the time of a snapshot that is saved, with what the database replies. -/
def keyOf (p : Snapshot × List Reply) : String × Instant := (p.1.id, p.1.created)

/-- What the database keeps of snapshots that are saved one after the other. -/
def kept (database : String) (saves : List (Snapshot × List Reply)) : List (String × String) :=
  saves.flatMap fun p => (save database p.2 p.1).2.filterMap sent?

/-- Each of the snapshots is saved, and its time is of the years that have a text. -/
def Saved (database : String) (saves : List (Snapshot × List Reply)) : Prop :=
  ∀ p ∈ saves, (save database p.2 p.1).1 = .ok () ∧ p.1.created.InRange

theorem kept_of_saved (h : Saved database saves) :
    kept database saves = (saves.map keyOf).map stored := by
  induction saves with
  | nil => rfl
  | cons p saves ih =>
    rw [kept, List.flatMap_cons, filterMap_sent (h p List.mem_cons_self).1]
    exact congrArg _ (ih fun q hq => h q (List.mem_cons_of_mem p hq))

/-! ### What the database answers -/

/-- The id and the time in a record. -/
def rowOf (r : Record) : String × String := (textOf r "id", textOf r "created")

/-- The order of the query for the list: by the text of the time, the greatest first, and then by
the id. Texts are compared by their bytes. -/
def Sorted (r r' : String × String) : Prop :=
  Text.bytes r'.2.toList < Text.bytes r.2.toList ∨
    r.2 = r'.2 ∧ Text.bytes r.1.toList ≤ Text.bytes r'.1.toList

/-- The database answers the query for the list: there is a record for each row it keeps, and they
are in the order of the query. -/
structure Answers (rows : List (String × String)) (reply : Reply) : Prop where
  error : reply.error = none
  nextError : reply.nextError = none
  perm : (reply.records.map rowOf).Perm rows
  sorted : (reply.records.map rowOf).Pairwise Sorted

/-- A row with a lesser text does not come first. -/
theorem not_sorted_of_lt {r r' : String × String}
    (h : Text.bytes r.2.toList < Text.bytes r'.2.toList) : ¬ Sorted r r' := by
  rintro (hs | ⟨hs, -⟩)
  · exact List.lt_asymm hs h
  · rw [hs] at h
    exact List.lt_irrefl _ h

/-- **The list is as the database answers.** -/
theorem list_eq_of_answers {rows : List (String × String)} {reply : Reply}
    (h : Answers rows reply) :
    (list database (reply :: replies)).1 = .ok (reply.records.map infoOf) := by
  simp only [list, readAll, Dialogue.start, Dialogue.send, h.error, h.nextError]
  rfl

/-- **The order of the texts**, by their bytes. -/
theorem bytes_shortText {t u : Instant} (ht : t.InRange) (hu : u.InRange) (h : t.Before u) :
    (Text.bytes t.shortText.toList < Text.bytes u.shortText.toList ↔ ¬ t.Begins u) ∧
      (t.Begins u → Text.bytes u.shortText.toList < Text.bytes t.shortText.toList) := by
  rw [Text.bytes_lt_iff, Text.bytes_lt_iff]
  exact Instant.shortText_lt_iff ht hu h

/-- One snapshot is not listed before another one that is later. -/
def InOrder (i j : String × Instant) : Prop := ¬ i.2.Before j.2

/-- Two elements of a list are in one of both orders. -/
theorem related_of_mem {α : Type} {R : α → α → Prop} {l : List α} {a b : α} (h : l.Pairwise R)
    (ha : a ∈ l) (hb : b ∈ l) (hne : a ≠ b) : R a b ∨ R b a :=
  have : Std.Symm fun a b => R a b ∨ R b a := ⟨fun _ _ => Or.symm⟩
  (h.imp (S := fun a b => R a b ∨ R b a) Or.inl).forall ha hb hne

/-- **Rows of a time each, sorted by their texts**, have the newest first just if no text begins
that of a later time. -/
theorem pairwise_inOrder_iff {rows : List (String × Instant)} (hrange : ∀ r ∈ rows, r.2.InRange)
    (hsorted : (rows.map stored).Pairwise Sorted) :
    rows.Pairwise InOrder ↔
      ∀ r ∈ rows, ∀ r' ∈ rows, r.2.Before r'.2 → ¬ r.2.Begins r'.2 := by
  rw [List.pairwise_map] at hsorted
  constructor
  · intro horder r hr r' hr' hbefore hbegins
    have hlt := (bytes_shortText (hrange r hr) (hrange r' hr') hbefore).2 hbegins
    have hnot : ¬ Sorted (stored r') (stored r) := not_sorted_of_lt hlt
    have hne : r ≠ r' := by
      rintro rfl
      exact List.lt_irrefl _ hlt
    -- the two rows are in one of both orders, and each is against one of the two lists
    rcases related_of_mem (horder.and hsorted) hr hr' hne with ⟨ho, -⟩ | ⟨-, hs⟩
    · exact ho hbefore
    · exact hnot hs
  · intro hno
    refine hsorted.imp_of_mem fun {r r'} hr hr' hs hbefore => ?_
    have hlt := (bytes_shortText (hrange r hr) (hrange r' hr') hbefore).1.2
      (hno r hr r' hr' hbefore)
    exact (show ¬ Sorted (stored r) (stored r') from not_sorted_of_lt hlt) hs

/-- **The list has the newest first** just if no time begins a later one. The text of each time is
sent when its snapshot is saved; the text of an earlier time comes first unless it begins the
later time, and behind it if it does. The list has the ids and the times of all snapshots. -/
theorem newest_first_iff {reply : Reply} (hsaved : Saved database saves)
    (hreply : Answers (kept database saves) reply) :
    (∀ p ∈ saves, (save database p.2 p.1).2.filterMap sent? = [(p.1.id, p.1.created.shortText)]) ∧
      (∀ p ∈ saves, ∀ q ∈ saves, p.1.created.Before q.1.created →
        (Text.bytes p.1.created.shortText.toList < Text.bytes q.1.created.shortText.toList ↔
          ¬ p.1.created.Begins q.1.created) ∧
        (p.1.created.Begins q.1.created →
          Text.bytes q.1.created.shortText.toList < Text.bytes p.1.created.shortText.toList)) ∧
      ∃ infos, (list database (reply :: replies)).1 = .ok infos ∧
        (infos.map fun i => (i.id, i.created)).Perm (saves.map fun p => (p.1.id, p.1.created)) ∧
        (infos.Pairwise (fun i j => ¬ i.created.Before j.created) ↔
          ∀ p ∈ saves, ∀ q ∈ saves, p.1.created.Before q.1.created →
            ¬ p.1.created.Begins q.1.created) := by
  have hrange : ∀ r ∈ saves.map keyOf, r.2.InRange := by
    intro r hr
    obtain ⟨p, hp, rfl⟩ := List.mem_map.1 hr
    exact (hsaved p hp).2
  have hperm := hreply.perm
  rw [kept_of_saved hsaved] at hperm
  -- the rows of the answer are those of the snapshots, so reading them loses nothing
  have hkeys : ((reply.records.map rowOf).map restored).Perm (saves.map keyOf) := by
    have hmap := hperm.map restored
    rwa [map_restored hrange] at hmap
  have hrows : ((reply.records.map rowOf).map restored).map stored = reply.records.map rowOf := by
    refine (List.map_map ..).trans ((List.map_congr_left fun r hr => ?_).trans (List.map_id _))
    obtain ⟨k, hk, rfl⟩ := List.mem_map.1 (hperm.subset hr)
    exact congrArg stored (restored_stored (hrange k hk))
  have horder := pairwise_inOrder_iff (fun r hr => hrange r (hkeys.subset hr))
    (hrows.symm ▸ hreply.sorted)
  refine ⟨fun p hp => filterMap_sent (hsaved p hp).1, fun p hp q hq => bytes_shortText
    (hsaved p hp).2 (hsaved q hq).2, _, list_eq_of_answers hreply, ?_, ?_⟩
  · rw [List.map_map] at hkeys ⊢
    exact hkeys
  · rw [List.map_map, List.pairwise_map] at horder
    rw [List.pairwise_map]
    refine horder.trans ?_
    simp only [← List.map_map, hkeys.mem_iff, List.forall_mem_map, keyOf]

/-! ### Two snapshots of one second -/

instance (r r' : String × String) : Decidable (Sorted r r') := inferInstanceAs (Decidable (_ ∨ _))

/-- A snapshot of a whole second. -/
def sharp : Snapshot := ⟨"a", "sharp", ⟨1700000000, 0⟩, [], []⟩

/-- A snapshot of half a second later. -/
def halfPast : Snapshot := ⟨"b", "half past", ⟨1700000000, 500000000⟩, [], []⟩

/-- The record of a snapshot. -/
def recordOf (s : Snapshot) : Record :=
  [("id", .str s.id), ("name", .str s.name), ("created", .str s.created.shortText),
    ("nodes", .ofNat s.nodes.length), ("edges", .ofNat s.edges.length)]

/-- The answer with both snapshots. -/
def halves : Reply := ⟨[sharp, halfPast].map recordOf, none, none, none⟩

theorem inRange_sharp : sharp.created.InRange := ⟨by decide +kernel, by decide⟩

theorem inRange_halfPast : halfPast.created.InRange := ⟨by decide +kernel, by decide⟩

theorem saved_halves : Saved "" [(halfPast, []), (sharp, [])] := by
  rintro p (_ | ⟨_, _ | ⟨_, ⟨⟩⟩⟩)
  · exact ⟨rfl, inRange_halfPast⟩
  · exact ⟨rfl, inRange_sharp⟩

theorem answers_halves : Answers (kept "" [(halfPast, []), (sharp, [])]) halves where
  error := rfl
  nextError := rfl
  perm := by
    rw [kept_of_saved saved_halves]
    exact .swap _ _ []
  sorted := by decide +kernel

theorem newest_first_halves : Saved "" [(halfPast, []), (sharp, [])] ∧
    Answers (kept "" [(halfPast, []), (sharp, [])]) halves ∧
    Text.bytes halfPast.created.shortText.toList < Text.bytes sharp.created.shortText.toList :=
  ⟨saved_halves, answers_halves, ((@newest_first_iff "" [] _ _ saved_halves answers_halves).2.1
    (sharp, []) (by simp) (halfPast, []) (by simp) (.inr ⟨rfl, by decide⟩)).2
      ⟨rfl, by decide +kernel⟩⟩

/-- **The text of a whole second** sorts behind that of half a second later, and the database
lists the older snapshot first. -/
theorem halves_misplaced :
    (¬ ∀ t u : Instant, t.InRange → u.InRange → 1 ≤ t.date.year → t.Before u →
      Text.bytes t.shortText.toList < Text.bytes u.shortText.toList) ∧
    ¬ ∀ (saves : List (Snapshot × List Reply)) (reply : Reply) (infos : List SnapshotInfo),
      Saved "" saves → (∀ p ∈ saves, 1 ≤ p.1.created.date.year) →
        Answers (kept "" saves) reply → (list "" [reply]).1 = .ok infos →
          infos.Pairwise fun i j => ¬ i.created.Before j.created := by
  have hbefore : sharp.created.Before halfPast.created := .inr ⟨rfl, by decide⟩
  refine ⟨fun h => ?_, fun h => ?_⟩
  · exact absurd (h _ _ inRange_sharp inRange_halfPast (by decide +kernel) hbefore)
      (by decide +kernel)
  · have horder := h _ _ _ saved_halves (by decide +kernel) answers_halves
      (list_eq_of_answers answers_halves)
    have htimes : halves.records.map (fun r => (infoOf r).created) =
        [sharp.created, halfPast.created] := by decide +kernel
    rw [List.pairwise_map, ← List.pairwise_map (f := fun r => (infoOf r).created)
      (R := fun t u : Instant => ¬ t.Before u), htimes] at horder
    exact (List.pairwise_cons.1 horder).1 _ List.mem_cons_self hbefore

end GraphWalk.GraphDatabase
