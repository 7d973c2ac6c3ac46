import GraphWalk.Source.Scan

/-!
# Tokens in their places

The tokens of a source text stand one behind the other, and a name stands in the text where its
token says (`Placed`). What is found at the front of the text is placed between two positions
(`Lie`, `place_spec`), and behind it the text goes on at the second one; so all tokens are placed.

Main result: `placed_of_scan`.
-/

namespace GraphWalk.Source

/-! ### Positions -/

theorem Position.offset_afterCluster (p : Position) (c : List Char) :
    (p.afterCluster c).offset = p.offset + c.length := by
  unfold afterCluster
  split <;> rfl

theorem Position.offset_after (p : Position) (cs : List Char) :
    (p.after cs).offset = p.offset + cs.length := by
  have hfold : ∀ (gs : List (List Char)) (p : Position),
      (gs.foldl afterCluster p).offset = p.offset + gs.flatten.length := by
    intro gs
    induction gs with
    | nil => exact fun p => rfl
    | cons g gs ih =>
      intro p
      rw [List.foldl_cons, ih, offset_afterCluster, List.flatten_cons, List.length_append,
        Nat.add_assoc]
  rw [after, hfold, Text.flatten_clusters]

/-! ### Tokens -/

/-- A token ends before another one starts. -/
def Token.Follows (t u : Token) : Prop := t.span.last.offset ≤ u.span.first.offset

/-- A token that is a name stands in the text where it says, and takes some of it. -/
def Token.Stands (source : List Char) (t : Token) : Prop :=
  ∀ s, t.lexeme = .name s → s.toList <+: source.drop t.span.first.offset ∧
    t.span.first.offset < t.span.last.offset

/-- **Tokens in their places**: one behind the other, and each name where it stands. -/
structure Placed (source : List Char) (ts : List Token) : Prop where
  ordered : ts.Pairwise Token.Follows
  stands : ∀ t ∈ ts, t.Stands source

/-- Where a name is found, nothing else is, and it is the text it is found in. -/
def Named (cs : List Char) (ls : List (Option Lexeme × Nat)) : Prop :=
  ∀ s n, (some (.name s), n) ∈ ls →
    ls = [(some (.name s), n)] ∧ s.toList = cs.take n ∧ cs.take n ≠ []

variable {cs : List Char} {l : Option Lexeme} {n : Nat} {outer : List Surrounding} {found : Found}

/-- One lexeme that is no name. -/
theorem named_one (hl : ∀ s, l ≠ some (.name s)) : Named cs [(l, n)] := by
  intro s m hm
  rw [List.mem_singleton, Prod.mk.injEq] at hm
  exact absurd hm.1.symm (hl s)

/-- A name that is spelled at the front. -/
theorem named_name {text : List Char} (hne : text ≠ []) (h : text <+: cs) :
    Named cs [(some (.name (.ofList text)), text.length)] := by
  intro s m hm
  rw [List.mem_singleton, Prod.mk.injEq] at hm
  obtain ⟨hs, rfl⟩ := hm
  cases hs
  have htake : cs.take text.length = text := (List.prefix_iff_eq_take.1 h).symm
  rw [htake, String.toList_ofList]
  exact ⟨rfl, rfl, hne⟩

theorem named_findCode {braces : Nat} (h : findCode braces outer cs = some found) :
    Named cs found.lexemes := by
  unfold findCode at h
  dsimp only at h
  split at h
  case h_1 => cases h
  case h_6 | h_7 =>
    cases h
    exact named_one fun s => by split <;> simp
  case h_8 =>
    obtain ⟨text, -, h⟩ := Option.bind_eq_some_iff.1 h
    cases h
    exact named_one nofun
  case h_10 | h_11 =>
    split at h <;> cases h <;> exact named_one nofun
  case h_13 c rest _ _ _ _ _ _ _ _ _ _ _ =>
    split at h
    · cases h
      exact named_one nofun
    · split at h
      · cases h
        exact named_name (List.cons_ne_nil _ _)
          (List.cons_prefix_cons.2 ⟨rfl, List.takeWhile_prefix _⟩)
      · split at h
        · cases h
          exact named_one nofun
        · obtain ⟨x, -, h⟩ := Option.bind_eq_some_iff.1 h
          cases h
          exact named_one nofun
  all_goals
    cases h
    exact named_one nofun

/-- Marks that open code inside a text are no names. -/
theorem sequenceStart?_ne {l : Lexeme} (h : sequenceStart? cs = some (l, n)) (s : String) :
    l ≠ .name s := by
  unfold sequenceStart? at h
  split at h <;> cases h <;> exact nofun

theorem named_findQuoted (h : findQuoted outer cs = some found) : Named cs found.lexemes := by
  unfold findQuoted at h
  split at h
  · cases h
    exact named_one nofun
  · split at h
    next hl =>
      cases h
      exact named_one fun s hs => sequenceStart?_ne hl s (Option.some.inj hs)
    · dsimp only at h
      split at h
      · cases h
      · obtain ⟨text, -, rfl⟩ := Option.map_eq_some_iff.1 h
        exact named_one nofun

theorem named_findLines {marker : List Char} {fresh : Bool}
    (h : findLines marker fresh outer cs = some found) : Named cs found.lexemes := by
  unfold findLines at h
  split at h
  next hl =>
    cases h
    exact named_one fun s hs => sequenceStart?_ne hl s (Option.some.inj hs)
  · dsimp only at h
    split at h
    · cases h
    · split at h <;> cases h
      · intro s m hm
        simp at hm
      · exact named_one nofun

/-- **Names are found alone**, with the text they are spelled as. -/
theorem named_find {around : List Surrounding} (h : find around cs = some found) :
    Named cs found.lexemes := by
  unfold find at h
  split at h
  · exact named_findCode h
  · exact named_findCode h
  · exact named_findQuoted h
  · exact named_findLines h

/-! ### Placing -/

/-- Tokens that are placed and lie between two positions. -/
structure Lie (source : List Char) (p q : Position) (ts : List Token) : Prop where
  placed : Placed source ts
  start : ∀ t ∈ ts, p.offset ≤ t.span.first.offset
  stop : ∀ t ∈ ts, t.span.last.offset ≤ q.offset
  le : p.offset ≤ q.offset

variable {source : List Char} {p q r : Position} {ts us : List Token}

theorem Lie.nil (h : p.offset ≤ q.offset) : Lie source p q [] := ⟨⟨.nil, nofun⟩, nofun, nofun, h⟩

theorem Lie.append (h : Lie source p q ts) (h' : Lie source q r us) :
    Lie source p r (ts ++ us) where
  placed := by
    refine ⟨List.pairwise_append.2 ⟨h.placed.ordered, h'.placed.ordered, fun t ht u hu => ?_⟩, ?_⟩
    · exact Nat.le_trans (h.stop t ht) (h'.start u hu)
    · exact List.forall_mem_append.2 ⟨h.placed.stands, h'.placed.stands⟩
  start := List.forall_mem_append.2 ⟨h.start, fun t ht => Nat.le_trans h.le (h'.start t ht)⟩
  stop := List.forall_mem_append.2 ⟨fun t ht => Nat.le_trans (h.stop t ht) h'.le, h'.stop⟩
  le := Nat.le_trans h.le h'.le

theorem Lie.single {l : Lexeme} (h : p.offset ≤ q.offset) (hs : Token.Stands source ⟨l, p, q⟩) :
    Lie source p q [⟨l, p, q⟩] where
  placed := ⟨List.pairwise_singleton _ _, List.forall_mem_singleton.2 hs⟩
  start := List.forall_mem_singleton.2 (Nat.le_refl _)
  stop := List.forall_mem_singleton.2 (Nat.le_refl _)
  le := h

/-- Behind a piece of the text the text goes on at the position behind it. -/
theorem drop_after (hcs : cs = source.drop p.offset) (n : Nat) :
    cs.drop n = source.drop (p.after (cs.take n)).offset := by
  rw [Position.offset_after, hcs, List.drop_drop, List.length_take]
  rcases Nat.le_total n (source.drop p.offset).length with hn | hn
  · rw [Nat.min_eq_left hn]
  · rw [List.length_drop] at hn
    rw [List.length_drop, Nat.min_eq_right hn, List.drop_eq_nil_of_le, List.drop_eq_nil_of_le]
    all_goals omega

/-- **Placing** what is found gives tokens in their places, and leaves the text behind them. -/
theorem place_spec (ls : List (Option Lexeme × Nat)) (hcs : cs = source.drop p.offset)
    (hls : Named cs ls) : Lie source p (place p cs ls).2.1 (place p cs ls).1 ∧
      (place p cs ls).2.2 = source.drop (place p cs ls).2.1.offset := by
  induction ls generalizing p cs with
  | nil => exact ⟨.nil (Nat.le_refl _), hcs⟩
  | cons x ls ih =>
    obtain ⟨l, n⟩ := x
    have hle : p.offset ≤ (p.after (cs.take n)).offset := by
      rw [Position.offset_after]
      exact Nat.le_add_right _ _
    -- behind a name nothing is placed, and so no name behind a lexeme
    have hnamed : Named (cs.drop n) ls := by
      intro s m hm
      have := (hls s m (List.mem_cons_of_mem _ hm)).1
      cases this
      cases hm
    obtain ⟨hlie, hrest⟩ := ih (drop_after hcs n) hnamed
    unfold place
    dsimp only
    cases l with
    | none => exact ⟨(Lie.nil hle).append hlie, hrest⟩
    | some l =>
      refine ⟨(Lie.single hle fun s hs => ?_).append hlie, hrest⟩
      have hs : l = .name s := hs
      subst hs
      obtain ⟨-, htext, hne⟩ := hls s n List.mem_cons_self
      rw [htext, ← hcs]
      refine ⟨List.take_prefix n cs, ?_⟩
      rw [Position.offset_after]
      exact Nat.lt_add_of_pos_right (List.length_pos_iff.2 hne)

/-- At the end of the text the tokens are those read so far. -/
theorem scanFrom_nil {fuel : Nat} {around : List Surrounding} {acc : List Token}
    (h : scanFrom fuel around p [] acc = some ts) : ts = acc.reverse := by
  cases fuel <;>
  · unfold scanFrom at h
    split at h
    · exact (Option.some.inj h).symm
    · cases h

/-- **Reading on** from a position, with the tokens before it in their places. -/
theorem scanFrom_spec (fuel : Nat) {around : List Surrounding} {acc : List Token}
    (hcs : cs = source.drop p.offset) (hacc : Lie source .start p acc.reverse)
    (h : scanFrom fuel around p cs acc = some ts) : Placed source ts := by
  induction fuel generalizing around p cs acc with
  | zero =>
    cases cs with
    | nil => exact scanFrom_nil h ▸ hacc.placed
    | cons c cs => cases h
  | succ fuel ih =>
    cases cs with
    | nil => exact scanFrom_nil h ▸ hacc.placed
    | cons c cs =>
      obtain ⟨found, hfound, h⟩ := Option.bind_eq_some_iff.1 h
      obtain ⟨hlie, hrest⟩ := place_spec found.lexemes hcs (named_find hfound)
      refine ih hrest ?_ h
      rw [List.reverse_append, List.reverse_reverse]
      exact hacc.append hlie

/-- A source text without the byte order mark at its start. -/
def sourceOf (text : String) : List Char :=
  match text.toList with
  | '\uFEFF' :: rest => rest
  | cs => cs

/-- **The tokens of a source text** are in their places. -/
theorem placed_of_scan {text : String} (h : scan text = some ts) : Placed (sourceOf text) ts :=
  scanFrom_spec _ rfl (.nil (Nat.le_refl _)) h

end GraphWalk.Source
