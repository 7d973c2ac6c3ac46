import GraphWalk.Proofs.Source.Scan
import GraphWalk.Source.Parse

/-!
# Blocks in their places

Every reader leaves an end of the tokens it is given (`Leaves`). The readers of expressions call
each other with less fuel, so this is shown of all of them at once, for one unit of fuel more at
a time (`Reads`). Then what items add to the blocks read before stands behind them (`Adds`,
`items_spec`).

Main result: `placed_of_read?`. **The blocks of a document** are listed in the order of the text:
each starts behind the one before it, where its type stands, and so do the blocks inside it.
-/

namespace GraphWalk.Source

variable {α β γ : Type} {rest : α → List Token} {rest' : β → List Token} {b : Bool}
  {t : Token} {ts us : List Token} {r : Option α}

/-! ### What readers leave -/

/-- A reader leaves an end of the tokens; `rest` is what it leaves. -/
def Leaves (rest : α → List Token) (ts : List Token) (r : Option α) : Prop :=
  ∀ x, r = some x → rest x <:+ ts

theorem Leaves.none : Leaves rest ts none := nofun

theorem Leaves.some {x : α} (h : rest x <:+ ts) : Leaves rest ts (some x) := by
  rintro _ ⟨⟩
  exact h

theorem Leaves.mono (h : Leaves rest us r) (hs : us <:+ ts) : Leaves rest ts r :=
  fun x hx => (h x hx).trans hs

theorem Leaves.cons (h : Leaves rest ts r) : Leaves rest (t :: ts) r :=
  h.mono (List.suffix_cons t ts)

/-- A reader, and another one on what the first leaves. -/
theorem Leaves.bind {f : α → Option β} (h : Leaves rest ts r)
    (hf : ∀ x, Leaves rest' (rest x) (f x)) : Leaves rest' ts (r >>= f) := by
  intro y hy
  obtain ⟨x, hx, hy⟩ := Option.bind_eq_some_iff.1 hy
  exact (hf x y hy).trans (h x hx)

/-- A step that reads no token. -/
theorem Leaves.value {o : Option γ} {f : γ → Option β} (hf : ∀ x, Leaves rest' ts (f x)) :
    Leaves rest' ts (o >>= f) := by
  intro y hy
  obtain ⟨x, -, hy⟩ := Option.bind_eq_some_iff.1 hy
  exact hf x y hy

/-- What a reader leaves, and something read before. -/
theorem Leaves.map {o : Option (List Token)} {f : List Token → β} (h : Leaves id ts o)
    (hf : ∀ us, rest' (f us) = us) : Leaves rest' ts (o.map f) := by
  intro y hy
  obtain ⟨us, hus, rfl⟩ := Option.map_eq_some_iff.1 hy
  rw [hf]
  exact h us hus

/-- One more token in front. -/
theorem skip (h : us <:+ ts) : us <:+ t :: ts := h.trans (List.suffix_cons t ts)

/-- Looking ahead passes over line breaks at most. -/
theorem ahead_suffix (b : Bool) (ts : List Token) : ahead b ts <:+ ts := by
  unfold ahead
  split
  · exact List.suffix_rfl
  · exact List.dropWhile_suffix _

theorem suffix_of_ahead (h : ahead b ts = t :: us) : us <:+ ts :=
  (List.suffix_cons t us).trans (h ▸ ahead_suffix b ts)

theorem Leaves.of_ahead (hr : Leaves rest (ahead b ts) r) : Leaves rest ts r :=
  hr.mono (ahead_suffix b ts)

/-- A reader behind the token ahead. -/
theorem Leaves.ahead (h : ahead b ts = t :: us) (hr : Leaves rest us r) : Leaves rest ts r :=
  hr.mono (suffix_of_ahead h)

/-! ### Readers that call no expression -/

/-- The names of a loop, one or two, and the word behind them. -/
theorem leaves_loopNames (b : Bool) (ts : List Token) :
    Leaves (·.2.2) ts (loopNames b ts) := by
  unfold loopNames
  dsimp only
  split
  next ha =>
    refine .ahead ha ?_
    split
    next ha =>
      refine .ahead ha ?_
      split
      next ha =>
        refine .ahead ha (.map ?_ fun _ => rfl)
        split
        next ha => exact .ahead ha (.some List.suffix_rfl)
        · exact .none
      · exact .none
    · refine .of_ahead (b := b) (.map ?_ fun _ => rfl)
      split
      next ha => exact .ahead ha (.some List.suffix_rfl)
      · exact .none
  · exact .none

/-- The steps behind a star, one after the other. -/
theorem leaves_starSteps (fuel : Nat) (b : Bool) (acc : List Step) (ts : List Token) :
    Leaves Prod.snd ts (starSteps fuel b acc ts) := by
  induction fuel generalizing acc ts with
  | zero => exact .none
  | succ fuel ih =>
    unfold starSteps
    split
    · exact .none
    · rename_i heq ha
      obtain rfl := Nat.succ.inj heq
      refine .ahead ha ?_
      split
      next ha => exact .ahead ha (ih _ _)
      next ha => exact .ahead ha (.value fun v => ih _ _)
      · exact .none
    · exact .some List.suffix_rfl

/-- The name of a function, in parts. -/
theorem leaves_callName (fuel : Nat) (b : Bool) (name : String) (ts : List Token) :
    Leaves Prod.snd ts (callName fuel b name ts) := by
  induction fuel generalizing name ts with
  | zero => exact .none
  | succ fuel ih =>
    unfold callName
    split
    · exact .none
    next ha => exact .ahead ha (.some List.suffix_rfl)
    · rename_i heq ha
      obtain rfl := Nat.succ.inj heq
      refine .ahead ha ?_
      split
      next ha => exact .ahead ha (ih _ _)
      · exact .none
    · exact .none

/-! ### Expressions -/

/-- What the readers of expressions leave with this fuel. -/
structure Reads (fuel : Nat) : Prop where
  expression : ∀ b ts, Leaves Prod.snd ts (expression fuel b ts)
  binary : ∀ level b ts, Leaves Prod.snd ts (binary fuel level b ts)
  operands : ∀ level b left ts, Leaves Prod.snd ts (operands fuel level b left ts)
  traversed : ∀ b ts, Leaves Prod.snd ts (traversed fuel b ts)
  traversals : ∀ b e ts, Leaves Prod.snd ts (traversals fuel b e ts)
  term : ∀ b ts, Leaves Prod.snd ts (term fuel b ts)
  arguments : ∀ acc ts, Leaves (·.2.2.2) ts (arguments fuel acc ts)
  tupleItems : ∀ acc ts, Leaves Prod.snd ts (tupleItems fuel acc ts)
  objectItems : ∀ acc ts, Leaves Prod.snd ts (objectItems fuel acc ts)
  condition : ∀ line ts, Leaves Prod.snd ts (condition fuel line ts)
  tupleLoop : ∀ line ts, Leaves Prod.snd ts (tupleLoop fuel line ts)
  objectLoop : ∀ line ts, Leaves Prod.snd ts (objectLoop fuel line ts)
  pieces : ∀ closing trim acc ts, Leaves Prod.snd ts (pieces fuel closing trim acc ts)
  sequenceRest : ∀ closing trim acc p ts,
    Leaves Prod.snd ts (sequenceRest fuel closing trim acc p ts)

variable {fuel : Nat}

theorem Reads.expression_succ (h : Reads fuel) (b : Bool) (ts : List Token) :
    Leaves Prod.snd ts (Source.expression (fuel + 1) b ts) := by
  unfold Source.expression
  refine .bind (h.binary _ _ _) fun _ => ?_
  dsimp only
  split
  next ha =>
    -- behind a question mark there are two more expressions, with a colon between them
    refine .ahead ha (.bind (h.expression _ _) fun _ => ?_)
    split
    next ha => exact .ahead ha (.bind (h.expression _ _) fun _ => .some List.suffix_rfl)
    · exact .none
  · exact .some List.suffix_rfl

theorem Reads.binary_succ (h : Reads fuel) (level : Nat) (b : Bool) (ts : List Token) :
    Leaves Prod.snd ts (Source.binary (fuel + 1) level b ts) := by
  unfold Source.binary
  split
  · exact h.traversed b ts
  · exact .bind (h.binary _ _ _) fun _ => h.operands _ _ _ _

theorem Reads.operands_succ (h : Reads fuel) (level : Nat) (b : Bool) (left : Expr)
    (ts : List Token) : Leaves Prod.snd ts (Source.operands (fuel + 1) level b left ts) := by
  unfold Source.operands
  split
  next ha =>
    split
    · exact .ahead ha (.bind (h.binary _ _ _) fun _ => h.operands _ _ _ _)
    · exact .some List.suffix_rfl
  · exact .some List.suffix_rfl

theorem Reads.traversed_succ (h : Reads fuel) (b : Bool) (ts : List Token) :
    Leaves Prod.snd ts (Source.traversed (fuel + 1) b ts) := by
  unfold Source.traversed
  exact .bind (h.term _ _) fun _ => h.traversals _ _ _

theorem Reads.traversals_succ (h : Reads fuel) (b : Bool) (e : Expr) (ts : List Token) :
    Leaves Prod.snd ts (Source.traversals (fuel + 1) b e ts) := by
  unfold Source.traversals
  split
  next ha =>
    refine .ahead ha ?_
    split
    next ha => exact .ahead ha (h.traversals _ _ _)
    next ha => exact .ahead ha (.value fun v => h.traversals _ _ _)
    next ha =>
      exact .ahead ha (.bind (leaves_starSteps _ _ _ _) fun _ => h.traversals _ _ _)
    · exact .none
  next ha =>
    refine .ahead ha ?_
    split
    next ha =>
      refine .ahead ha ?_
      split
      next ha =>
        exact .ahead ha (.bind (h.traversals _ _ _) fun _ => .some List.suffix_rfl)
      · exact .none
    · refine .of_ahead (b := b) (.bind (h.expression _ _) fun _ => ?_)
      dsimp only
      split
      next ha => exact .ahead ha (h.traversals _ _ _)
      · exact .none
  · exact .some List.suffix_rfl

theorem Reads.term_succ (h : Reads fuel) (b : Bool) (ts : List Token) :
    Leaves Prod.snd ts (Source.term (fuel + 1) b ts) := by
  unfold Source.term
  split
  next ha =>
    refine .ahead ha (.bind (h.expression _ _) fun _ => ?_)
    dsimp only
    split
    next ha => exact .ahead ha (.some List.suffix_rfl)
    · exact .none
  next ha => exact .ahead ha (.value fun n => .some List.suffix_rfl)
  next ha =>
    refine .ahead ha ?_
    split
    · exact .bind (leaves_callName _ _ _ _) fun _ =>
        .bind (h.arguments _ _) fun _ => .some List.suffix_rfl
    · exact .some List.suffix_rfl
  next ha => exact .ahead ha (.bind (h.pieces _ _ _ _) fun _ =>
      .value fun e => .some List.suffix_rfl)
  next ha => exact .ahead ha (.bind (h.pieces _ _ _ _) fun _ =>
      .value fun e => .some List.suffix_rfl)
  next ha => exact .ahead ha (.bind (h.traversed _ _) fun _ => .some List.suffix_rfl)
  next ha => exact .ahead ha (.bind (h.traversed _ _) fun _ => .some List.suffix_rfl)
  next ha =>
    refine .ahead ha ?_
    split
    next ha => exact .ahead ha (h.tupleLoop _ _)
    · exact .of_ahead (b := false) (.bind (h.tupleItems _ _) fun _ =>
        .some List.suffix_rfl)
  next ha =>
    refine .ahead ha ?_
    split
    next ha => exact .ahead ha (h.objectLoop _ _)
    · exact .bind (h.objectItems _ _) fun _ => .some List.suffix_rfl
  · exact .none

theorem Reads.arguments_succ (h : Reads fuel) (acc : List Expr) (ts : List Token) :
    Leaves (·.2.2.2) ts (Source.arguments (fuel + 1) acc ts) := by
  unfold Source.arguments
  split
  next ha => exact .ahead ha (.some List.suffix_rfl)
  · refine .of_ahead (b := false) (.bind (h.expression _ _) fun _ => ?_)
    dsimp only
    split
    next ha => exact .ahead ha (.some List.suffix_rfl)
    next ha =>
      refine .ahead ha ?_
      split
      next ha => exact .ahead ha (.some List.suffix_rfl)
      · exact .none
    next ha => exact .ahead ha (h.arguments _ _)
    · exact .none

theorem Reads.tupleItems_succ (h : Reads fuel) (acc : List Expr) (ts : List Token) :
    Leaves Prod.snd ts (Source.tupleItems (fuel + 1) acc ts) := by
  unfold Source.tupleItems
  split
  next ha => exact .ahead ha (.some List.suffix_rfl)
  · refine .of_ahead (b := false) (.bind (h.expression _ _) fun _ => ?_)
    dsimp only
    split
    next ha => exact .ahead ha (.some List.suffix_rfl)
    next ha => exact .ahead ha (h.tupleItems _ _)
    · exact .none

theorem Reads.objectItems_succ (h : Reads fuel) (acc : List (Expr × Expr)) (ts : List Token) :
    Leaves Prod.snd ts (Source.objectItems (fuel + 1) acc ts) := by
  unfold Source.objectItems
  split
  · exact (h.objectItems _ _).cons
  · exact (Leaves.some List.suffix_rfl).cons
  · -- a key and a value, with an equals sign or a colon between them
    refine .bind (h.expression _ _) ?_
    rintro ⟨key, ts⟩
    dsimp only
    split
    · refine .cons ?_
      split
      · exact .none
      · refine .bind (h.expression _ _) ?_
        rintro ⟨value, ts⟩
        dsimp only
        split
        · exact (Leaves.some List.suffix_rfl).cons
        · exact (h.objectItems _ _).cons
        · exact (h.objectItems _ _).cons
        · exact .none
    · exact .none

theorem Reads.condition_succ (h : Reads fuel) (line : Nat) (ts : List Token) :
    Leaves Prod.snd ts (Source.condition (fuel + 1) line ts) := by
  unfold Source.condition
  split
  next ha => exact .ahead ha (h.expression _ _)
  · exact .some (ahead_suffix false ts)

theorem Reads.tupleLoop_succ (h : Reads fuel) (line : Nat) (ts : List Token) :
    Leaves Prod.snd ts (Source.tupleLoop (fuel + 1) line ts) := by
  unfold Source.tupleLoop
  refine .bind (leaves_loopNames _ _) fun _ => .bind (h.expression _ _) fun _ => ?_
  dsimp only
  split
  next ha =>
    refine .ahead ha (.bind (h.expression _ _) fun _ =>
      .bind (h.condition _ _) fun _ => ?_)
    split
    next ha => exact .ahead ha (.some List.suffix_rfl)
    · exact .none
  · exact .none

theorem Reads.objectLoop_succ (h : Reads fuel) (line : Nat) (ts : List Token) :
    Leaves Prod.snd ts (Source.objectLoop (fuel + 1) line ts) := by
  unfold Source.objectLoop
  refine .bind (leaves_loopNames _ _) fun _ => .bind (h.expression _ _) fun _ => ?_
  dsimp only
  split
  next ha =>
    refine .ahead ha (.bind (h.expression _ _) fun _ => ?_)
    split
    next ha =>
      refine .ahead ha (.bind (h.expression _ _) fun _ => ?_)
      -- the dots that group the values of a key are left out if they are there
      refine .mono (.bind (h.condition _ _) fun _ => ?_) ?_
      · split
        next ha => exact .ahead ha (.some List.suffix_rfl)
        · exact .none
      · split
        next ha => exact suffix_of_ahead ha
        · exact ahead_suffix false _
    · exact .none
  · exact .none

theorem Reads.pieces_succ (h : Reads fuel) (closing : Lexeme) (trim : Bool) (acc : List Piece)
    (ts : List Token) : Leaves Prod.snd ts (Source.pieces (fuel + 1) closing trim acc ts) := by
  unfold Source.pieces
  split
  · exact .none
  · exact .none
  · rename_i heq
    obtain rfl := Nat.succ.inj heq
    refine .cons ?_
    split
    · exact .some List.suffix_rfl
    · -- a text, an interpolation or a directive, by the token in front
      split
      · exact h.pieces _ _ _ _
      · exact .bind (h.expression _ _) fun _ => h.sequenceRest _ _ _ _ _
      · split
        next ha =>
          exact .ahead ha (.bind (h.expression _ _) fun _ => h.sequenceRest _ _ _ _ _)
        next ha => exact .ahead ha (h.sequenceRest _ _ _ _ _)
        next ha => exact .ahead ha (h.sequenceRest _ _ _ _ _)
        next ha => exact .ahead ha (.bind (leaves_loopNames _ _) fun _ =>
            .bind (h.expression _ _) fun _ => h.sequenceRest _ _ _ _ _)
        next ha => exact .ahead ha (h.sequenceRest _ _ _ _ _)
        · exact .none
      · exact .none

theorem Reads.sequenceRest_succ (h : Reads fuel) (closing : Lexeme) (trim : Bool)
    (acc : List Piece) (p : Piece) (ts : List Token) :
    Leaves Prod.snd ts (Source.sequenceRest (fuel + 1) closing trim acc p ts) := by
  unfold Source.sequenceRest
  dsimp only
  split
  next ha => exact .ahead ha (h.pieces _ _ _ _)
  · exact .none

/-- Without fuel nothing is read. -/
theorem Reads.zero : Reads 0 := by
  constructor <;> intros <;>
    simp only [Source.expression, Source.binary, Source.operands, Source.traversed,
      Source.traversals, Source.term, Source.arguments, Source.tupleItems, Source.objectItems,
      Source.condition, Source.tupleLoop, Source.objectLoop, Source.pieces, Source.sequenceRest] <;>
    exact .none

/-- **One unit of fuel more**: each reader goes on with readers of less fuel. -/
theorem Reads.succ (h : Reads fuel) : Reads (fuel + 1) where
  expression := h.expression_succ
  binary := h.binary_succ
  operands := h.operands_succ
  traversed := h.traversed_succ
  traversals := h.traversals_succ
  term := h.term_succ
  arguments := h.arguments_succ
  tupleItems := h.tupleItems_succ
  objectItems := h.objectItems_succ
  condition := h.condition_succ
  tupleLoop := h.tupleLoop_succ
  objectLoop := h.objectLoop_succ
  pieces := h.pieces_succ
  sequenceRest := h.sequenceRest_succ

/-- **All readers of expressions** leave an end of the tokens. -/
theorem reads (fuel : Nat) : Reads fuel := by
  induction fuel with
  | zero => exact .zero
  | succ fuel ih => exact ih.succ

theorem leaves_expression (fuel : Nat) (b : Bool) (ts : List Token) :
    Leaves Prod.snd ts (expression fuel b ts) := (reads fuel).expression b ts

/-! ### Labels and lines -/

/-- The text of a label up to its end. -/
theorem leaves_labelText (acc : String) (ts : List Token) :
    Leaves (·.2.2) ts (labelText acc ts) := by
  induction ts generalizing acc with
  | nil => exact .none
  | cons t ts ih =>
    unfold labelText
    split
    next heq =>
      cases heq
      exact (ih _).cons
    next heq =>
      cases heq
      exact (Leaves.some List.suffix_rfl).cons
    · exact .none

/-- The labels of a block up to its brace. -/
theorem leaves_labels (fuel : Nat) (acc : List Label) (ts : List Token) :
    Leaves (·.2.2) ts (labels fuel acc ts) := by
  induction fuel generalizing acc ts with
  | zero => exact .none
  | succ fuel ih =>
    unfold labels
    split
    · exact .none
    · exact (Leaves.some List.suffix_rfl).cons
    next heq =>
      obtain rfl := Nat.succ.inj heq
      exact (ih _ _).cons
    next heq =>
      obtain rfl := Nat.succ.inj heq
      exact .cons (.bind (leaves_labelText _ _) fun _ => ih _ _)
    · exact .none

theorem leaves_lineEnd (ts : List Token) : Leaves id ts (lineEnd ts) := by
  unfold lineEnd
  split
  · exact .some List.suffix_rfl
  · exact (Leaves.some List.suffix_rfl).cons
  · exact .none

/-! ### Blocks -/

variable {source : List Char}

theorem Placed.suffix (h : Placed source ts) (hs : us <:+ ts) : Placed source us :=
  ⟨h.ordered.sublist hs.sublist, fun t ht => h.stands t (hs.subset ht)⟩

/-- **A block in its place**: its type stands where it starts, and the blocks in it are in their
places one behind the other. -/
inductive Block.Placed (source : List Char) : Block → Prop
  | mk {type typeSpan labels openLine bodyLine arguments blocks}
      (type_at : type.toList <+: source.drop typeSpan.first.offset)
      (ordered : blocks.Pairwise fun b b' => b.offset < b'.offset)
      (inner : ∀ b ∈ blocks, Block.Placed source b) :
      Placed source (.mk type typeSpan labels openLine bodyLine arguments blocks)

/-- Blocks in their places one behind the other, each of which starts with one of the tokens. -/
structure Laid (source : List Char) (ts : List Token) (blocks : List Block) : Prop where
  ordered : blocks.Pairwise fun b b' => b.offset < b'.offset
  placed : ∀ b ∈ blocks, b.Placed source
  token : ∀ b ∈ blocks, ⟨.name b.type, b.typeSpan⟩ ∈ ts

theorem Laid.nil : Laid source ts [] := ⟨.nil, nofun, nofun⟩

theorem Laid.mono {blocks : List Block} (h : Laid source us blocks) (hs : us <:+ ts) :
    Laid source ts blocks :=
  ⟨h.ordered, h.placed, fun b hb => hs.subset (h.token b hb)⟩

/-- A block goes in front of those that start behind its type. -/
theorem Laid.cons {s : String} {span : Span} {ls : List Label} {openLine bodyLine : Nat}
    {args : List Argument} {inside blocks : List Block}
    (hts : Placed source (⟨.name s, span⟩ :: ts)) (hin : Laid source ts inside)
    (h : Laid source us blocks) (hs : us <:+ ts) :
    Laid source (⟨.name s, span⟩ :: ts)
      (.mk s span ls openLine bodyLine args inside :: blocks) where
  ordered := by
    refine List.pairwise_cons.2 ⟨fun b hb => ?_, h.ordered⟩
    -- the tokens behind the type of the block stand behind its last character
    have hfollows := (List.pairwise_cons.1 hts.ordered).1 _ (hs.subset (h.token b hb))
    have hlong := (hts.stands _ List.mem_cons_self s rfl).2
    exact Nat.lt_of_lt_of_le hlong hfollows
  placed := by
    refine List.forall_mem_cons.2 ⟨?_, h.placed⟩
    exact .mk (hts.stands _ List.mem_cons_self s rfl).1 hin.ordered hin.placed
  token := by
    refine List.forall_mem_cons.2 ⟨List.mem_cons_self, fun b hb => ?_⟩
    exact List.mem_cons_of_mem _ (hs.subset (h.token b hb))

/-- Reading items adds blocks to those read before, and leaves an end of the tokens. -/
structure Adds (source : List Char) (ts : List Token) (before after : List Block)
    (left : List Token) : Prop where
  leaves : left <:+ ts
  blocks : ∃ new, after = before.reverse ++ new ∧ Laid source ts new

variable {before after inside : List Block} {left : List Token}

theorem Adds.nil (hs : left <:+ ts) : Adds source ts before before.reverse left :=
  ⟨hs, [], (List.append_nil _).symm, .nil⟩

theorem Adds.mono (h : Adds source us before after left) (hs : us <:+ ts) :
    Adds source ts before after left := by
  obtain ⟨hleft, new, rfl, hnew⟩ := h
  exact ⟨hleft.trans hs, new, rfl, hnew.mono hs⟩

theorem Adds.cons {s : String} {span : Span} {ls : List Label} {openLine bodyLine : Nat}
    {args : List Argument} (hts : Placed source (⟨.name s, span⟩ :: ts))
    (hin : Laid source ts inside) (hs : us <:+ ts)
    (h : Adds source us (.mk s span ls openLine bodyLine args inside :: before) after left) :
    Adds source (⟨.name s, span⟩ :: ts) before after left := by
  obtain ⟨hleft, new, rfl, hnew⟩ := h
  refine ⟨hleft.trans (hs.trans (List.suffix_cons _ ts)),
    .mk s span ls openLine bodyLine args inside :: new, ?_, .cons hts hin hnew hs⟩
  rw [List.reverse_cons, List.append_assoc, List.singleton_append]

/-- **Items** are read in the order of the text. -/
theorem items_spec (fuel : Nat) {nested : Bool} {args args' : List Argument}
    (hts : Placed source ts) (h : items fuel nested args before ts = some (args', after, left)) :
    Adds source ts before after left := by
  induction fuel generalizing nested args before args' after ts left with
  | zero => cases h
  | succ fuel ih =>
    unfold items at h
    split at h
    · split at h
      · cases h
      · cases h
        exact .nil List.suffix_rfl
    · split at h
      · cases h
        exact .nil (List.suffix_cons _ _)
      · cases h
    · exact (ih (hts.suffix (List.suffix_cons _ _)) h).mono (List.suffix_cons _ _)
    next ts =>
      simp only [Option.bind_eq_bind, Option.bind_eq_some_iff] at h
      obtain ⟨⟨e, ts₁⟩, he, ts₂, hend, h⟩ := h
      have hs : ts₂ <:+ ts := (leaves_lineEnd _ _ hend).trans (leaves_expression _ _ _ _ he)
      split at h
      · cases h
      · exact (ih (hts.suffix (skip (skip hs))) h).mono (skip (skip hs))
    next s span ts _ =>
      simp only [Option.bind_eq_bind, Option.bind_eq_some_iff] at h
      obtain ⟨⟨ls, openLine, ts₁⟩, hls, h⟩ := h
      have hs₁ : ts₁ <:+ ts := leaves_labels _ _ _ _ hls
      have hts₁ : Placed source ts₁ := hts.suffix (skip hs₁)
      -- the block is complete, and its line ends
      have hrest : ∀ {line : Nat} {as : List Argument} {inside : List Block} {ts₂ : List Token},
          Laid source ts₁ inside → ts₂ <:+ ts₁ → ((lineEnd ts₂).bind fun ts =>
            items fuel nested args (.mk s span ls openLine line as inside :: before) ts) =
              some (args', after, left) →
            Adds source (⟨.name s, span⟩ :: ts) before after left := by
        intro line as inside ts₂ hin hs₂ h
        obtain ⟨ts₃, hend, h⟩ := Option.bind_eq_some_iff.1 h
        have hs₃ : ts₃ <:+ ts := ((leaves_lineEnd _ _ hend).trans hs₂).trans hs₁
        exact .cons hts (hin.mono hs₁) hs₃ (ih (hts.suffix (skip hs₃)) h)
      -- its braces hold items on lines of their own
      have hlines : (((items fuel true [] [] ts₁).map fun found => (openLine, found)).bind fun x =>
          (lineEnd x.2.2.2).bind fun ts => items fuel nested args
            (.mk s span ls openLine x.1 x.2.1 x.2.2.1 :: before) ts) = some (args', after, left) →
          Adds source (⟨.name s, span⟩ :: ts) before after left := by
        intro h
        obtain ⟨_, hx, h⟩ := Option.bind_eq_some_iff.1 h
        obtain ⟨⟨as, inside, ts₂⟩, hitems, rfl⟩ := Option.map_eq_some_iff.1 hx
        obtain ⟨hs₂, new, rfl, hnew⟩ := ih hts₁ hitems
        exact hrest hnew hs₂ h
      split at h
      · exact hlines h
      · exact hlines h
      next heq =>
        -- an argument alone, on the line of the braces
        obtain ⟨⟨e, ts₂⟩, he, h⟩ := Option.bind_eq_some_iff.1 h
        have hs₂ := leaves_expression _ _ _ _ he
        dsimp only at h
        split at h
        · refine hrest .nil ?_ h
          rw [show ts₁ = _ from heq]
          exact skip (skip ((List.suffix_cons _ _).trans hs₂))
        · cases h
      · cases h
    · cases h

theorem Block.Placed.ordered {block : Block} (h : block.Placed source) :
    block.body.blocks.Pairwise fun b b' => b.offset < b'.offset := by
  cases h
  assumption

/-- **The blocks of a document** are in their places, one behind the other. -/
theorem placed_of_read? {text : String} {d : Document} (h : Document.read? text = some d) :
    (d.blocks.Pairwise fun b b' => b.offset < b'.offset) ∧
      ∀ b ∈ d.blocks, b.Placed (sourceOf text) := by
  obtain ⟨ts, hscan, h⟩ := Option.bind_eq_some_iff.1 h
  obtain ⟨⟨args, blocks, us⟩, hitems, h⟩ := Option.bind_eq_some_iff.1 h
  cases h
  obtain ⟨-, new, rfl, hnew⟩ := items_spec _ (placed_of_scan hscan) hitems
  exact ⟨hnew.ordered, hnew.placed⟩

end GraphWalk.Source
