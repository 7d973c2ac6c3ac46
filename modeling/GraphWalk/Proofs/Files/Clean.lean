import GraphWalk.Files.Entry
import Mathlib.Tactic

/-!
# Clean paths

A path is cleaned segment by segment, and what has been read so far is a `Tidy` list: names, and
below all of them the segments that lead up. Reading a tidy list once more gives the same list
(`Tidy.refold`), so a path that is clean stays as it is, and it makes no difference whether a path
is cleaned before another is put behind it or afterwards (`clean_append`). A path that grows name
by name and is cleaned at each step is the clean form of the whole (`foldl_child`).

`resolve_clean`: **the clean form of a path leads to the same entry**, where the path leads to one.
-/

namespace GraphWalk

/-- What stands before a mark is split by itself, and so is what stands behind it. -/
theorem Text.splitWhere_around {isMark : Char → Bool} {mark : Char} (hmark : isMark mark = true)
    (cs rest : List Char) :
    splitWhere isMark (cs ++ mark :: rest) = splitWhere isMark cs ++ splitWhere isMark rest := by
  induction cs with
  | nil => simp [splitWhere, hmark]
  | cons c cs ih =>
    rw [List.cons_append, splitWhere, ih, splitWhere]
    split
    · rfl
    · cases hs : splitWhere isMark cs with
      | nil => exact absurd hs (splitWhere_ne_nil isMark cs)
      | cons piece pieces => rfl

namespace Files

variable {a b path place s : String} {ss names done : List String}

/-! ## Segments -/

/-- The segments before a slash and those behind it. -/
theorem segments_append (a b : String) : segments (a ++ "/" ++ b) = segments a ++ segments b := by
  have hchars : (a ++ "/" ++ b).toList = a.toList ++ '/' :: b.toList := by
    rw [String.toList_append, String.toList_append, List.append_assoc]
    rfl
  unfold segments
  rw [hchars, Text.splitWhere_around (by rfl), List.map_append]

/-- A text without a slash is one segment. -/
theorem segments_of_noSlash (h : '/' ∉ s.toList) : segments s = [s] := by
  have hmark : ∀ c ∈ s.toList, decide (c = '/') = false := by
    intro c hc
    rw [decide_eq_false_iff_not]
    rintro rfl
    exact h hc
  unfold segments
  rw [Text.splitWhere_of_no_mark hmark, List.map_singleton, String.ofList_toList]

/-- No segment has a slash. -/
theorem noSlash_of_mem (h : s ∈ segments path) : '/' ∉ s.toList := by
  obtain ⟨piece, hpiece, rfl⟩ := List.mem_map.1 h
  rw [String.toList_ofList]
  intro hslash
  have hmark := Text.not_mark_of_mem_splitWhere _ _ piece hpiece '/' hslash
  exact absurd hmark (by decide)

/-- Every path has a segment, if only an empty one. -/
theorem segments_ne_nil (path : String) : segments path ≠ [] := by
  unfold segments
  rw [Ne, List.map_eq_nil_iff]
  exact Text.splitWhere_ne_nil _ _

theorem intercalate_cons (s : String) (hne : ss ≠ []) :
    "/".intercalate (s :: ss) = s ++ "/" ++ "/".intercalate ss := by
  cases ss with
  | nil => exact absurd rfl hne
  | cons t ss => exact String.intercalate_cons_cons

/-- Segments that are put together are those of the path. -/
theorem segments_intercalate (hne : ss ≠ []) (h : ∀ s ∈ ss, '/' ∉ s.toList) :
    segments ("/".intercalate ss) = ss := by
  induction ss with
  | nil => exact absurd rfl hne
  | cons s ss ih =>
    obtain ⟨hs, hss⟩ := List.forall_mem_cons.1 h
    by_cases hnil : ss = []
    · rw [hnil, String.intercalate_singleton, segments_of_noSlash hs]
    · rw [intercalate_cons s hnil, segments_append, segments_of_noSlash hs, ih hnil hss]
      rfl

/-! ## Tidy lists -/

/-- What a path comes to, the last segment first: names, and below them the segments that lead
up. -/
inductive Tidy : List String → Prop
  | nil : Tidy []
  | up {done : List String} : (∀ d ∈ done, d = "..") → Tidy done → Tidy (".." :: done)
  | name {s : String} {done : List String} : s ≠ "" → s ≠ "." → s ≠ ".." → '/' ∉ s.toList →
    Tidy done → Tidy (s :: done)

namespace Tidy

theorem tail (h : Tidy (s :: done)) : Tidy done := by
  cases h with
  | up _ h => exact h
  | name _ _ _ _ h => exact h

/-- Segments that are left have no slash, like those of the path. -/
theorem noSlash (h : Tidy done) : ∀ s ∈ done, '/' ∉ s.toList := by
  induction h with
  | nil => exact fun s hs => absurd hs List.not_mem_nil
  | up _ _ ih => exact List.forall_mem_cons.2 ⟨by decide, ih⟩
  | name _ _ _ hs _ ih => exact List.forall_mem_cons.2 ⟨hs, ih⟩

theorem ne_empty (h : Tidy done) : ∀ s ∈ done, s ≠ "" := by
  induction h with
  | nil => exact fun s hs => absurd hs List.not_mem_nil
  | up _ _ ih => exact List.forall_mem_cons.2 ⟨by decide, ih⟩
  | name hs _ _ _ _ ih => exact List.forall_mem_cons.2 ⟨hs, ih⟩

/-- **One more segment** leaves a tidy list tidy. -/
theorem push (h : Tidy done) (hs : '/' ∉ s.toList) : Tidy (pushSegment false done s) := by
  unfold pushSegment
  by_cases hstay : s = "" ∨ s = "."
  · have hstay' : (decide (s = "") || decide (s = ".")) = true := by simpa using hstay
    rw [if_pos hstay']
    exact h
  · have hstay' : ¬(decide (s = "") || decide (s = ".")) = true := by simpa using hstay
    rw [if_neg hstay']
    push Not at hstay
    -- a segment that leads up takes a name back, or stays if there is none to take back
    by_cases hup : s = ".."
    · rw [if_pos hup]
      cases done with
      | nil =>
        rw [hup]
        exact .up (fun d hd => absurd hd List.not_mem_nil) .nil
      | cons d rest =>
        dsimp only
        split
        · rename_i hd
          rw [hup]
          refine .up (List.forall_mem_cons.2 ⟨hd, ?_⟩) h
          cases h with
          | up hall _ => exact hall
          | name _ _ hne => exact absurd hd hne
        · exact h.tail
    · rw [if_neg hup]
      exact .name hstay.1 hstay.2 hup hs h

theorem foldl_push (h : Tidy done) (hss : ∀ s ∈ ss, '/' ∉ s.toList) :
    Tidy (ss.foldl (pushSegment false) done) := by
  induction ss generalizing done with
  | nil => exact h
  | cons s ss ih =>
    obtain ⟨hs, hss⟩ := List.forall_mem_cons.1 hss
    exact ih (h.push hs) hss

/-- **Reading a tidy list** once more gives it again. -/
theorem refold (h : Tidy done) : done.reverse.foldl (pushSegment false) [] = done := by
  induction h with
  | nil => rfl
  | @up done hall h ih =>
    rw [List.reverse_cons, List.foldl_append, ih, List.foldl_cons, List.foldl_nil]
    cases done with
    | nil => rfl
    | cons d rest =>
      have hd : d = ".." := hall d List.mem_cons_self
      simp [pushSegment, hd]
  | name hs hdot hup _ _ ih =>
    rw [List.reverse_cons, List.foldl_append, ih, List.foldl_cons, List.foldl_nil]
    simp [pushSegment, hs, hdot, hup]

end Tidy

/-! ## Cleaning -/

/-- The segments that are left of a path, the last one first. -/
def stack (path : String) : List String := (segments path).foldl (pushSegment false) []

theorem tidy_stack (path : String) : Tidy (stack path) :=
  Tidy.nil.foldl_push fun _ hs => noSlash_of_mem hs

/-- A path that is put behind another is read on from what is left of that. -/
theorem stack_append (a b : String) :
    stack (a ++ "/" ++ b) = (segments b).foldl (pushSegment false) (stack a) := by
  unfold stack
  rw [segments_append, List.foldl_append]

theorem clean_of_not_rooted (h : isRooted path = false) :
    clean path = joinSegments false (stack path).reverse := by
  unfold clean stack
  rw [h]

/-- A path that does not start at the root is cleaned to the place itself, or to its segments. -/
theorem clean_cases (h : isRooted path = false) : (stack path = [] ∧ clean path = ".") ∨
    (stack path ≠ [] ∧ clean path = "/".intercalate (stack path).reverse) := by
  rw [clean_of_not_rooted h]
  unfold joinSegments
  rw [if_neg Bool.false_ne_true]
  by_cases hnil : stack path = []
  · rw [hnil]
    exact Or.inl ⟨rfl, rfl⟩
  · have hne : (stack path).reverse.isEmpty = false := by simpa using hnil
    rw [hne]
    exact Or.inr ⟨hnil, rfl⟩

theorem segments_clean (h : isRooted path = false) (hne : stack path ≠ []) :
    segments (clean path) = (stack path).reverse := by
  rcases clean_cases h with ⟨hnil, -⟩ | ⟨-, hclean⟩
  · exact absurd hnil hne
  · rw [hclean]
    refine segments_intercalate (by simpa using hne) fun s hs => ?_
    exact (tidy_stack path).noSlash s (List.mem_reverse.1 hs)

/-- **What is clean stays as it is.** -/
theorem stack_clean (h : isRooted path = false) : stack (clean path) = stack path := by
  by_cases hnil : stack path = []
  · rcases clean_cases h with ⟨-, hclean⟩ | ⟨hne, -⟩
    · rw [hclean, hnil]
      rfl
    · exact absurd hnil hne
  · have hsegments := segments_clean h hnil
    unfold stack at hsegments ⊢
    rw [hsegments]
    exact (tidy_stack path).refold

/-- Whether a path starts at the root is settled by its first character. -/
theorem isRooted_append (hne : a ≠ "") (b : String) : isRooted (a ++ b) = isRooted a := by
  unfold isRooted
  rw [String.toList_append]
  cases h : a.toList with
  | nil => exact absurd (String.toList_eq_nil_iff.1 h) hne
  | cons c cs => rfl

/-- Cleaning makes no empty path, and none that starts at the root. -/
theorem not_rooted_clean (h : isRooted path = false) :
    clean path ≠ "" ∧ isRooted (clean path) = false := by
  rcases clean_cases h with ⟨-, hclean⟩ | ⟨hne, hclean⟩
  · rw [hclean]
    exact ⟨by decide, by decide⟩
  · have htidy := tidy_stack path
    rw [hclean]
    cases hrev : (stack path).reverse with
    | nil => exact absurd (List.reverse_eq_nil_iff.1 hrev) hne
    | cons s ss =>
      -- the first segment is not empty and has no slash, so it starts no path at the root
      have hs : s ∈ stack path := List.mem_reverse.1 (hrev ▸ List.mem_cons_self)
      have hempty : s ≠ "" := htidy.ne_empty s hs
      have hstart : isRooted s = false := by
        unfold isRooted
        cases hchars : s.toList with
        | nil => rfl
        | cons c cs =>
          have hslash := htidy.noSlash s hs
          rw [hchars, List.mem_cons, not_or] at hslash
          simpa using Ne.symm hslash.1
      by_cases hnil : ss = []
      · rw [hnil, String.intercalate_singleton]
        exact ⟨hempty, hstart⟩
      · rw [intercalate_cons s hnil, String.append_assoc]
        refine ⟨fun heq => hempty ?_, by rw [isRooted_append hempty, hstart]⟩
        exact (String.append_eq_empty_iff.1 heq).1

/-- **A path may be cleaned before another is put behind it.** -/
theorem clean_append (hne : a ≠ "") (h : isRooted a = false) (b : String) :
    clean (clean a ++ "/" ++ b) = clean (a ++ "/" ++ b) := by
  obtain ⟨hne', h'⟩ := not_rooted_clean h
  have hrooted : ∀ x : String, x ≠ "" → isRooted x = false → isRooted (x ++ "/" ++ b) = false := by
    intro x hx hroot
    rw [String.append_assoc, isRooted_append hx, hroot]
  rw [clean_of_not_rooted (hrooted _ hne' h'), clean_of_not_rooted (hrooted a hne h),
    stack_append, stack_append, stack_clean h]

/-- **A path that grows name by name**, cleaned at each step, is the clean form of the whole. -/
theorem foldl_child (hplace : place ≠ "") (h : isRooted place = false) (hne : names ≠ []) :
    names.foldl child place = clean (place ++ "/" ++ "/".intercalate names) := by
  induction names generalizing place with
  | nil => exact absurd rfl hne
  | cons n names ih =>
    rw [List.foldl_cons]
    by_cases hnil : names = []
    · rw [hnil, String.intercalate_singleton]
      rfl
    · have hgrown : place ++ "/" ++ n ≠ "" := by
        intro heq
        exact hplace (String.append_eq_empty_iff.1 (String.append_eq_empty_iff.1 heq).1).1
      have hgrown' : isRooted (place ++ "/" ++ n) = false := by
        rw [String.append_assoc, isRooted_append hplace, h]
      obtain ⟨hchild, hchild'⟩ := not_rooted_clean hgrown'
      calc names.foldl child (child place n)
          = clean (clean (place ++ "/" ++ n) ++ "/" ++ "/".intercalate names) :=
            ih hchild hchild' hnil
        _ = clean (place ++ "/" ++ n ++ "/" ++ "/".intercalate names) :=
            clean_append hgrown hgrown' _
        _ = clean (place ++ "/" ++ "/".intercalate (n :: names)) := by
            rw [intercalate_cons n hnil]
            simp only [String.append_assoc]

end Files

/-! ## Where a path leads -/

namespace Entry

variable {above above' above'' : List Entry} {e e' e'' root : Entry} {path s : String}
  {ss ss' done : List String}

/-- From the entry `e` below the directories `above`, segments lead to `e'` below `above'`. -/
inductive Goes : List Entry → Entry → List String → List Entry → Entry → Prop
  | here {above : List Entry} {e : Entry} : Goes above e [] above e
  | stay {above above' : List Entry} {children : List (String × Entry)} {e' : Entry} {s : String}
    {ss : List String} : s = "" ∨ s = "." → Goes above (.directory children) ss above' e' →
    Goes above (.directory children) (s :: ss) above' e'
  | up {above above' : List Entry} {children : List (String × Entry)} {d e' : Entry}
    {ss : List String} : Goes above d ss above' e' →
    Goes (d :: above) (.directory children) (".." :: ss) above' e'
  | down {above above' : List Entry} {children : List (String × Entry)} {d e' : Entry} {s : String}
    {ss : List String} : s ≠ "" → s ≠ "." → s ≠ ".." → lookupKey s children = some d →
    Goes (.directory children :: above) d ss above' e' →
    Goes above (.directory children) (s :: ss) above' e'

theorem follow_cons (above : List Entry) (children : List (String × Entry)) (s : String)
    (ss : List String) : follow above (.directory children) (s :: ss) =
      if s = "" || s = "." then follow above (.directory children) ss
      else if s = ".." then
        match above with
        | [] => .error .missing
        | up :: further => follow further up ss
      else match lookupKey s children with
        | none => .error .missing
        | some e => follow (.directory children :: above) e ss :=
  follow.eq_def above (.directory children) (s :: ss)

/-- What segments are followed to is where they lead. -/
theorem follow_iff : follow above e ss = .ok e' ↔ ∃ above', Goes above e ss above' e' := by
  constructor
  · intro h
    induction ss generalizing above e with
    | nil =>
      rw [follow] at h
      cases h
      exact ⟨above, .here⟩
    | cons s ss ih =>
      cases e with
      | file text => cases h
      | directory children =>
        rw [follow_cons] at h
        split at h
        · rename_i hs
          obtain ⟨above', hgoes⟩ := ih h
          exact ⟨above', .stay (by simpa using hs) hgoes⟩
        · rename_i hs
          split at h
          · rename_i hup
            subst hup
            cases above with
            | nil => cases h
            | cons d above =>
              obtain ⟨above', hgoes⟩ := ih h
              exact ⟨above', .up hgoes⟩
          · rename_i hup
            split at h
            · cases h
            · rename_i d hd
              obtain ⟨above', hgoes⟩ := ih h
              have hs' : s ≠ "" ∧ s ≠ "." := by simpa [not_or] using hs
              exact ⟨above', .down hs'.1 hs'.2 hup hd hgoes⟩
  · rintro ⟨above', h⟩
    induction h with
    | here => rw [follow]
    | stay hs _ ih =>
      rw [follow_cons, if_pos (by simpa using hs)]
      exact ih
    | up _ ih =>
      rw [follow_cons, if_neg (by decide), if_pos rfl]
      exact ih
    | down hs hdot hup hd _ ih =>
      rw [follow_cons, if_neg (by simp [hs, hdot]), if_neg hup, hd]
      exact ih

/-- Segments lead to where the first of them lead, and the others from there. -/
theorem goes_append : Goes above e (ss ++ ss') above'' e'' ↔
    ∃ above' e', Goes above e ss above' e' ∧ Goes above' e' ss' above'' e'' := by
  constructor
  · intro h
    induction ss generalizing above e with
    | nil => exact ⟨above, e, .here, h⟩
    | cons s ss ih =>
      cases h with
      | stay hs h =>
        obtain ⟨a, d, hfirst, hrest⟩ := ih h
        exact ⟨a, d, .stay hs hfirst, hrest⟩
      | up h =>
        obtain ⟨a, d, hfirst, hrest⟩ := ih h
        exact ⟨a, d, .up hfirst, hrest⟩
      | down hs hdot hup hd h =>
        obtain ⟨a, d, hfirst, hrest⟩ := ih h
        exact ⟨a, d, .down hs hdot hup hd hfirst, hrest⟩
  · rintro ⟨a, d, h, hrest⟩
    induction h with
    | here => exact hrest
    | stay hs _ ih => exact .stay hs (ih hrest)
    | up _ ih => exact .up (ih hrest)
    | down hs hdot hup hd _ ih => exact .down hs hdot hup hd (ih hrest)

/-- **Dropping segments and taking them back** does not change where a path leads. -/
theorem Goes.push (hdone : Files.Tidy done) (h : Goes above e done.reverse above' e')
    (hstep : Goes above' e' [s] above'' e'') :
    Goes above e (Files.pushSegment false done s).reverse above'' e'' := by
  cases hstep with
  | stay hs hrest =>
    cases hrest
    unfold Files.pushSegment
    rw [if_pos (by simpa using hs)]
    exact h
  | down hs hdot hup hd hrest =>
    have hpush : Files.pushSegment false done s = s :: done := by
      simp [Files.pushSegment, hs, hdot, hup]
    rw [hpush, List.reverse_cons, goes_append]
    exact ⟨_, _, h, .down hs hdot hup hd hrest⟩
  | up hrest =>
    cases hrest
    have hkeep : Goes above e (".." :: done).reverse above'' e'' := by
      rw [List.reverse_cons, goes_append]
      exact ⟨_, _, h, .up .here⟩
    cases hdone with
    | nil => exact hkeep
    | up => exact hkeep
    | @name d rest hd hdot hup _ _ =>
      have hpush : Files.pushSegment false (d :: rest) ".." = rest := by
        simp [Files.pushSegment, hup]
      -- the last step was down by the name, so the directory above is the one it came from
      rw [List.reverse_cons, goes_append] at h
      obtain ⟨a, c, hfirst, hlast⟩ := h
      rw [hpush]
      cases hlast with
      | stay hs _ => exact absurd hs (by simp [hd, hdot])
      | up => exact absurd rfl hup
      | down _ _ _ _ hlast =>
        cases hlast
        exact hfirst

/-- Segment by segment, the list leads to where the path has come. -/
theorem Goes.foldl_push (hdone : Files.Tidy done) (hss : ∀ s ∈ ss, '/' ∉ s.toList)
    (h : Goes above e done.reverse above' e') (hrest : Goes above' e' ss above'' e'') :
    Goes above e (ss.foldl (Files.pushSegment false) done).reverse above'' e'' := by
  induction ss generalizing done above' e' with
  | nil =>
    cases hrest
    exact h
  | cons s ss ih =>
    obtain ⟨hs, hss⟩ := List.forall_mem_cons.1 hss
    have hcons : s :: ss = [s] ++ ss := rfl
    rw [hcons, goes_append] at hrest
    obtain ⟨a, d, hstep, hrest⟩ := hrest
    exact ih (hdone.push hs) hss (h.push hdone hstep) hrest

theorem resolve_eq_ok : root.resolve path above = .ok e ↔ path ≠ "" ∧
    Files.isRooted path = false ∧ ∃ above', Goes above root (Files.segments path) above' e := by
  unfold resolve
  rw [← follow_iff]
  by_cases hempty : path = ""
  · simp [hempty]
  · by_cases hrooted : Files.isRooted path = true
    · simp [hrooted]
    · simp [hempty, hrooted]

/-- **The clean form of a path** leads to the same entry. -/
theorem resolve_clean (h : root.resolve path above = .ok e) :
    root.resolve (Files.clean path) above = .ok e := by
  obtain ⟨-, hrooted, above', hgoes⟩ := resolve_eq_ok.1 h
  obtain ⟨hne, hrooted'⟩ := Files.not_rooted_clean hrooted
  refine resolve_eq_ok.2 ⟨hne, hrooted', above', ?_⟩
  have hstack : Goes above root (Files.stack path).reverse above' e :=
    Goes.foldl_push .nil (fun _ hs => Files.noSlash_of_mem hs) .here hgoes
  rcases Files.clean_cases hrooted with ⟨hnil, hclean⟩ | ⟨hne, -⟩
  · -- the path leads back to where it starts, which is a directory
    rw [hnil] at hstack
    cases hstack
    cases hsegments : Files.segments path with
    | nil => exact absurd hsegments (Files.segments_ne_nil path)
    | cons s ss =>
      rw [hsegments] at hgoes
      rw [hclean]
      cases hgoes <;> exact .stay (Or.inr rfl) .here
  · rw [Files.segments_clean hrooted hne]
    exact hstack

end Entry

end GraphWalk
