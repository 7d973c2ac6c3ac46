/-!
# Blank characters, and splitting texts

A text is split at every mark. The pieces hold no mark (`not_mark_of_mem_splitWhere`), and
there is always at least one (`splitWhere_ne_nil`). What comes before the first mark is a
piece (`splitWhere_append`).
-/

namespace GraphWalk.Text

/-- Blanks of every script: controls that move the position, separators, and the
no-break space. -/
def isSpace (c : Char) : Bool :=
  [' ', '\t', '\n', '\x0b', '\x0c', '\r', '\u0085', '\u00a0', '\u1680', '\u2028', '\u2029',
    '\u202f', '\u205f', '\u3000'].contains c || (0x2000 ≤ c.toNat && c.toNat ≤ 0x200a)

/-- Drops blanks at the front. -/
def trimLeft (s : String) : String := String.ofList (s.toList.dropWhile isSpace)

/-- Drops blanks at the end. -/
def trimRight (s : String) : String :=
  String.ofList ((s.toList.reverse.dropWhile isSpace).reverse)

/-- Drops blanks at both ends. -/
def trim (s : String) : String := trimLeft (trimRight s)

/-- The pieces of a text between marks, empty ones included. -/
def splitWhere (isMark : Char → Bool) : List Char → List (List Char)
  | [] => [[]]
  | c :: cs =>
    if isMark c then [] :: splitWhere isMark cs
    else match splitWhere isMark cs with
      | [] => [[c]]
      | piece :: rest => (c :: piece) :: rest

theorem splitWhere_ne_nil (isMark : Char → Bool) (cs : List Char) :
    splitWhere isMark cs ≠ [] := by
  cases cs with
  | nil => simp [splitWhere]
  | cons c cs =>
    rw [splitWhere]
    split
    · simp
    · split <;> simp

/-- No piece holds a mark. -/
theorem not_mark_of_mem_splitWhere (isMark : Char → Bool) (cs piece : List Char)
    (hp : piece ∈ splitWhere isMark cs) (c : Char) (hc : c ∈ piece) : isMark c = false := by
  induction cs generalizing piece with
  | nil =>
    rw [splitWhere, List.mem_singleton] at hp
    simp [hp] at hc
  | cons d ds ih =>
    rw [splitWhere] at hp
    split at hp
    · rcases List.mem_cons.1 hp with rfl | h
      · simp at hc
      · exact ih piece h hc
    · next hd =>
      split at hp
      · next h => exact absurd h (splitWhere_ne_nil isMark ds)
      · next first rest h =>
        rcases List.mem_cons.1 hp with rfl | h'
        · rcases List.mem_cons.1 hc with rfl | hc'
          · simpa using hd
          · exact ih first (by simp [h]) hc'
        · exact ih piece (by simp [h, h']) hc

theorem splitWhere_of_no_mark {isMark : Char → Bool} {cs : List Char}
    (h : ∀ c ∈ cs, isMark c = false) : splitWhere isMark cs = [cs] := by
  induction cs with
  | nil => rfl
  | cons c cs ih =>
    obtain ⟨hc, hcs⟩ := List.forall_mem_cons.1 h
    rw [splitWhere, hc, if_neg Bool.false_ne_true, ih hcs]

/-- The first mark divides a text from what follows. -/
theorem splitWhere_append {isMark : Char → Bool} {cs : List Char} {mark : Char}
    (h : ∀ c ∈ cs, isMark c = false) (hmark : isMark mark = true) (rest : List Char) :
    splitWhere isMark (cs ++ mark :: rest) = cs :: splitWhere isMark rest := by
  induction cs with
  | nil => rw [List.nil_append, splitWhere, if_pos hmark]
  | cons c cs ih =>
    obtain ⟨hc, hcs⟩ := List.forall_mem_cons.1 h
    rw [List.cons_append, splitWhere, hc, if_neg Bool.false_ne_true, ih hcs]

/-- The lines of a text. -/
def lines (text : String) : List (List Char) := splitWhere (· = '\n') text.toList

end GraphWalk.Text
