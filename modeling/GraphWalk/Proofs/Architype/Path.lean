import GraphWalk.Architype.Kind
import Mathlib

/-!
# Ability paths and their texts

A text is cut at its points as `List.splitOn` does (`cut_eq_splitOn`), so putting the parts
together again gives the text back (`eq_of_cut`), and parts without points are found as they
were put together (`cut_append`). A path is what three such parts name: a kind
(`parse?_eq_some_iff` of `Kind`) and two identifiers (`isIdent_iff`).

Main result: `read_of_names`. **Just the texts of a kind and two identifiers with points between
them are read**, each is written again as it was read, and each path of a kind and two
identifiers is read back from its text.
-/

namespace GraphWalk

/-- The names of kinds are read back, and no others. -/
theorem Kind.parse?_eq_some_iff {s : String} {k : Kind} :
    Kind.parse? s = some k ↔ k.isValid = true ∧ k.text = s := by
  constructor
  · intro h
    unfold Kind.parse? at h
    split at h <;> cases h <;> exact ⟨rfl, rfl⟩
  · rintro ⟨hk, rfl⟩
    cases k with
    | invalid => cases hk
    | _ => rfl

theorem Kind.text_mem {k : Kind} (hk : k.isValid = true) :
    k.text ∈ ["object", "node", "edge", "walker"] := by
  cases k with
  | invalid => cases hk
  | _ => simp [Kind.text]

theorem Kind.exists_of_text {s : String} (hs : s ∈ ["object", "node", "edge", "walker"]) :
    ∃ k : Kind, k.isValid = true ∧ k.text = s := by
  simp only [List.mem_cons, List.not_mem_nil, or_false] at hs
  rcases hs with rfl | rfl | rfl | rfl
  · exact ⟨.object, rfl, rfl⟩
  · exact ⟨.node, rfl, rfl⟩
  · exact ⟨.edge, rfl, rfl⟩
  · exact ⟨.walker, rfl, rfl⟩

namespace Path

variable {raw : String} {p : Path} {c : Char} {cs : List Char}

/-! ### Identifiers -/

/-- A letter of ASCII, or an underscore. -/
def Letter (c : Char) : Prop := ('A' ≤ c ∧ c ≤ 'Z') ∨ ('a' ≤ c ∧ c ≤ 'z') ∨ c = '_'

/-- A letter, then letters and digits. -/
def Identifier (s : String) : Prop := ∃ c cs, s.toList = c :: cs ∧ Letter c ∧
  ∀ d ∈ cs, Letter d ∨ ('0' ≤ d ∧ d ≤ '9')

theorem isIdentStart_iff : isIdentStart c = true ↔ Letter c := by
  simp only [isIdentStart, Char.isAlpha, Char.isUpper, Char.isLower, Letter, Bool.or_eq_true,
    Bool.and_eq_true, decide_eq_true_eq, ge_iff_le, Char.le_def, or_assoc]

theorem isIdentChar_iff : isIdentChar c = true ↔ Letter c ∨ ('0' ≤ c ∧ c ≤ '9') := by
  simp only [← isIdentStart_iff, isIdentChar, isIdentStart, Char.isAlphanum, Char.isDigit,
    Bool.or_eq_true, Bool.and_eq_true, decide_eq_true_eq, ge_iff_le, Char.le_def]
  tauto

/-- A text passes the check of identifiers just if it is one. -/
theorem isIdent_iff {s : String} : isIdent s.toList = true ↔ Identifier s := by
  unfold Identifier
  obtain _ | ⟨c, cs⟩ := s.toList
  · simp [isIdent]
  · simp only [isIdent, Bool.and_eq_true, List.all_eq_true, isIdentStart_iff, isIdentChar_iff,
      List.cons.injEq]
    constructor
    · exact fun h => ⟨c, cs, ⟨rfl, rfl⟩, h⟩
    · rintro ⟨_, _, ⟨rfl, rfl⟩, h⟩
      exact h

/-- No point is part of an identifier. -/
theorem Identifier.no_point {s : String} (h : Identifier s) : '.' ∉ s.toList := by
  obtain ⟨c, cs, hs, hc, hcs⟩ := h
  -- a point is neither a letter nor a digit
  have hpoint : ¬(Letter '.' ∨ ('0' ≤ '.' ∧ '.' ≤ '9')) := by
    unfold Letter
    decide
  rw [hs]
  intro hmem
  rcases List.mem_cons.1 hmem with rfl | hmem
  · exact hpoint (.inl hc)
  · exact hpoint (hcs _ hmem)

/-! ### Parts between points -/

theorem cut_eq_splitOn (cs : List Char) : cut cs = cs.splitOn '.' := by
  induction cs with
  | nil => rw [List.splitOn_nil, cut]
  | cons c cs ih =>
    rw [List.splitOn_cons_eq_if_modifyHead, ← ih]
    by_cases hc : c = '.'
    · subst hc
      simp [cut]
    · -- the character goes to the first of the parts behind it, of which there is one always
      obtain ⟨part, parts, hparts⟩ := List.exists_cons_of_ne_nil (l := cut cs)
        (ih ▸ List.splitOn_ne_nil '.' cs)
      rw [if_neg (by simpa using hc), cut, hparts, List.modifyHead_cons]
      exact hc

theorem intercalate_three (k a b : List Char) :
    ['.'].intercalate [k, a, b] = k ++ '.' :: (a ++ '.' :: b) := by
  simp [List.intercalate, List.intersperse]

/-- Three parts make up the text again. -/
theorem eq_of_cut {k a b : List Char} (h : cut cs = [k, a, b]) :
    cs = k ++ '.' :: (a ++ '.' :: b) := by
  rw [cut_eq_splitOn] at h
  rw [← intercalate_three, ← h, List.intercalate_splitOn]

/-- Parts without points are found again. -/
theorem cut_append {k a b : List Char} (hk : '.' ∉ k) (ha : '.' ∉ a) (hb : '.' ∉ b) :
    cut (k ++ '.' :: (a ++ '.' :: b)) = [k, a, b] := by
  rw [cut_eq_splitOn, ← intercalate_three]
  refine List.splitOn_intercalate '.' ?_ (List.cons_ne_nil _ _)
  simp [hk, ha, hb]

/-! ### Reading and writing -/

theorem toList_text (p : Path) : p.text.toList =
    p.kind.text.toList ++ '.' :: (p.arch.toList ++ '.' :: p.ability.toList) := by
  simp [text]

theorem no_point_of_isValid {k : Kind} (hk : k.isValid = true) : '.' ∉ k.text.toList := by
  cases k with
  | invalid => cases hk
  | _ => decide

/-- **A path is read** just if the text is that of the path, and its parts are a kind and two
identifiers. -/
theorem parse?_eq_some_iff : parse? raw = some p ↔
    p.text = raw ∧ p.kind.isValid = true ∧ Identifier p.arch ∧ Identifier p.ability := by
  constructor
  · intro h
    unfold parse? at h
    split at h
    · rename_i k a b hcut
      split at h
      · rename_i kind hkind
        split_ifs at h with hident
        · cases h
          obtain ⟨hvalid, htext⟩ := Kind.parse?_eq_some_iff.1 hkind
          rw [Bool.and_eq_true] at hident
          refine ⟨String.toList_inj.1 ?_, hvalid, isIdent_iff.1 ?_, isIdent_iff.1 ?_⟩
          · rw [toList_text, eq_of_cut hcut]
            simp only [htext, String.toList_ofList]
          · rw [String.toList_ofList]
            exact hident.1
          · rw [String.toList_ofList]
            exact hident.2
      · cases h
    · cases h
  · rintro ⟨rfl, hvalid, harch, hability⟩
    have hkind : Kind.parse? p.kind.text = some p.kind :=
      Kind.parse?_eq_some_iff.2 ⟨hvalid, rfl⟩
    have hident : (isIdent p.arch.toList && isIdent p.ability.toList) = true := by
      rw [isIdent_iff.2 harch, isIdent_iff.2 hability, Bool.and_self]
    -- none of the three parts has a point, so the text is cut where they meet
    rw [parse?, toList_text,
      cut_append (no_point_of_isValid hvalid) harch.no_point hability.no_point]
    simp only [String.ofList_toList, hkind, hident, if_true]

/-- **Paths and their texts.** A text is read just if it is the name of a kind and two
identifiers with points between them. It is then the text of the path, and each path of a kind
and two identifiers is read back from its text. -/
theorem read_of_names :
    (∀ raw, (∃ p, parse? raw = some p) ↔ ∃ kind arch ability,
      kind ∈ ["object", "node", "edge", "walker"] ∧ Identifier arch ∧ Identifier ability ∧
      raw = kind ++ "." ++ arch ++ "." ++ ability) ∧
    (∀ raw p, parse? raw = some p → p.text = raw) ∧
    ∀ p : Path, p.kind.isValid = true → Identifier p.arch → Identifier p.ability →
      parse? p.text = some p := by
  refine ⟨fun raw => ⟨?_, ?_⟩, fun raw p h => (parse?_eq_some_iff.1 h).1, fun p hk ha hb =>
    parse?_eq_some_iff.2 ⟨rfl, hk, ha, hb⟩⟩
  · rintro ⟨p, h⟩
    obtain ⟨htext, hvalid, harch, hability⟩ := parse?_eq_some_iff.1 h
    exact ⟨_, _, _, Kind.text_mem hvalid, harch, hability, htext.symm⟩
  · rintro ⟨kind, arch, ability, hkind, harch, hability, rfl⟩
    obtain ⟨k, hvalid, rfl⟩ := Kind.exists_of_text hkind
    exact ⟨⟨k, arch, ability⟩, parse?_eq_some_iff.2 ⟨rfl, hvalid, harch, hability⟩⟩

theorem read_of_greeting : Identifier "_W2" ∧ Identifier "greet" ∧
    (∃ p, parse? "walker._W2.greet" = some p ∧ p.text = "walker._W2.greet") ∧
    parse? (⟨.node, "greet", "_W2"⟩ : Path).text = some ⟨.node, "greet", "_W2"⟩ := by
  obtain ⟨haccepts, hback, hread⟩ := read_of_names
  have harch : Identifier "_W2" := isIdent_iff.1 (by decide)
  have hability : Identifier "greet" := isIdent_iff.1 (by decide)
  obtain ⟨p, hp⟩ := (haccepts "walker._W2.greet").2
    ⟨"walker", "_W2", "greet", by simp, harch, hability, by decide⟩
  exact ⟨harch, hability, ⟨p, hp, hback _ p hp⟩, hread _ rfl hability harch⟩

end Path

end GraphWalk
