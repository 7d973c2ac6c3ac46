import GraphWalk.Proofs.Text.Bytes
import GraphWalk.Web.RequestLine
import Mathlib.Data.List.TakeWhile

/-!
# Targets that are read as they stand

What needs no escape in a path is ASCII, no control character, and none of the marks that divide
an address (`Plain`). A path without escape sequences is read as it stands (`unescape_path`), and
is written as it stands if it is plain (`escape_path`).

Main result: `read_of_plain`. **A request for a plain path asks for that path**, and for nothing
else: the query is empty, so no parameter has a value (`queryValue_empty`).
-/

namespace GraphWalk

namespace Url

variable {c : Char} {cs : List Char}

/-- A character that stands for itself in a path. -/
def Plain (c : Char) : Prop := mustEscape .path c = false

instance (c : Char) : Decidable (Plain c) := inferInstanceAs (Decidable (_ = false))

theorem Plain.ne (h : Plain c) {d : Char} (hd : mustEscape .path d = true) : c ≠ d := by
  rintro rfl
  exact absurd hd (by rw [h]; decide)

theorem plain_of_isAlphanum (h : c.isAlphanum = true) : Plain c := by
  unfold Plain mustEscape isAlnum
  rw [if_pos h]

theorem plain_of_all (h : cs.all (fun c => !mustEscape .path c) = true) : ∀ c ∈ cs, Plain c :=
  fun c hc => Bool.not_eq_eq_eq_not.1 (List.all_eq_true.1 h c hc)

/-- No control character is plain. -/
theorem Plain.hasControl (h : ∀ c ∈ cs, Plain c) : hasControl cs = false := by
  have hcontrol : ∀ n < 128, n < 0x20 ∨ n = 0x7f → mustEscape .path (Char.ofNat n) = true := by
    decide +kernel
  unfold Url.hasControl
  rw [List.any_eq_false]
  intro c hc hctl
  simp only [Bool.or_eq_true, decide_eq_true_eq] at hctl
  refine (h c hc).ne (hcontrol c.toNat (by omega) hctl) ?_
  rw [Char.ofNat_toNat]

/-! ### Cuts -/

theorem cutAt_append (hc : c ∉ cs) (rest : List Char) :
    cutAt c (cs ++ c :: rest) = (cs, some rest) := by
  have hne : ∀ d ∈ cs, decide (d ≠ c) = true := fun d hd =>
    decide_eq_true fun h => hc (h ▸ hd)
  unfold cutAt
  rw [List.dropWhile_append_of_pos hne, List.takeWhile_append_of_pos hne,
    List.dropWhile_cons_of_neg (by simp), List.takeWhile_cons_of_neg (by simp), List.append_nil]

theorem cutAt_of_notMem (hc : c ∉ cs) : cutAt c cs = (cs, none) := by
  unfold cutAt
  have hnil : cs.dropWhile (fun d => decide (d ≠ c)) = [] :=
    List.dropWhile_eq_nil_iff.2 fun d hd => decide_eq_true fun h => hc (h ▸ hd)
  rw [hnil]

/-! ### Paths -/

/-- **Without escape sequences a path is read as it stands.** -/
theorem unescape_path (hc : '%' ∉ cs) : unescape .path cs = .ok (String.ofList cs) := by
  have hgo : ∀ (cs : List Char) (fuel : Nat) (out : List UInt8), '%' ∉ cs → cs.length < fuel →
      unescape.go .path fuel cs out = .ok (Text.ofBytes (out.reverse ++ Text.bytes cs)) := by
    intro cs
    induction cs with
    | nil =>
      intro fuel out _ hfuel
      obtain ⟨fuel, rfl⟩ : ∃ k, fuel = k + 1 := ⟨fuel - 1, by simp at hfuel; omega⟩
      rw [unescape.go]
      · simp [Text.bytes]
      · exact Nat.succ_ne_zero fuel
    | cons c cs ih =>
      intro fuel out hc hfuel
      rw [List.mem_cons, not_or] at hc
      rw [List.length_cons] at hfuel
      obtain ⟨fuel, rfl⟩ : ∃ k, fuel = k + 1 := ⟨fuel - 1, by omega⟩
      rw [unescape.go, if_neg (Ne.symm hc.1), if_neg (by simp), if_neg (by simp),
        ih fuel _ hc.2 (by omega)]
      simp [Text.bytes]
  unfold unescape
  rw [hgo cs _ [] hc (Nat.lt_succ_self _), List.reverse_nil, List.nil_append, Text.ofBytes_bytes]

/-- **What is plain is written as it stands.** -/
theorem escape_path (h : ∀ c ∈ cs, Plain c) :
    escape .path (String.ofList cs) = String.ofList cs := by
  unfold escape
  rw [String.toList_ofList]
  congr 1
  induction cs with
  | nil => rfl
  | cons c cs ih =>
    obtain ⟨hc, hcs⟩ := List.forall_mem_cons.1 h
    rw [List.flatMap_cons, if_neg (by simp), if_neg (by rw [hc]; decide), ih hcs,
      List.singleton_append]

/-- **A plain path is a target** with nothing but a path. -/
theorem parseTarget_of_plain (h : ∀ c ∈ cs, Plain c) (hhead : cs.head? = some '/') :
    parseTarget (String.ofList cs) = .ok { empty with path := String.ofList cs } := by
  have hquery : '?' ∉ cs := fun hm => (h _ hm).ne rfl rfl
  have hescape : '%' ∉ cs := fun hm => (h _ hm).ne rfl rfl
  have hne : cs.isEmpty = false := by
    cases cs with
    | nil => cases hhead
    | cons c cs => rfl
  have hpath : withPath { empty with forceQuery := false, rawQuery := "" } cs =
      .ok { empty with path := String.ofList cs } := by
    unfold withPath
    rw [unescape_path hescape]
    show Except.ok _ = _
    rw [if_pos (escape_path h)]
    rfl
  unfold parseTarget splitQuery
  simp only [String.toList_ofList, Plain.hasControl h, hne, hhead, cutAt_of_notMem hquery]
  rw [if_neg Bool.false_ne_true, if_neg Bool.false_ne_true, if_pos trivial]
  exact congrArg _ hpath

theorem queryValue_empty (path key : String) : { empty with path }.queryValue key = "" := rfl

end Url

namespace RequestLine

variable {method target : String}

theorem ne_of_isMethod (h : isMethod method = true) : ∀ c ∈ method.toList, c ≠ ' ' ∧ c ≠ '\n' := by
  unfold isMethod at h
  rw [Bool.and_eq_true, List.all_eq_true] at h
  intro c hc
  have hok := h.2 c hc
  constructor <;> rintro rfl <;> exact absurd hok (by decide)

/-- **A request line** with a method and a target without blanks is read as these two. -/
theorem read_eq (hm : isMethod method = true)
    (ht : ∀ c ∈ target.toList, c ≠ ' ' ∧ c ≠ '\n') :
    read (method ++ " " ++ target ++ " HTTP/1.0\r\n") =
      match readTarget method target.toList with
      | .error e => .error (.invalidTarget e)
      | .ok u => .ok ⟨method, u⟩ := by
  have hmethod := ne_of_isMethod hm
  generalize hline : method.toList ++ ' ' :: (target.toList ++ ' ' :: "HTTP/1.0".toList) = line
  have htext : (method ++ " " ++ target ++ " HTTP/1.0\r\n").toList =
      (line ++ ['\r']) ++ '\n' :: [] := by
    simp [← hline, String.toList_append]
  have hversion : ∀ c ∈ "HTTP/1.0".toList, c ≠ '\n' := by simp
  have hbreak : ∀ c ∈ line ++ ['\r'], decide (c ≠ '\n') = true := by
    intro c hc
    rw [decide_eq_true_eq]
    simp only [← hline, List.mem_append, List.mem_cons] at hc
    rcases hc with (hc | rfl | hc | rfl | hc) | rfl | hc
    · exact (hmethod c hc).2
    · decide
    · exact (ht c hc).2
    · decide
    · exact hversion c hc
    · decide
    · cases hc
  unfold read
  rw [htext, List.takeWhile_append_of_pos hbreak, List.takeWhile_cons_of_neg (by simp),
    List.append_nil]
  simp only [List.getLast?_concat, if_true, List.dropLast_concat]
  rw [← hline, Url.cutAt_append fun hc => (hmethod _ hc).1 rfl]
  simp only
  rw [Url.cutAt_append fun hc => (ht _ hc).1 rfl]
  simp only [String.ofList_toList, hm, Bool.not_true]
  rfl

/-- **A request for a plain path** asks for just that path. -/
theorem read_of_plain (hm : isMethod method = true) (h : ∀ c ∈ target.toList, Url.Plain c)
    (hhead : target.toList.head? = some '/') :
    read (method ++ " " ++ target ++ " HTTP/1.0\r\n") =
      .ok ⟨method, { Url.empty with path := target }⟩ := by
  have htarget : readTarget method target.toList = .ok { Url.empty with path := target } := by
    unfold readTarget
    rw [if_neg (by simp [hhead]), Url.parseTarget_of_plain h hhead, String.ofList_toList]
  rw [read_eq hm fun c hc => ⟨(h c hc).ne rfl, (h c hc).ne rfl⟩, htarget]

end RequestLine

end GraphWalk
