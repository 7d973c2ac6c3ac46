import GraphWalk.Text.Bytes
import Mathlib.Data.List.Basic

/-!
# Texts and their bytes

Texts are compared character by character. A greater character has greater bytes, and no
character's bytes begin those of another (`encode_lt`), so comparing the bytes of two texts
gives the same answer: `bytes_lt_iff`.

The first byte of a character tells how many bytes it takes (`byteWidth_encode`), so the bytes of
a text are divided into its characters again: `ofBytes_bytes`.
-/

namespace GraphWalk.Text

theorem toList_loop (bs : ByteArray) (i : Nat) (r : List UInt8) :
    ByteArray.toList.loop bs i r = r.reverse ++ bs.data.toList.drop i := by
  fun_induction ByteArray.toList.loop bs i r with
  | case1 i r hi ih =>
    have hlen : i < bs.data.toList.length := by simpa using hi
    have hget : bs.get! i = bs.data.toList[i] := by
      cases bs
      exact getElem!_pos _ i hi
    rw [ih, List.drop_eq_getElem_cons hlen, hget, List.reverse_cons, List.append_assoc]
    rfl
  | case2 i r hi =>
    rw [List.drop_eq_nil_of_le (by simpa using Nat.le_of_not_lt hi), List.append_nil]

theorem bytes_cons (c : Char) (cs : List Char) :
    bytes (c :: cs) = String.utf8EncodeChar c ++ bytes cs := by
  have htext : c.toString.toUTF8 = (String.utf8EncodeChar c).toByteArray := by
    simp [Char.toString, String.toUTF8, List.utf8Encode_singleton]
  have hchar : c.toString.toUTF8.toList = String.utf8EncodeChar c := by
    rw [htext, ByteArray.toList, toList_loop, List.toList_data_toByteArray]
    rfl
  unfold bytes
  rw [List.flatMap_cons, hchar]

/-- The bytes of a greater character are greater, whatever follows. -/
theorem encode_lt {c d : Char} (h : c < d) (xs ys : List UInt8) :
    String.utf8EncodeChar c ++ xs < String.utf8EncodeChar d ++ ys := by
  have hv : c.val.toNat < d.val.toNat := h
  have hmax : d.val.toNat < 1114112 := by
    rcases d.valid with hd | ⟨-, hd⟩ <;> omega
  unfold String.utf8EncodeChar
  generalize c.val.toNat = m at *
  generalize d.val.toNat = n at *
  simp only
  -- one case for each pair of widths; the first bytes differ, or agree and so on to the last
  split_ifs <;>
    simp (disch := omega) only [List.cons_append, List.nil_append, List.cons_lt_cons_iff,
      UInt8.lt_iff_toNat_lt, ← UInt8.toNat_inj, UInt8.toNat_ofNat', Nat.mod_eq_of_lt] <;>
    omega

theorem bytes_lt {cs : List Char} : ∀ {ds : List Char}, cs < ds → bytes cs < bytes ds := by
  induction cs with
  | nil =>
    intro ds h
    cases ds with
    | nil => exact absurd h (List.lt_irrefl _)
    | cons d ds =>
      rw [bytes_cons]
      cases hd : String.utf8EncodeChar d with
      | nil => exact absurd hd String.utf8EncodeChar_ne_nil
      | cons b bs => exact List.nil_lt_cons _ _
  | cons c cs ih =>
    intro ds h
    cases ds with
    | nil => cases h
    | cons d ds =>
      rw [bytes_cons, bytes_cons]
      rcases List.cons_lt_cons_iff.1 h with hcd | ⟨rfl, hlt⟩
      · exact encode_lt hcd _ _
      · exact List.append_left_lt (ih hlt)

/-- **Texts are in the order of their bytes.** -/
theorem bytes_lt_iff {s t : String} : bytes s.toList < bytes t.toList ↔ s < t := by
  refine ⟨fun h => Decidable.byContradiction fun hn => ?_, bytes_lt⟩
  by_cases hgt : t < s
  · exact List.lt_asymm h (bytes_lt hgt)
  · obtain rfl : s = t := String.le_antisymm hgt hn
    exact List.lt_irrefl _ h

/-- A text of ASCII has as many bytes as characters. -/
theorem length_bytes {cs : List Char} (h : ∀ c ∈ cs, c.toNat < 128) :
    (bytes cs).length = cs.length := by
  induction cs with
  | nil => rfl
  | cons c cs ih =>
    have hc : c.utf8Size = 1 := Char.utf8Size_eq_one_iff.2
      (UInt32.le_iff_toNat_le.2 (Nat.le_of_lt_succ (h c List.mem_cons_self)))
    rw [bytes_cons, List.length_append, String.length_utf8EncodeChar, hc,
      ih fun d hd => h d (List.mem_cons_of_mem _ hd), List.length_cons, Nat.add_comm]

/-! ### Reading bytes back -/

/-- The first byte of a character tells how many there are. -/
theorem byteWidth_encode (c : Char) : ∃ b bs, String.utf8EncodeChar c = b :: bs ∧
    byteWidth b = (String.utf8EncodeChar c).length := by
  have hmax : c.val.toNat < 1114112 := by
    rcases c.valid with hc | ⟨-, hc⟩ <;> omega
  unfold String.utf8EncodeChar
  generalize c.val.toNat = n at hmax
  simp only
  split_ifs <;> refine ⟨_, _, rfl, ?_⟩ <;> unfold byteWidth <;>
    simp only [UInt8.lt_iff_toNat_lt, UInt8.toNat_ofNat', List.length_cons, List.length_nil,
      UInt8.reduceToNat] <;>
    split_ifs <;> omega

theorem leadingChar?_encode (c : Char) (bs : List UInt8) :
    leadingChar? (String.utf8EncodeChar c ++ bs) = some (c, bs) := by
  obtain ⟨b, rest, hb, hwidth⟩ := byteWidth_encode c
  have hhead : (String.utf8EncodeChar c ++ bs).head? = some b := by rw [hb]; rfl
  have htext : (⟨(String.utf8EncodeChar c).toArray⟩ : ByteArray) =
      (String.ofList [c]).toByteArray := by
    rw [String.toByteArray_ofList, List.utf8Encode_singleton]
    ext1
    simp
  have hread : String.fromUTF8? ⟨(String.utf8EncodeChar c).toArray⟩ = some (String.ofList [c]) := by
    rw [htext]
    unfold String.fromUTF8?
    rw [dif_pos (String.ofList [c]).isValidUTF8]
    rfl
  unfold leadingChar?
  rw [hhead]
  simp only [Option.bind_eq_bind, Option.bind_some]
  rw [hwidth, List.take_left, hread, List.drop_left]
  simp

/-- **The bytes of a text read back as the text.** -/
theorem ofBytes_bytes (cs : List Char) : ofBytes (bytes cs) = String.ofList cs := by
  have hpieces : ∀ (cs : List Char) (fuel : Nat), (bytes cs).length ≤ fuel →
      pieces.go fuel (bytes cs) = cs.map .inr := by
    intro cs
    induction cs with
    | nil =>
      intro fuel _
      cases fuel <;> rfl
    | cons c cs ih =>
      intro fuel hfuel
      obtain ⟨b, rest, hb, -⟩ := byteWidth_encode c
      have hlead := leadingChar?_encode c (bytes cs)
      rw [bytes_cons, hb] at hfuel ⊢
      rw [hb] at hlead
      simp only [List.cons_append, List.length_cons, List.length_append] at hfuel hlead ⊢
      obtain ⟨fuel, rfl⟩ : ∃ k, fuel = k + 1 := ⟨fuel - 1, by omega⟩
      rw [pieces.go, hlead]
      simp only [List.map_cons, List.cons.injEq, true_and]
      exact ih fuel (by omega)
  unfold ofBytes pieces
  rw [hpieces cs _ (Nat.le_refl _), List.map_map]
  congr 1
  exact List.map_id cs

end GraphWalk.Text
