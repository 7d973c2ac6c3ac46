import GraphWalk.Text.Quoted

/-!
# Texts as bytes

Some texts are cut or composed byte by byte, so that a part may hold bytes of no
whole character.
-/

namespace GraphWalk.Text

/-- The bytes of a text. -/
def bytes (cs : List Char) : List UInt8 := cs.flatMap fun c => c.toString.toUTF8.toList

/-- How many bytes the character takes that starts with this one. -/
def byteWidth (b : UInt8) : Nat :=
  if b < 0x80 then 1 else if b < 0xE0 then 2 else if b < 0xF0 then 3 else 4

/-- The character that bytes start with, if they do. -/
def leadingChar? (bs : List UInt8) : Option (Char × List UInt8) := do
  let width := byteWidth (← bs.head?)
  let s ← String.fromUTF8? ⟨(bs.take width).toArray⟩
  match s.toList with
  | [c] => some (c, bs.drop width)
  | _ => none

/-- Divides bytes into characters and the bytes between them. -/
def pieces (bs : List UInt8) : List (UInt8 ⊕ Char) :=
  go bs.length bs
where
  go : Nat → List UInt8 → List (UInt8 ⊕ Char)
    | 0, _ | _, [] => []
    | fuel + 1, b :: rest =>
      match leadingChar? (b :: rest) with
      | some (c, rest') => .inr c :: go fuel rest'
      | none => .inl b :: go fuel rest

/-- The text of bytes; a byte that is part of no character reads as U+FFFD. -/
def ofBytes (bs : List UInt8) : String :=
  String.ofList ((pieces bs).map fun
    | .inl _ => '\uFFFD'
    | .inr c => c)

/-- Bytes between double quotes, with escapes. -/
def quoteBytes (bs : List UInt8) : String :=
  String.ofList ('"' :: (pieces bs).flatMap (fun
    | .inl b => '\\' :: 'x' :: hexPadded 2 b.toNat
    | .inr c => quoteChar c) ++ ['"'])

end GraphWalk.Text
