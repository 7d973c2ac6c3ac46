/-!
# Arenas

An arena keeps items in numbered slots. A slot that is freed is used again, with
its generation counted up, so that an item is named by index and generation
together. The slot freed last is used first.
-/

namespace GraphWalk

structure Slot (α : Type) where
  gen : UInt32
  item : Option α
deriving Inhabited

structure Arena (α : Type) where
  slots : Array (Slot α)
  /-- The indices of the empty slots, the one freed last in front. -/
  free : List UInt32
  /-- The number of items. -/
  live : Nat
deriving Inhabited

namespace Arena

variable {α : Type}

def empty : Arena α := ⟨#[], [], 0⟩

/-- The item with this index and generation. -/
def get? (a : Arena α) (index gen : UInt32) : Option α :=
  match a.slots[index.toNat]? with
  | some slot => if slot.gen = gen ∧ gen ≠ 0 then slot.item else none
  | none => none

/-- Takes a slot for a new item: the one freed last, or a fresh one. -/
def reserve (a : Arena α) : Arena α × UInt32 :=
  match a.free with
  | i :: rest => ({ a with free := rest }, i)
  | [] => ({ a with slots := a.slots.push ⟨1, none⟩ }, a.slots.size.toUInt32)

/-- The generation of a slot. -/
def genOf (a : Arena α) (index : UInt32) : UInt32 :=
  (a.slots[index.toNat]?.map Slot.gen).getD 0

/-- Puts an item into a slot. -/
def fill (a : Arena α) (index : UInt32) (x : α) : Arena α :=
  { a with
    slots := a.slots.modify index.toNat fun slot => { slot with item := some x }
    live := a.live + 1 }

/-- Adds an item, which is told its index and generation. -/
def insert (a : Arena α) (make : UInt32 → UInt32 → α) : Arena α × α :=
  let (a', i) := a.reserve
  let x := make i (a'.genOf i)
  (a'.fill i x, x)

/-- Changes the item in a slot, if there is one. -/
def update (a : Arena α) (index : UInt32) (f : α → α) : Arena α :=
  { a with slots := a.slots.modify index.toNat fun slot => { slot with item := slot.item.map f } }

/-- Empties a slot. -/
def remove (a : Arena α) (index : UInt32) : Arena α :=
  { slots := a.slots.modify index.toNat fun slot => ⟨slot.gen + 1, none⟩
    free := index :: a.free
    live := a.live - 1 }

/-- All items in the order of their slots. -/
def items (a : Arena α) : List α := a.slots.toList.filterMap Slot.item

end Arena

end GraphWalk
