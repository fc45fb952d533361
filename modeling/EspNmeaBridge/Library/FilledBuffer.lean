import Mathlib.Data.List.Basic

/-!
# Partly filled buffers

An array of a fixed size with the number of its cells that are in use, as a C function
keeps them in two locals.  Stores and reads outside the array have no result, so that a
program without such accesses is one whose steps all have one.
-/

namespace Library

universe u

/-- An array, and how many cells from its front are in use.  What the others contain is
arbitrary. -/
structure FilledBuffer (α : Type u) (capacity : Nat) where
  cells : Vector α capacity
  filled : Nat := 0

namespace FilledBuffer

variable {α : Type u} {capacity : Nat}

/-- `cells[filled++] = item` -/
def store (buffer : FilledBuffer α capacity) (item : α) : Option (FilledBuffer α capacity) :=
  if inBounds : buffer.filled < capacity then
    some { cells := buffer.cells.set buffer.filled item, filled := buffer.filled + 1 }
  else none

/-- The items in `cells[0..filled)`. -/
def contents (buffer : FilledBuffer α capacity) : Option (List α) :=
  if buffer.filled ≤ capacity then some (buffer.cells.toList.take buffer.filled) else none

/-- `filled = 0` -/
def clear (buffer : FilledBuffer α capacity) : FilledBuffer α capacity :=
  { buffer with filled := 0 }

variable {buffer : FilledBuffer α capacity} {items : List α}

@[simp] theorem contents_clear : buffer.clear.contents = some [] := by
  simp [clear, contents]

theorem length_of_contents (held : buffer.contents = some items) :
    items.length = buffer.filled := by
  unfold contents at held
  split at held
  · rename_i within
    obtain rfl := Option.some.inj held
    rw [List.length_take, Vector.length_toList, Nat.min_eq_left within]
  · contradiction

/-- A store behind what the buffer holds appends to it. -/
theorem exists_store (held : buffer.contents = some items) (room : buffer.filled < capacity)
    (item : α) :
    ∃ next, buffer.store item = some next ∧ next.contents = some (items ++ [item]) := by
  have before : items = buffer.cells.toList.take buffer.filled := by
    simpa [contents, Nat.le_of_lt room] using held.symm
  have prefixLength : (buffer.cells.toList.take buffer.filled).length = buffer.filled := by
    rw [← before, length_of_contents held]
  have appended : (buffer.cells.set buffer.filled item room).toList.take (buffer.filled + 1) =
      items ++ [item] := by
    have within : buffer.filled < buffer.cells.toList.length := by simpa using room
    rw [Vector.toList_set, List.set_eq_take_append_cons_drop, if_pos within, List.take_append,
      List.take_of_length_le (by omega), prefixLength, Nat.add_sub_cancel_left, before]
    rfl
  refine ⟨_, dif_pos room, ?_⟩
  rw [contents, if_pos (Nat.succ_le_of_lt room)]
  exact congrArg some appended

end FilledBuffer

end Library
