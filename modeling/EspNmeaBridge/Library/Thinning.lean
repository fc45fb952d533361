import Mathlib.Data.List.Basic

/-!
# Thinned streams

What a lossy channel lets through of a stream: the items that are kept are in the order
of the stream, and no more than a given number is missing.  Who joins late is only owed
the end of the stream (`ThinsEnd`).
-/

namespace Library

universe u

/-- `kept` is what is left of `stream` after at most `losses` items were lost. -/
structure Thins {α : Type u} (stream kept : List α) (losses : Nat) : Prop where
  ordered : kept.Sublist stream
  missing : stream.length ≤ kept.length + losses

namespace Thins

variable {α : Type u} {stream kept rest : List α} {losses more : Nat}

theorem refl (stream : List α) : Thins stream stream 0 where
  ordered := List.Sublist.refl _
  missing := Nat.le_refl _

theorem of_eq (same : kept = stream) : Thins stream kept 0 := same ▸ refl stream

/-- One item of the stream is lost. -/
theorem lose (front : List α) (item : α) (back : List α) :
    Thins (front ++ item :: back) (front ++ back) 1 where
  ordered := (List.sublist_cons_self item back).append_left front
  missing := by simp [Nat.add_assoc]

theorem mono (thins : Thins stream kept losses) (weaker : losses ≤ more) :
    Thins stream kept more where
  ordered := thins.ordered
  missing := Nat.le_trans thins.missing (Nat.add_le_add_left weaker _)

/-- Losses one after the other add up. -/
theorem trans (thins : Thins stream kept losses) (later : Thins kept rest more) :
    Thins stream rest (losses + more) where
  ordered := later.ordered.trans thins.ordered
  missing := by
    have first := thins.missing
    have second := later.missing
    omega

theorem append_left (thins : Thins stream kept losses) (front : List α) :
    Thins (front ++ stream) (front ++ kept) losses where
  ordered := thins.ordered.append_left front
  missing := by simpa [Nat.add_assoc] using thins.missing

theorem append_right (thins : Thins stream kept losses) (back : List α) :
    Thins (stream ++ back) (kept ++ back) losses where
  ordered := thins.ordered.append_right back
  missing := by
    have missing := thins.missing
    simp only [List.length_append]
    omega

theorem map {β : Type u} (thins : Thins stream kept losses) (f : α → β) :
    Thins (stream.map f) (kept.map f) losses where
  ordered := thins.ordered.map f
  missing := by simpa using thins.missing

/-- Where nothing is lost, the whole stream is left. -/
theorem eq_of_lossless (thins : Thins stream kept 0) : kept = stream :=
  thins.ordered.eq_of_length_le thins.missing

end Thins

/-- `kept` is what is left of some end of `stream` after at most `losses` items were lost. -/
def ThinsEnd {α : Type u} (stream kept : List α) (losses : Nat) : Prop :=
  ∃ front back, stream = front ++ back ∧ Thins back kept losses

namespace ThinsEnd

variable {α : Type u} {stream kept rest : List α} {losses more : Nat}

theorem start (stream : List α) : ThinsEnd stream [] 0 :=
  ⟨stream, [], (List.append_nil stream).symm, .refl []⟩

theorem mono (thins : ThinsEnd stream kept losses) (weaker : losses ≤ more) :
    ThinsEnd stream kept more := by
  obtain ⟨front, back, parts, thins⟩ := thins
  exact ⟨front, back, parts, thins.mono weaker⟩

/-- The stream goes on, and what was kept is thinned again together with what is new. -/
theorem extend (thins : ThinsEnd stream kept losses) {added : List α}
    (later : Thins (kept ++ added) rest more) :
    ThinsEnd (stream ++ added) rest (losses + more) := by
  obtain ⟨front, back, rfl, thins⟩ := thins
  use front, back ++ added, List.append_assoc _ _ _
  exact (thins.append_right added).trans later

/-- The first item that was kept is no longer owed. -/
theorem tail {item : α} (thins : ThinsEnd stream (item :: kept) losses) :
    ThinsEnd stream kept losses := by
  obtain ⟨front, back, rfl, ordered, missing⟩ := thins
  obtain ⟨before, after, rfl, first, ordered⟩ := List.cons_sublist_iff.mp ordered
  refine ⟨front ++ before, after, by simp, ordered, ?_⟩
  have nonempty := List.length_pos_of_mem first
  simp only [List.length_append, List.length_cons] at missing
  omega

/-- Where nothing is lost, what is left is an end of the stream. -/
theorem isSuffix_of_lossless (thins : ThinsEnd stream kept 0) : kept <:+ stream := by
  obtain ⟨front, back, rfl, thins⟩ := thins
  rw [thins.eq_of_lossless]
  exact List.suffix_append front back

end ThinsEnd

end Library
