import Mathlib.Data.List.Induction
import Mathlib.Data.List.Infix

/-!
# Cutting a stream at a delimiter

A stream is cut after each occurrence of a delimiter.  The closed segments
include their delimiter; what follows the last delimiter is the open rest.  Every
closed segment has an exact position in the stream (`exists_placed_of_sublist`).
-/

namespace Library

universe u

variable {α : Type u} [DecidableEq α]

/-- The closed segments of a stream, in stream order, and its open rest. -/
structure Cut (α : Type u) where
  closed : List (List α)
  rest : List α
  deriving DecidableEq, Repr

namespace Cut

/-- Extend a cut by one item of the stream. -/
def push (delimiter : α) (cut : Cut α) (item : α) : Cut α :=
  if item = delimiter then
    ⟨cut.closed ++ [cut.rest ++ [item]], []⟩
  else
    ⟨cut.closed, cut.rest ++ [item]⟩

end Cut

/-- Cut a stream after each delimiter. -/
def cut (delimiter : α) (stream : List α) : Cut α :=
  stream.foldl (Cut.push delimiter) ⟨[], []⟩

/-- The delimiter-terminated segments of a stream, delimiter included. -/
def segments (delimiter : α) (stream : List α) : List (List α) :=
  (cut delimiter stream).closed

/-- What follows the last delimiter of a stream. -/
def openRest (delimiter : α) (stream : List α) : List α :=
  (cut delimiter stream).rest

/-- One delimiter, in last position. -/
def IsSegment (delimiter : α) (segment : List α) : Prop :=
  ∃ body, delimiter ∉ body ∧ segment = body ++ [delimiter]

section Cutting

variable {delimiter : α}

@[simp] theorem segments_nil : segments delimiter [] = [] := rfl

@[simp] theorem openRest_nil : openRest delimiter [] = [] := rfl

theorem segments_concat (stream : List α) (item : α) :
    segments delimiter (stream ++ [item]) =
      if item = delimiter then
        segments delimiter stream ++ [openRest delimiter stream ++ [item]]
      else segments delimiter stream := by
  simp only [segments, openRest, cut, List.foldl_append, List.foldl_cons, List.foldl_nil,
    Cut.push]
  split <;> rfl

theorem openRest_concat (stream : List α) (item : α) :
    openRest delimiter (stream ++ [item]) =
      if item = delimiter then [] else openRest delimiter stream ++ [item] := by
  simp only [openRest, cut, List.foldl_append, List.foldl_cons, List.foldl_nil, Cut.push]
  split <;> rfl

@[simp] theorem segments_concat_delimiter (stream : List α) :
    segments delimiter (stream ++ [delimiter]) =
      segments delimiter stream ++ [openRest delimiter stream ++ [delimiter]] := by
  simp [segments_concat]

@[simp] theorem openRest_concat_delimiter (stream : List α) :
    openRest delimiter (stream ++ [delimiter]) = [] := by
  simp [openRest_concat]

theorem segments_concat_of_ne (stream : List α) {item : α} (other : item ≠ delimiter) :
    segments delimiter (stream ++ [item]) = segments delimiter stream := by
  simp [segments_concat, other]

theorem openRest_concat_of_ne (stream : List α) {item : α} (other : item ≠ delimiter) :
    openRest delimiter (stream ++ [item]) = openRest delimiter stream ++ [item] := by
  simp [openRest_concat, other]

/-- Cutting loses nothing: the segments and the rest make up the stream. -/
theorem flatten_segments_append_openRest (stream : List α) :
    (segments delimiter stream).flatten ++ openRest delimiter stream = stream := by
  induction stream using List.reverseRecOn with
  | nil => rfl
  | append_singleton stream item ih =>
      rw [segments_concat, openRest_concat]
      split
      · simp [← List.append_assoc, ih]
      · rw [← List.append_assoc, ih]

theorem delimiter_notMem_openRest (stream : List α) :
    delimiter ∉ openRest delimiter stream := by
  induction stream using List.reverseRecOn with
  | nil => simp
  | append_singleton stream item ih =>
      rw [openRest_concat]
      split
      · simp
      · rename_i other
        simp only [List.mem_append, List.mem_singleton, not_or]
        exact ⟨ih, fun equal => other equal.symm⟩

theorem isSegment_of_mem_segments {stream segment : List α}
    (member : segment ∈ segments delimiter stream) : IsSegment delimiter segment := by
  induction stream using List.reverseRecOn with
  | nil => simp at member
  | append_singleton stream item ih =>
      rw [segments_concat] at member
      split at member
      · rename_i closes
        rcases List.mem_append.mp member with earlier | last
        · exact ih earlier
        · refine ⟨openRest delimiter stream, delimiter_notMem_openRest stream, ?_⟩
          rw [List.mem_singleton.mp last, closes]
      · exact ih member

end Cutting

/-! ## Positions -/

/-- `segment` is the closed segment of the stream that starts at offset `start`:
it begins at the stream's start or right behind a delimiter, and ends with the
next one. -/
def IsSegmentAt (delimiter : α) (stream : List α) (start : Nat) (segment : List α) : Prop :=
  IsSegment delimiter segment ∧
    ∃ before after, stream = before ++ segment ++ after ∧ before.length = start ∧
      (before = [] ∨ before.getLast? = some delimiter)

/-- Closed segments of a stream with their offsets, in strictly increasing
stream order. -/
def Placed (delimiter : α) (stream : List α) (placed : List (Nat × List α)) : Prop :=
  placed.Pairwise (fun left right => left.1 < right.1) ∧
    ∀ entry ∈ placed, IsSegmentAt delimiter stream entry.1 entry.2

section Positions

variable {delimiter : α}

omit [DecidableEq α] in
theorem IsSegmentAt.extend {stream : List α} {start : Nat} {segment : List α}
    (placed : IsSegmentAt delimiter stream start segment) (more : List α) :
    IsSegmentAt delimiter (stream ++ more) start segment := by
  obtain ⟨shape, before, after, rfl, length, bound⟩ := placed
  exact ⟨shape, before, after ++ more, by simp, length, bound⟩

/-- The bytes before the open rest end with a delimiter, or there are none. -/
theorem flatten_segments_boundary (stream : List α) :
    (segments delimiter stream).flatten = [] ∨
      (segments delimiter stream).flatten.getLast? = some delimiter := by
  rcases List.eq_nil_or_concat (segments delimiter stream) with none | ⟨front, last, cut⟩
  · exact Or.inl (by simp [none])
  · right
    have member : last ∈ segments delimiter stream := by simp [cut]
    obtain ⟨body, _, shape⟩ := isSegment_of_mem_segments member
    simp [cut, shape]

/-- All closed segments of a stream can be placed. -/
theorem exists_placed_segments (delimiter : α) (stream : List α) :
    ∃ placed, Placed delimiter stream placed ∧
      placed.map Prod.snd = segments delimiter stream ∧
      ∀ entry ∈ placed, entry.1 < (segments delimiter stream).flatten.length := by
  induction stream using List.reverseRecOn with
  | nil => exact ⟨[], ⟨.nil, by simp⟩, rfl, by simp⟩
  | append_singleton stream item ih =>
      obtain ⟨placed, ⟨sorted, each⟩, names, below⟩ := ih
      have grown : ∀ entry ∈ placed,
          IsSegmentAt delimiter (stream ++ [item]) entry.1 entry.2 :=
        fun entry member => (each entry member).extend [item]
      by_cases closes : item = delimiter
      · subst closes
        let start := (segments item stream).flatten.length
        let segment := openRest item stream ++ [item]
        have located : IsSegmentAt item (stream ++ [item]) start segment := by
          refine ⟨⟨openRest item stream, delimiter_notMem_openRest stream, rfl⟩,
            (segments item stream).flatten, [], ?_, rfl, flatten_segments_boundary stream⟩
          simp only [segment, List.append_nil, ← List.append_assoc]
          rw [flatten_segments_append_openRest]
        refine ⟨placed ++ [(start, segment)], ⟨?_, ?_⟩, ?_, ?_⟩
        · refine List.pairwise_append.mpr ⟨sorted, List.pairwise_singleton _ _, ?_⟩
          intro left leftMem right rightMem
          rw [List.mem_singleton.mp rightMem]
          exact below left leftMem
        · intro entry member
          rcases List.mem_append.mp member with earlier | last
          · exact grown entry earlier
          · rw [List.mem_singleton.mp last]
            exact located
        · simp [names, segment]
        · intro entry member
          rw [segments_concat_delimiter]
          simp only [List.flatten_append, List.length_append, List.flatten_cons,
            List.flatten_nil, List.length_cons, List.length_nil]
          rcases List.mem_append.mp member with earlier | last
          · have := below entry earlier
            omega
          · rw [List.mem_singleton.mp last]
            simp only [start]
            omega
      · refine ⟨placed, ⟨sorted, grown⟩, ?_, ?_⟩
        · rw [segments_concat_of_ne _ closes, names]
        · rw [segments_concat_of_ne _ closes]
          exact below

/-- A subsequence of the closed segments is a placed list of segments: its
members occur in the stream at strictly increasing offsets. -/
theorem exists_placed_of_sublist {stream : List α} {chosen : List (List α)}
    (sublist : chosen.Sublist (segments delimiter stream)) :
    ∃ placed, Placed delimiter stream placed ∧ placed.map Prod.snd = chosen := by
  obtain ⟨all, ⟨sorted, each⟩, names, _⟩ := exists_placed_segments delimiter stream
  rw [← names] at sublist
  obtain ⟨placed, smaller, rfl⟩ := List.sublist_map_iff.mp sublist
  exact ⟨placed, ⟨sorted.sublist smaller, fun entry member => each entry (smaller.subset member)⟩,
    rfl⟩

end Positions

end Library
