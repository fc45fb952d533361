import Mathlib.Data.List.Induction
import Mathlib.Order.Defs.PartialOrder

/-!
# Sampled streams

Arrivals are noticed only when somebody looks.  A history interleaves arrivals with
samples; a sample sees everything that has arrived before it, and the first sample
after an arrival is the one that sights it.
-/

namespace Library

universe u v w

/-- An event of a sampled stream. -/
inductive SampleEvent (α : Type u) (σ : Type v) where
  | arrival (arrived : α)
  | sample (taken : σ)
  deriving DecidableEq, Repr

variable {α : Type u} {σ : Type v}

def SampleEvent.arrival? : SampleEvent α σ → Option α
  | arrival arrived => some arrived
  | sample _ => none

def SampleEvent.sample? : SampleEvent α σ → Option σ
  | arrival _ => none
  | sample taken => some taken

/-- The samples, in order. -/
def samples (history : List (SampleEvent α σ)) : List σ :=
  history.filterMap SampleEvent.sample?

theorem mem_samples {history : List (SampleEvent α σ)} {taken : σ} :
    taken ∈ samples history ↔ .sample taken ∈ history := by
  unfold samples
  rw [List.mem_filterMap]
  constructor
  · intro found
    obtain ⟨event, member, same⟩ := found
    cases event with
    | arrival arrived => cases same
    | sample other => exact Option.some.inj same ▸ member
  · intro member
    exact ⟨_, member, rfl⟩

/-- Everything that has arrived, in order. -/
def arrivals (history : List (SampleEvent α σ)) : List α :=
  history.filterMap SampleEvent.arrival?

@[simp] theorem arrivals_nil : arrivals ([] : List (SampleEvent α σ)) = [] := rfl

@[simp] theorem arrivals_append (history later : List (SampleEvent α σ)) :
    arrivals (history ++ later) = arrivals history ++ arrivals later :=
  List.filterMap_append

@[simp] theorem arrivals_arrival (arrived : α) (later : List (SampleEvent α σ)) :
    arrivals (.arrival arrived :: later) = arrived :: arrivals later := rfl

@[simp] theorem arrivals_sample (taken : σ) (later : List (SampleEvent α σ)) :
    arrivals (.sample taken :: later) = arrivals later := rfl

theorem mem_arrivals {history : List (SampleEvent α σ)} {arrived : α} :
    arrived ∈ arrivals history ↔ .arrival arrived ∈ history := by
  unfold arrivals
  rw [List.mem_filterMap]
  constructor
  · intro found
    obtain ⟨event, member, same⟩ := found
    cases event with
    | arrival other => exact Option.some.inj same ▸ member
    | sample taken => cases same
  · intro member
    exact ⟨_, member, rfl⟩

/-- What the samples know: the arrivals none of them has seen, and the newest arrival
they have seen with the first of them that saw it. -/
structure Sampled (α : Type u) (σ : Type v) where
  unseen : List α := []
  sighting : Option (α × σ) := none

def Sampled.step (sampled : Sampled α σ) : SampleEvent α σ → Sampled α σ
  | .arrival arrived => { sampled with unseen := sampled.unseen ++ [arrived] }
  | .sample taken => {
      sighting := match sampled.unseen.getLast? with
        | some newest => some (newest, taken)
        | none => sampled.sighting }

def sampled (history : List (SampleEvent α σ)) : Sampled α σ :=
  history.foldl Sampled.step {}

@[simp] theorem sampled_concat (history : List (SampleEvent α σ)) (event : SampleEvent α σ) :
    sampled (history ++ [event]) = (sampled history).step event := by
  simp [sampled, List.foldl_append]

/-- A history ends with what has not been seen yet. -/
theorem exists_eq_append_unseen (history : List (SampleEvent α σ)) :
    ∃ front, history = front ++ (sampled history).unseen.map .arrival := by
  induction history using List.reverseRecOn with
  | nil => exact ⟨[], rfl⟩
  | append_singleton history event ih =>
      obtain ⟨front, split⟩ := ih
      rw [sampled_concat]
      cases event with
      | arrival arrived =>
          exact ⟨front, by rw [Sampled.step, List.map_append, ← List.append_assoc, ← split]; rfl⟩
      | sample taken => exact ⟨history ++ [.sample taken], by simp [Sampled.step]⟩

theorem exists_arrivals_eq_append_unseen (history : List (SampleEvent α σ)) :
    ∃ seen, arrivals history = seen ++ (sampled history).unseen := by
  obtain ⟨front, split⟩ := exists_eq_append_unseen history
  have unseen : arrivals ((sampled history).unseen.map (.arrival : α → SampleEvent α σ)) =
      (sampled history).unseen := by
    unfold arrivals
    rw [List.filterMap_map]
    exact List.filterMap_some
  exact ⟨arrivals front, by rw [← unseen, ← arrivals_append, ← split]⟩

/-- Nothing has been sighted as long as no sample has seen an arrival. -/
theorem arrivals_of_not_sighted {history : List (SampleEvent α σ)}
    (none : (sampled history).sighting = none) :
    arrivals history = (sampled history).unseen := by
  induction history using List.reverseRecOn with
  | nil => rfl
  | append_singleton history event ih =>
      rw [sampled_concat] at none ⊢
      rw [arrivals_append]
      cases event with
      | arrival arrived =>
          rw [ih none]
          rfl
      | sample taken =>
          simp only [Sampled.step] at none ⊢
          cases last : (sampled history).unseen.getLast? with
          | none =>
              rw [last] at none
              rw [ih none, List.getLast?_eq_none_iff.mp last]
              rfl
          | some newest =>
              rw [last] at none
              cases none

/-- A sighting is a sample that comes right after what it sights; only samples follow
it, and then what has not been seen yet. -/
theorem exists_eq_of_sighting {history : List (SampleEvent α σ)} {newest : α} {first : σ}
    (sighted : (sampled history).sighting = some (newest, first)) :
    ∃ before later, arrivals later = [] ∧ history =
      before ++ .arrival newest :: .sample first ::
        (later ++ (sampled history).unseen.map .arrival) := by
  induction history using List.reverseRecOn with
  | nil => cases sighted
  | append_singleton history event ih =>
      rw [sampled_concat] at sighted ⊢
      cases event with
      | arrival arrived =>
          obtain ⟨before, later, quiet, split⟩ := ih sighted
          refine ⟨before, later, quiet, ?_⟩
          calc history ++ [.arrival arrived]
            _ = before ++ .arrival newest :: .sample first ::
                  (later ++ (sampled history).unseen.map .arrival) ++ [.arrival arrived] :=
                congrArg (· ++ [.arrival arrived]) split
            _ = _ := by simp [Sampled.step]
      | sample taken =>
          simp only [Sampled.step] at sighted ⊢
          cases last : (sampled history).unseen.getLast? with
          | none =>
              rw [last] at sighted
              obtain ⟨before, later, quiet, split⟩ := ih sighted
              rw [List.getLast?_eq_none_iff.mp last] at split
              refine ⟨before, later ++ [.sample taken], by simp [quiet], ?_⟩
              rw [split]
              simp
          | some newer =>
              rw [last] at sighted
              cases sighted
              obtain ⟨front, split⟩ := exists_eq_append_unseen history
              obtain ⟨older, shape⟩ := List.getLast?_eq_some_iff.mp last
              rw [shape] at split
              refine ⟨front ++ older.map .arrival, [], rfl, ?_⟩
              rw [split]
              simp

/-- Samples after a sighting do not change it. -/
theorem sampled_of_eq (before : List (SampleEvent α σ)) (newest : α) (first : σ)
    {later : List (SampleEvent α σ)} (quiet : arrivals later = []) :
    sampled (before ++ .arrival newest :: .sample first :: later) =
      { sighting := some (newest, first) } := by
  induction later using List.reverseRecOn with
  | nil =>
      have grouped : before ++ [.arrival newest, .sample first] =
          (before ++ [.arrival newest]) ++ [.sample first] := by simp
      rw [grouped, sampled_concat, sampled_concat]
      simp [Sampled.step]
  | append_singleton later event ih =>
      have grouped : before ++ .arrival newest :: .sample first :: (later ++ [event]) =
          (before ++ .arrival newest :: .sample first :: later) ++ [event] := by simp
      rw [arrivals_append, List.append_eq_nil_iff] at quiet
      rw [grouped, sampled_concat, ih quiet.1]
      cases event with
      | arrival arrived => cases quiet.2
      | sample taken => rfl

section Time

variable {τ : Type w} [Preorder τ] (time : SampleEvent α σ → τ)
variable {history : List (SampleEvent α σ)} {newest : α} {first : σ}

/-- What is sighted arrived no later than the sample that sights it. -/
theorem time_newest_le (ordered : history.Pairwise fun earlier later => time earlier ≤ time later)
    (sighted : (sampled history).sighting = some (newest, first)) :
    time (.arrival newest) ≤ time (.sample first) := by
  obtain ⟨before, later, quiet, split⟩ := exists_eq_of_sighting sighted
  rw [split] at ordered
  exact (List.pairwise_cons.mp (List.pairwise_append.mp ordered).2.1).1 _ (by simp)

/-- What has been seen arrived no later than the newest of it. -/
theorem time_arrival_le (ordered : history.Pairwise fun earlier later => time earlier ≤ time later)
    (sighted : (sampled history).sighting = some (newest, first))
    (seen : (sampled history).unseen = []) {arrived : α} (member : arrived ∈ arrivals history) :
    time (.arrival arrived) ≤ time (.arrival newest) := by
  obtain ⟨before, later, quiet, split⟩ := exists_eq_of_sighting sighted
  rw [seen] at split
  rw [split] at ordered member
  have older : arrived ∈ arrivals before ∨ arrived = newest := by
    simpa [quiet] using member
  cases older with
  | inl older =>
      exact (List.pairwise_append.mp ordered).2.2 _ (mem_arrivals.mp older) _ (by simp)
  | inr same => rw [same]

theorem newest_mem_arrivals (sighted : (sampled history).sighting = some (newest, first)) :
    newest ∈ arrivals history := by
  obtain ⟨before, later, quiet, split⟩ := exists_eq_of_sighting sighted
  rw [mem_arrivals, split]
  simp

theorem first_mem_samples (sighted : (sampled history).sighting = some (newest, first)) :
    first ∈ samples history := by
  obtain ⟨before, later, quiet, split⟩ := exists_eq_of_sighting sighted
  rw [mem_samples, split]
  simp

end Time

end Library
