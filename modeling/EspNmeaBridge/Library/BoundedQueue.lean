import Mathlib.Data.List.Infix
import Mathlib.Data.List.Nodup
import Mathlib.Data.List.Range

/-!
# Bounded queues and their history

A bounded FIFO queue whose `put` fails exactly when it is full and whose `get`
fails exactly when it is empty.  `Account` relates the content of such a queue to
everything that was ever put into it and taken out of it, when a full queue makes
room by giving up its oldest item: items keep the position at which they arrived,
so the account speaks about occurrences and not about equal values.
-/

namespace Library

universe u

variable {α : Type u} {capacity : Nat}

/-- A FIFO queue, oldest item first, that holds at most `capacity` items. -/
structure BoundedQueue (α : Type u) (capacity : Nat) where
  items : List α
  bounded : items.length ≤ capacity
  deriving DecidableEq, Repr

namespace BoundedQueue

@[ext] theorem ext {left right : BoundedQueue α capacity} (equal : left.items = right.items) :
    left = right := by
  cases left
  cases right
  cases equal
  rfl

def empty : BoundedQueue α capacity := ⟨[], Nat.zero_le capacity⟩

def put (queue : BoundedQueue α capacity) (item : α) : Option (BoundedQueue α capacity) :=
  if room : queue.items.length < capacity then
    some ⟨queue.items ++ [item], by simpa using Nat.succ_le_of_lt room⟩
  else none

def get (queue : BoundedQueue α capacity) : Option (α × BoundedQueue α capacity) :=
  match queue with
  | ⟨[], _⟩ => none
  | ⟨item :: items, bounded⟩ =>
      some (item, ⟨items, Nat.le_of_succ_le bounded⟩)

section Operations

variable {queue next : BoundedQueue α capacity} {item : α}

@[simp] theorem items_empty : (empty : BoundedQueue α capacity).items = [] := rfl

theorem put_eq_none_iff : queue.put item = none ↔ queue.items.length = capacity := by
  have := queue.bounded
  unfold put
  split <;> simp <;> omega

theorem put_eq_some_iff :
    queue.put item = some next ↔
      queue.items.length < capacity ∧ next.items = queue.items ++ [item] := by
  unfold put
  split
  · rename_i room
    simp only [Option.some.injEq, room, true_and]
    exact ⟨fun equal => equal ▸ rfl, fun equal => BoundedQueue.ext equal.symm⟩
  · rename_i full
    simp [full]

theorem get_eq_none_iff : queue.get = none ↔ queue.items = [] := by
  rcases queue with ⟨_ | ⟨item, items⟩, bounded⟩ <;> simp [get]

theorem get_eq_some_iff :
    queue.get = some (item, next) ↔ queue.items = item :: next.items := by
  rcases queue with ⟨_ | ⟨first, items⟩, bounded⟩
  · simp [get]
  · simp only [get, Option.some.injEq, Prod.mk.injEq, List.cons.injEq]
    exact and_congr_right fun _ =>
      ⟨fun equal => equal ▸ rfl, fun equal => BoundedQueue.ext equal⟩

end Operations

end BoundedQueue

/-- What became of the items put into a queue.  `queue` is its content, `taken`
the positions (among everything `pushed`) of the items taken out, and `lost`
holds of the positions given up to make room, `drops` in number. -/
structure Account (pushed queue : List α) (taken : List Nat) (drops : Nat)
    (lost : Nat → Prop) : Prop where
  total : pushed.length = taken.length + queue.length + drops
  suffix : queue <:+ pushed
  sorted : taken.Pairwise (· < ·)
  before : ∀ position ∈ taken, position + queue.length < pushed.length
  missing : ∀ position, position + queue.length < pushed.length → position ∉ taken → lost position

namespace Account

variable {pushed queue rest : List α} {taken : List Nat} {drops : Nat}
  {lost lost' : Nat → Prop} {item : α}

theorem start (lost : Nat → Prop) : Account ([] : List α) [] [] 0 lost where
  total := rfl
  suffix := List.suffix_refl []
  sorted := List.Pairwise.nil
  before := by simp
  missing := by simp

theorem mono (account : Account pushed queue taken drops lost)
    (implies : ∀ position, lost position → lost' position) :
    Account pushed queue taken drops lost' :=
  ⟨account.total, account.suffix, account.sorted, account.before, fun position old absent =>
    implies position (account.missing position old absent)⟩

/-- Put an item into a queue with room for it. -/
theorem push (account : Account pushed queue taken drops lost) (item : α) :
    Account (pushed ++ [item]) (queue ++ [item]) taken drops lost where
  total := by
    have := account.total
    simp only [List.length_append, List.length_singleton]
    omega
  suffix := by
    obtain ⟨earlier, rfl⟩ := account.suffix
    exact ⟨earlier, by simp⟩
  sorted := account.sorted
  before position member := by
    have := account.before position member
    simp only [List.length_append, List.length_singleton]
    omega
  missing position old := account.missing position (by simp at old; omega)

/-- The item at the head of the queue has the position before which everything
was taken or lost. -/
theorem head_position (account : Account pushed (item :: rest) taken drops lost) :
    pushed[pushed.length - (rest.length + 1)]? = some item := by
  obtain ⟨earlier, rfl⟩ := account.suffix
  simp

/-- Give up the oldest item. -/
theorem displace (account : Account pushed (item :: rest) taken drops lost)
    (displaced : lost (pushed.length - (rest.length + 1))) :
    Account pushed rest taken (drops + 1) lost where
  total := by
    have := account.total
    simp only [List.length_cons] at this
    omega
  suffix := (List.suffix_cons item rest).trans account.suffix
  sorted := account.sorted
  before position member := by
    have := account.before position member
    simp only [List.length_cons] at this
    omega
  missing position old absent := by
    by_cases older : position + (item :: rest).length < pushed.length
    · exact account.missing position older absent
    · simp only [List.length_cons] at older
      have newest : position = pushed.length - (rest.length + 1) := by omega
      exact newest ▸ displaced

/-- Take the oldest item. -/
theorem take (account : Account pushed (item :: rest) taken drops lost) :
    Account pushed rest (taken ++ [pushed.length - (rest.length + 1)]) drops lost where
  total := by
    have := account.total
    simp only [List.length_append, List.length_cons, List.length_nil] at this ⊢
    omega
  suffix := (List.suffix_cons item rest).trans account.suffix
  sorted := by
    refine List.pairwise_append.mpr ⟨account.sorted, List.pairwise_singleton _ _, ?_⟩
    intro position member last isLast
    have := account.before position member
    simp only [List.mem_singleton, List.length_cons] at isLast this
    omega
  before position member := by
    have fits := account.suffix.length_le
    simp only [List.length_cons] at fits
    rcases List.mem_append.mp member with old | new
    · have := account.before position old
      simp only [List.length_cons] at this
      omega
    · simp only [List.mem_singleton] at new
      omega
  missing position old absent := by
    simp only [List.mem_append, List.mem_singleton, not_or] at absent
    by_cases older : position + (item :: rest).length < pushed.length
    · exact account.missing position older absent.1
    · simp only [List.length_cons] at older
      omega

/-- Positions of the items taken, then of those still queued. -/
def positions (pushed queue : List α) (taken : List Nat) : List Nat :=
  taken ++ List.range' (pushed.length - queue.length) queue.length

/-- Taken and queued items occur at strictly increasing positions. -/
theorem positions_sorted (account : Account pushed queue taken drops lost) :
    (positions pushed queue taken).Pairwise (· < ·) := by
  refine List.pairwise_append.mpr ⟨account.sorted, List.pairwise_lt_range', ?_⟩
  intro position member queued isQueued
  have := account.before position member
  rw [List.mem_range'_1] at isQueued
  omega

/-- Reading the pushed items at these positions gives what was taken, then what
is queued. -/
theorem map_positions (account : Account pushed queue taken drops lost) :
    (positions pushed queue taken).map (pushed[·]?) =
      taken.map (pushed[·]?) ++ queue.map some := by
  rw [positions, List.map_append]
  congr 1
  obtain ⟨earlier, rfl⟩ := account.suffix
  apply List.ext_getElem (by simp)
  intro index first second
  simp only [List.length_map, List.length_range'] at first
  simp [first]

theorem lt_of_mem_positions (account : Account pushed queue taken drops lost) {position : Nat}
    (member : position ∈ positions pushed queue taken) : position < pushed.length := by
  have fits := account.suffix.length_le
  rcases List.mem_append.mp member with old | queued
  · have := account.before position old
    omega
  · rw [List.mem_range'_1] at queued
    omega

/-- The number of dropped items is the number of positions neither taken nor queued. -/
theorem countP_missing (account : Account pushed queue taken drops lost) :
    (List.range pushed.length).countP (· ∉ positions pushed queue taken) = drops := by
  have kept : ((List.range pushed.length).filter (· ∈ positions pushed queue taken)).Perm
      (positions pushed queue taken) := by
    refine (List.perm_ext_iff_of_nodup (List.nodup_range.filter _)
      account.positions_sorted.nodup).mpr fun position => ?_
    simp only [List.mem_filter, List.mem_range, decide_eq_true_eq]
    exact ⟨And.right, fun member => ⟨account.lt_of_mem_positions member, member⟩⟩
  have sum := List.length_eq_countP_add_countP (· ∈ positions pushed queue taken)
    (l := List.range pushed.length)
  have total := account.total
  rw [List.countP_eq_length_filter, kept.length_eq, List.length_range, positions,
    List.length_append, List.length_range', ← positions] at sum
  simp only [decide_eq_true_eq] at sum
  omega

/-- An item that was neither taken nor is queued was given up. -/
theorem lost_of_notMem (account : Account pushed queue taken drops lost) {position : Nat}
    (within : position < pushed.length) (absent : position ∉ positions pushed queue taken) :
    lost position := by
  have fits := account.suffix.length_le
  rw [positions, List.mem_append, not_or, List.mem_range'_1] at absent
  exact account.missing position (by omega) absent.1

end Account

end Library
