import EspNmeaBridge.Library.Ownership
import Mathlib.Data.List.Count

/-!
# Lifetimes of resources

Resources are issued, used and closed, and at every moment each live one is in the
hands of exactly one holder.  `Held` is about the history of events and the
current holders together; it is kept when a holder issues a fresh resource, uses or
closes its own, or hands it on.  Then nothing is closed twice or used after its close,
and what is not yet closed is still in somebody's hands.
-/

namespace Library

universe u v

variable {ρ : Type u} {ι : Type v}

/-- What happens to a resource. -/
inductive LifeEvent (ρ : Type u) where
  | issued (resource : ρ)
  | used (resource : ρ)
  | closed (resource : ρ)
  deriving DecidableEq, Repr

/-- The resource an event is about. -/
def LifeEvent.resource : LifeEvent ρ → ρ
  | .issued resource | .used resource | .closed resource => resource

/-- `later` may come after `earlier`: nothing is issued twice, and nothing happens to a
resource after its close. -/
def LifeEvent.Precedes (earlier later : LifeEvent ρ) : Prop :=
  match earlier with
  | .issued resource => later ≠ .issued resource
  | .used _ => True
  | .closed resource => later.resource ≠ resource

/-- Issued and not closed. -/
def Live (events : List (LifeEvent ρ)) (resource : ρ) : Prop :=
  .issued resource ∈ events ∧ .closed resource ∉ events

/-- The events are in order, only issued resources are closed, and the holders have the
live resources exclusively. -/
structure Held (events : List (LifeEvent ρ)) (holding : ι → Option ρ) : Prop where
  orderly : events.Pairwise LifeEvent.Precedes
  closedIssued : ∀ resource, .closed resource ∈ events → .issued resource ∈ events
  exclusive : Exclusive (Live events) holding

namespace Held

variable {events : List (LifeEvent ρ)} {holding holding' : ι → Option ρ} {holder : ι}
  {resource : ρ}

theorem start (idle : ∀ holder, holding holder = none) : Held [] holding where
  orderly := List.Pairwise.nil
  closedIssued resource closed := by cases closed
  exclusive := .start (fun resource live => by cases live.1) idle

theorem live_of_holding (held : Held events holding) (owned : holding holder = some resource) :
    Live events resource :=
  held.exclusive.busy_of_owns owned

theorem keep (held : Held events holding) (same : ∀ holder, holding' holder = holding holder) :
    Held events holding' where
  orderly := held.orderly
  closedIssued := held.closedIssued
  exclusive := held.exclusive.congr (fun _ => Iff.rfl) same

/-- An event about a resource that is not closed, nor issued again. -/
theorem orderly_concat (held : Held events holding) {event : LifeEvent ρ}
    (notClosed : .closed event.resource ∉ events)
    (fresh : ∀ resource, event = .issued resource → .issued resource ∉ events) :
    (events ++ [event]).Pairwise LifeEvent.Precedes := by
  apply List.pairwise_append.mpr
  refine ⟨held.orderly, List.pairwise_singleton _ _, ?_⟩
  intro earlier member later isLast
  rw [List.mem_singleton] at isLast
  subst isLast
  cases earlier with
  | issued resource =>
      intro again
      exact fresh resource again member
  | used resource => trivial
  | closed resource =>
      intro same
      exact notClosed (same ▸ member)

/-- A holder uses its resource. -/
theorem use (held : Held events holding) (owned : holding holder = some resource)
    (same : ∀ holder, holding' holder = holding holder) :
    Held (events ++ [.used resource]) holding' where
  orderly := held.orderly_concat (held.live_of_holding owned).2 (by simp)
  closedIssued other closed := by
    simp only [List.mem_append, List.mem_singleton, reduceCtorEq, or_false] at closed ⊢
    exact held.closedIssued other closed
  exclusive := by
    apply held.exclusive.congr _ same
    intro other
    simp [Live]

/-- A holder of nothing issues a fresh resource. -/
theorem issue (held : Held events holding) (idle : holding holder = none)
    (fresh : .issued resource ∉ events) (owns : holding' holder = some resource)
    (others : ∀ other, other ≠ holder → holding' other = holding other) :
    Held (events ++ [.issued resource]) holding' where
  orderly := held.orderly_concat (fun closed => fresh (held.closedIssued resource closed))
    fun _ same => LifeEvent.issued.inj same ▸ fresh
  closedIssued other closed := by
    simp only [List.mem_append, List.mem_singleton, reduceCtorEq, or_false] at closed ⊢
    exact Or.inl (held.closedIssued other closed)
  exclusive := by
    apply held.exclusive.acquire idle (fun live => fresh live.1) _ owns others
    intro other
    have unclosed : ∀ same : other = resource, .closed other ∉ events :=
      fun same closed => fresh (same ▸ held.closedIssued other closed)
    simp only [Live, List.mem_append, List.mem_singleton, LifeEvent.issued.injEq, reduceCtorEq,
      or_false]
    constructor
    · intro ⟨issued, open'⟩
      exact issued.elim (fun old => Or.inr ⟨old, open'⟩) Or.inl
    · intro cases
      exact cases.elim (fun new => ⟨Or.inr new, unclosed new⟩) fun old => ⟨Or.inl old.1, old.2⟩

/-- A holder closes its resource. -/
theorem close (held : Held events holding) (owned : holding holder = some resource)
    (gone : holding' holder = none)
    (others : ∀ other, other ≠ holder → holding' other = holding other) :
    Held (events ++ [.closed resource]) holding' where
  orderly := held.orderly_concat (held.live_of_holding owned).2 (by simp)
  closedIssued other closed := by
    simp only [List.mem_append, List.mem_singleton, LifeEvent.closed.injEq, reduceCtorEq,
      or_false] at closed ⊢
    exact closed.elim (held.closedIssued other) fun same =>
      same ▸ (held.live_of_holding owned).1
  exclusive := by
    apply held.exclusive.release owned _ gone others
    intro other
    simp [Live, and_assoc]

/-- A holder hands its resource to one that has none. -/
theorem transfer (held : Held events holding) {receiver : ι}
    (owned : holding holder = some resource) (idle : holding receiver = none)
    (gone : holding' holder = none) (received : holding' receiver = some resource)
    (others : ∀ other, other ≠ holder → other ≠ receiver → holding' other = holding other) :
    Held events holding' where
  orderly := held.orderly
  closedIssued := held.closedIssued
  exclusive := held.exclusive.transfer owned idle gone received others

/-- What follows a close is about other resources. -/
theorem resource_ne_of_after_close (held : Held events holding)
    {before after : List (LifeEvent ρ)} (split : events = before ++ .closed resource :: after)
    {event : LifeEvent ρ} (later : event ∈ after) : event.resource ≠ resource := by
  have orderly := held.orderly
  rw [split, List.pairwise_append, List.pairwise_cons] at orderly
  exact orderly.2.1.1 event later

/-- An event that may not follow itself happens once at most. -/
theorem count_le_one [DecidableEq ρ] (held : Held events holding) {event : LifeEvent ρ}
    (single : ¬ event.Precedes event) : events.count event ≤ 1 := by
  by_cases happened : event ∈ events
  · obtain ⟨before, after, split, first⟩ := List.eq_append_cons_of_mem happened
    have last : event ∉ after := by
      intro again
      have orderly := held.orderly
      rw [split, List.pairwise_append, List.pairwise_cons] at orderly
      exact single (orderly.2.1.1 event again)
    rw [split, List.count_append, List.count_cons_self, List.count_eq_zero.mpr first,
      List.count_eq_zero.mpr last]
  · rw [List.count_eq_zero.mpr happened]
    exact Nat.zero_le 1

/-- What was issued is closed or still held. -/
theorem closed_or_held (held : Held events holding) (issued : .issued resource ∈ events) :
    .closed resource ∈ events ∨ ∃ holder, holding holder = some resource := by
  by_cases closed : .closed resource ∈ events
  · exact Or.inl closed
  · exact Or.inr ((held.exclusive.busy_iff resource).mp ⟨issued, closed⟩)

end Held

end Library
