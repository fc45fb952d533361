import Mathlib.Data.List.Infix

/-!
# Partial writes

A stream accepts as much of a write as it has space for.  A loop that writes a number of
items repeats a write that has failed for a passing reason, and gives up after any other
write of which nothing has been accepted.  The outcomes of its writes fill the loop, cut
it short or leave it waiting, and they do so in one way only.
-/

namespace Library

/-- One write: the space there is for it, unless it fails, and `errno` after it. -/
structure WriteOutcome where
  space : Option Nat
  errno : Int
  deriving DecidableEq, Repr

/-- The space there is for a row of writes. -/
def room : List WriteOutcome → Nat
  | [] => 0
  | outcome :: outcomes => outcome.space.getD 0 + room outcomes

theorem room_append (outcomes outcomes' : List WriteOutcome) :
    room (outcomes ++ outcomes') = room outcomes + room outcomes' := by
  induction outcomes with
  | nil => simp [room]
  | cons outcome outcomes ih => simp [room, ih, Nat.add_assoc]

section Loop

-- The values of `errno` after a failure that passes.
variable (passing : Int → Prop)

/-- The loop gives up after this write. -/
def WriteOutcome.GivesUp (outcome : WriteOutcome) : Prop :=
  match outcome.space with
  | some space => space = 0
  | none => ¬ passing outcome.errno

/-- The loop goes on after each of these writes. -/
def GoesOn (used : List WriteOutcome) : Prop := ∀ outcome ∈ used, ¬ outcome.GivesUp passing

/-- These writes, and no fewer, are the ones of a loop that completes. -/
structure Fills (length : Nat) (used : List WriteOutcome) : Prop where
  goesOn : GoesOn passing used
  enough : length ≤ room used
  needed : ∀ before after, used = before ++ after → after ≠ [] → room before < length

/-- These writes are the ones of a loop that gives up after `last`. -/
structure CutsShort (length : Nat) (used : List WriteOutcome) (last : WriteOutcome) : Prop where
  goesOn : GoesOn passing used
  short : room used < length
  givesUp : last.GivesUp passing

/-- The loop needs more than these writes. -/
structure Waits (length : Nat) (outcomes : List WriteOutcome) : Prop where
  goesOn : GoesOn passing outcomes
  short : room outcomes < length

variable {passing} {length : Nat} {outcome last last' : WriteOutcome}
  {outcomes used used' rest rest' : List WriteOutcome}

theorem goesOn_nil : GoesOn passing [] := fun _ member => nomatch member

theorem goesOn_cons :
    GoesOn passing (outcome :: outcomes) ↔ ¬ outcome.GivesUp passing ∧ GoesOn passing outcomes :=
  List.forall_mem_cons

theorem fills_nil : Fills passing 0 [] where
  goesOn := goesOn_nil
  enough := Nat.le_refl 0
  needed := by
    intro before after split some
    exact absurd (List.append_eq_nil_iff.mp split.symm).2 some

theorem fills_cons_iff :
    Fills passing length (outcome :: used) ↔
      ¬ outcome.GivesUp passing ∧ 0 < length ∧
        Fills passing (length - outcome.space.getD 0) used := by
  constructor
  · intro ⟨goesOn, enough, needed⟩
    have goes := goesOn_cons.mp goesOn
    rw [room] at enough
    have first := needed [] (outcome :: used) rfl (List.cons_ne_nil _ _)
    constructor
    · exact goes.1
    · constructor
      · exact first
      · constructor
        · exact goes.2
        · omega
        · intro before after split some
          have more := needed (outcome :: before) after (congrArg (outcome :: ·) split) some
          rw [room] at more
          omega
  · intro ⟨goes, positive, goesOn, enough, needed⟩
    constructor
    · exact goesOn_cons.mpr ⟨goes, goesOn⟩
    · rw [room]
      omega
    · intro before after split some
      cases before with
      | nil => exact positive
      | cons first before =>
          rw [List.cons_append, List.cons.injEq] at split
          obtain ⟨rfl, split⟩ := split
          have more := needed before after split some
          rw [room]
          omega

theorem waits_nil_iff : Waits passing length [] ↔ 0 < length :=
  ⟨fun waits => waits.short, fun positive => ⟨goesOn_nil, positive⟩⟩

theorem waits_cons_iff :
    Waits passing length (outcome :: outcomes) ↔
      ¬ outcome.GivesUp passing ∧ 0 < length ∧
        Waits passing (length - outcome.space.getD 0) outcomes := by
  constructor
  · intro ⟨goesOn, short⟩
    have goes := goesOn_cons.mp goesOn
    rw [room] at short
    exact ⟨goes.1, Nat.zero_lt_of_lt short, goes.2, Nat.lt_sub_iff_add_lt'.mpr short⟩
  · intro ⟨goes, _, goesOn, short⟩
    constructor
    · exact goesOn_cons.mpr ⟨goes, goesOn⟩
    · rw [room]
      omega

/-- A loop that gives up has waited until then. -/
theorem cutsShort_iff :
    CutsShort passing length used last ↔
      Waits passing length used ∧ last.GivesUp passing := by
  constructor
  · intro cuts
    exact ⟨⟨cuts.goesOn, cuts.short⟩, cuts.givesUp⟩
  · intro ⟨waits, givesUp⟩
    exact ⟨waits.goesOn, waits.short, givesUp⟩

theorem cutsShort_nil_iff :
    CutsShort passing length [] last ↔ 0 < length ∧ last.GivesUp passing := by
  rw [cutsShort_iff, waits_nil_iff]

theorem cutsShort_cons_iff :
    CutsShort passing length (outcome :: used) last ↔
      ¬ outcome.GivesUp passing ∧ 0 < length ∧
        CutsShort passing (length - outcome.space.getD 0) used last := by
  rw [cutsShort_iff, cutsShort_iff, waits_cons_iff, and_assoc, and_assoc]

/-- What the outcomes do to the loop. -/
theorem fills_or_cutsShort_or_waits (passing : Int → Prop) (length : Nat)
    (outcomes : List WriteOutcome) :
    (∃ used rest, outcomes = used ++ rest ∧ Fills passing length used) ∨
      (∃ used last rest, outcomes = used ++ last :: rest ∧ CutsShort passing length used last) ∨
      Waits passing length outcomes := by
  induction outcomes generalizing length with
  | nil =>
      cases length with
      | zero => exact Or.inl ⟨[], [], rfl, fills_nil⟩
      | succ length => exact Or.inr (Or.inr (waits_nil_iff.mpr (Nat.succ_pos length)))
  | cons outcome outcomes ih =>
      cases Nat.eq_zero_or_pos length with
      | inl zero => exact Or.inl ⟨[], outcome :: outcomes, rfl, zero ▸ fills_nil⟩
      | inr positive =>
          by_cases givesUp : outcome.GivesUp passing
          · have cuts := cutsShort_nil_iff.mpr ⟨positive, givesUp⟩
            exact Or.inr (Or.inl ⟨[], outcome, outcomes, rfl, cuts⟩)
          · rcases ih (length - outcome.space.getD 0) with
              ⟨used, rest, rfl, fills⟩ | ⟨used, last, rest, rfl, cuts⟩ | waits
            · have fills := fills_cons_iff.mpr ⟨givesUp, positive, fills⟩
              exact Or.inl ⟨outcome :: used, rest, rfl, fills⟩
            · have cuts := cutsShort_cons_iff.mpr ⟨givesUp, positive, cuts⟩
              exact Or.inr (Or.inl ⟨outcome :: used, last, rest, rfl, cuts⟩)
            · exact Or.inr (Or.inr (waits_cons_iff.mpr ⟨givesUp, positive, waits⟩))

/-- The writes after which the loop goes on come before the one after which it gives up. -/
theorem GoesOn.isPrefix (goesOn : GoesOn passing used) (givesUp : last.GivesUp passing)
    (same : used ++ rest = used' ++ last :: rest') : used <+: used' := by
  rcases List.append_eq_append_iff.mp same with ⟨more, rfl, _⟩ | ⟨more, rfl, split⟩
  · exact List.prefix_append _ _
  · cases more with
    | nil => simp
    | cons next more =>
        obtain ⟨rfl, _⟩ := List.cons.inj split
        exact absurd givesUp (goesOn last (List.mem_append_right used' List.mem_cons_self))

theorem room_le_of_isPrefix (before : used <+: used') : room used ≤ room used' := by
  obtain ⟨more, rfl⟩ := before
  rw [room_append]
  exact Nat.le_add_right _ _

end Loop

end Library
