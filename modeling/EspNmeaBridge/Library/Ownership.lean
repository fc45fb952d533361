import Mathlib.Data.List.FinRange
import Mathlib.Data.List.Nodup
import Mathlib.Data.List.Perm.Subperm

/-!
# Exclusive ownership

Resources that are busy or free, and holders that own one resource or none.
Ownership is exclusive when the busy resources are exactly the owned ones and no
two holders own the same.  It is kept by acquiring a free resource and by releasing
an owned one, and as long as there are no more holders than resources, a holder
that owns nothing finds a free one (`exists_free`).
-/

namespace Library

universe u v

variable {ρ : Type u} {ι : Type v}

/-- Each busy resource has exactly one owner, and a free one has none. -/
structure Exclusive (busy : ρ → Prop) (owns : ι → Option ρ) : Prop where
  unique : ∀ {holder other resource}, owns holder = some resource →
    owns other = some resource → holder = other
  busy_iff : ∀ resource, busy resource ↔ ∃ holder, owns holder = some resource

namespace Exclusive

variable {busy busy' : ρ → Prop} {owns owns' : ι → Option ρ} {holder : ι} {resource : ρ}

/-- Nothing is owned. -/
theorem start (free : ∀ resource, ¬ busy resource) (idle : ∀ holder, owns holder = none) :
    Exclusive busy owns where
  unique owned := by simp [idle] at owned
  busy_iff resource := by simp [free, idle]

theorem busy_of_owns (exclusive : Exclusive busy owns) (owned : owns holder = some resource) :
    busy resource :=
  (exclusive.busy_iff resource).mpr ⟨holder, owned⟩

theorem existsUnique_owner (exclusive : Exclusive busy owns) (taken : busy resource) :
    ∃! holder, owns holder = some resource := by
  obtain ⟨holder, owned⟩ := (exclusive.busy_iff resource).mp taken
  exact ⟨holder, owned, fun other otherOwned => exclusive.unique otherOwned owned⟩

/-- Steps that change neither side. -/
theorem congr (exclusive : Exclusive busy owns)
    (sameBusy : ∀ resource, busy' resource ↔ busy resource)
    (sameOwns : ∀ holder, owns' holder = owns holder) : Exclusive busy' owns' where
  unique owned otherOwned := by
    rw [sameOwns] at owned otherOwned
    exact exclusive.unique owned otherOwned
  busy_iff resource := by simp only [sameBusy, sameOwns, exclusive.busy_iff]

/-- A holder that owns nothing takes a free resource. -/
theorem acquire (exclusive : Exclusive busy owns) (idle : owns holder = none)
    (free : ¬ busy resource)
    (nowBusy : ∀ other, busy' other ↔ other = resource ∨ busy other)
    (nowOwns : owns' holder = some resource)
    (others : ∀ other, other ≠ holder → owns' other = owns other) : Exclusive busy' owns' where
  unique {first second item} firstOwns secondOwns := by
    have owned : ∀ other, owns' other = some item → other = holder ∧ item = resource ∨
        owns other = some item ∧ item ≠ resource := by
      intro other owns
      by_cases same : other = holder
      · rw [same, nowOwns] at owns
        exact Or.inl ⟨same, (Option.some.inj owns).symm⟩
      · rw [others other same] at owns
        exact Or.inr ⟨owns, fun equal => free (exclusive.busy_of_owns (equal ▸ owns))⟩
    rcases owned first firstOwns with ⟨isFirst, new⟩ | ⟨old, kept⟩ <;>
      rcases owned second secondOwns with ⟨isSecond, new'⟩ | ⟨old', kept'⟩
    · rw [isFirst, isSecond]
    · exact (kept' new).elim
    · exact (kept new').elim
    · exact exclusive.unique old old'
  busy_iff item := by
    rw [nowBusy]
    constructor
    · rintro (rfl | taken)
      · exact ⟨holder, nowOwns⟩
      · obtain ⟨other, owned⟩ := (exclusive.busy_iff item).mp taken
        refine ⟨other, (others other ?_).trans owned⟩
        rintro rfl
        rw [idle] at owned
        contradiction
    · rintro ⟨other, owned⟩
      by_cases same : other = holder
      · rw [same, nowOwns] at owned
        exact Or.inl (Option.some.inj owned).symm
      · rw [others other same] at owned
        exact Or.inr (exclusive.busy_of_owns owned)

/-- A holder gives its resource back. -/
theorem release (exclusive : Exclusive busy owns) (owned : owns holder = some resource)
    (nowBusy : ∀ other, busy' other ↔ busy other ∧ other ≠ resource)
    (nowOwns : owns' holder = none)
    (others : ∀ other, other ≠ holder → owns' other = owns other) : Exclusive busy' owns' where
  unique {first second item} firstOwns secondOwns := by
    have old : ∀ other, owns' other = some item → owns other = some item := by
      intro other otherOwns
      by_cases same : other = holder
      · rw [same, nowOwns] at otherOwns
        contradiction
      · rwa [others other same] at otherOwns
    exact exclusive.unique (old first firstOwns) (old second secondOwns)
  busy_iff item := by
    rw [nowBusy]
    constructor
    · rintro ⟨taken, different⟩
      obtain ⟨other, otherOwns⟩ := (exclusive.busy_iff item).mp taken
      refine ⟨other, (others other ?_).trans otherOwns⟩
      rintro rfl
      exact different (Option.some.inj (otherOwns.symm.trans owned))
    · rintro ⟨other, otherOwns⟩
      have different : other ≠ holder := by
        rintro rfl
        rw [nowOwns] at otherOwns
        contradiction
      rw [others other different] at otherOwns
      refine ⟨exclusive.busy_of_owns otherOwns, ?_⟩
      rintro rfl
      exact different (exclusive.unique otherOwns owned)

/-- A holder hands its resource to one that owns nothing. -/
theorem transfer (exclusive : Exclusive busy owns) {receiver : ι}
    (owned : owns holder = some resource) (idle : owns receiver = none)
    (gone : owns' holder = none) (received : owns' receiver = some resource)
    (others : ∀ other, other ≠ holder → other ≠ receiver → owns' other = owns other) :
    Exclusive busy owns' where
  unique {first second item} firstOwns secondOwns := by
    have owner : ∀ other, owns' other = some item → other = receiver ∧ item = resource ∨
        owns other = some item ∧ other ≠ holder := by
      intro other otherOwns
      by_cases isReceiver : other = receiver
      · rw [isReceiver, received] at otherOwns
        exact Or.inl ⟨isReceiver, (Option.some.inj otherOwns).symm⟩
      · by_cases isHolder : other = holder
        · rw [isHolder, gone] at otherOwns
          contradiction
        · rw [others other isHolder isReceiver] at otherOwns
          exact Or.inr ⟨otherOwns, isHolder⟩
    rcases owner first firstOwns with ⟨isFirst, same⟩ | ⟨old, away⟩ <;>
      rcases owner second secondOwns with ⟨isSecond, same'⟩ | ⟨old', away'⟩
    · rw [isFirst, isSecond]
    · exact absurd (exclusive.unique old' (same ▸ owned)) away'
    · exact absurd (exclusive.unique old (same' ▸ owned)) away
    · exact exclusive.unique old old'
  busy_iff item := by
    rw [exclusive.busy_iff]
    constructor
    · intro ⟨other, otherOwns⟩
      by_cases isHolder : other = holder
      · rw [isHolder, owned] at otherOwns
        exact ⟨receiver, received.trans otherOwns⟩
      · refine ⟨other, (others other isHolder ?_).trans otherOwns⟩
        intro isReceiver
        rw [isReceiver, idle] at otherOwns
        contradiction
    · intro ⟨other, otherOwns⟩
      by_cases isReceiver : other = receiver
      · rw [isReceiver, received] at otherOwns
        exact ⟨holder, owned.trans otherOwns⟩
      · refine ⟨other, ?_⟩
        by_cases isHolder : other = holder
        · rw [isHolder, gone] at otherOwns
          contradiction
        · rwa [others other isHolder isReceiver] at otherOwns

/-- As many resources are busy as holders own one. -/
theorem countP_busy (exclusive : Exclusive busy owns) [DecidablePred busy] {resources : List ρ}
    {holders : List ι} (resourcesDistinct : resources.Nodup)
    (allResources : ∀ resource, resource ∈ resources) (holdersDistinct : holders.Nodup)
    (owners : ∀ holder resource, owns holder = some resource → holder ∈ holders) :
    resources.countP (fun resource => busy resource) =
      holders.countP fun holder => (owns holder).isSome := by
  rw [List.countP_eq_length_filter, ← List.length_filterMap_eq_countP]
  apply List.Perm.length_eq
  apply (List.perm_ext_iff_of_nodup (resourcesDistinct.filter _) _).mpr
  · intro resource
    rw [List.mem_filter, decide_eq_true_iff, exclusive.busy_iff, List.mem_filterMap]
    constructor
    · intro ⟨_, holder, owned⟩
      exact ⟨holder, owners holder resource owned, owned⟩
    · intro ⟨holder, _, owned⟩
      exact ⟨allResources resource, holder, owned⟩
  · apply holdersDistinct.filterMap
    intro holder other resource owned otherOwned
    exact exclusive.unique owned otherOwned

/-- The pigeonhole: if every owner is one of no more candidates than there are
resources, a candidate that owns nothing finds a free resource. -/
theorem exists_free {count : Nat} {busy : Fin count → Prop} {owns : ι → Option (Fin count)}
    (exclusive : Exclusive busy owns) {candidates : List ι} (enough : candidates.length ≤ count)
    (owner : ∀ holder resource, owns holder = some resource → holder ∈ candidates)
    (candidate : holder ∈ candidates) (idle : owns holder = none) :
    ∃ resource, ¬ busy resource := by
  by_contra full
  simp only [not_exists, Classical.not_not] at full
  choose ownerOf owned using fun resource => (exclusive.busy_iff resource).mp (full resource)
  have distinct : (holder :: (List.finRange count).map ownerOf).Nodup := by
    refine List.nodup_cons.mpr ⟨?_, ?_⟩
    · intro member
      obtain ⟨resource, _, rfl⟩ := List.mem_map.mp member
      rw [owned resource] at idle
      contradiction
    · apply (List.nodup_finRange count).map_on
      intro first _ second _ equal
      have firstOwned := owned first
      rw [equal, owned second] at firstOwned
      exact (Option.some.inj firstOwned).symm
  have within : holder :: (List.finRange count).map ownerOf ⊆ candidates := by
    intro other member
    rcases List.mem_cons.mp member with rfl | mapped
    · exact candidate
    · obtain ⟨resource, _, rfl⟩ := List.mem_map.mp mapped
      exact owner _ resource (owned resource)
  have fits := (List.subperm_of_subset distinct within).length_le
  simp only [List.length_cons, List.length_map, List.length_finRange] at fits
  omega

end Exclusive

end Library
