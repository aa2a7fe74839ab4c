import Mathlib.Data.List.Perm.Basic
import Mathlib.Order.Defs.Unbundled

/-!
A running choice, given up only for a offer strictly above it.

Offers may be incomparable. The order in which they come decides nothing exactly when
one of them is above all that differ from it.
-/

namespace LibRga.Selection

variable {α : Type} (below : α → α → Prop) [DecidableRel below]

def select : α → List α → α
  | kept, [] => kept
  | kept, offer :: rest => select (if below kept offer then offer else kept) rest

def Topped (offers : List α) : Prop :=
  offers = [] ∨ ∃ top ∈ offers, ∀ other ∈ offers, other ≠ top → below other top

variable {kept offer : α} {offers : List α}

theorem select_foldl (kept : α) (offers : List α) :
    select below kept offers =
      offers.foldl (fun kept next => if below kept next then next else kept) kept := by
  induction offers generalizing kept with
  | nil => rfl
  | cons offer rest ih =>
      simp only [select, List.foldl_cons]
      exact ih _

theorem select_mem (kept : α) (offers : List α) :
    select below kept offers = kept ∨ select below kept offers ∈ offers := by
  induction offers generalizing kept with
  | nil => exact .inl rfl
  | cons offer rest ih =>
      simp only [select, List.mem_cons]
      split
      · rcases ih offer with same | later
        · exact .inr (.inl same)
        · exact .inr (.inr later)
      · rcases ih kept with same | later
        · exact .inl same
        · exact .inr (.inr later)

section Transitive

variable [IsTrans α below]

theorem select_initial (kept : α) (offers : List α) :
    select below kept offers = kept ∨ below kept (select below kept offers) := by
  induction offers generalizing kept with
  | nil => exact .inl rfl
  | cons offer rest ih =>
      simp only [select]
      split
      · rename_i chosen
        rcases ih offer with same | above
        · exact .inr (same.symm ▸ chosen)
        · exact .inr (IsTrans.trans _ _ _ chosen above)
      · exact ih kept

/-- What is not below the running choice is not below a later one. -/
theorem select_not_below (passed : ¬below kept offer) (offers : List α) :
    ¬below (select below kept offers) offer := by
  intro exceeded
  rcases select_initial below kept offers with same | above
  · exact passed (same ▸ exceeded)
  · exact passed (IsTrans.trans _ _ _ above exceeded)

end Transitive

section Strict

variable [IsStrictOrder α below]

theorem select_maximal (kept : α) (member : offer ∈ offers) :
    ¬below (select below kept offers) offer := by
  induction offers generalizing kept with
  | nil => cases member
  | cons first rest ih =>
      obtain rfl | later := List.mem_cons.mp member
      · have passed : ¬below (if below kept offer then offer else kept) offer := by
          split
          · exact Std.Irrefl.irrefl offer
          · assumption
        exact select_not_below below passed rest
      · exact ih _ later

/-- From a start below every offer, the top one is what is left. -/
theorem select_top {top : α} (start : ∀ other ∈ offers, below kept other)
    (member : top ∈ offers) (above : ∀ other ∈ offers, other ≠ top → below other top) :
    select below kept offers = top := by
  by_contra different
  have maximal := select_maximal below kept member
  rcases select_mem below kept offers with same | listed
  · exact maximal (same.symm ▸ start top member)
  · exact maximal (above _ listed different)

/-- The offers are the values of `source`, and it is `source` that is permuted. -/
theorem select_perm_iff {ι : Type} (kept : α) (offer : ι → α) (source : List ι)
    (start : ∀ index ∈ source, below kept (offer index)) :
    (∀ permuted : List ι, permuted.Perm source →
        select below kept (permuted.map offer) = select below kept (source.map offer)) ↔
      Topped below (source.map offer) := by
  have started : ∀ other ∈ source.map offer, below kept other :=
    List.forall_mem_map.mpr start
  constructor
  · intro unordered
    rcases select_mem below kept (source.map offer) with same | listed
    · left
      rw [List.eq_nil_iff_forall_not_mem]
      intro other member
      exact select_maximal below kept member (same.symm ▸ started other member)
    · refine .inr ⟨_, listed, ?_⟩
      intro other member different
      -- `other` first: it is kept until something above it comes
      obtain ⟨index, indexed, rfl⟩ := List.mem_map.mp member
      obtain ⟨before, after, split⟩ := List.append_of_mem indexed
      have moved : (index :: (before ++ after)).Perm source := by
        rw [split]
        exact List.perm_middle.symm
      have first := unordered _ moved
      rw [List.map_cons, select, if_pos (start index indexed)] at first
      rcases select_initial below (offer index) ((before ++ after).map offer)
        with same | above
      · exact absurd (same.symm.trans first) different
      · exact first ▸ above
  · rintro (none | ⟨top, member, above⟩) permuted perm
    · have empty := List.map_eq_nil_iff.mp none
      subst empty
      rw [List.perm_nil.mp perm]
    · have same : top ∈ permuted.map offer ↔ top ∈ source.map offer := (perm.map offer).mem_iff
      rw [select_top below started member above]
      apply select_top
      · exact fun other listed => started other ((perm.map offer).mem_iff.mp listed)
      · exact same.mpr member
      · exact fun other listed => above other ((perm.map offer).mem_iff.mp listed)

end Strict

end LibRga.Selection
