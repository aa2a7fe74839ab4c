import Mathlib.Data.List.Basic

/-!
Boxes of points with integer coordinates, half open, and the outline of a box as four boxes.
-/

namespace LibRga.Pixels

structure Box where
  left : Int
  top : Int
  width : Int
  height : Int
deriving DecidableEq, Repr

namespace Box

def Holds (box : Box) (px py : Int) : Prop :=
  box.left ≤ px ∧ px < box.left + box.width ∧ box.top ≤ py ∧ py < box.top + box.height

instance (box : Box) (px py : Int) : Decidable (box.Holds px py) :=
  inferInstanceAs (Decidable (_ ∧ _))

/-- The points of the box that lie within `thickness` of its boundary. -/
def Outline (box : Box) (thickness px py : Int) : Prop :=
  box.Holds px py ∧
    (px - box.left < thickness ∨ box.left + box.width - 1 - px < thickness ∨
      py - box.top < thickness ∨ box.top + box.height - 1 - py < thickness)

instance (box : Box) (thickness px py : Int) : Decidable (box.Outline thickness px py) :=
  inferInstanceAs (Decidable (_ ∧ _))

/-- Above and below over the whole width, left and right between these two. -/
def sides (box : Box) (thickness : Int) : List Box :=
  let length := box.height - 2 * thickness
  [⟨box.left, box.top, box.width, thickness⟩,
    ⟨box.left, box.top + (box.height - thickness), box.width, thickness⟩,
    ⟨box.left, box.top + thickness, thickness, length⟩,
    ⟨box.left + (box.width - thickness), box.top + thickness, thickness, length⟩]

/-- The sides cover the outline unless they reach beyond the box; those at the left and right may
overlap. -/
theorem sides_outline {box : Box} {thickness : Int} (wide : thickness ≤ box.width)
    (high : 2 * thickness ≤ box.height) (px py : Int) :
    (∃ side ∈ box.sides thickness, side.Holds px py) ↔ box.Outline thickness px py := by
  simp only [sides, List.mem_cons, List.not_mem_nil, or_false, exists_eq_or_imp, exists_eq_left,
    Holds, Outline]
  omega

theorem holds_corner {box : Box} (wide : 0 < box.width) (high : 0 < box.height) :
    box.Holds box.left box.top := by
  unfold Holds
  omega

/-- A box that is not empty and lies in another one does so with its corners. -/
theorem within_of_holds {inner outer : Box} (wide : 0 < inner.width) (high : 0 < inner.height)
    (inside : ∀ px py, inner.Holds px py → outer.Holds px py) :
    outer.left ≤ inner.left ∧ inner.left + inner.width ≤ outer.left + outer.width ∧
      outer.top ≤ inner.top ∧ inner.top + inner.height ≤ outer.top + outer.height := by
  have first := inside inner.left inner.top (holds_corner wide high)
  have last := inside (inner.left + inner.width - 1) (inner.top + inner.height - 1)
  simp only [Holds] at first last
  have finish := last (by omega)
  omega

theorem not_outline_of_empty {box : Box} (empty : box.width = 0) (thickness px py : Int) :
    ¬ box.Outline thickness px py := by
  simp only [Outline, Holds]
  omega

end Box

end LibRga.Pixels
