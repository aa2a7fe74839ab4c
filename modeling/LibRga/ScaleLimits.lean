import LibRga.Mirror

/-!
How far the two builders let a blit scale.

The upper limits are tested as floats. The lower ones are `1/8` and `1/16`,
which `generate_blit_req` and the branch of `RgaBlit` with `src1` divide as
integers, so nothing is enlarged too far for them.
-/

namespace LibRga

namespace BlitCaller

/-- Whether the code names the narrow range, from 1/8 to 8, for this generation. -/
def narrow (caller : BlitCaller) (three : Bool) : Bool :=
  match caller with
  | im2d session => session.driverType = .rga1 ∧ session.coreVersion.major ≤ 2
  | legacy ctx => if three then ctx.mVersion ≤ 2 else ctx.mVersion < 2

def scaleLimit (caller : BlitCaller) (three : Bool) : ℚ :=
  if caller.narrow three then 8 else 16

/-- The lower limit is a fraction in the branch of `RgaBlit` without `src1` only. -/
def boundsBelow (caller : BlitCaller) (three : Bool) : Bool :=
  match caller with
  | im2d _ => false
  | legacy _ => !three

end BlitCaller

def Unmirrored (rotation : Int32) : Prop :=
  rotation = 0 ∨ rotation = halTransformRot90 ∨ rotation = halTransformRot180 ∨
    rotation = halTransformRot270

/-- Each side of the source with the side of the target that it becomes. -/
def blitSides (src dst : RgaInfo) (src1 : Option RgaInfo) : List (Int32 × Int32) :=
  let target := targetRect dst src1
  if (turnOf src.rotation false).swapped then
    [(src.rect.width, target.height), (src.rect.height, target.width)]
  else [(src.rect.width, target.width), (src.rect.height, target.height)]

/-- The ratio of two sides, from source to target, lies between `1 / limit` and `limit`. -/
def RatioWithin (limit : ℚ) (sides : Int32 × Int32) : Prop :=
  1 / limit ≤ (sides.1.toInt : ℚ) / sides.2.toInt ∧ (sides.1.toInt : ℚ) / sides.2.toInt ≤ limit

structure ScaleWithin (caller : BlitCaller) (src dst : RgaInfo) (src1 : Option RgaInfo) : Prop where
  wide : ∀ sides ∈ blitSides src dst src1, RatioWithin 16 sides
  narrow : caller.narrow src1.isSome = true → ∀ sides ∈ blitSides src dst src1,
    RatioWithin 8 sides

/-- More than `limit` times as long, but not so as a float. -/
def Blurred (limit : ℚ) (longer shorter : Int32) : Prop :=
  limit * shorter.toInt < longer.toInt ∧ floatSize longer = limit * floatSize shorter

/-- No excess is lost in the conversion to floats, and where the lower limit is zero the target
is not longer than the limit allows. -/
def SidesTested (limit : ℚ) (below : Bool) (sides : Int32 × Int32) : Prop :=
  ¬Blurred limit sides.1 sides.2 ∧
    if below then ¬Blurred limit sides.2 sides.1
    else (sides.2.toInt : ℚ) ≤ limit * sides.1.toInt

/-! One ratio -/

theorem BlitCaller.scaleLimit_eq (caller : BlitCaller) (three : Bool) :
    ∃ k : Nat, caller.scaleLimit three = (2 : ℚ) ^ (k : Int) := by
  unfold BlitCaller.scaleLimit
  split
  · exact ⟨3, by norm_num⟩
  · exact ⟨4, by norm_num⟩

theorem scaleRatio_le_iff {source target : Int32} (first : 0 < source.toInt)
    (second : 0 < target.toInt) (k : Int) :
    scaleRatio source target ≤ (2 : ℚ) ^ k ↔
      floatSize source ≤ (2 : ℚ) ^ k * floatSize target := by
  have order := Float32.compare_div_zpow (isFloat_floatSize first) (isFloat_floatSize second) k
  have same : compare (scaleRatio source target) ((2 : ℚ) ^ k) =
      compare (floatSize source) (floatSize target * (2 : ℚ) ^ k) := order
  rw [← compare_le_iff_le, same, compare_le_iff_le, mul_comm]

theorem le_scaleRatio_iff {source target : Int32} (first : 0 < source.toInt)
    (second : 0 < target.toInt) (k : Int) :
    1 / (2 : ℚ) ^ k ≤ scaleRatio source target ↔
      floatSize target ≤ (2 : ℚ) ^ k * floatSize source := by
  have power : (0 : ℚ) < (2 : ℚ) ^ k := zpow_pos (by norm_num) k
  have order := Float32.compare_div_zpow (isFloat_floatSize first) (isFloat_floatSize second) (-k)
  have same : compare (scaleRatio source target) ((2 : ℚ) ^ (-k)) =
      compare (floatSize source) (floatSize target * (2 : ℚ) ^ (-k)) := order
  rw [one_div, ← zpow_neg, ← compare_ge_iff_ge, same, compare_ge_iff_ge, zpow_neg, ← div_eq_mul_inv,
    div_le_iff₀ power, mul_comm]

/-- Rounding keeps the order, so a side that passes as a float is blurred or short enough. -/
theorem side_within_iff {longer shorter : Int32} (positive : 0 < shorter.toInt) (k : Int)
    (passed : floatSize longer ≤ (2 : ℚ) ^ k * floatSize shorter) :
    (longer.toInt : ℚ) ≤ (2 : ℚ) ^ k * shorter.toInt ↔ ¬Blurred ((2 : ℚ) ^ k) longer shorter := by
  constructor
  · intro short blurred
    exact absurd blurred.1 (not_lt.mpr short)
  · intro sharp
    by_contra long
    have exceeds := not_le.mp long
    have side : (0 : ℚ) < shorter.toInt := by exact_mod_cast positive
    have scaled : Float32.round ((shorter.toInt : ℚ) * (2 : ℚ) ^ k) =
        floatSize shorter * (2 : ℚ) ^ k := Float32.round_scale side k
    have below : (shorter.toInt : ℚ) * (2 : ℚ) ^ k ≤ longer.toInt := by
      rw [mul_comm]
      exact exceeds.le
    have mono := Float32.round_mono (mul_pos side (zpow_pos (by norm_num) k)) below
    rw [scaled, mul_comm] at mono
    exact sharp ⟨exceeds, le_antisymm passed mono⟩

/-- Sides of 24 binary digits are floats, and nothing is lost. -/
theorem sharp_of_small {limit : ℚ} (one : 1 ≤ limit) {longer shorter : Int32}
    (positive : 0 < shorter.toInt) (small : longer.toInt ≤ 2 ^ 24) :
    ¬Blurred limit longer shorter := by
  rintro ⟨exceeds, same⟩
  have side : (1 : ℚ) ≤ shorter.toInt := by exact_mod_cast positive
  have ordered : shorter.toInt < longer.toInt := by
    have above : (shorter.toInt : ℚ) < longer.toInt :=
      lt_of_le_of_lt (le_mul_of_one_le_left (by linarith) one) exceeds
    exact_mod_cast above
  have exact : floatSize longer = longer.toInt ∧ floatSize shorter = shorter.toInt :=
    ⟨Float32.round_int (by omega) small, Float32.round_int positive (by omega)⟩
  rw [exact.1, exact.2] at same
  exact exceeds.ne same.symm

theorem scaleOutside_eq_false {scale : BlitScale} {low high : ℚ} :
    scaleOutside scale low high = false ↔
      (low ≤ scale.horiz ∧ scale.horiz ≤ high) ∧ low ≤ scale.verti ∧ scale.verti ≤ high := by
  simp only [scaleOutside, Bool.or_eq_false_iff, decide_eq_false_iff_not, not_lt]
  tauto

theorem blitScaleOk_above {session : RgaSession} {scale : BlitScale}
    (passed : blitScaleOk session scale = true) (three : Bool) :
    scale.horiz ≤ (BlitCaller.im2d session).scaleLimit three ∧
      scale.verti ≤ (BlitCaller.im2d session).scaleLimit three := by
  unfold blitScaleOk at passed
  split_ifs at passed with _ strict wide
  simp only [BlitCaller.scaleLimit, BlitCaller.narrow, decide_eq_true_eq]
  split
  · rename_i narrow
    obtain ⟨old, major⟩ := narrow
    simp only [not_and, not_or, not_lt] at strict
    have bounds := strict old major
    exact ⟨bounds.2.1, bounds.2.2.2⟩
  · simp only [not_or, not_lt] at wide
    exact ⟨wide.2.1, wide.2.2.2⟩

theorem rgaBlitScaleOk_three {ctx : RgaContext} {scale : BlitScale}
    (passed : rgaBlitScaleOk ctx scale true = true) :
    scale.horiz ≤ (BlitCaller.legacy ctx).scaleLimit true ∧
      scale.verti ≤ (BlitCaller.legacy ctx).scaleLimit true := by
  simp only [rgaBlitScaleOk, if_true] at passed
  split_ifs at passed with _ strict
  unfold BlitCaller.scaleLimit BlitCaller.narrow
  simp only [if_true, decide_eq_true_eq]
  split
  · rename_i old
    simp only [not_and, Bool.not_eq_true, scaleOutside_eq_false] at strict
    have bounds := strict old
    exact ⟨bounds.1.2, bounds.2.2⟩
  · have bounds := scaleOutside_eq_false.mp ((Bool.not_eq_true' _).mp passed)
    exact ⟨bounds.1.2, bounds.2.2⟩

theorem rgaBlitScaleOk_two {ctx : RgaContext} {scale : BlitScale}
    (passed : rgaBlitScaleOk ctx scale false = true) :
    (1 / (BlitCaller.legacy ctx).scaleLimit false ≤ scale.horiz ∧
        scale.horiz ≤ (BlitCaller.legacy ctx).scaleLimit false) ∧
      1 / (BlitCaller.legacy ctx).scaleLimit false ≤ scale.verti ∧
        scale.verti ≤ (BlitCaller.legacy ctx).scaleLimit false := by
  simp only [rgaBlitScaleOk, Bool.false_eq_true, if_false] at passed
  split_ifs at passed with wide strict
  unfold BlitCaller.scaleLimit BlitCaller.narrow
  simp only [Bool.false_eq_true, if_false, decide_eq_true_eq]
  split
  · rename_i old
    simp only [not_and, Bool.not_eq_true] at strict
    exact scaleOutside_eq_false.mp (strict old)
  · exact scaleOutside_eq_false.mp ((Bool.not_eq_true _).mp wide)

theorem scaleOk_within {caller : BlitCaller} {three : Bool} {scale : BlitScale}
    (passed : caller.scaleOk three scale = true) :
    (scale.horiz ≤ caller.scaleLimit three ∧ scale.verti ≤ caller.scaleLimit three) ∧
      (caller.boundsBelow three = true →
        1 / caller.scaleLimit three ≤ scale.horiz ∧ 1 / caller.scaleLimit three ≤ scale.verti) := by
  cases caller with
  | im2d session =>
      exact ⟨blitScaleOk_above passed three, fun below => absurd below Bool.false_ne_true⟩
  | legacy ctx =>
      cases three with
      | true => exact ⟨rgaBlitScaleOk_three passed, fun below => absurd below Bool.false_ne_true⟩
      | false =>
          obtain ⟨horiz, verti⟩ := rgaBlitScaleOk_two passed
          exact ⟨⟨horiz.2, verti.2⟩, fun _ => ⟨horiz.1, verti.1⟩⟩

/-! Both ratios of a blit -/

theorem ratioWithin_iff {limit : ℚ} {sides : Int32 × Int32} (positive : 0 < limit)
    (second : 0 < sides.2.toInt) :
    RatioWithin limit sides ↔
      (sides.2.toInt : ℚ) ≤ limit * sides.1.toInt ∧
        (sides.1.toInt : ℚ) ≤ limit * sides.2.toInt := by
  have target : (0 : ℚ) < sides.2.toInt := by exact_mod_cast second
  unfold RatioWithin
  rw [div_le_div_iff₀ positive target, div_le_iff₀ target, one_mul, mul_comm (sides.1.toInt : ℚ)]

theorem scaleWithin_iff {caller : BlitCaller} {src dst : RgaInfo} {src1 : Option RgaInfo}
    (positive : ∀ sides ∈ blitSides src dst src1, 0 < sides.1.toInt ∧ 0 < sides.2.toInt) :
    ScaleWithin caller src dst src1 ↔
      ∀ sides ∈ blitSides src dst src1, RatioWithin (caller.scaleLimit src1.isSome) sides := by
  unfold BlitCaller.scaleLimit
  constructor
  · rintro ⟨wide, narrow⟩ sides member
    split
    · rename_i old
      exact narrow old sides member
    · exact wide sides member
  · intro within
    split at within
    · rename_i old
      refine ⟨fun sides member => ?_, fun _ => within⟩
      obtain ⟨first, second⟩ := positive sides member
      have source : (0 : ℚ) < sides.1.toInt := by exact_mod_cast first
      have target : (0 : ℚ) < sides.2.toInt := by exact_mod_cast second
      have small := (ratioWithin_iff (by norm_num) second).mp (within sides member)
      refine (ratioWithin_iff (by norm_num) second).mpr ⟨?_, ?_⟩ <;> linarith
    · rename_i recent
      exact ⟨within, fun old => absurd old recent⟩

/-- A quarter turn changes the sides of the target, and the tested rotations are those. -/
theorem swapped_iff {rotation : Int32} (unmirrored : Unmirrored rotation) :
    (turnOf rotation false).swapped = true ↔
      rotation = halTransformRot90 ∨ rotation = halTransformRot270 := by
  rcases unmirrored with rfl | rfl | rfl | rfl <;> decide

section Call

variable {caller : BlitCaller} {src dst : RgaInfo} {src1 : Option RgaInfo} {plan : BlitPlan}

theorem BlitCaller.plan_of_build {req : RgaReq} (built : caller.build src dst src1 = .ok req) :
    ∃ plan, caller.plan src dst src1 = .ok plan := by
  cases caller with
  | im2d session =>
      obtain ⟨plan, planned, _⟩ := generateBlitReq_finished built
      exact ⟨plan, planned⟩
  | legacy ctx =>
      obtain ⟨plan, planned, _⟩ := rgaBlitReq_finished built
      exact ⟨plan, planned⟩

theorem forall_blitSides (claim : Int32 × Int32 → Prop) :
    (∀ sides ∈ blitSides src dst src1, claim sides) ↔
      if (turnOf src.rotation false).swapped then
        claim (src.rect.width, (targetRect dst src1).height) ∧
          claim (src.rect.height, (targetRect dst src1).width)
      else claim (src.rect.width, (targetRect dst src1).width) ∧
        claim (src.rect.height, (targetRect dst src1).height) := by
  unfold blitSides
  dsimp only
  split <;> simp

theorem blitSides_pos (planned : Planned src dst src1 plan) :
    ∀ sides ∈ blitSides src dst src1, 0 < sides.1.toInt ∧ 0 < sides.2.toInt := by
  obtain ⟨⟨width, height⟩, wide, high⟩ := planned.sides
  rw [forall_blitSides fun sides => 0 < sides.1.toInt ∧ 0 < sides.2.toInt]
  split
  · exact ⟨⟨width, high⟩, height, wide⟩
  · exact ⟨⟨width, wide⟩, height, high⟩

theorem planScale_sides (planned : Planned src dst src1 plan)
    (unmirrored : Unmirrored src.rotation) (claim : ℚ → Prop)
    (both : claim (planScale plan src.rotation).horiz ∧
      claim (planScale plan src.rotation).verti) :
    ∀ sides ∈ blitSides src dst src1, claim (scaleRatio sides.1 sides.2) := by
  rw [planScale_eq planned] at both
  rw [forall_blitSides fun sides => claim (scaleRatio sides.1 sides.2)]
  split
  · rename_i turned
    rwa [if_pos ((swapped_iff unmirrored).mp turned)] at both
  · rename_i straight
    rwa [if_neg (mt (swapped_iff unmirrored).mpr straight)] at both

end Call

theorem scaleLimits_iff (caller : BlitCaller) (src dst : RgaInfo) (src1 : Option RgaInfo)
    (req : RgaReq) (unmirrored : Unmirrored src.rotation)
    (built : caller.build src dst src1 = .ok req) :
    ScaleWithin caller src dst src1 ↔
      ∀ sides ∈ blitSides src dst src1,
        SidesTested (caller.scaleLimit src1.isSome) (caller.boundsBelow src1.isSome) sides := by
  obtain ⟨plan, planned⟩ := BlitCaller.plan_of_build built
  obtain ⟨opened, settled, _⟩ := plan_ok_iff.mp planned
  have passed := (settle_eq_some.mp settled).1
  rw [opened.isSome] at passed
  obtain ⟨above, below⟩ := scaleOk_within passed
  have positive := blitSides_pos opened
  have tops := planScale_sides opened unmirrored (· ≤ caller.scaleLimit src1.isSome) above
  obtain ⟨k, power⟩ := caller.scaleLimit_eq src1.isSome
  rw [scaleWithin_iff positive]
  refine forall₂_congr fun sides member => ?_
  obtain ⟨first, second⟩ := positive sides member
  have top := tops sides member
  rw [ratioWithin_iff (by rw [power]; positivity) second, SidesTested]
  rw [power] at top ⊢
  rw [side_within_iff second k ((scaleRatio_le_iff first second k).mp top), and_comm]
  refine and_congr_right fun _ => ?_
  split
  · rename_i tested
    have bottom := planScale_sides opened unmirrored (1 / caller.scaleLimit src1.isSome ≤ ·)
      (below tested) sides member
    rw [power] at bottom
    exact side_within_iff first k ((le_scaleRatio_iff first second k).mp bottom)
  · exact Iff.rfl

def sizedInfo (fd width height : Int32) : RgaInfo :=
  { fd := fd, rect := { width := width, height := height, wstride := width, hstride := height } }

theorem scaleLimits_fourfold :
    ScaleWithin (.legacy { mVersion := 2 }) (sizedInfo 5 64 64) (sizedInfo 6 256 32) none := by
  refine (scaleLimits_iff (.legacy { mVersion := 2 }) (sizedInfo 5 64 64) (sizedInfo 6 256 32) none
    ((rgaBlitReq { mVersion := 2 } (sizedInfo 5 64 64) (sizedInfo 6 256 32)
      none).toOption.getD {}) (.inl rfl) (by decide +kernel)).mpr ?_
  have sides : blitSides (sizedInfo 5 64 64) (sizedInfo 6 256 32) none = [(64, 256), (64, 32)] := by
    decide
  have limit : (BlitCaller.legacy { mVersion := 2 }).scaleLimit false = 16 := by decide +kernel
  rw [sides]
  intro pair member
  have one : (1 : ℚ) ≤ (BlitCaller.legacy { mVersion := 2 }).scaleLimit false := by
    rw [limit]
    norm_num
  simp only [List.mem_cons, List.not_mem_nil, or_false] at member
  rcases member with rfl | rfl
  · exact ⟨sharp_of_small one (by decide) (by decide), sharp_of_small one (by decide) (by decide)⟩
  · exact ⟨sharp_of_small one (by decide) (by decide), sharp_of_small one (by decide) (by decide)⟩

/-- 64 columns become 2048 in the im2d builder, and in `RgaBlit` when there is a `src1`. -/
theorem lower_limit_missing :
    (∃ req, (BlitCaller.im2d rga2ProSession).build (sizedInfo 5 64 64) (sizedInfo 6 2048 64) none =
        .ok req ∧
      ¬ScaleWithin (.im2d rga2ProSession) (sizedInfo 5 64 64) (sizedInfo 6 2048 64) none) ∧
    (∃ req, (BlitCaller.legacy { mVersion := 2 }).build (sizedInfo 5 64 64) (sizedInfo 6 2048 64)
        (some (sizedInfo 7 2048 64)) = .ok req ∧
      ¬ScaleWithin (.legacy { mVersion := 2 }) (sizedInfo 5 64 64) (sizedInfo 6 2048 64)
        (some (sizedInfo 7 2048 64))) := by
  have past (caller : BlitCaller) (src1 : Option RgaInfo)
      (sides : (64, 2048) ∈ blitSides (sizedInfo 5 64 64) (sizedInfo 6 2048 64) src1) :
      ¬ScaleWithin caller (sizedInfo 5 64 64) (sizedInfo 6 2048 64) src1 := by
    intro within
    have ratio := (within.wide (64, 2048) sides).1
    exact absurd ratio (by decide +kernel)
  refine ⟨⟨(generateBlitReq rga2ProSession (sizedInfo 5 64 64) (sizedInfo 6 2048 64)
      none).toOption.getD {}, by decide +kernel, past _ _ (by decide)⟩,
    ⟨(rgaBlitReq { mVersion := 2 } (sizedInfo 5 64 64) (sizedInfo 6 2048 64)
      (some (sizedInfo 7 2048 64))).toOption.getD {}, by decide +kernel, past _ _ (by decide)⟩⟩

end LibRga
