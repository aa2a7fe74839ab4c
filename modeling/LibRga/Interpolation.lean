import LibRga.FloatOrder
import LibRga.Registers
import LibRga.Submission

/-!
The scale decisions of the two blit builders: whether the sizes are refused,
which interpolation is chosen and whether the picture is stretched.

All of them come down to how the sides of the source compare with those of the
target as single-precision numbers, and to the limits of the ratios.
-/

namespace LibRga

def floatSize (length : Int32) : ℚ :=
  Float32.ofInt length.toInt

theorem isFloat_floatSize {length : Int32} (positive : 0 < length.toInt) :
    Float32.IsFloat (floatSize length) :=
  Float32.isFloat_round (by exact_mod_cast positive)

theorem compare_scaleRatio {source target : Int32} (first : 0 < source.toInt)
    (second : 0 < target.toInt) :
    compare (scaleRatio source target) 1 = compare (floatSize source) (floatSize target) :=
  Float32.compare_div (isFloat_floatSize first) (isFloat_floatSize second)

/-! Two callers -/

inductive BlitCaller where
  | im2d (session : RgaSession)
  | legacy (ctx : RgaContext)

namespace BlitCaller

def plan : BlitCaller → RgaInfo → RgaInfo → Option RgaInfo → Except BuildExit BlitPlan
  | im2d session => planBlit session
  | legacy ctx => planRgaBlit ctx

def build : BlitCaller → RgaInfo → RgaInfo → Option RgaInfo → Except BuildExit RgaReq
  | im2d session => generateBlitReq session
  | legacy ctx => rgaBlitReq ctx

def scaleOk (caller : BlitCaller) (three : Bool) (scale : BlitScale) : Bool :=
  match caller with
  | im2d session => blitScaleOk session scale
  | legacy ctx => rgaBlitScaleOk ctx scale three

def bicubicLimit : BlitCaller → Int32
  | im2d session => session.hardwareInfo.scaleVerBicubicLimit.toInt32
  | legacy _ => 1996

/-- Only the im2d builder limits the line of a linear reduction. -/
def linearTooWide (caller : BlitCaller) (dstWidth : Int32) : Bool :=
  match caller with
  | im2d _ => 4096 < dstWidth
  | legacy _ => false

def settle (caller : BlitCaller) (requested : RgaInterp) (three : Bool) (scale : BlitScale)
    (srcWidth dstWidth : Int32) : Option RgaInterp :=
  let interp := selectInterp requested scale srcWidth dstWidth caller.bicubicLimit
  if caller.scaleOk three scale = false then none
  else if interpOk interp scale srcWidth dstWidth caller.bicubicLimit = false then none
  else if 1 < scale.verti ∧ interp.verti = rgaInterpLinear ∧ caller.linearTooWide dstWidth = true
    then none
  else some interp

end BlitCaller

def planScale (plan : BlitPlan) (rotation : Int32) : BlitScale :=
  blitScale rotation plan.src.rect plan.dst.rect (plan.src1.map Channel.rect)

def BlitScale.stretch (scale : BlitScale) : Bool :=
  scale.horiz != 1 || scale.verti != 1

theorem settle_eq_some {caller : BlitCaller} {requested interp : RgaInterp} {three : Bool}
    {scale : BlitScale} {srcWidth dstWidth : Int32} :
    caller.settle requested three scale srcWidth dstWidth = some interp ↔
      caller.scaleOk three scale = true ∧
        interpOk interp scale srcWidth dstWidth caller.bicubicLimit = true ∧
        ¬(1 < scale.verti ∧ interp.verti = rgaInterpLinear ∧
          caller.linearTooWide dstWidth = true) ∧
        selectInterp requested scale srcWidth dstWidth caller.bicubicLimit = interp := by
  unfold BlitCaller.settle
  dsimp only
  constructor
  · intro settled
    split_ifs at settled with scaled checked capped
    cases settled
    exact ⟨by simpa using scaled, by simpa using checked, capped, rfl⟩
  · rintro ⟨scaled, checked, capped, rfl⟩
    rw [if_neg (by simp [scaled]), if_neg (by simp [checked]), if_neg capped]

open Result in
theorem plan_ok_iff {caller : BlitCaller} {src dst : RgaInfo} {src1 : Option RgaInfo}
    {plan : BlitPlan} :
    caller.plan src dst src1 = .ok plan ↔
      Planned src dst src1 plan ∧
        caller.settle (requestedInterp src.scaleMode) plan.src1.isSome
          (planScale plan src.rotation) plan.src.rect.width plan.dst.rect.width =
            some plan.interp ∧
        plan.stretch = (planScale plan src.rotation).stretch := by
  rw [settle_eq_some]
  cases caller with
  | im2d session =>
      simp only [BlitCaller.plan, planBlit, bind_eq_ok, ite_error_eq_ok, Bool.not_eq_false]
      constructor
      · rintro ⟨flag, handles, srcChannel, srcOpened, src1Channel, src1Opened, dstChannel,
          dstOpened, _, rects, scaled, checked, capped, result⟩
        cases result
        exact ⟨⟨handles, srcOpened, src1Opened, dstOpened, rects⟩,
          ⟨scaled, checked, by simpa [BlitCaller.linearTooWide, planScale] using capped, rfl⟩, rfl⟩
      · obtain ⟨flag, srcChannel, dstChannel, src1Channel, stretch, interp⟩ := plan
        rintro ⟨⟨handles, srcOpened, src1Opened, dstOpened, rects⟩,
          ⟨scaled, checked, capped, chosen⟩, stretched⟩
        dsimp only [planScale] at *
        subst chosen stretched
        exact ⟨flag, handles, srcChannel, srcOpened, src1Channel, src1Opened, dstChannel,
          dstOpened, (), rects, scaled, checked,
          by simpa [BlitCaller.linearTooWide, BlitCaller.bicubicLimit] using capped, rfl⟩
  | legacy ctx =>
      simp only [BlitCaller.plan, planRgaBlit, bind_eq_ok, ite_error_eq_ok, Bool.not_eq_false]
      constructor
      · rintro ⟨flag, handles, srcChannel, srcOpened, src1Channel, src1Opened, dstChannel,
          dstOpened, _, rects, scaled, checked, result⟩
        cases result
        exact ⟨⟨handles, srcOpened, src1Opened, dstOpened, rects⟩,
          ⟨scaled, checked, by simp [BlitCaller.linearTooWide], rfl⟩, rfl⟩
      · obtain ⟨flag, srcChannel, dstChannel, src1Channel, stretch, interp⟩ := plan
        rintro ⟨⟨handles, srcOpened, src1Opened, dstOpened, rects⟩,
          ⟨scaled, checked, _, chosen⟩, stretched⟩
        dsimp only [planScale] at *
        subst chosen stretched
        exact ⟨flag, handles, srcChannel, srcOpened, src1Channel, src1Opened, dstChannel,
          dstOpened, (), rects, scaled, checked, rfl⟩

/-! The decisions by the order of the sides -/

/-- How the source compares with its target: `gt` is scaled down. -/
structure Fit where
  horiz : Ordering
  verti : Ordering
deriving DecidableEq, Repr

def BlitScale.fit (scale : BlitScale) : Fit :=
  ⟨compare scale.horiz 1, compare scale.verti 1⟩

def sizeFit (src : RgaRect) (width height : Int32) : Fit :=
  ⟨compare (floatSize src.width) (floatSize width),
    compare (floatSize src.height) (floatSize height)⟩

namespace BlitCaller

variable (caller : BlitCaller) (requested : RgaInterp) (srcWidth dstWidth : Int32) (fit : Fit)

def lineTooWide : Bool :=
  caller.bicubicLimit < srcWidth || (caller.bicubicLimit < dstWidth && fit.horiz == .gt)

/-- A filter that was asked for does not suit the sizes. -/
def unsuited : Bool :=
  (requested.verti == rgaInterpBicubic && fit.verti == .lt &&
      caller.lineTooWide srcWidth dstWidth fit) ||
    (requested.verti == rgaInterpLinear && fit.verti == .gt &&
      (fit.horiz == .lt || caller.linearTooWide dstWidth)) ||
    (requested.horiz == rgaInterpLinear && fit.horiz == .gt && fit.verti == .lt)

def fitInterp : RgaInterp :=
  { horiz :=
      if requested.horiz = rgaInterpDefault then
        match fit.horiz with
        | .gt => rgaInterpAverage
        | .lt => rgaInterpBicubic
        | .eq => rgaInterpDefault
      else requested.horiz
    verti :=
      if requested.verti = rgaInterpDefault then
        match fit.verti with
        | .gt => rgaInterpAverage
        | .lt => if caller.lineTooWide srcWidth dstWidth fit then rgaInterpLinear
            else rgaInterpBicubic
        | .eq => rgaInterpDefault
      else requested.verti }

end BlitCaller

section Settled

variable {caller : BlitCaller} {requested : RgaInterp} {three : Bool} {scale : BlitScale}
  {srcWidth dstWidth : Int32}

theorem bicubicTooWide_fit (caller : BlitCaller) :
    bicubicTooWide scale srcWidth dstWidth caller.bicubicLimit =
      caller.lineTooWide srcWidth dstWidth scale.fit := by
  unfold bicubicTooWide BlitCaller.lineTooWide BlitScale.fit
  have down : (compare scale.horiz 1 == .gt) = decide (1 < scale.horiz) := by
    rw [Bool.eq_iff_iff, beq_iff_eq, decide_eq_true_eq, compare_gt_iff_gt]
  rw [down]

theorem selectInterp_fit :
    selectInterp requested scale srcWidth dstWidth caller.bicubicLimit =
      caller.fitInterp requested srcWidth dstWidth scale.fit := by
  unfold selectInterp BlitCaller.fitInterp
  rw [bicubicTooWide_fit caller]
  congr 1
  · rcases lt_trichotomy scale.horiz 1 with less | same | more
    · have order : scale.fit.horiz = .lt := compare_lt_iff_lt.mpr less
      rw [order, if_neg less.not_gt, if_pos less]
    · have order : scale.fit.horiz = .eq := compare_eq_iff_eq.mpr same
      rw [order, same, if_neg (lt_irrefl _), if_neg (lt_irrefl _)]
      split
      · assumption
      · rfl
    · have order : scale.fit.horiz = .gt := compare_gt_iff_gt.mpr more
      rw [order, if_pos more]
  · rcases lt_trichotomy scale.verti 1 with less | same | more
    · have order : scale.fit.verti = .lt := compare_lt_iff_lt.mpr less
      rw [order, if_neg less.not_gt, if_pos less]
    · have order : scale.fit.verti = .eq := compare_eq_iff_eq.mpr same
      rw [order, same, if_neg (lt_irrefl _), if_neg (lt_irrefl _)]
      split
      · assumption
      · rfl
    · have order : scale.fit.verti = .gt := compare_gt_iff_gt.mpr more
      rw [order, if_pos more]

theorem interpOk_fit (interp : RgaInterp) :
    interpOk interp scale srcWidth dstWidth caller.bicubicLimit = false ↔
      interp.verti = rgaInterpBicubic ∧ scale.fit.verti = .lt ∧
          caller.lineTooWide srcWidth dstWidth scale.fit = true ∨
        ((scale.fit.verti = .gt ∧ interp.verti = rgaInterpLinear) ∨
            (scale.fit.horiz = .gt ∧ interp.horiz = rgaInterpLinear)) ∧
          (scale.fit.horiz = .lt ∨ scale.fit.verti = .lt) := by
  have orders : (scale.fit.horiz = .lt ↔ scale.horiz < 1) ∧
      (scale.fit.horiz = .gt ↔ 1 < scale.horiz) ∧ (scale.fit.verti = .lt ↔ scale.verti < 1) ∧
      (scale.fit.verti = .gt ↔ 1 < scale.verti) :=
    ⟨compare_lt_iff_lt, compare_gt_iff_gt, compare_lt_iff_lt, compare_gt_iff_gt⟩
  unfold interpOk
  rw [bicubicTooWide_fit caller, orders.1, orders.2.1, orders.2.2.1, orders.2.2.2]
  split_ifs with first second
  · simp [first]
  · simp [second]
  · simp only [false_iff, not_or]
    exact ⟨first, second⟩

-- of the filters that the builder chooses itself none is refused
theorem fitInterp_linear_horiz {fit : Fit} :
    fit.horiz = .gt ∧
        (caller.fitInterp requested srcWidth dstWidth fit).horiz = rgaInterpLinear ↔
      fit.horiz = .gt ∧ requested.horiz = rgaInterpLinear := by
  refine and_congr_right fun down => ?_
  unfold BlitCaller.fitInterp
  dsimp only
  rw [down]
  split
  · rename_i unset
    rw [unset]
    decide
  · rfl

theorem fitInterp_linear_verti {fit : Fit} :
    fit.verti = .gt ∧
        (caller.fitInterp requested srcWidth dstWidth fit).verti = rgaInterpLinear ↔
      fit.verti = .gt ∧ requested.verti = rgaInterpLinear := by
  refine and_congr_right fun down => ?_
  unfold BlitCaller.fitInterp
  dsimp only
  rw [down]
  split
  · rename_i unset
    rw [unset]
    exact iff_of_false (by simp [rgaInterpAverage, rgaInterpLinear]) (by decide)
  · rfl

theorem fitInterp_bicubic {fit : Fit} :
    (caller.fitInterp requested srcWidth dstWidth fit).verti = rgaInterpBicubic ∧
        fit.verti = .lt ∧ caller.lineTooWide srcWidth dstWidth fit = true ↔
      requested.verti = rgaInterpBicubic ∧ fit.verti = .lt ∧
        caller.lineTooWide srcWidth dstWidth fit = true := by
  refine and_congr_left fun ⟨up, wide⟩ => ?_
  unfold BlitCaller.fitInterp
  dsimp only
  rw [up, wide]
  split
  · rename_i unset
    rw [unset]
    decide
  · rfl

theorem unsuited_iff (caller : BlitCaller) (requested : RgaInterp) (scale : BlitScale)
    (srcWidth dstWidth : Int32) :
    (interpOk (caller.fitInterp requested srcWidth dstWidth scale.fit) scale srcWidth dstWidth
        caller.bicubicLimit = false ∨
      1 < scale.verti ∧
        (caller.fitInterp requested srcWidth dstWidth scale.fit).verti = rgaInterpLinear ∧
        caller.linearTooWide dstWidth = true) ↔
      caller.unsuited requested srcWidth dstWidth scale.fit = true := by
  have order : 1 < scale.verti ↔ scale.fit.verti = .gt := compare_gt_iff_gt.symm
  rw [interpOk_fit, order, ← and_assoc (a := scale.fit.verti = .gt), fitInterp_bicubic,
    fitInterp_linear_verti, fitInterp_linear_horiz]
  simp only [BlitCaller.unsuited, Bool.or_eq_true, Bool.and_eq_true, beq_iff_eq]
  cases scale.fit.horiz <;> cases scale.fit.verti <;> simp +contextual

theorem settle_fit :
    caller.settle requested three scale srcWidth dstWidth =
      if caller.scaleOk three scale = false ∨
          caller.unsuited requested srcWidth dstWidth scale.fit = true then none
      else some (caller.fitInterp requested srcWidth dstWidth scale.fit) := by
  have unsuited := unsuited_iff caller requested scale srcWidth dstWidth
  unfold BlitCaller.settle
  rw [selectInterp_fit]
  dsimp only
  by_cases scaled : caller.scaleOk three scale = false
  · rw [if_pos scaled, if_pos (.inl scaled)]
  by_cases suited : caller.unsuited requested srcWidth dstWidth scale.fit = true
  · have refused : caller.scaleOk three scale = false ∨
        caller.unsuited requested srcWidth dstWidth scale.fit = true := .inr suited
    rw [if_neg scaled, if_pos refused]
    obtain checked | capped := unsuited.mpr suited
    · rw [if_pos checked]
    · rw [if_pos capped, ite_self]
  · have fine := mt unsuited.mp suited
    rw [not_or] at fine
    rw [if_neg scaled, if_neg fine.1, if_neg fine.2, if_neg (not_or.mpr ⟨scaled, suited⟩)]

end Settled

/-! The sizes of a call -/

def targetRect (dst : RgaInfo) (src1 : Option RgaInfo) : RgaRect :=
  (src1.map RgaInfo.rect).getD dst.rect

def sideScale (src : RgaRect) (width height : Int32) : BlitScale :=
  ⟨scaleRatio src.width width, scaleRatio src.height height⟩

section Sizes

variable {src dst : RgaInfo} {src1 : Option RgaInfo} {plan : BlitPlan}

theorem Planned.target (planned : Planned src dst src1 plan) :
    ((plan.src1.map Channel.rect).getD plan.dst.rect).width = (targetRect dst src1).width ∧
      ((plan.src1.map Channel.rect).getD plan.dst.rect).height = (targetRect dst src1).height := by
  obtain ⟨_, dstRect, src1Rect⟩ := planned.rects_eq
  rw [dstRect, src1Rect]
  cases src1 <;> exact ⟨rfl, rfl⟩

theorem planScale_eq (planned : Planned src dst src1 plan) (rotation : Int32) :
    planScale plan rotation =
      if rotation = halTransformRot90 ∨ rotation = halTransformRot270 then
        sideScale src.rect (targetRect dst src1).height (targetRect dst src1).width
      else sideScale src.rect (targetRect dst src1).width (targetRect dst src1).height := by
  obtain ⟨srcRect, _⟩ := planned.rects_eq
  obtain ⟨width, height⟩ := planned.target
  unfold planScale blitScale sideScale
  dsimp only
  rw [width, height, srcRect]
  rfl

theorem Planned.sides (planned : Planned src dst src1 plan) :
    (0 < src.rect.width.toInt ∧ 0 < src.rect.height.toInt) ∧
      0 < (targetRect dst src1).width.toInt ∧ 0 < (targetRect dst src1).height.toInt := by
  obtain ⟨srcOk, dstOk, src1Ok⟩ := checkBlitRects_ok planned.rects
  obtain ⟨srcRect, dstRect, _⟩ := planned.rects_eq
  rw [srcRect] at srcOk
  rw [dstRect] at dstOk
  have source : 2 ≤ src.rect.width.toInt ∧ 2 ≤ src.rect.height.toInt := by
    have sides := checkRectForRga_sides srcOk
    exact sides
  have target : 2 ≤ (targetRect dst src1).width.toInt ∧ 2 ≤ (targetRect dst src1).height.toInt := by
    cases src1 with
    | none =>
        have sides := checkRectForRga_sides dstOk
        exact sides
    | some info =>
        obtain ⟨third, three, _⟩ := openSrc1_ok planned.src1
        have rect := (planned.src1_rect three).2.1
        have sides := checkRectForRga_sides (src1Ok third three)
        rwa [rect] at sides
  omega

theorem sideScale_fit {rect : RgaRect} {width height : Int32}
    (source : 0 < rect.width.toInt ∧ 0 < rect.height.toInt) (wide : 0 < width.toInt)
    (high : 0 < height.toInt) :
    (sideScale rect width height).fit = sizeFit rect width height := by
  unfold BlitScale.fit sideScale sizeFit
  dsimp only
  rw [compare_scaleRatio source.1 wide, compare_scaleRatio source.2 high]

theorem stretch_eq (scale : BlitScale) : scale.stretch = (scale.fit != ⟨.eq, .eq⟩) := by
  have same : scale.fit = ⟨.eq, .eq⟩ ↔ scale.horiz = 1 ∧ scale.verti = 1 := by
    unfold BlitScale.fit
    rw [Fit.mk.injEq, compare_eq_iff_eq, compare_eq_iff_eq]
  rw [Bool.eq_iff_iff, bne_iff_ne, Ne, same, BlitScale.stretch, Bool.or_eq_true, bne_iff_ne,
    bne_iff_ne, ← not_and_or]

end Sizes

/-- The sides of the target change places for the two plain rotations only. -/
def callFit (src dst : RgaInfo) (src1 : Option RgaInfo) : Fit :=
  let target := targetRect dst src1
  if src.rotation = halTransformRot90 ∨ src.rotation = halTransformRot270 then
    sizeFit src.rect target.height target.width
  else sizeFit src.rect target.width target.height

theorem planScale_fit {src dst : RgaInfo} {src1 : Option RgaInfo} {plan : BlitPlan}
    (planned : Planned src dst src1 plan) :
    (planScale plan src.rotation).fit = callFit src dst src1 := by
  obtain ⟨source, wide, high⟩ := planned.sides
  rw [planScale_eq planned]
  unfold callFit
  split
  · exact sideScale_fit source high wide
  · exact sideScale_fit source wide high

theorem plan_interp (caller : BlitCaller) {src dst : RgaInfo} {src1 : Option RgaInfo}
    {plan : BlitPlan} (planned : caller.plan src dst src1 = .ok plan) :
    plan.interp = caller.fitInterp (requestedInterp src.scaleMode) plan.src.rect.width
      plan.dst.rect.width (callFit src dst src1) := by
  obtain ⟨facts, settled, _⟩ := plan_ok_iff.mp planned
  rw [settle_fit, planScale_fit facts] at settled
  split at settled
  · cases settled
  · exact (Option.some.inj settled).symm

/-! The colour key -/

theorem fitInterp_default_iff {caller : BlitCaller} {requested : RgaInterp}
    {srcWidth dstWidth : Int32} {fit : Fit} :
    caller.fitInterp requested srcWidth dstWidth fit = {} ↔
      requested = {} ∧ fit = ⟨.eq, .eq⟩ := by
  obtain ⟨horiz, verti⟩ := requested
  obtain ⟨across, down⟩ := fit
  unfold BlitCaller.fitInterp
  dsimp only
  rw [RgaInterp.mk.injEq, RgaInterp.mk.injEq, Fit.mk.injEq]
  have first : (if horiz = rgaInterpDefault then
        match across with
        | .gt => rgaInterpAverage
        | .lt => rgaInterpBicubic
        | .eq => rgaInterpDefault
      else horiz) = 0 ↔ horiz = 0 ∧ across = .eq := by
    split
    · rename_i unset
      cases across <;> simp [unset, rgaInterpAverage, rgaInterpBicubic, rgaInterpDefault]
    · rename_i set
      exact iff_of_false set (fun zero => set zero.1)
  have second : (if verti = rgaInterpDefault then
        match down with
        | .gt => rgaInterpAverage
        | .lt => if caller.lineTooWide srcWidth dstWidth ⟨across, down⟩ then rgaInterpLinear
            else rgaInterpBicubic
        | .eq => rgaInterpDefault
      else verti) = 0 ↔ verti = 0 ∧ down = .eq := by
    split
    · rename_i unset
      cases down
      · dsimp only
        split <;> simp [unset, rgaInterpLinear, rgaInterpBicubic]
      · simp [unset, rgaInterpDefault]
      · simp [unset, rgaInterpAverage]
    · rename_i set
      exact iff_of_false set (fun zero => set zero.1)
  rw [first, second]
  tauto

theorem scaleMode_zero_iff {interp : RgaInterp} (low : interp.horiz < 16)
    (high : interp.verti < 16) {req : RgaReq} (same : req.interp = interp) :
    req.scaleMode = 0 ↔ interp = {} := by
  obtain ⟨horiz, verti⟩ := interp
  have left : horiz.toNat < 16 := UInt8.lt_iff_toNat_lt.mp low
  have right : verti.toNat < 16 := UInt8.lt_iff_toNat_lt.mp high
  have lower : (horiz &&& (0xf : UInt8)).toNat = horiz.toNat := by
    rw [UInt8.toNat_and]
    exact (Nat.and_two_pow_sub_one_eq_mod _ 4).trans (Nat.mod_eq_of_lt left)
  have upper : (verti <<< (4 : UInt8)).toNat = verti.toNat * 16 := by
    rw [UInt8.toNat_shiftLeft]
    have shifted : verti.toNat <<< ((4 : UInt8).toNat % 8) = verti.toNat * 16 :=
      Nat.shiftLeft_eq _ _
    rw [shifted]
    omega
  unfold RgaReq.scaleMode
  rw [same, RgaInterp.mk.injEq]
  simp only [← UInt8.toNat_inj, UInt8.toNat_or, lower, upper, Nat.or_eq_zero_iff,
    UInt8.toNat_zero, Nat.mul_eq_zero]
  simp

theorem requestedInterp_bounds (scaleMode : Int32) :
    (requestedInterp scaleMode).horiz < 16 ∧ (requestedInterp scaleMode).verti < 16 := by
  have bound (value : Int32) : toU8 (value &&& (0xf : Int32)) < 16 := by
    unfold toU8
    rw [UInt8.lt_iff_toNat_lt, UInt32.toNat_toUInt8, Int32.toUInt32_and, UInt32.toNat_and]
    have small := Nat.and_le_right (n := value.toUInt32.toNat) (m := (0xf : Int32).toUInt32.toNat)
    have fifteen : (0xf : Int32).toUInt32.toNat = 15 := by decide
    have sixteen : (16 : UInt8).toNat = 16 := by decide
    omega
  exact ⟨bound _, bound _⟩
theorem fitInterp_bounds {caller : BlitCaller} {requested : RgaInterp}
    {srcWidth dstWidth : Int32} {fit : Fit}
    (narrow : requested.horiz < 16 ∧ requested.verti < 16) :
    (caller.fitInterp requested srcWidth dstWidth fit).horiz < 16 ∧
      (caller.fitInterp requested srcWidth dstWidth fit).verti < 16 := by
  unfold BlitCaller.fitInterp
  constructor
  · dsimp only
    split
    · cases fit.horiz <;> decide
    · exact narrow.1
  · dsimp only
    split
    · cases fit.verti
      · dsimp only
        split <;> decide
      · exact (by decide : rgaInterpDefault < 16)
      · exact (by decide : rgaInterpAverage < 16)
    · exact narrow.2

theorem keyTransMode_ne_zero {src : RgaInfo} (keyed : src.colorkeyEn = 1) :
    keyTransMode src ≠ 0 ↔ src.colorkeyMode = 0 ∨ src.colorkeyMode = 1 := by
  unfold keyTransMode
  rw [if_pos keyed]
  split
  · simp [*]
  · split
    · simp [*]
    · simp [*]

/--
`NormalRgaSetBitbltMode` drops the interpolation of a keyed request, but the builder
sets the key after that call: only a blit that would not interpolate anyway has none.
-/
theorem colorKey_not_interpolated_iff {session : RgaSession} {src dst : RgaInfo}
    {src1 : Option RgaInfo} {req : RgaReq}
    (built : generateBlitReq session src dst src1 = .ok req) (keyed : src.colorkeyEn = 1) :
    req.srcTransMode ≠ 0 ∧ req.scaleMode = 0 ↔
      (src.colorkeyMode = 0 ∨ src.colorkeyMode = 1) ∧
        requestedInterp src.scaleMode = {} ∧ callFit src dst src1 = ⟨.eq, .eq⟩ := by
  obtain ⟨plan, planned, registers⟩ := generateBlitReq_registers built
  have source : plan.src.info = src := (openChannel_ok (planBlit_planned planned).src).1
  have key : req.srcTransMode = keyTransMode src := by
    rw [← source]
    exact congrArg Registers.srcTransMode registers
  have interp : req.interp = plan.interp := congrArg Registers.interp registers
  have chosen := plan_interp (.im2d session) planned
  have narrow : plan.interp.horiz < 16 ∧ plan.interp.verti < 16 := by
    rw [chosen]
    exact fitInterp_bounds (requestedInterp_bounds src.scaleMode)
  rw [key, keyTransMode_ne_zero keyed, scaleMode_zero_iff narrow.1 narrow.2 interp, chosen,
    fitInterp_default_iff]

def squareInfo (handle side : Int32) : RgaInfo :=
  { handle := handle, rect := { width := side, height := side, wstride := side, hstride := side } }

def keyedInfo : RgaInfo :=
  { squareInfo 1 64 with colorkeyEn := 1 }

theorem colorKey_not_interpolated_copy :
    ∃ req, generateBlitReq rga2ProSession keyedInfo (squareInfo 2 64) none = .ok req ∧
      req.srcTransMode ≠ 0 ∧ req.scaleMode = 0 := by
  obtain ⟨req, built, _⟩ := Result.exists_ok_of_any
    (generateBlitReq rga2ProSession keyedInfo (squareInfo 2 64) none) (fun _ => true)
    (by decide +kernel)
  exact ⟨req, built,
    (colorKey_not_interpolated_iff built rfl).mpr ⟨.inl rfl, by decide, by decide +kernel⟩⟩

theorem colorKey_interpolated_enlarged :
    ∃ req, generateBlitReq rga2ProSession keyedInfo (squareInfo 2 128) none = .ok req ∧
      keyedInfo.colorkeyEn = 1 ∧ ¬(req.srcTransMode ≠ 0 ∧ req.scaleMode = 0) := by
  obtain ⟨req, built, scaled⟩ := Result.exists_ok_of_any
    (generateBlitReq rga2ProSession keyedInfo (squareInfo 2 128) none)
    (fun req => req.scaleMode == 0x22) (by decide +kernel)
  refine ⟨req, built, rfl, fun ⟨_, unscaled⟩ => ?_⟩
  rw [beq_iff_eq, unscaled] at scaled
  exact absurd scaled (by decide)

end LibRga
