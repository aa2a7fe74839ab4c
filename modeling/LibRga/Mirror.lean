import LibRga.Interpolation

/-!
A rotation by 90 or 270 degrees with and without a flip.

The scale decisions swap the sides of the target for the bare rotation words only,
so a mirrored blit is judged by the sizes of the picture before it is turned.
-/

namespace LibRga

/-- The full conversion that the destination asks for is in the table. -/
def cscKnown (dst : RgaInfo) : Bool :=
  !has dst.colorSpaceMode fullCscMask ||
    (fullCscTable (dst.colorSpaceMode &&& fullCscMask)).isSome

theorem setFullCsc_isOk (req : RgaReq) (dst : RgaInfo) :
    (∃ after, setFullCsc req dst.colorSpaceMode = .ok after) ↔ cscKnown dst = true := by
  unfold setFullCsc normalRgaFullColorSpaceConvert cscKnown
  by_cases full : has dst.colorSpaceMode fullCscMask = true
  · rw [if_pos full, full]
    cases fullCscTable (dst.colorSpaceMode &&& fullCscMask) with
    | none => simp
    | some row => simp
  · rw [if_neg full]
    simp [full]

/-! What the caller of a builder sees of its decisions -/

namespace BlitCaller

def decision (caller : BlitCaller) (src dst : RgaInfo) (src1 : Option RgaInfo) :
    Option (RgaInterp × Bool) :=
  match caller.plan src dst src1, caller.build src dst src1 with
  | .ok plan, .ok _ => some (plan.interp, plan.stretch)
  | _, _ => none

end BlitCaller

section Decision

variable {caller : BlitCaller} {src dst : RgaInfo} {src1 : Option RgaInfo} {plan : BlitPlan}

open Result in
theorem build_isOk (planned : caller.plan src dst src1 = .ok plan) :
    (∃ req, caller.build src dst src1 = .ok req) ↔ cscKnown dst = true := by
  have opened := (openChannel_ok (plan_ok_iff.mp planned).1.dst).1
  cases caller with
  | im2d session =>
      have converted := setFullCsc_isOk (blitReqBase session plan) dst
      change planBlit session src dst src1 = .ok plan at planned
      rw [← converted]
      simp only [BlitCaller.build, generateBlitReq, blitReq, planned, bind_eq_ok,
        Except.ok.injEq, exists_eq_left', opened]
      constructor
      · rintro ⟨_, after, ok, _⟩
        exact ⟨after, ok⟩
      · rintro ⟨after, ok⟩
        exact ⟨_, after, ok, rfl⟩
  | legacy ctx =>
      have converted := setFullCsc_isOk (rgaBlitReqBase ctx plan) dst
      change planRgaBlit ctx src dst src1 = .ok plan at planned
      rw [← converted]
      simp only [BlitCaller.build, rgaBlitReq, planned, bind_eq_ok, Except.ok.injEq,
        exists_eq_left', opened]
      constructor
      · rintro ⟨_, after, ok, _⟩
        exact ⟨after, ok⟩
      · rintro ⟨after, ok⟩
        exact ⟨_, after, ok, rfl⟩

theorem decision_planned (planned : caller.plan src dst src1 = .ok plan) :
    caller.decision src dst src1 =
      if cscKnown dst then some (plan.interp, plan.stretch) else none := by
  have built := build_isOk planned
  unfold BlitCaller.decision
  rw [planned]
  cases result : caller.build src dst src1 with
  | ok req =>
      rw [if_pos (built.mp ⟨req, result⟩)]
  | error exit =>
      have unknown : ¬ cscKnown dst = true := by
        intro known
        obtain ⟨req, ok⟩ := built.mpr known
        rw [result] at ok
        cases ok
      rw [if_neg unknown]

theorem decision_unplanned {exit : BuildExit} (planned : caller.plan src dst src1 = .error exit) :
    caller.decision src dst src1 = none := by
  unfold BlitCaller.decision
  rw [planned]

/-- The buffers and rectangles pass; the rotation has no part in it. -/
def Opens (src dst : RgaInfo) (src1 : Option RgaInfo) : Prop :=
  ∃ plan, Planned src dst src1 plan

def callScale (src dst : RgaInfo) (src1 : Option RgaInfo) : BlitScale :=
  let target := targetRect dst src1
  if src.rotation = halTransformRot90 ∨ src.rotation = halTransformRot270 then
    sideScale src.rect target.height target.width
  else sideScale src.rect target.width target.height

theorem Planned.isSome (planned : Planned src dst src1 plan) : plan.src1.isSome = src1.isSome := by
  have third := planned.rects_eq.2.2
  have same := congrArg Option.isSome third
  simpa using same

theorem Planned.settle (planned : Planned src dst src1 plan) :
    caller.settle (requestedInterp src.scaleMode) plan.src1.isSome (planScale plan src.rotation)
        plan.src.rect.width plan.dst.rect.width =
      caller.settle (requestedInterp src.scaleMode) src1.isSome (callScale src dst src1)
        src.rect.width dst.rect.width := by
  obtain ⟨srcRect, dstRect, _⟩ := planned.rects_eq
  rw [planned.isSome, planScale_eq planned, srcRect, dstRect]
  rfl

theorem decision_eq (caller : BlitCaller) (opens : Opens src dst src1) :
    caller.decision src dst src1 =
      if cscKnown dst then
        (caller.settle (requestedInterp src.scaleMode) src1.isSome (callScale src dst src1)
          src.rect.width dst.rect.width).map fun interp =>
            (interp, (callScale src dst src1).stretch)
      else none := by
  obtain ⟨opened, facts⟩ := opens
  cases settled : caller.settle (requestedInterp src.scaleMode) src1.isSome
      (callScale src dst src1) src.rect.width dst.rect.width with
  | none =>
      have refused : ∀ plan, caller.plan src dst src1 ≠ .ok plan := by
        intro plan planned
        obtain ⟨same, chosen, _⟩ := plan_ok_iff.mp planned
        rw [same.settle, settled] at chosen
        cases chosen
      cases result : caller.plan src dst src1 with
      | ok plan => exact absurd result (refused plan)
      | error exit =>
          rw [decision_unplanned result, Option.map_none, ite_self]
  | some interp =>
      let plan : BlitPlan :=
        { opened with interp := interp, stretch := (callScale src dst src1).stretch }
      have same : Planned src dst src1 plan :=
        ⟨facts.handles, facts.src, facts.src1, facts.dst, facts.rects⟩
      have planned : caller.plan src dst src1 = .ok plan := by
        refine plan_ok_iff.mpr ⟨same, by rw [same.settle, settled], ?_⟩
        rw [planScale_eq same]
        rfl
      rw [decision_planned planned]
      rfl

theorem decision_closed (closed : ¬ Opens src dst src1) : caller.decision src dst src1 = none := by
  cases result : caller.plan src dst src1 with
  | ok plan => exact absurd ⟨plan, (plan_ok_iff.mp result).1⟩ closed
  | error exit => exact decision_unplanned result

end Decision

/-! Turning a source keeps all that the checks of its buffer read -/

def turned (src : RgaInfo) (rotation : Int32) : RgaInfo :=
  { src with rotation := rotation }

open Result in
theorem Opens.turned {src dst : RgaInfo} {src1 : Option RgaInfo} (rotation : Int32)
    (opens : Opens src dst src1) : Opens (turned src rotation) dst src1 := by
  obtain ⟨plan, planned⟩ := opens
  obtain ⟨_, srcRect, resolved⟩ := openChannel_ok planned.src
  have opened : openChannel (LibRga.turned src rotation) =
      .ok { plan.src with info := LibRga.turned src rotation } := by
    simp only [openChannel, bind_eq_ok]
    refine ⟨plan.src.addr, resolved, ?_⟩
    rw [srcRect]
    rfl
  exact ⟨{ plan with src := { plan.src with info := LibRga.turned src rotation } },
    planned.handles, opened, planned.src1, planned.dst, planned.rects⟩

theorem opens_turned {src dst : RgaInfo} {src1 : Option RgaInfo} (rotation : Int32) :
    Opens (turned src rotation) dst src1 ↔ Opens src dst src1 :=
  ⟨fun opens => opens.turned src.rotation, fun opens => opens.turned rotation⟩

/-! Agreement of two fits -/

namespace BlitCaller

variable (caller : BlitCaller) (src dst : RgaInfo) (src1 : Option RgaInfo)

/-- The limits refuse a blit from `src` to a picture of the given sides. -/
def refuses (width height : Int32) : Bool :=
  !caller.scaleOk src1.isSome (sideScale src.rect width height) ||
    caller.unsuited (requestedInterp src.scaleMode) src.rect.width dst.rect.width
      (sizeFit src.rect width height)

/-- Two fits lead to the same filters and to the same stretching. -/
structure SameFilters (first second : Fit) : Prop where
  horiz : (requestedInterp src.scaleMode).horiz = rgaInterpDefault → first.horiz = second.horiz
  verti : (requestedInterp src.scaleMode).verti = rgaInterpDefault →
    first.verti = second.verti ∧
      (first.verti = .lt → caller.lineTooWide src.rect.width dst.rect.width first =
        caller.lineTooWide src.rect.width dst.rect.width second)
  stretch : first = ⟨.eq, .eq⟩ ↔ second = ⟨.eq, .eq⟩

/-- The target is judged alike with its sides exchanged and as it stands. -/
def SameScaling : Prop :=
  let target := targetRect dst src1
  caller.refuses src dst src1 target.height target.width =
      caller.refuses src dst src1 target.width target.height ∧
    (caller.refuses src dst src1 target.width target.height = false →
      caller.SameFilters src dst (sizeFit src.rect target.height target.width)
        (sizeFit src.rect target.width target.height))

end BlitCaller

theorem fitInterp_eq_iff {caller : BlitCaller} {requested : RgaInterp} {srcWidth dstWidth : Int32}
    {first second : Fit} :
    caller.fitInterp requested srcWidth dstWidth first =
        caller.fitInterp requested srcWidth dstWidth second ↔
      (requested.horiz = rgaInterpDefault → first.horiz = second.horiz) ∧
        (requested.verti = rgaInterpDefault → first.verti = second.verti ∧
          (first.verti = .lt → caller.lineTooWide srcWidth dstWidth first =
            caller.lineTooWide srcWidth dstWidth second)) := by
  unfold BlitCaller.fitInterp
  rw [RgaInterp.mk.injEq]
  refine and_congr ?_ ?_
  · by_cases unset : requested.horiz = rgaInterpDefault
    · rw [if_pos unset, if_pos unset, imp_iff_right unset]
      cases first.horiz <;> cases second.horiz <;> decide
    · rw [if_neg unset, if_neg unset]
      exact iff_of_true rfl fun set => absurd set unset
  · by_cases unset : requested.verti = rgaInterpDefault
    · rw [if_pos unset, if_pos unset, imp_iff_right unset]
      cases first.verti <;> cases second.verti <;>
        cases caller.lineTooWide srcWidth dstWidth first <;>
        cases caller.lineTooWide srcWidth dstWidth second <;> decide
    · rw [if_neg unset, if_neg unset]
      exact iff_of_true rfl fun set => absurd set unset

theorem sameFilters_iff {caller : BlitCaller} {src dst : RgaInfo} {first second : Fit} :
    caller.SameFilters src dst first second ↔
      caller.fitInterp (requestedInterp src.scaleMode) src.rect.width dst.rect.width first =
          caller.fitInterp (requestedInterp src.scaleMode) src.rect.width dst.rect.width second ∧
        (first != ⟨.eq, .eq⟩) = (second != ⟨.eq, .eq⟩) := by
  have stretched : (first != ⟨.eq, .eq⟩) = (second != ⟨.eq, .eq⟩) ↔
      (first = ⟨.eq, .eq⟩ ↔ second = ⟨.eq, .eq⟩) := by
    rw [Bool.eq_iff_iff, bne_iff_ne, bne_iff_ne, not_iff_not]
  rw [fitInterp_eq_iff, stretched]
  exact ⟨fun ⟨horiz, verti, stretch⟩ => ⟨⟨horiz, verti⟩, stretch⟩,
    fun ⟨⟨horiz, verti⟩, stretch⟩ => ⟨horiz, verti, stretch⟩⟩

section Turned

variable {caller : BlitCaller} {src dst : RgaInfo} {src1 : Option RgaInfo}

/-- What a builder decides for a picture of the given sides. -/
def sideDecision (caller : BlitCaller) (src dst : RgaInfo) (src1 : Option RgaInfo)
    (width height : Int32) : Option (RgaInterp × Bool) :=
  if caller.refuses src dst src1 width height then none
  else
    let fit := sizeFit src.rect width height
    some (caller.fitInterp (requestedInterp src.scaleMode) src.rect.width dst.rect.width fit,
      fit != ⟨.eq, .eq⟩)

theorem settle_sides {width height : Int32}
    (source : 0 < src.rect.width.toInt ∧ 0 < src.rect.height.toInt) (wide : 0 < width.toInt)
    (high : 0 < height.toInt) :
    ((caller.settle (requestedInterp src.scaleMode) src1.isSome (sideScale src.rect width height)
        src.rect.width dst.rect.width).map fun interp =>
          (interp, (sideScale src.rect width height).stretch)) =
      sideDecision caller src dst src1 width height := by
  unfold sideDecision BlitCaller.refuses
  rw [settle_fit, stretch_eq, sideScale_fit source wide high]
  simp only [Bool.or_eq_true, Bool.not_eq_true']
  split <;> rfl

theorem sideDecision_eq_iff :
    sideDecision caller src dst src1 (targetRect dst src1).height (targetRect dst src1).width =
        sideDecision caller src dst src1 (targetRect dst src1).width
          (targetRect dst src1).height ↔
      caller.SameScaling src dst src1 := by
  unfold sideDecision BlitCaller.SameScaling
  dsimp only
  rw [sameFilters_iff]
  cases caller.refuses src dst src1 (targetRect dst src1).height (targetRect dst src1).width <;>
    cases caller.refuses src dst src1 (targetRect dst src1).width (targetRect dst src1).height <;>
    simp

theorem decision_sides (opens : Opens src dst src1) (known : cscKnown dst = true)
    (rotation : Int32) :
    caller.decision (turned src rotation) dst src1 =
      let target := targetRect dst src1
      if rotation = halTransformRot90 ∨ rotation = halTransformRot270 then
        sideDecision caller src dst src1 target.height target.width
      else sideDecision caller src dst src1 target.width target.height := by
  obtain ⟨plan, planned⟩ := opens
  obtain ⟨source, wide, high⟩ := planned.sides
  have decided := decision_eq caller ((opens_turned rotation).mpr ⟨plan, planned⟩)
  rw [if_pos known] at decided
  by_cases swapped : rotation = halTransformRot90 ∨ rotation = halTransformRot270
  · rw [decided]
    dsimp only
    rw [if_pos swapped, ← settle_sides source high wide]
    unfold callScale
    dsimp only
    rw [if_pos (show (turned src rotation).rotation = halTransformRot90 ∨
      (turned src rotation).rotation = halTransformRot270 from swapped)]
    rfl
  · rw [decided]
    dsimp only
    rw [if_neg swapped, ← settle_sides source wide high]
    unfold callScale
    dsimp only
    rw [if_neg (show ¬((turned src rotation).rotation = halTransformRot90 ∨
      (turned src rotation).rotation = halTransformRot270) from swapped)]
    rfl

end Turned

/-! Sizes of both kinds -/

def wideInfo : RgaInfo :=
  { handle := 1, rect := { width := 64, height := 32, wstride := 64, hstride := 32 } }

def tallInfo : RgaInfo :=
  { handle := 2, rect := { width := 32, height := 64, wstride := 32, hstride := 64 } }

end LibRga
