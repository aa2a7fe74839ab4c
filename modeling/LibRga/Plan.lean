import LibRga.Frame
import LibRga.Library.Except

/-!
What a plan says about the infos it was made from.
-/

namespace LibRga

structure Planned (src dst : RgaInfo) (src1 : Option RgaInfo) (plan : BlitPlan) : Prop where
  handles : handleMode (src.handle :: dst.handle :: (src1.map RgaInfo.handle).toList) =
    .ok plan.handleFlag
  src : openChannel src = .ok plan.src
  src1 : openSrc1 src1 = .ok plan.src1
  dst : openChannel dst = .ok plan.dst
  rects : checkBlitRects plan.src plan.dst plan.src1 = .ok ()

open Result in
theorem planBlit_planned {session : RgaSession} {src dst : RgaInfo} {src1 : Option RgaInfo}
    {plan : BlitPlan} (planned : planBlit session src dst src1 = .ok plan) :
    Planned src dst src1 plan := by
  simp only [planBlit, bind_eq_ok, ite_error_eq_ok] at planned
  obtain ⟨handles, flagged, srcChannel, srcOpened, src1Channel, src1Opened, dstChannel, dstOpened,
    _, rects, _, _, _, result⟩ := planned
  cases result
  exact ⟨flagged, srcOpened, src1Opened, dstOpened, rects⟩

open Result in
theorem planRgaBlit_planned {ctx : RgaContext} {src dst : RgaInfo} {src1 : Option RgaInfo}
    {plan : BlitPlan} (planned : planRgaBlit ctx src dst src1 = .ok plan) :
    Planned src dst src1 plan := by
  simp only [planRgaBlit, bind_eq_ok, ite_error_eq_ok] at planned
  obtain ⟨handles, flagged, srcChannel, srcOpened, src1Channel, src1Opened, dstChannel, dstOpened,
    _, rects, _, _, result⟩ := planned
  cases result
  exact ⟨flagged, srcOpened, src1Opened, dstOpened, rects⟩

open Result in
theorem openChannel_ok {info : RgaInfo} {channel : Channel}
    (opened : openChannel info = .ok channel) :
    channel.info = info ∧ channel.rect = relRect info.rect ∧
      requireAddr (resolveAddr info) = .ok channel.addr := by
  simp only [openChannel, bind_eq_ok] at opened
  obtain ⟨addr, resolved, result⟩ := opened
  cases result
  exact ⟨rfl, rfl, resolved⟩

theorem handleMode_true {handles : List Int32} (mode : handleMode handles = .ok true) :
    ∀ handle ∈ handles, 0 < handle := by
  unfold handleMode at mode
  split at mode
  · rename_i all
    simpa using all
  · split at mode <;> cases mode

theorem handleMode_positive {handles : List Int32} {flag : Bool}
    (mode : handleMode handles = .ok flag) :
    flag = true ↔ ∀ handle ∈ handles, 0 < handle := by
  refine ⟨fun set => handleMode_true (set ▸ mode), fun all => ?_⟩
  unfold handleMode at mode
  rw [if_pos (by simpa using all)] at mode
  cases mode
  rfl

theorem ne_of_positive {value : Int32} (positive : 0 < value) : value ≠ 0 ∧ value ≠ -1 := by
  constructor
  · rintro rfl
    exact absurd positive (by decide)
  · rintro rfl
    exact absurd positive (by decide)

theorem requireAddr_handle {info : RgaInfo} {addr : BufferAddr} (handle : 0 < info.handle)
    (resolved : requireAddr (resolveAddr info) = .ok addr) :
    addr = { fd := info.handle, buf := 0 } := by
  obtain ⟨nonzero, set⟩ := ne_of_positive handle
  simp [resolveAddr, nonzero, requireAddr, set] at resolved
  exact resolved.symm

open Result in
theorem openSrc1_ok {info : RgaInfo} {channel : Option Channel}
    (opened : openSrc1 (some info) = .ok channel) :
    ∃ third, channel = some third ∧ third.info = info ∧
      third.rect = (if isRectValid info.rect then relRect info.rect else info.rect) ∧
      requireAddr (resolveAddr info) = .ok third.addr := by
  simp only [openSrc1, bind_eq_ok] at opened
  obtain ⟨addr, resolved, result⟩ := opened
  cases result
  exact ⟨_, rfl, rfl, rfl, resolved⟩

theorem openSrc1_none {channel : Option Channel} (opened : openSrc1 none = .ok channel) :
    channel = none := by
  cases opened
  rfl

theorem checkBlitRects_ok {src dst : Channel} {src1 : Option Channel}
    (checked : checkBlitRects src dst src1 = .ok ()) :
    checkRectForRga src.rect = true ∧ checkRectForRga dst.rect = true ∧
      ∀ third, src1 = some third → checkRectForRga third.rect = true := by
  simp only [checkBlitRects, Result.ite_error_eq_ok] at checked
  refine ⟨by simpa using checked.1, by simpa using checked.2.2.1, ?_⟩
  rintro third rfl
  simpa using checked.2.1

theorem checkRectForRga_sides {rect : RgaRect} (passed : checkRectForRga rect = true) :
    2 ≤ rect.width.toInt ∧ 2 ≤ rect.height.toInt := by
  unfold checkRectForRga at passed
  split_ifs at passed with _ sides
  simp only [not_or, Int32.not_lt, Int32.le_iff_toInt_le] at sides
  have two : (2 : Int32).toInt = 2 := by decide
  rwa [two] at sides

theorem Planned.src1_rect {src dst info : RgaInfo} {plan : BlitPlan} {channel : Channel}
    (planned : Planned src dst (some info) plan) (three : plan.src1 = some channel) :
    channel.info = info ∧ channel.rect = relRect info.rect ∧
      requireAddr (resolveAddr info) = .ok channel.addr := by
  obtain ⟨third, opened, same, rect, resolved⟩ := openSrc1_ok planned.src1
  rw [three] at opened
  cases opened
  have checked := (checkBlitRects_ok planned.rects).2.2 channel three
  have filled : isRectValid info.rect = true := by
    have sides : channel.rect.width = info.rect.width ∧
        channel.rect.height = info.rect.height := by
      rw [rect]
      split <;> exact ⟨rfl, rfl⟩
    unfold checkRectForRga at checked
    rw [sides.1, sides.2] at checked
    simp only [isRectValid, Bool.and_eq_true, decide_eq_true_eq]
    grind
  rw [filled] at rect
  exact ⟨same, rect, resolved⟩

theorem Planned.rects_eq {src dst : RgaInfo} {src1 : Option RgaInfo} {plan : BlitPlan}
    (planned : Planned src dst src1 plan) :
    plan.src.rect = relRect src.rect ∧ plan.dst.rect = relRect dst.rect ∧
      plan.src1.map Channel.rect = src1.map fun info => relRect info.rect := by
  refine ⟨(openChannel_ok planned.src).2.1, (openChannel_ok planned.dst).2.1, ?_⟩
  cases src1 with
  | none =>
      rw [openSrc1_none planned.src1]
      rfl
  | some info =>
      obtain ⟨third, three, _⟩ := openSrc1_ok planned.src1
      rw [three, Option.map_some, Option.map_some, (planned.src1_rect three).2.1]

open Result in
theorem planPalette_ok {src dst lut : RgaInfo} {plan : PalettePlan}
    (planned : planPalette src dst lut = .ok plan) :
    (0 < src.handle ∧ 0 < dst.handle ∧ 0 < lut.handle) ∧
      openChannel src = .ok plan.src ∧ openChannel dst = .ok plan.dst ∧
      plan.lut = openLut lut ∧
      checkRectForRga plan.src.rect = true ∧ checkRectForRga plan.dst.rect = true := by
  simp only [planPalette, bind_eq_ok, ite_error_eq_ok, not_or, Int32.not_le] at planned
  obtain ⟨handles, srcChannel, srcOpened, dstChannel, dstOpened, srcRect, dstRect, result⟩ :=
    planned
  cases result
  exact ⟨handles, srcOpened, dstOpened, rfl, by simpa using srcRect, by simpa using dstRect⟩

open Result in
/-- Behind the plan a blit stops only at a full conversion that is not in the table. -/
theorem generateBlitReq_exit_iff {session : RgaSession} {src dst : RgaInfo}
    {src1 : Option RgaInfo} {exit : BuildExit} (other : .fullCsc ≠ exit) :
    generateBlitReq session src dst src1 = .error exit ↔
      planBlit session src dst src1 = .error exit := by
  unfold generateBlitReq
  refine bind_exit_iff fun plan => ?_
  refine Avoids.bind ?_ fun _ => .ok _
  unfold setFullCsc
  refine .ite ?_ (.ok _)
  split
  · exact .error other
  · exact .ok _

end LibRga
