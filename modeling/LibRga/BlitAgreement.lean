import LibRga.ColourWords
import LibRga.Gauss
import LibRga.LegacyOpen
import LibRga.Payload

/-!
`generate_blit_req` against `RgaBlit` on the multi-core driver.

The two differ in the scale limits, in the third plane of a handle, in the
colour-space selector, in the Gaussian block and in how they tell the driver
generation. None of this shows in a request that both accept, when there are no
handles, no colour-space mode and no Gaussian block.
-/

namespace LibRga

section Context

variable {block ctx : ContextBlock} {opening : SessionReply}

theorem normalRgaOpen_version (opened : block.normalRgaOpen opening = some ctx)
    (multi : ctx.driver = .multiRga) :
    ctx.mVersion = Float32.round (Float32.double (32 / 10)) := by
  unfold ContextBlock.normalRgaOpen at opened
  by_cases failed : opening.fd < 0
  · rw [if_pos failed] at opened
    cases opened
  · rw [if_neg failed] at opened
    cases version : opening.driverVersion with
    | some driverVersion =>
        rw [version] at opened
        obtain ⟨versions, _, rfl⟩ := Option.map_eq_some_iff.mp opened
        unfold ContextBlock.rgaSetDriverFeature
        split <;> rfl
    | none =>
        rw [version] at opened
        obtain ⟨text, _, rfl⟩ := Option.map_eq_some_iff.mp opened
        unfold ContextBlock.rgaSetDriverFeature at multi
        split at multi <;> cases multi

theorem rgaBlitAddressMode_multi (opened : block.normalRgaOpen opening = some ctx)
    (multi : ctx.driver = .multiRga) : rgaBlitAddressMode ctx.rgaContext = .words := by
  have version : ctx.rgaContext.mVersion = Float32.round (Float32.double (32 / 10)) :=
    normalRgaOpen_version opened multi
  have recent : ¬Float32.round (Float32.double (32 / 10)) ≤ Float32.round (1003 / 1000) := by
    decide +kernel
  have newer : ¬Float32.round (Float32.double (32 / 10)) < Float32.round (16 / 10) := by
    decide +kernel
  rw [rgaBlitAddressMode, version, if_neg recent, if_neg newer]

end Context

section Plans

variable {session : RgaSession} {ctx : RgaContext} {src dst : RgaInfo} {src1 : Option RgaInfo}
  {plan other : BlitPlan}

open Result in
/-- The limits decide whether there is a plan, and only that of the bicubic line what it is. -/
theorem plans_agree (limit : session.hardwareInfo.scaleVerBicubicLimit = 1996)
    (planned : planBlit session src dst src1 = .ok plan)
    (legacy : planRgaBlit ctx src dst src1 = .ok other) : plan = other := by
  have line : session.hardwareInfo.scaleVerBicubicLimit.toInt32 = 1996 := by
    rw [limit]
    rfl
  simp only [planBlit, bind_eq_ok, ite_error_eq_ok, line] at planned
  simp only [planRgaBlit, bind_eq_ok, ite_error_eq_ok] at legacy
  obtain ⟨flag, flagged, first, opened, third, taken, second, destined, _, _, _, _, _, result⟩ :=
    planned
  obtain ⟨flag', flagged', first', opened', third', taken', second', destined', _, _, _, _,
    result'⟩ := legacy
  cases flagged.symm.trans flagged'
  cases opened.symm.trans opened'
  cases taken.symm.trans taken'
  cases destined.symm.trans destined'
  cases result
  cases result'
  rfl

theorem handleFlag_none (planned : Planned src dst src1 plan) (absent : src.handle ≤ 0) :
    plan.handleFlag = false := by
  by_contra set
  have positive := (handleMode_positive planned.handles).mp (Bool.not_eq_false _ ▸ set)
  exact Int32.not_lt.mpr absent (positive src.handle List.mem_cons_self)

theorem bases_agree (multi : session.driverType = .multiRga)
    (words : rgaBlitAddressMode ctx = .words)
    (features : ctx.driverFeature = session.driverFeature) (absent : plan.handleFlag = false) :
    rgaBlitReqBase ctx plan = blitReqBase session plan := by
  have mode : addressMode session = .words := by
    unfold addressMode
    rw [multi]
  unfold rgaBlitReqBase blitReqBase
  rw [words, mode, features, absent]

end Plans

section Request

theorem setBlend_gauss (req : RgaReq) (blend : UInt32) :
    (setBlend req blend).gaussConfig = req.gaussConfig := by
  unfold setBlend
  split
  · dsimp only
    split <;> rfl
  · rfl

theorem setBlitChannels_gauss (req : RgaReq) (plan : BlitPlan) (mode : AddressMode)
    (single : Bool) : (setBlitChannels req plan mode single).gaussConfig = req.gaussConfig := by
  unfold setBlitChannels
  dsimp only
  rw [Channel.setDst_gauss]
  cases plan.src1 with
  | none => exact plan.src.setSrc_gauss req mode single
  | some channel =>
      dsimp only
      rw [Channel.setPat_gauss, Channel.setSrc_gauss]

theorem setBlitActive_gauss (req : RgaReq) (plan : BlitPlan) (turn : Turn) :
    (setBlitActive req plan turn).gaussConfig = req.gaussConfig := by
  unfold setBlitActive
  dsimp only
  split <;> split <;> rfl

theorem blitReqBase_gauss (session : RgaSession) (plan : BlitPlan) :
    (blitReqBase session plan).gaussConfig = {} := by
  unfold blitReqBase
  dsimp only
  rw [setBlitActive_gauss, setBlitChannels_gauss, setBlend_gauss]

theorem normalRgaDitherMode_gauss (req : RgaReq) (dither : RgaDither) (format : Int32) :
    (normalRgaDitherMode req dither format).gaussConfig = req.gaussConfig := by
  unfold normalRgaDitherMode
  dsimp only
  split <;> split <;> rfl

theorem normalRgaNNQuantizeMode_gauss (req : RgaReq) (nn : RgaNn) :
    (normalRgaNNQuantizeMode req nn).gaussConfig = req.gaussConfig := by
  unfold normalRgaNNQuantizeMode
  split <;> rfl

theorem setBlitMmu_gauss (req : RgaReq) (plan : BlitPlan) (mode : AddressMode) :
    (setBlitMmu req plan mode).gaussConfig = req.gaussConfig := by
  unfold setBlitMmu
  dsimp only
  split <;> split <;> rfl

theorem setRop_gauss (req : RgaReq) (ropCode : Int32) :
    (setRop req ropCode).gaussConfig = req.gaussConfig := by
  unfold setRop
  split <;> rfl

theorem setColorKey_gauss (req : RgaReq) (src : RgaInfo) :
    (setColorKey req src).gaussConfig = req.gaussConfig := by
  unfold setColorKey
  split
  · dsimp only
    split
    · rfl
    · split <;> rfl
  · rfl

theorem blitReqRest_gauss (req : RgaReq) (plan : BlitPlan) (mode : AddressMode) (word : Int32) :
    (blitReqRest req plan mode word).gaussConfig = req.gaussConfig := by
  unfold blitReqRest
  dsimp only
  rw [setColorKey_gauss, setRop_gauss, setBlitMmu_gauss, normalRgaDitherMode_gauss,
    normalRgaNNQuantizeMode_gauss]
  rfl

theorem setGauss_empty {req : RgaReq} (empty : req.gaussConfig = {}) (blend : UInt32) :
    setGauss req {} blend = req := by
  have zero : ¬0 < (RgaGaussConfig.size {}) := by decide
  unfold setGauss
  dsimp only
  rw [if_neg zero, ← empty]

theorem setFullCsc_default (req : RgaReq) : setFullCsc req 0 = .ok req := by
  have plain : ¬has 0 fullCscMask = true := by decide
  rw [setFullCsc, if_neg plain]

/-- The selector as `RgaBlit` builds it up: every condition is looked at, and each adds its bits. -/
def yuvToRgbBits (srcFormat dstFormat : Int32) (src1Format : Option Int32) : Int32 :=
  let src := rkRgaGetRgaFormat srcFormat
  let dst := rkRgaGetRgaFormat dstFormat
  let add (condition : Bool) (bits mode : Int32) : Int32 :=
    if condition then mode ||| bits else mode
  match src1Format.map rkRgaGetRgaFormat with
  | some src1 =>
      add (isRgbFormat src && isRgbFormat src1 && isYuvFormat dst) 0x8
        (add (isYuvFormat src && isRgbFormat src1 && isYuvFormat dst) 0x8
          (add (isYuvFormat src && isRgbFormat src1 && isYuvFormat dst) 0x1
            (add (isYuvFormat src && isRgbFormat src1 && isRgbFormat dst) 0x1 0)))
  | none =>
      add (isRgbFormat src && isYuvFormat dst) 0x8
        (add (isYuvFormat src && isRgbFormat dst) 0x1 0)

theorem yuvToRgbBits_eq (srcFormat dstFormat : Int32) (src1Format : Option Int32) :
    yuvToRgbBits srcFormat dstFormat src1Format =
      rgaBlitYuvToRgbMode (defaultCsc srcFormat dstFormat src1Format) 0 := by
  have src := rgbFormat_not_yuv (rkRgaGetRgaFormat srcFormat)
  have dst := rgbFormat_not_yuv (rkRgaGetRgaFormat dstFormat)
  unfold yuvToRgbBits defaultCsc
  cases src1Format with
  | none =>
      simp only [Option.map_none]
      generalize isRgbFormat (rkRgaGetRgaFormat srcFormat) = srcRgb at src ⊢
      generalize isYuvFormat (rkRgaGetRgaFormat srcFormat) = srcYuv at src ⊢
      generalize isRgbFormat (rkRgaGetRgaFormat dstFormat) = dstRgb at dst ⊢
      generalize isYuvFormat (rkRgaGetRgaFormat dstFormat) = dstYuv at dst ⊢
      decide +revert
  | some format =>
      simp only [Option.map_some]
      generalize isRgbFormat (rkRgaGetRgaFormat srcFormat) = srcRgb at src ⊢
      generalize isYuvFormat (rkRgaGetRgaFormat srcFormat) = srcYuv at src ⊢
      generalize isRgbFormat (rkRgaGetRgaFormat format) = rgb
      generalize isRgbFormat (rkRgaGetRgaFormat dstFormat) = dstRgb at dst ⊢
      generalize isYuvFormat (rkRgaGetRgaFormat dstFormat) = dstYuv at dst ⊢
      decide +revert

theorem csc_default (csc : CscWords) :
    (blitCscWords csc 0).r2y ||| (blitCscWords csc 0).y2r = rgaBlitYuvToRgbMode csc 0 := by
  have words : blitCscWords csc 0 = csc := by
    have y2r : ¬has 0 imYuvToRgbMask = true := by decide
    have r2y : ¬has 0 imRgbToYuvMask = true := by decide
    have limit : ¬(0 : Int32) &&& fullCscMask = rgb2yuv709Limit := by decide
    have full : ¬(0 : Int32) &&& fullCscMask = rgb2yuv709Full := by decide
    simp only [blitCscWords, if_neg y2r, if_neg r2y, if_neg limit, if_neg full]
  have unset : ¬(0 : Int32) < 0 := by decide
  have plain : ¬(has 0 fullCscMask = true ∧ (0 : Int32) = rgb2yuv709Limit) := by decide
  rw [words, rgaBlitYuvToRgbMode, if_neg plain, if_neg unset]
  exact Int32.or_comm _ _

end Request

structure Comparable (session : RgaSession) (ctx : ContextBlock) (src dst : RgaInfo)
    (src1 : Option RgaInfo) : Prop where
  driver : session.driverType = .multiRga
  legacyDriver : ctx.driver = .multiRga
  features : ctx.driverFeature = session.driverFeature
  limit : session.hardwareInfo.scaleVerBicubicLimit = 1996
  handles : src.handle = 0 ∧ dst.handle = 0 ∧ ∀ info ∈ src1, info.handle = 0
  colorSpaceMode : dst.colorSpaceMode = 0
  gauss : src.gaussConfig = {}

section Agreement

variable {session : RgaSession} {block ctx : ContextBlock} {opening : SessionReply}
  {src dst : RgaInfo} {src1 : Option RgaInfo} {req passed : RgaReq}

open Result in
theorem requests_agree (opened : block.normalRgaOpen opening = some ctx)
    (comparable : Comparable session ctx src dst src1)
    (built : generateBlitReq session src dst src1 = .ok req)
    (legacy : rgaBlitReq ctx.rgaContext src dst src1 = .ok passed) : passed = req := by
  have words := rgaBlitAddressMode_multi opened comparable.legacyDriver
  have mode : addressMode session = .words := by
    unfold addressMode
    rw [comparable.driver]
  simp only [generateBlitReq, bind_eq_ok] at built
  simp only [rgaBlitReq, bind_eq_ok] at legacy
  obtain ⟨plan, planned, built⟩ := built
  obtain ⟨other, replanned, legacy⟩ := legacy
  cases plans_agree comparable.limit planned replanned
  have facts := planBlit_planned planned
  have srcInfo := (openChannel_ok facts.src).1
  have dstInfo := (openChannel_ok facts.dst).1
  have absent := handleFlag_none facts (Int32.le_of_eq comparable.handles.1)
  have features : ctx.rgaContext.driverFeature = session.driverFeature := comparable.features
  have bases := bases_agree comparable.driver words features absent
  simp only [dstInfo, comparable.colorSpaceMode, setFullCsc_default, Except.ok.injEq,
    exists_eq_left', bases, words] at legacy
  simp only [blitReq, bind_eq_ok, dstInfo, comparable.colorSpaceMode, setFullCsc_default,
    Except.ok.injEq, exists_eq_left', srcInfo, comparable.gauss, csc_default, mode] at built
  have empty (word : Int32) := (blitReqRest_gauss (blitReqBase session plan) plan .words word).trans
    (blitReqBase_gauss session plan)
  rw [← legacy, ← built, setGauss_empty (empty _)]

/-- The request that is passed to the driver is the one that `generate_blit_req` fills. -/
theorem rgaBlit_agrees {reply : IoctlReply} {syncMode : Int32} {recorded : RgaReq}
    {arg : BlitArg} (opened : block.normalRgaOpen opening = some ctx)
    (comparable : Comparable session ctx src dst src1)
    (built : generateBlitReq session src dst src1 = .ok req)
    (passed : .blit syncMode recorded arg ∈ (rgaBlit ctx.rgaContext src dst src1 reply).events) :
    arg = .rgaReq req := by
  unfold rgaBlit at passed
  cases legacy : rgaBlitReq ctx.rgaContext src dst src1 with
  | error exit => simp [legacy] at passed
  | ok filled =>
      rw [legacy] at passed
      obtain ⟨rfl, layout⟩ := legacyIoctl_blit passed
      have multi : ctx.rgaContext.driver = .multiRga := comparable.legacyDriver
      rw [multi] at layout
      cases layout
      rw [requests_agree opened comparable built legacy]

end Agreement

def multiReply : SessionReply :=
  { fd := 3, driverVersion := some ⟨1, 3, 0⟩, hwVersions := some {} }

def multiContext : ContextBlock :=
  { mVersion := Float32.round (Float32.double (32 / 10))
    mDriverVersion := ⟨1, 3, 0⟩
    driver := .multiRga
    driverFeature := rgaDriverFeatureUserCloseFence }

def multiSession : RgaSession :=
  { driverFeature := rgaDriverFeatureUserCloseFence
    hardwareInfo := { scaleVerBicubicLimit := 1996 } }

def turnedInfo : RgaInfo :=
  { virAddr := 0x10000, rotation := halTransformRot90, blend := 0x800105
    rect := { width := 16, height := 16, wstride := 16, hstride := 16 } }

def enlargedInfo : RgaInfo :=
  { fd := 7, rect := { width := 40, height := 32, wstride := 40, hstride := 32
                       format := rkFormatYCbCr420Sp } }

theorem rgaBlit_agrees_turned :
    ∃ req recorded, generateBlitReq multiSession turnedInfo enlargedInfo none = .ok req ∧
      .blit rgaBlitSync recorded (.rgaReq req) ∈
        (rgaBlit multiContext.rgaContext turnedInfo enlargedInfo none {}).events := by
  have opened : ContextBlock.normalRgaOpen {} multiReply = some multiContext := by decide +kernel
  have comparable : Comparable multiSession multiContext turnedInfo enlargedInfo none :=
    ⟨rfl, rfl, rfl, rfl, ⟨rfl, rfl, fun _ absent => by cases absent⟩, rfl, rfl⟩
  obtain ⟨req, built, _⟩ := Result.exists_ok_of_any
    (generateBlitReq multiSession turnedInfo enlargedInfo none) (fun _ => true) (by decide +kernel)
  obtain ⟨filled, legacy, _⟩ := Result.exists_ok_of_any
    (rgaBlitReq multiContext.rgaContext turnedInfo enlargedInfo none) (fun _ => true)
    (by decide +kernel)
  have passed : .blit rgaBlitSync filled (.rgaReq filled) ∈
      (rgaBlit multiContext.rgaContext turnedInfo enlargedInfo none {}).events := by
    have sync : ¬(turnedInfo.syncMode = rgaBlitAsync ∨ enlargedInfo.syncMode = rgaBlitAsync) := by
      decide
    have unfenced : ¬(0 : Int32) < enlargedInfo.inFenceFd := by decide
    rw [rgaBlit, legacy]
    simp only [if_neg sync, legacyIoctl, legacyArg, multiContext, ContextBlock.rgaContext, ne_eq,
      not_true_eq_false, if_false, unfenced, false_and, and_false]
    exact List.mem_singleton_self _
  have same := rgaBlit_agrees opened comparable built passed
  exact ⟨req, filled, built, same ▸ passed⟩

end LibRga
