import LibRga.Legacy
import LibRga.Library.Except

/-!
What each step of a builder leaves alone, and the parts of a finished request
that the later results read: the three images, the handle flag, the mode fields
and the colour-space words.
-/

namespace LibRga

/-- The fields that most steps of a builder keep. -/
structure Keeps (before after : RgaReq) : Prop where
  src : after.src = before.src
  dst : after.dst = before.dst
  pat : after.pat = before.pat
  handleFlag : after.handleFlag = before.handleFlag
  renderMode : after.renderMode = before.renderMode
  sina : after.sina = before.sina
  bsfilterFlag : after.bsfilterFlag = before.bsfilterFlag
  yuv2rgbMode : after.yuv2rgbMode = before.yuv2rgbMode
  fullCsc : after.fullCsc = before.fullCsc

theorem Keeps.refl (req : RgaReq) : Keeps req req :=
  ⟨rfl, rfl, rfl, rfl, rfl, rfl, rfl, rfl, rfl⟩

theorem Keeps.trans {first second third : RgaReq} (before : Keeps first second)
    (after : Keeps second third) : Keeps first third :=
  ⟨after.src.trans before.src, after.dst.trans before.dst, after.pat.trans before.pat,
    after.handleFlag.trans before.handleFlag, after.renderMode.trans before.renderMode,
    after.sina.trans before.sina, after.bsfilterFlag.trans before.bsfilterFlag,
    after.yuv2rgbMode.trans before.yuv2rgbMode, after.fullCsc.trans before.fullCsc⟩

theorem setBlend_keeps (req : RgaReq) (blend : UInt32) : Keeps req (setBlend req blend) := by
  unfold setBlend
  split
  · dsimp only
    split <;> exact ⟨rfl, rfl, rfl, rfl, rfl, rfl, rfl, rfl, rfl⟩
  · exact Keeps.refl req

theorem normalRgaNNQuantizeMode_keeps (req : RgaReq) (nn : RgaNn) :
    Keeps req (normalRgaNNQuantizeMode req nn) := by
  unfold normalRgaNNQuantizeMode
  split <;> exact ⟨rfl, rfl, rfl, rfl, rfl, rfl, rfl, rfl, rfl⟩

theorem normalRgaDitherMode_keeps (req : RgaReq) (dither : RgaDither) (format : Int32) :
    Keeps req (normalRgaDitherMode req dither format) := by
  unfold normalRgaDitherMode
  dsimp only
  split <;> split <;> exact ⟨rfl, rfl, rfl, rfl, rfl, rfl, rfl, rfl, rfl⟩

theorem normalRgaMmu_keeps (req : RgaReq) (srcMmu dstMmu : Bool) :
    Keeps req (normalRgaMmuFlag (normalRgaMmuInfo req) srcMmu dstMmu) :=
  ⟨rfl, rfl, rfl, rfl, rfl, rfl, rfl, rfl, rfl⟩

theorem setRop_keeps (req : RgaReq) (ropCode : Int32) : Keeps req (setRop req ropCode) := by
  unfold setRop
  split <;> exact ⟨rfl, rfl, rfl, rfl, rfl, rfl, rfl, rfl, rfl⟩

theorem setColorKey_keeps (req : RgaReq) (src : RgaInfo) : Keeps req (setColorKey req src) := by
  unfold setColorKey
  split
  · dsimp only
    split
    · exact ⟨rfl, rfl, rfl, rfl, rfl, rfl, rfl, rfl, rfl⟩
    · split <;> exact ⟨rfl, rfl, rfl, rfl, rfl, rfl, rfl, rfl, rfl⟩
  · exact Keeps.refl req

theorem setGauss_keeps (req : RgaReq) (config : RgaGaussConfig) (blend : UInt32) :
    Keeps req (setGauss req config blend) := by
  unfold setGauss
  dsimp only
  split <;> exact ⟨rfl, rfl, rfl, rfl, rfl, rfl, rfl, rfl, rfl⟩

theorem setFeatureBlocks_keeps (req : RgaReq) (src : RgaInfo) :
    Keeps req (setFeatureBlocks req src) := by
  unfold setFeatureBlocks
  dsimp only
  split <;> exact ⟨rfl, rfl, rfl, rfl, rfl, rfl, rfl, rfl, rfl⟩

theorem setFillMmu_keeps (req : RgaReq) (mmu : Bool) : Keeps req (setFillMmu req mmu) := by
  unfold setFillMmu
  split
  · exact normalRgaMmu_keeps req mmu mmu
  · exact Keeps.refl req

theorem setPaletteMmu_keeps (req : RgaReq) (plan : PalettePlan) (mode : AddressMode) :
    Keeps req (setPaletteMmu req plan mode) := by
  unfold setPaletteMmu
  dsimp only
  split <;> exact ⟨rfl, rfl, rfl, rfl, rfl, rfl, rfl, rfl, rfl⟩

theorem setBlitMmu_frame (req : RgaReq) (plan : BlitPlan) (mode : AddressMode) :
    Keeps { req with bsfilterFlag := if plan.src1.isSome then 1 else req.bsfilterFlag }
      (setBlitMmu req plan mode) := by
  have mmu : Keeps req (if plan.src.mmu mode || plan.dst.mmu mode then
      normalRgaMmuFlag (normalRgaMmuInfo req) (plan.src.mmu mode) (plan.dst.mmu mode)
    else req) := by
    split
    · exact normalRgaMmu_keeps req _ _
    · exact Keeps.refl req
  unfold setBlitMmu
  dsimp only
  cases plan.src1 with
  | none => exact mmu
  | some channel =>
      exact ⟨mmu.src, mmu.dst, mmu.pat, mmu.handleFlag, mmu.renderMode, mmu.sina, rfl,
        mmu.yuv2rgbMode, mmu.fullCsc⟩

theorem Keeps.filter {before after : RgaReq} (keeps : Keeps before after) (flag : UInt8) :
    Keeps { before with bsfilterFlag := flag } { after with bsfilterFlag := flag } :=
  ⟨keeps.src, keeps.dst, keeps.pat, keeps.handleFlag, keeps.renderMode, keeps.sina, rfl,
    keeps.yuv2rgbMode, keeps.fullCsc⟩

theorem blitReqRest_frame (req : RgaReq) (plan : BlitPlan) (mode : AddressMode) (word : Int32) :
    Keeps
      { req with
        renderMode := bitbltMode
        sina := sinaTable (turnOf plan.src.info.rotation plan.stretch).orientation
        bsfilterFlag := if plan.src1.isSome then 1 else req.bsfilterFlag
        yuv2rgbMode := toU8 word }
      (blitReqRest req plan mode word) := by
  let turn := turnOf plan.src.info.rotation plan.stretch
  let blitted := normalRgaSetBitbltMode req plan.interp turn.rotateMode turn.orientation
    (blitDither plan.src.rect.format plan.dst.rect.format) word
  let dithered := normalRgaDitherMode (normalRgaNNQuantizeMode blitted plan.dst.info.nn)
    plan.dst.info.dither plan.dst.rect.format
  let keyed := setColorKey (setRop (setBlitMmu dithered plan mode) plan.src.info.ropCode)
    plan.src.info
  have parts : blitReqRest req plan mode word =
      { keyed with mosaicInfo := plan.src.info.mosaicInfo } := rfl
  have before : Keeps blitted dithered :=
    (normalRgaNNQuantizeMode_keeps blitted _).trans (normalRgaDitherMode_keeps _ _ _)
  have filter : dithered.bsfilterFlag = req.bsfilterFlag := before.bsfilterFlag
  have mmu := setBlitMmu_frame dithered plan mode
  rw [filter] at mmu
  have after : Keeps (setBlitMmu dithered plan mode) keyed :=
    (setRop_keeps _ plan.src.info.ropCode).trans (setColorKey_keeps _ plan.src.info)
  have rest := (before.filter _).trans (mmu.trans after)
  rw [parts]
  exact ⟨rest.src, rest.dst, rest.pat, rest.handleFlag, rest.renderMode, rest.sina,
    rest.bsfilterFlag, rest.yuv2rgbMode, rest.fullCsc⟩

/-- Only the read modes of the images change after the mosaic block. -/
structure Retagged (before after : RgaReq) : Prop where
  src : ∃ rdMode, after.src = { before.src with rdMode := rdMode }
  dst : ∃ rdMode, after.dst = { before.dst with rdMode := rdMode }
  pat : ∃ rdMode, after.pat = { before.pat with rdMode := rdMode }
  handleFlag : after.handleFlag = before.handleFlag
  renderMode : after.renderMode = before.renderMode
  sina : after.sina = before.sina
  bsfilterFlag : after.bsfilterFlag = before.bsfilterFlag
  yuv2rgbMode : after.yuv2rgbMode = before.yuv2rgbMode
  fullCsc : after.fullCsc = before.fullCsc

theorem setRdModes_retagged (req : RgaReq) (src dst : RgaInfo) (src1 : Option RgaInfo) :
    Retagged req (setRdModes req src dst src1) :=
  ⟨⟨_, rfl⟩, ⟨_, rfl⟩, ⟨_, rfl⟩, rfl, rfl, rfl, rfl, rfl, rfl⟩

theorem Keeps.retagged {first second third : RgaReq} (before : Keeps first second)
    (after : Retagged second third) : Retagged first third := by
  obtain ⟨src, dst, pat, handleFlag, renderMode, sina, bsfilterFlag, yuv2rgbMode, fullCsc⟩ := after
  rw [before.src] at src
  rw [before.dst] at dst
  rw [before.pat] at pat
  exact ⟨src, dst, pat, handleFlag.trans before.handleFlag, renderMode.trans before.renderMode,
    sina.trans before.sina, bsfilterFlag.trans before.bsfilterFlag,
    yuv2rgbMode.trans before.yuv2rgbMode, fullCsc.trans before.fullCsc⟩

theorem blitReqTail_retagged (req : RgaReq) (plan : BlitPlan) :
    Retagged req (blitReqTail req plan) := by
  have tagged := (setFeatureBlocks_keeps req plan.src.info).retagged
    (setRdModes_retagged _ plan.src.info plan.dst.info (plan.src1.map Channel.info))
  exact ⟨tagged.src, tagged.dst, tagged.pat, tagged.handleFlag, tagged.renderMode, tagged.sina,
    tagged.bsfilterFlag, tagged.yuv2rgbMode, tagged.fullCsc⟩

theorem setFullCsc_writes {req after : RgaReq} {mode : Int32}
    (converted : setFullCsc req mode = .ok after) :
    ∃ csc clip feature,
      after = { req with fullCsc := csc, fullCscClip := clip, feature := feature } := by
  unfold setFullCsc normalRgaFullColorSpaceConvert at converted
  split at converted
  · split at converted
    · contradiction
    · rename_i convertedReq table
      cases converted
      split at table
      · contradiction
      · cases table
        exact ⟨_, _, _, rfl⟩
  · cases converted
    exact ⟨_, _, _, rfl⟩

theorem setFullCsc_frame {req after : RgaReq} {mode : Int32}
    (converted : setFullCsc req mode = .ok after) :
    Keeps { req with fullCsc := after.fullCsc } after := by
  obtain ⟨_, _, _, rfl⟩ := setFullCsc_writes converted
  exact ⟨rfl, rfl, rfl, rfl, rfl, rfl, rfl, rfl, rfl⟩

/-! The images a builder starts from -/

def Channel.virtualImage (channel : Channel) (mode : AddressMode) (single : Bool)
    (img : RgaImgInfo) : RgaImgInfo :=
  let words := channel.words mode single
  setVirtualInfo img words.yrgb words.uv words.v channel.rect.wstride channel.rect.hstride
    (rkRgaGetRgaFormat channel.rect.format)

def Channel.image (channel : Channel) (mode : AddressMode) (single swapped : Bool) :
    RgaImgInfo :=
  let rect := channel.rect
  setActiveInfo (channel.virtualImage mode single {})
    (if swapped then rect.height else rect.width) (if swapped then rect.width else rect.height)
    rect.xoffset rect.yoffset

theorem Channel.setSrc_frame (channel : Channel) (req : RgaReq) (mode : AddressMode)
    (single : Bool) :
    Keeps { req with src := channel.virtualImage mode single req.src }
      (channel.setSrc req mode single) := by
  unfold Channel.setSrc
  dsimp only
  split <;> exact ⟨rfl, rfl, rfl, rfl, rfl, rfl, rfl, rfl, rfl⟩

theorem Channel.setDst_frame (channel : Channel) (req : RgaReq) (mode : AddressMode)
    (single : Bool) (clip : Rect) :
    Keeps { req with dst := channel.virtualImage mode single req.dst }
      (channel.setDst req mode single clip) := by
  unfold Channel.setDst
  dsimp only
  split <;> exact ⟨rfl, rfl, rfl, rfl, rfl, rfl, rfl, rfl, rfl⟩

theorem Channel.setPat_frame (channel : Channel) (req : RgaReq) (mode : AddressMode)
    (single : Bool) (clip : Rect) :
    Keeps { req with pat := channel.virtualImage mode single req.pat }
      (channel.setPat req mode single clip) := by
  unfold Channel.setPat
  dsimp only
  split <;> exact ⟨rfl, rfl, rfl, rfl, rfl, rfl, rfl, rfl, rfl⟩

theorem setBlitChannels_frame (req : RgaReq) (plan : BlitPlan) (mode : AddressMode)
    (single : Bool) :
    Keeps
      { req with
        src := plan.src.virtualImage mode single req.src
        dst := plan.dst.virtualImage mode single req.dst
        pat := match plan.src1 with
          | none => req.pat
          | some channel => channel.virtualImage mode single req.pat }
      (setBlitChannels req plan mode single) := by
  have first := plan.src.setSrc_frame req mode single
  unfold setBlitChannels
  dsimp only
  cases plan.src1 with
  | none =>
      have last := plan.dst.setDst_frame (plan.src.setSrc req mode single) mode single
        (dstClip plan.dst.rect)
      exact ⟨last.src.trans first.src, last.dst.trans (by rw [first.dst]),
        last.pat.trans first.pat, last.handleFlag.trans first.handleFlag,
        last.renderMode.trans first.renderMode, last.sina.trans first.sina,
        last.bsfilterFlag.trans first.bsfilterFlag, last.yuv2rgbMode.trans first.yuv2rgbMode,
        last.fullCsc.trans first.fullCsc⟩
  | some channel =>
      have middle := channel.setPat_frame (plan.src.setSrc req mode single) mode single
        (dstClip plan.dst.rect)
      have last := plan.dst.setDst_frame
        (channel.setPat (plan.src.setSrc req mode single) mode single (dstClip plan.dst.rect))
        mode single (dstClip plan.dst.rect)
      exact ⟨last.src.trans (middle.src.trans first.src),
        last.dst.trans (by rw [middle.dst, first.dst]),
        last.pat.trans (middle.pat.trans (by rw [first.pat])),
        last.handleFlag.trans (middle.handleFlag.trans first.handleFlag),
        last.renderMode.trans (middle.renderMode.trans first.renderMode),
        last.sina.trans (middle.sina.trans first.sina),
        last.bsfilterFlag.trans (middle.bsfilterFlag.trans first.bsfilterFlag),
        last.yuv2rgbMode.trans (middle.yuv2rgbMode.trans first.yuv2rgbMode),
        last.fullCsc.trans (middle.fullCsc.trans first.fullCsc)⟩

structure PlanImages (plan : BlitPlan) (mode : AddressMode) (single : Bool) (req : RgaReq) :
    Prop where
  src : req.src = plan.src.image mode single false
  dst : req.dst = plan.dst.image mode single
    (turnOf plan.src.info.rotation plan.stretch).swapped
  pat : req.pat = match plan.src1 with
    | none => {}
    | some channel => channel.image mode single
      (turnOf plan.src.info.rotation plan.stretch).swapped

theorem blitBase_images (req : RgaReq) (plan : BlitPlan) (mode : AddressMode) (single : Bool)
    (empty : req.src = {} ∧ req.dst = {} ∧ req.pat = {}) :
    let turn := turnOf plan.src.info.rotation plan.stretch
    let base := setBlitActive
      (setBlitChannels (setBlend req plan.src.info.blend) plan mode single) plan turn
    PlanImages plan mode single base ∧ base.handleFlag = req.handleFlag ∧
      base.bsfilterFlag = req.bsfilterFlag := by
  intro turn base
  have blended := setBlend_keeps req plan.src.info.blend
  have channels := setBlitChannels_frame (setBlend req plan.src.info.blend) plan mode single
  have srcBase := channels.src
  have dstBase := channels.dst
  have patBase := channels.pat
  dsimp only at srcBase dstBase patBase
  rw [blended.src, empty.1] at srcBase
  rw [blended.dst, empty.2.1] at dstBase
  rw [blended.pat, empty.2.2] at patBase
  have handle := channels.handleFlag.trans blended.handleFlag
  have filter := channels.bsfilterFlag.trans blended.bsfilterFlag
  simp only [base, setBlitActive, turn]
  cases three : plan.src1 with
  | none =>
      simp only [three] at patBase
      cases swapped : (turnOf plan.src.info.rotation plan.stretch).swapped with
      | false =>
          refine ⟨⟨?_, ?_, ?_⟩, handle, filter⟩ <;>
            simp [normalRgaSetSrcActiveInfo, normalRgaSetDstActiveInfo, Channel.image, srcBase,
              dstBase, patBase, three, swapped]
      | true =>
          refine ⟨⟨?_, ?_, ?_⟩, handle, filter⟩ <;>
            simp [normalRgaSetSrcActiveInfo, normalRgaSetDstActiveInfo, Channel.image, srcBase,
              dstBase, patBase, three, swapped]
  | some channel =>
      simp only [three] at patBase
      cases swapped : (turnOf plan.src.info.rotation plan.stretch).swapped with
      | false =>
          refine ⟨⟨?_, ?_, ?_⟩, handle, filter⟩ <;>
            simp [normalRgaSetSrcActiveInfo, normalRgaSetDstActiveInfo,
              normalRgaSetPatActiveInfo, Channel.image, srcBase, dstBase, patBase, three, swapped]
      | true =>
          refine ⟨⟨?_, ?_, ?_⟩, handle, filter⟩ <;>
            simp [normalRgaSetSrcActiveInfo, normalRgaSetDstActiveInfo,
              normalRgaSetPatActiveInfo, Channel.image, srcBase, dstBase, patBase, three, swapped]

/-! Finished requests -/

/-- An image up to its read mode, which is the last thing written. -/
def TaggedImage (img expected : RgaImgInfo) : Prop :=
  ∃ rdMode, img = { expected with rdMode := rdMode }

structure FinishedBlit (plan : BlitPlan) (mode : AddressMode) (single : Bool) (req : RgaReq) :
    Prop where
  src : TaggedImage req.src (plan.src.image mode single false)
  dst : TaggedImage req.dst
    (plan.dst.image mode single (turnOf plan.src.info.rotation plan.stretch).swapped)
  pat : ∀ channel, plan.src1 = some channel → TaggedImage req.pat
    (channel.image mode single (turnOf plan.src.info.rotation plan.stretch).swapped)
  handleFlag : req.handleFlag = if plan.handleFlag then 1 else 0
  renderMode : req.renderMode = bitbltMode
  sina : req.sina = sinaTable (turnOf plan.src.info.rotation plan.stretch).orientation
  bsfilterFlag : req.bsfilterFlag = if plan.src1.isSome then 1 else 0

theorem finishedBlit_of_retagged {plan : BlitPlan} {mode : AddressMode} {single : Bool}
    {base converted rest req : RgaReq} {word : Int32} {csc : Int32}
    (images : PlanImages plan mode single base)
    (handleFlag : base.handleFlag = if plan.handleFlag then 1 else 0)
    (bsfilterFlag : base.bsfilterFlag = 0)
    (conversion : setFullCsc base csc = .ok converted)
    (kept : Keeps (blitReqRest converted plan mode word) rest)
    (tagged : Retagged rest req) : FinishedBlit plan mode single req := by
  have full := setFullCsc_frame conversion
  have filled := (blitReqRest_frame converted plan mode word).trans kept
  have last := filled.retagged tagged
  obtain ⟨src, dst, pat, handle, renderMode, sina, filter, _, _⟩ := last
  dsimp only at src dst pat handle renderMode sina filter
  rw [full.src, images.src] at src
  rw [full.dst, images.dst] at dst
  rw [full.pat, images.pat] at pat
  refine ⟨src, dst, ?_, ?_, renderMode, sina, ?_⟩
  · intro channel three
    simpa only [TaggedImage, three] using pat
  · rw [handle, full.handleFlag, handleFlag]
  · rw [filter, full.bsfilterFlag, bsfilterFlag]

open Result in
theorem generateBlitReq_finished {session : RgaSession} {src dst : RgaInfo}
    {src1 : Option RgaInfo} {req : RgaReq}
    (built : generateBlitReq session src dst src1 = .ok req) :
    ∃ plan, planBlit session src dst src1 = .ok plan ∧
      FinishedBlit plan (addressMode session) plan.handleFlag req := by
  simp only [generateBlitReq, blitReq, bind_eq_ok] at built
  obtain ⟨plan, planned, converted, conversion, filled⟩ := built
  refine ⟨plan, planned, ?_⟩
  cases filled
  obtain ⟨images, handle, filter⟩ := blitBase_images
    { feature := { userCloseFence := hasBit session.driverFeature rgaDriverFeatureUserCloseFence }
      handleFlag := if plan.handleFlag then 1 else 0 }
    plan (addressMode session) plan.handleFlag ⟨rfl, rfl, rfl⟩
  exact finishedBlit_of_retagged images handle filter conversion
    (setGauss_keeps _ _ _) (blitReqTail_retagged _ plan)

open Result in
theorem rgaBlitReq_finished {ctx : RgaContext} {src dst : RgaInfo} {src1 : Option RgaInfo}
    {req : RgaReq} (built : rgaBlitReq ctx src dst src1 = .ok req) :
    ∃ plan, planRgaBlit ctx src dst src1 = .ok plan ∧
      FinishedBlit plan (rgaBlitAddressMode ctx) false req := by
  simp only [rgaBlitReq, bind_eq_ok] at built
  obtain ⟨plan, planned, converted, conversion, filled⟩ := built
  refine ⟨plan, planned, ?_⟩
  cases filled
  obtain ⟨images, handle, filter⟩ := blitBase_images
    { feature := { userCloseFence := hasBit ctx.driverFeature rgaDriverFeatureUserCloseFence }
      handleFlag := if plan.handleFlag then 1 else 0 }
    plan (rgaBlitAddressMode ctx) false ⟨rfl, rfl, rfl⟩
  exact finishedBlit_of_retagged images handle filter conversion
    (Keeps.refl _) (blitReqTail_retagged _ plan)

def fillChannel (info : RgaInfo) (addr : BufferAddr) : Channel :=
  { info := info, addr := addr, rect := relRect info.rect }

structure FinishedFill (info : RgaInfo) (addr : BufferAddr) (mode : AddressMode)
    (req : RgaReq) : Prop where
  dst : TaggedImage req.dst ((fillChannel info addr).image mode false false)
  handleFlag : req.handleFlag = if 0 < info.handle then 1 else 0
  renderMode : req.renderMode = colorFillMode
  sina : req.sina = 0

open Result in
theorem fillReq_finished {mode : AddressMode} {info : RgaInfo} {req : RgaReq}
    (built : fillReq mode info = .ok req) :
    ∃ addr, requireAddr (fillAddr info) = .ok addr ∧ FinishedFill info addr mode req := by
  simp only [fillReq, bind_eq_ok] at built
  obtain ⟨addr, resolved, filled⟩ := built
  refine ⟨addr, resolved, ?_⟩
  cases filled
  let start : RgaReq :=
    { feature := { userCloseFence := true }, handleFlag := if 0 < info.handle then 1 else 0 }
  have placed := (fillChannel info addr).setDst_frame start mode false
    (fillClip (relRect info.rect))
  have image := placed.dst
  have handle := placed.handleFlag
  have angle := placed.sina
  dsimp only [fillChannel, start] at image handle angle
  refine ⟨⟨rdModeOf info.rdMode, ?_⟩, ?_, ?_, ?_⟩
  · dsimp only [setSchedule]
    rw [(setFillMmu_keeps _ _).dst]
    simp only [normalRgaSetColorFillMode, normalRgaSetDstActiveInfo, image]
    rfl
  · dsimp only [setSchedule]
    rw [(setFillMmu_keeps _ _).handleFlag]
    exact handle
  · dsimp only [setSchedule]
    rw [(setFillMmu_keeps _ _).renderMode]
    rfl
  · dsimp only [setSchedule]
    rw [(setFillMmu_keeps _ _).sina]
    exact angle

structure FinishedPalette (plan : PalettePlan) (mode : AddressMode) (req : RgaReq) : Prop where
  src : TaggedImage req.src (plan.src.image mode false false)
  dst : TaggedImage req.dst (plan.dst.image mode false false)
  pat : TaggedImage req.pat (plan.lut.image mode false false)
  handleFlag : req.handleFlag = 1
  sina : req.sina = 0
  yuv2rgbMode : req.yuv2rgbMode = 0
  fullCsc : req.fullCsc = {}

theorem paletteReqBase_finished (session : RgaSession) (plan : PalettePlan) :
    FinishedPalette plan (addressMode session) (paletteReqBase session plan) := by
  let mode := addressMode session
  let clip := dstClip plan.dst.rect
  let start : RgaReq := { feature := { userCloseFence := true }, handleFlag := 1 }
  let first := plan.src.setSrc start mode false
  let second := plan.dst.setDst first mode false clip
  let third := plan.lut.setPat second mode false clip
  have one := plan.src.setSrc_frame start mode false
  have two := plan.dst.setDst_frame first mode false clip
  have three := plan.lut.setPat_frame second mode false clip
  let src := plan.src.rect
  let dst := plan.dst.rect
  let lut := plan.lut.rect
  let active := normalRgaSetPatActiveInfo (normalRgaSetDstActiveInfo
    (normalRgaSetSrcActiveInfo third src.width src.height src.xoffset src.yoffset)
    dst.width dst.height dst.xoffset dst.yoffset) lut.width lut.height lut.xoffset lut.yoffset
  have mmu := setPaletteMmu_keeps active plan mode
  have srcImage : active.src = plan.src.image mode false false := by
    show setActiveInfo third.src _ _ _ _ = _
    rw [three.src, two.src, one.src]
    rfl
  have dstImage : active.dst = plan.dst.image mode false false := by
    show setActiveInfo third.dst _ _ _ _ = _
    rw [three.dst, two.dst, one.dst]
    rfl
  have patImage : active.pat = plan.lut.image mode false false := by
    show setActiveInfo third.pat _ _ _ _ = _
    rw [three.pat, two.pat, one.pat]
    rfl
  have tagged : Retagged (setPaletteMmu active plan mode) (paletteReqBase session plan) :=
    ⟨⟨_, rfl⟩, ⟨_, rfl⟩, ⟨_, rfl⟩, rfl, rfl, rfl, rfl, rfl, rfl⟩
  obtain ⟨srcTag, dstTag, patTag, handle, _, sina, _, csc, full⟩ := mmu.retagged tagged
  rw [srcImage] at srcTag
  rw [dstImage] at dstTag
  rw [patImage] at patTag
  exact ⟨srcTag, dstTag, patTag,
    handle.trans (three.handleFlag.trans (two.handleFlag.trans one.handleFlag)),
    sina.trans (three.sina.trans (two.sina.trans one.sina)),
    csc.trans (three.yuv2rgbMode.trans (two.yuv2rgbMode.trans one.yuv2rgbMode)),
    full.trans (three.fullCsc.trans (two.fullCsc.trans one.fullCsc))⟩

theorem paletteLutReq_finished {session : RgaSession} {plan : PalettePlan} {req : RgaReq}
    (update : paletteLutReq session plan = some req) :
    FinishedPalette plan (addressMode session) req ∧
      req.renderMode = updatePaletteTableMode := by
  have base := paletteReqBase_finished session plan
  unfold paletteLutReq at update
  split at update
  · contradiction
  · cases update
    exact ⟨⟨base.src, base.dst, base.pat, base.handleFlag, base.sina, base.yuv2rgbMode,
      base.fullCsc⟩, rfl⟩

theorem paletteReq_finished (session : RgaSession) (plan : PalettePlan) :
    FinishedPalette plan (addressMode session) (paletteReq session plan) ∧
      (paletteReq session plan).renderMode = colorPaletteMode := by
  have loaded : FinishedPalette plan (addressMode session)
      ((paletteLutReq session plan).getD (paletteReqBase session plan)) := by
    cases update : paletteLutReq session plan with
    | none => exact paletteReqBase_finished session plan
    | some req => exact (paletteLutReq_finished update).1
  unfold paletteReq
  generalize (paletteLutReq session plan).getD (paletteReqBase session plan) = req at loaded ⊢
  exact ⟨⟨loaded.src, loaded.dst, loaded.pat, loaded.handleFlag, loaded.sina, loaded.yuv2rgbMode,
    loaded.fullCsc⟩, rfl⟩

theorem generateColorPaletteReq_ok {session : RgaSession} {src dst lut : RgaInfo}
    {lutRet : Int32} {req : RgaReq}
    (built : (generateColorPaletteReq session src dst lut lutRet).2 = .ok req) :
    ∃ plan, planPalette src dst lut = .ok plan ∧ req = paletteReq session plan := by
  unfold generateColorPaletteReq at built
  split at built
  · cases built
  · rename_i plan planned
    refine ⟨plan, planned, ?_⟩
    split at built
    · exact (Except.ok.inj built).symm
    · split at built
      · cases built
      · exact (Except.ok.inj built).symm

theorem generateColorPaletteReq_finished {session : RgaSession} {src dst lut : RgaInfo}
    {lutRet : Int32} {req : RgaReq}
    (built : (generateColorPaletteReq session src dst lut lutRet).2 = .ok req) :
    ∃ plan, planPalette src dst lut = .ok plan ∧
      FinishedPalette plan (addressMode session) req ∧ req.renderMode = colorPaletteMode := by
  obtain ⟨plan, planned, rfl⟩ := generateColorPaletteReq_ok built
  exact ⟨plan, planned, paletteReq_finished session plan⟩

end LibRga
