import LibRga.Frame

/-!
Two fields that a builder hardly touches: the release fence, which none of its
steps writes, and the line-draw word, which only the placing of a channel does.
-/

namespace LibRga

structure Spares (before after : RgaReq) : Prop where
  outFenceFd : after.outFenceFd = before.outFenceFd
  lineDrawInfo : after.lineDrawInfo = before.lineDrawInfo

theorem Spares.refl (req : RgaReq) : Spares req req :=
  ⟨rfl, rfl⟩

theorem Spares.trans {first second third : RgaReq} (before : Spares first second)
    (after : Spares second third) : Spares first third :=
  ⟨after.outFenceFd.trans before.outFenceFd, after.lineDrawInfo.trans before.lineDrawInfo⟩

theorem setBlend_spares (req : RgaReq) (blend : UInt32) : Spares req (setBlend req blend) := by
  unfold setBlend
  split
  · dsimp only
    split <;> exact ⟨rfl, rfl⟩
  · exact Spares.refl req

theorem setBlitActive_spares (req : RgaReq) (plan : BlitPlan) (turn : Turn) :
    Spares req (setBlitActive req plan turn) := by
  unfold setBlitActive
  dsimp only
  cases plan.src1 with
  | none => cases turn.swapped <;> exact ⟨rfl, rfl⟩
  | some channel => cases turn.swapped <;> exact ⟨rfl, rfl⟩

theorem setFullCsc_spares {req after : RgaReq} {mode : Int32}
    (converted : setFullCsc req mode = .ok after) : Spares req after := by
  obtain ⟨_, _, _, rfl⟩ := setFullCsc_writes converted
  exact ⟨rfl, rfl⟩

theorem normalRgaNNQuantizeMode_spares (req : RgaReq) (nn : RgaNn) :
    Spares req (normalRgaNNQuantizeMode req nn) := by
  unfold normalRgaNNQuantizeMode
  split <;> exact ⟨rfl, rfl⟩

theorem normalRgaDitherMode_spares (req : RgaReq) (dither : RgaDither) (format : Int32) :
    Spares req (normalRgaDitherMode req dither format) := by
  unfold normalRgaDitherMode
  dsimp only
  split <;> split <;> exact ⟨rfl, rfl⟩

theorem setBlitMmu_spares (req : RgaReq) (plan : BlitPlan) (mode : AddressMode) :
    Spares req (setBlitMmu req plan mode) := by
  have mmu : Spares req (if plan.src.mmu mode || plan.dst.mmu mode then
      normalRgaMmuFlag (normalRgaMmuInfo req) (plan.src.mmu mode) (plan.dst.mmu mode)
    else req) := by
    split
    · exact ⟨rfl, rfl⟩
    · exact Spares.refl req
  unfold setBlitMmu
  dsimp only
  cases plan.src1 with
  | none => exact mmu
  | some channel => exact ⟨mmu.outFenceFd, mmu.lineDrawInfo⟩

theorem setRop_spares (req : RgaReq) (ropCode : Int32) : Spares req (setRop req ropCode) := by
  unfold setRop
  split <;> exact ⟨rfl, rfl⟩

theorem setColorKey_spares (req : RgaReq) (src : RgaInfo) : Spares req (setColorKey req src) := by
  unfold setColorKey
  split
  · dsimp only
    split
    · exact ⟨rfl, rfl⟩
    · split <;> exact ⟨rfl, rfl⟩
  · exact Spares.refl req

theorem setGauss_spares (req : RgaReq) (config : RgaGaussConfig) (blend : UInt32) :
    Spares req (setGauss req config blend) := by
  unfold setGauss
  dsimp only
  split <;> exact ⟨rfl, rfl⟩

theorem setFeatureBlocks_spares (req : RgaReq) (src : RgaInfo) :
    Spares req (setFeatureBlocks req src) := by
  unfold setFeatureBlocks
  dsimp only
  split <;> exact ⟨rfl, rfl⟩

theorem setFillMmu_spares (req : RgaReq) (mmu : Bool) : Spares req (setFillMmu req mmu) := by
  unfold setFillMmu
  split <;> exact ⟨rfl, rfl⟩

theorem setPaletteMmu_spares (req : RgaReq) (plan : PalettePlan) (mode : AddressMode) :
    Spares req (setPaletteMmu req plan mode) := by
  unfold setPaletteMmu
  dsimp only
  split <;> exact ⟨rfl, rfl⟩

theorem blitReqRest_spares (req : RgaReq) (plan : BlitPlan) (mode : AddressMode) (word : Int32) :
    Spares req (blitReqRest req plan mode word) := by
  let turn := turnOf plan.src.info.rotation plan.stretch
  let blitted := normalRgaSetBitbltMode req plan.interp turn.rotateMode turn.orientation
    (blitDither plan.src.rect.format plan.dst.rect.format) word
  have start : Spares req blitted := ⟨rfl, rfl⟩
  have quantized := normalRgaNNQuantizeMode_spares blitted plan.dst.info.nn
  have dithered := normalRgaDitherMode_spares (normalRgaNNQuantizeMode blitted plan.dst.info.nn)
    plan.dst.info.dither plan.dst.rect.format
  have mapped := setBlitMmu_spares (normalRgaDitherMode
    (normalRgaNNQuantizeMode blitted plan.dst.info.nn) plan.dst.info.dither plan.dst.rect.format)
    plan mode
  have keyed := (((start.trans quantized).trans dithered).trans mapped).trans
    ((setRop_spares _ plan.src.info.ropCode).trans (setColorKey_spares _ plan.src.info))
  exact ⟨keyed.outFenceFd, keyed.lineDrawInfo⟩

theorem blitReqTail_spares (req : RgaReq) (plan : BlitPlan) :
    Spares req (blitReqTail req plan) := by
  have blocks := setFeatureBlocks_spares req plan.src.info
  exact ⟨blocks.outFenceFd, blocks.lineDrawInfo⟩

theorem blitReqBase_placed (session : RgaSession) (plan : BlitPlan) :
    ∃ start, start.outFenceFd = 0 ∧
      Spares (setBlitChannels start plan (addressMode session) plan.handleFlag)
        (blitReqBase session plan) :=
  ⟨_, (setBlend_spares _ _).outFenceFd, setBlitActive_spares _ _ _⟩

theorem rgaBlitReqBase_placed (ctx : RgaContext) (plan : BlitPlan) :
    ∃ start, Spares (setBlitChannels start plan (rgaBlitAddressMode ctx) false)
      (rgaBlitReqBase ctx plan) :=
  ⟨_, setBlitActive_spares _ _ _⟩

open Result in
theorem generateBlitReq_placed {session : RgaSession} {src dst : RgaInfo} {src1 : Option RgaInfo}
    {req : RgaReq} (built : generateBlitReq session src dst src1 = .ok req) :
    ∃ plan start, planBlit session src dst src1 = .ok plan ∧ start.outFenceFd = 0 ∧
      Spares (setBlitChannels start plan (addressMode session) plan.handleFlag) req := by
  simp only [generateBlitReq, blitReq, bind_eq_ok] at built
  obtain ⟨plan, planned, converted, conversion, filled⟩ := built
  cases filled
  obtain ⟨start, zero, base⟩ := blitReqBase_placed session plan
  have rest := blitReqRest_spares converted plan (addressMode session)
  exact ⟨plan, start, planned, zero, (base.trans (setFullCsc_spares conversion)).trans
    (((rest _).trans (setGauss_spares _ _ _)).trans (blitReqTail_spares _ plan))⟩

open Result in
theorem rgaBlitReq_placed {ctx : RgaContext} {src dst : RgaInfo} {src1 : Option RgaInfo}
    {req : RgaReq} (built : rgaBlitReq ctx src dst src1 = .ok req) :
    ∃ plan start, planRgaBlit ctx src dst src1 = .ok plan ∧
      Spares (setBlitChannels start plan (rgaBlitAddressMode ctx) false) req := by
  simp only [rgaBlitReq, bind_eq_ok] at built
  obtain ⟨plan, planned, converted, conversion, filled⟩ := built
  cases filled
  obtain ⟨start, base⟩ := rgaBlitReqBase_placed ctx plan
  exact ⟨plan, start, planned, (base.trans (setFullCsc_spares conversion)).trans
    ((blitReqRest_spares converted plan (rgaBlitAddressMode ctx) _).trans
      (blitReqTail_spares _ plan))⟩

/-! The release fence of a built request -/

theorem Channel.setSrc_outFence (channel : Channel) (req : RgaReq) (mode : AddressMode)
    (single : Bool) : (channel.setSrc req mode single).outFenceFd = req.outFenceFd := by
  unfold Channel.setSrc
  dsimp only
  split_ifs <;> rfl

theorem Channel.setDst_outFence (channel : Channel) (req : RgaReq) (mode : AddressMode)
    (single : Bool) (clip : Rect) :
    (channel.setDst req mode single clip).outFenceFd = req.outFenceFd := by
  unfold Channel.setDst
  dsimp only
  split_ifs <;> rfl

theorem Channel.setPat_outFence (channel : Channel) (req : RgaReq) (mode : AddressMode)
    (single : Bool) (clip : Rect) :
    (channel.setPat req mode single clip).outFenceFd = req.outFenceFd := by
  unfold Channel.setPat
  dsimp only
  split_ifs <;> rfl

theorem setBlitChannels_outFence (req : RgaReq) (plan : BlitPlan) (mode : AddressMode)
    (single : Bool) : (setBlitChannels req plan mode single).outFenceFd = req.outFenceFd := by
  unfold setBlitChannels
  dsimp only
  cases plan.src1 with
  | none => rw [Channel.setDst_outFence, Channel.setSrc_outFence]
  | some channel =>
      rw [Channel.setDst_outFence, Channel.setPat_outFence, Channel.setSrc_outFence]

theorem generateBlitReq_outFence {session : RgaSession} {src dst : RgaInfo}
    {src1 : Option RgaInfo} {req : RgaReq}
    (built : generateBlitReq session src dst src1 = .ok req) : req.outFenceFd = 0 := by
  obtain ⟨plan, start, _, zero, spared⟩ := generateBlitReq_placed built
  rw [spared.outFenceFd, setBlitChannels_outFence, zero]

open Result in
theorem fillReq_outFence {mode : AddressMode} {info : RgaInfo} {req : RgaReq}
    (built : fillReq mode info = .ok req) : req.outFenceFd = 0 := by
  simp only [fillReq, bind_eq_ok] at built
  obtain ⟨addr, _, filled⟩ := built
  cases filled
  dsimp only [setSchedule]
  rw [(setFillMmu_spares _ _).outFenceFd]
  simp only [normalRgaSetColorFillMode, normalRgaSetDstActiveInfo, Channel.setDst_outFence]

theorem paletteReqBase_outFence (session : RgaSession) (plan : PalettePlan) :
    (paletteReqBase session plan).outFenceFd = 0 := by
  simp only [paletteReqBase, setSchedule, setRdModes, (setPaletteMmu_spares _ _ _).outFenceFd,
    normalRgaSetSrcActiveInfo, normalRgaSetDstActiveInfo, normalRgaSetPatActiveInfo,
    Channel.setSrc_outFence, Channel.setDst_outFence, Channel.setPat_outFence]

theorem paletteReq_outFence (session : RgaSession) (plan : PalettePlan) :
    (paletteReq session plan).outFenceFd = 0 := by
  have base := paletteReqBase_outFence session plan
  unfold paletteReq paletteLutReq
  split_ifs
  · exact base
  · exact base

end LibRga
