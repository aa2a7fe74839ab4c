import LibRga.Plan

/-!
The registers of a finished blit: clip window, turn, interpolation, colour key,
blend flags and MMU.

Every step of the builders rewrites a few of them. The steps are followed on
the registers alone, which both blit builders fill in the same way.
-/

namespace LibRga

structure Registers where
  clip : Rect := {}
  sina : Int32 := 0
  cosa : Int32 := 0
  rotateMode : UInt8 := 0
  interp : RgaInterp := {}
  srcTransMode : UInt8 := 0
  alphaRopFlag : UInt16 := 0
  alphaRopMode : UInt8 := 0
  pdMode : UInt8 := 0
  mmuInfo : Mmu := {}
deriving DecidableEq, Repr, Inhabited

def RgaReq.registers (req : RgaReq) : Registers :=
  { clip := req.clip
    sina := req.sina
    cosa := req.cosa
    rotateMode := req.rotateMode
    interp := req.interp
    srcTransMode := req.srcTransMode
    alphaRopFlag := req.alphaRopFlag
    alphaRopMode := req.alphaRopMode
    pdMode := req.pdMode
    mmuInfo := req.mmuInfo }

/-! The values the steps leave behind -/

def blendFlags (blend : UInt32) : UInt16 :=
  if hasBit blend 0xfff then
    if hasBit (blendWords blend).blend 0x1000 then 0x219 else 0x19
  else 0

def blendPdMode (blend : UInt32) : UInt8 :=
  if hasBit blend 0xfff then ((blendWords blend).blend &&& (0xfff : UInt32)).toUInt8 else 0

def blitDithers (plan : BlitPlan) : Bool :=
  blitDither plan.src.rect.format plan.dst.rect.format

-- two of the steps assign the word, the others extend it
def blitFlags (plan : BlitPlan) : UInt16 :=
  let src := plan.src.info
  let dst := plan.dst.info
  let flag := blendFlags src.blend
  let flag := if blitDithers plan then flag ||| (0x20 : UInt16) else flag
  let flag := if dst.nn.nnFlag = 1 then flag ||| (0x100 : UInt16) else flag
  let flag := if dst.dither.enable = 1 then 0x21 else flag
  let flag := if 0 < src.ropCode then 0x3 else flag
  if src.colorkeyEn = 1 then flag ||| (0x200 : UInt16) else flag

def blitRopMode (src : RgaInfo) : UInt8 :=
  let mode : UInt8 := if hasBit src.blend 0xfff then 0x1 else 0
  let mode := if 0 < src.ropCode then 0x1 else mode
  if src.colorkeyEn = 1 ∧ (src.colorkeyMode = 0 ∨ src.colorkeyMode = 1) then
    mode ||| (0x10 : UInt8)
  else mode

def keyTransMode (src : RgaInfo) : UInt8 :=
  if src.colorkeyEn = 1 then
    if src.colorkeyMode = 0 then 0x1e
    else if src.colorkeyMode = 1 then 0x1f
    else 0
  else 0

def mmuBit (set : Bool) (bits : UInt32) : UInt32 :=
  if set then bits else 0

-- the third channel adds its bits but never enables the MMU
def blitMmu (plan : BlitPlan) (mode : AddressMode) : Mmu :=
  let src := plan.src.mmu mode
  let dst := plan.dst.mmu mode
  let third := plan.src1.any (fun channel => channel.mmu mode)
  { mmuEn := if src || dst then 1 else 0
    mmuFlag := mmuBit (src || dst) 0x80000021 ||| mmuBit src 0x100 ||| mmuBit dst 0x400 |||
      mmuBit third 0xa00 }

/-! One equation for each step -/

section Steps

variable (req : RgaReq)

theorem setBlend_registers (blend : UInt32) (fresh : req.registers = {}) :
    (setBlend req blend).registers =
      { alphaRopFlag := blendFlags blend
        alphaRopMode := if hasBit blend 0xfff then 0x1 else 0
        pdMode := blendPdMode blend } := by
  obtain ⟨clip, sina, cosa, rotate, interp, trans, flag, mode, pd, mmu⟩ :=
    Registers.mk.inj fresh
  unfold setBlend blendFlags blendPdMode
  by_cases blends : hasBit blend 0xfff = true
  · simp only [blends, if_true]
    by_cases multiplied : hasBit (blendWords blend).blend 0x1000 = true
    · simp only [multiplied, if_true, normalRgaSetAlphaEnInfo, RgaReq.registers, clip, sina, cosa,
        rotate, interp, trans, flag, mode, mmu]
      rfl
    · simp only [multiplied, if_false, normalRgaSetAlphaEnInfo, RgaReq.registers, clip, sina, cosa,
        rotate, interp, trans, flag, mode, mmu, Bool.false_eq_true]
      rfl
  · simp only [blends, Bool.false_eq_true, if_false]
    exact fresh

theorem setSrc_registers (channel : Channel) (mode : AddressMode) (single : Bool) :
    (channel.setSrc req mode single).registers = req.registers := by
  unfold Channel.setSrc
  dsimp only
  split <;> rfl

theorem setDst_registers (channel : Channel) (mode : AddressMode) (single : Bool) (clip : Rect) :
    (channel.setDst req mode single clip).registers = { req.registers with clip := clip } := by
  unfold Channel.setDst
  dsimp only
  split <;> rfl

theorem setPat_registers (channel : Channel) (mode : AddressMode) (single : Bool) (clip : Rect) :
    (channel.setPat req mode single clip).registers = { req.registers with clip := clip } := by
  unfold Channel.setPat
  dsimp only
  split <;> rfl

theorem setBlitChannels_registers (plan : BlitPlan) (mode : AddressMode) (single : Bool) :
    (setBlitChannels req plan mode single).registers =
      { req.registers with clip := dstClip plan.dst.rect } := by
  unfold setBlitChannels
  dsimp only
  rw [setDst_registers]
  cases plan.src1 with
  | none =>
      dsimp only
      rw [setSrc_registers]
  | some channel =>
      dsimp only
      rw [setPat_registers, setSrc_registers]

theorem setBlitActive_registers (plan : BlitPlan) (turn : Turn) :
    (setBlitActive req plan turn).registers = req.registers := by
  unfold setBlitActive
  dsimp only
  split <;> split <;> rfl

theorem setFullCsc_registers {after : RgaReq} {mode : Int32}
    (converted : setFullCsc req mode = .ok after) : after.registers = req.registers := by
  obtain ⟨_, _, _, rfl⟩ := setFullCsc_writes converted
  rfl

theorem normalRgaSetBitbltMode_registers (interp : RgaInterp) (rotateMode : Int32)
    (angle : Orientation) (ditherEn : Bool) (word : Int32) (unkeyed : req.srcTransMode = 0) :
    (normalRgaSetBitbltMode req interp rotateMode angle ditherEn word).registers =
      { req.registers with
        interp := interp
        rotateMode := toU8 rotateMode
        sina := sinaTable angle
        cosa := cosaTable angle
        alphaRopFlag := if ditherEn then req.registers.alphaRopFlag ||| (0x20 : UInt16)
          else req.registers.alphaRopFlag } := by
  unfold normalRgaSetBitbltMode
  rw [if_neg (not_not.mpr unkeyed)]
  rfl

theorem normalRgaNNQuantizeMode_registers (nn : RgaNn) :
    (normalRgaNNQuantizeMode req nn).registers =
      { req.registers with
        alphaRopFlag := if nn.nnFlag = 1 then req.registers.alphaRopFlag ||| (0x100 : UInt16)
          else req.registers.alphaRopFlag } := by
  unfold normalRgaNNQuantizeMode
  split <;> rfl

theorem normalRgaDitherMode_registers (dither : RgaDither) (format : Int32) :
    (normalRgaDitherMode req dither format).registers =
      { req.registers with
        alphaRopFlag := if dither.enable = 1 then 0x21 else req.registers.alphaRopFlag } := by
  unfold normalRgaDitherMode
  dsimp only
  split <;> split <;> rfl

theorem setBlitMmu_registers (plan : BlitPlan) (mode : AddressMode) (off : req.mmuInfo = {}) :
    (setBlitMmu req plan mode).registers =
      { req.registers with mmuInfo := blitMmu plan mode } := by
  unfold setBlitMmu blitMmu normalRgaMmuFlag normalRgaMmuInfo
  cases plan.src1 with
  | none =>
      cases plan.src.mmu mode <;> cases plan.dst.mmu mode <;>
        simp [RgaReq.registers, off, mmuBit] <;> decide
  | some channel =>
      simp only [Option.any_some]
      cases plan.src.mmu mode <;> cases plan.dst.mmu mode <;> cases channel.mmu mode <;>
        simp [RgaReq.registers, off, mmuBit] <;> decide

theorem setRop_registers (ropCode : Int32) :
    (setRop req ropCode).registers =
      { req.registers with
        alphaRopFlag := if 0 < ropCode then 0x3 else req.registers.alphaRopFlag
        alphaRopMode := if 0 < ropCode then 0x1 else req.registers.alphaRopMode } := by
  unfold setRop
  split <;> rfl

theorem setColorKey_registers (src : RgaInfo) (unkeyed : req.srcTransMode = 0) :
    (setColorKey req src).registers =
      { req.registers with
        srcTransMode := keyTransMode src
        alphaRopFlag := if src.colorkeyEn = 1 then req.registers.alphaRopFlag ||| (0x200 : UInt16)
          else req.registers.alphaRopFlag
        alphaRopMode :=
          if src.colorkeyEn = 1 ∧ (src.colorkeyMode = 0 ∨ src.colorkeyMode = 1) then
            req.registers.alphaRopMode ||| (0x10 : UInt8)
          else req.registers.alphaRopMode } := by
  unfold setColorKey keyTransMode
  by_cases keyed : src.colorkeyEn = 1
  · by_cases normal : src.colorkeyMode = 0
    · simp only [keyed, normal, if_true, true_and, true_or]
      rfl
    · by_cases inverted : src.colorkeyMode = 1
      · simp only [keyed, inverted, if_true, true_and, or_true]
        rfl
      · simp only [keyed, normal, inverted, if_true, if_false, true_and, or_false,
          RgaReq.registers, unkeyed]
  · simp only [keyed, if_false, false_and, RgaReq.registers, unkeyed]

theorem setGauss_registers (config : RgaGaussConfig) (blend : UInt32) :
    (setGauss req config blend).registers = req.registers := by
  unfold setGauss
  dsimp only
  split <;> rfl

theorem blitReqTail_registers (plan : BlitPlan) :
    (blitReqTail req plan).registers = req.registers := by
  unfold blitReqTail setFeatureBlocks
  dsimp only
  split <;> rfl

end Steps

/-! A finished blit -/

def blendRegisters (plan : BlitPlan) : Registers :=
  { clip := dstClip plan.dst.rect
    alphaRopFlag := blendFlags plan.src.info.blend
    alphaRopMode := if hasBit plan.src.info.blend 0xfff then 0x1 else 0
    pdMode := blendPdMode plan.src.info.blend }

def blitRegisters (plan : BlitPlan) (mode : AddressMode) : Registers :=
  let turn := turnOf plan.src.info.rotation plan.stretch
  { clip := dstClip plan.dst.rect
    sina := sinaTable turn.orientation
    cosa := cosaTable turn.orientation
    rotateMode := toU8 turn.rotateMode
    interp := plan.interp
    srcTransMode := keyTransMode plan.src.info
    alphaRopFlag := blitFlags plan
    alphaRopMode := blitRopMode plan.src.info
    pdMode := blendPdMode plan.src.info.blend
    mmuInfo := blitMmu plan mode }

theorem blitBase_registers (req : RgaReq) (plan : BlitPlan) (mode : AddressMode) (single : Bool)
    (turn : Turn) (fresh : req.registers = {}) :
    (setBlitActive (setBlitChannels (setBlend req plan.src.info.blend) plan mode single) plan
      turn).registers = blendRegisters plan := by
  rw [setBlitActive_registers, setBlitChannels_registers, setBlend_registers _ _ fresh]
  rfl

theorem blitReqRest_registers {req : RgaReq} {plan : BlitPlan} (mode : AddressMode) (word : Int32)
    (base : req.registers = blendRegisters plan) :
    (blitReqRest req plan mode word).registers = blitRegisters plan mode := by
  let turn := turnOf plan.src.info.rotation plan.stretch
  let blitted := normalRgaSetBitbltMode req plan.interp turn.rotateMode turn.orientation
    (blitDithers plan) word
  let dithered := normalRgaDitherMode (normalRgaNNQuantizeMode blitted plan.dst.info.nn)
    plan.dst.info.dither plan.dst.rect.format
  let roped := setRop (setBlitMmu dithered plan mode) plan.src.info.ropCode
  have unkeyed : req.srcTransMode = 0 := congrArg Registers.srcTransMode base
  have first := normalRgaSetBitbltMode_registers req plan.interp turn.rotateMode turn.orientation
    (blitDithers plan) word unkeyed
  have second := normalRgaNNQuantizeMode_registers blitted plan.dst.info.nn
  have third := normalRgaDitherMode_registers
    (normalRgaNNQuantizeMode blitted plan.dst.info.nn) plan.dst.info.dither plan.dst.rect.format
  rw [second, first, base] at third
  have fourth := setBlitMmu_registers dithered plan mode (congrArg Registers.mmuInfo third)
  have fifth := setRop_registers (setBlitMmu dithered plan mode) plan.src.info.ropCode
  rw [fourth, third] at fifth
  have last := setColorKey_registers roped plan.src.info (congrArg Registers.srcTransMode fifth)
  rw [fifth] at last
  exact last

open Result in
theorem generateBlitReq_registers {session : RgaSession} {src dst : RgaInfo}
    {src1 : Option RgaInfo} {req : RgaReq}
    (built : generateBlitReq session src dst src1 = .ok req) :
    ∃ plan, planBlit session src dst src1 = .ok plan ∧
      req.registers = blitRegisters plan (addressMode session) := by
  simp only [generateBlitReq, blitReq, bind_eq_ok] at built
  obtain ⟨plan, planned, converted, conversion, filled⟩ := built
  refine ⟨plan, planned, ?_⟩
  have base : (blitReqBase session plan).registers = blendRegisters plan :=
    blitBase_registers _ plan _ _ _ (by rfl)
  have kept := (setFullCsc_registers _ conversion).trans base
  cases filled
  rw [blitReqTail_registers, setGauss_registers, blitReqRest_registers _ _ kept]

open Result in
theorem rgaBlitReq_registers {ctx : RgaContext} {src dst : RgaInfo} {src1 : Option RgaInfo}
    {req : RgaReq} (built : rgaBlitReq ctx src dst src1 = .ok req) :
    ∃ plan, planRgaBlit ctx src dst src1 = .ok plan ∧
      req.registers = blitRegisters plan (rgaBlitAddressMode ctx) := by
  simp only [rgaBlitReq, bind_eq_ok] at built
  obtain ⟨plan, planned, converted, conversion, filled⟩ := built
  refine ⟨plan, planned, ?_⟩
  have base : (rgaBlitReqBase ctx plan).registers = blendRegisters plan :=
    blitBase_registers _ plan _ _ _ (by rfl)
  have kept := (setFullCsc_registers _ conversion).trans base
  cases filled
  rw [blitReqTail_registers, blitReqRest_registers _ _ kept]

/-! The other builders write the clip window and the MMU -/

theorem setFillMmu_registers (req : RgaReq) (mmu : Bool) :
    ∃ info, (setFillMmu req mmu).registers = { req.registers with mmuInfo := info } := by
  unfold setFillMmu
  split
  · exact ⟨_, rfl⟩
  · exact ⟨_, rfl⟩

theorem setPaletteMmu_registers (req : RgaReq) (plan : PalettePlan) (mode : AddressMode) :
    ∃ info, (setPaletteMmu req plan mode).registers = { req.registers with mmuInfo := info } := by
  unfold setPaletteMmu
  dsimp only
  split
  · exact ⟨_, rfl⟩
  · exact ⟨_, rfl⟩

open Result in
theorem fillReq_registers {mode : AddressMode} {dst : RgaInfo} {req : RgaReq}
    (built : fillReq mode dst = .ok req) :
    ∃ info, req.registers = { clip := fillClip (relRect dst.rect), mmuInfo := info } := by
  simp only [fillReq, bind_eq_ok] at built
  obtain ⟨addr, _, filled⟩ := built
  cases filled
  let start : RgaReq :=
    { feature := { userCloseFence := true }, handleFlag := if 0 < dst.handle then 1 else 0 }
  have placed := setDst_registers start { info := dst, addr := addr, rect := relRect dst.rect } mode
    false (fillClip (relRect dst.rect))
  obtain ⟨info, mmu⟩ := setFillMmu_registers
    (normalRgaSetColorFillMode (normalRgaSetDstActiveInfo
      { Channel.setDst { info := dst, addr := addr, rect := relRect dst.rect } start mode false
          (fillClip (relRect dst.rect)) with
        yuv2rgbMode := fillYuv2rgbMode (relRect dst.rect).format dst.colorSpaceMode }
      (relRect dst.rect).width (relRect dst.rect).height (relRect dst.rect).xoffset
      (relRect dst.rect).yoffset) dst.color.toUInt32)
    (channelMmu mode false dst dst.mmuFlag addr)
  refine ⟨info, Eq.trans mmu ?_⟩
  exact congrArg (fun registers => { registers with mmuInfo := info }) placed

theorem paletteReqBase_registers (session : RgaSession) (plan : PalettePlan) :
    ∃ info, (paletteReqBase session plan).registers =
      { clip := dstClip plan.dst.rect, mmuInfo := info } := by
  let mode := addressMode session
  let clip := dstClip plan.dst.rect
  let start : RgaReq := { feature := { userCloseFence := true }, handleFlag := 1 }
  let placed := plan.lut.setPat (plan.dst.setDst (plan.src.setSrc start mode false) mode false clip)
    mode false clip
  have channels : placed.registers = { clip := clip } := by
    rw [setPat_registers, setDst_registers, setSrc_registers]
    rfl
  let active := normalRgaSetPatActiveInfo (normalRgaSetDstActiveInfo
    (normalRgaSetSrcActiveInfo placed plan.src.rect.width plan.src.rect.height
      plan.src.rect.xoffset plan.src.rect.yoffset)
    plan.dst.rect.width plan.dst.rect.height plan.dst.rect.xoffset plan.dst.rect.yoffset)
    plan.lut.rect.width plan.lut.rect.height plan.lut.rect.xoffset plan.lut.rect.yoffset
  obtain ⟨info, mmu⟩ := setPaletteMmu_registers active plan mode
  refine ⟨info, Eq.trans mmu ?_⟩
  exact congrArg (fun registers => { registers with mmuInfo := info }) channels

theorem paletteLutReq_registers {session : RgaSession} {plan : PalettePlan} {req : RgaReq}
    (update : paletteLutReq session plan = some req) :
    req.registers = (paletteReqBase session plan).registers := by
  unfold paletteLutReq at update
  split at update
  · contradiction
  · cases update
    rfl

theorem paletteReq_registers (session : RgaSession) (plan : PalettePlan) :
    (paletteReq session plan).registers = (paletteReqBase session plan).registers := by
  unfold paletteReq
  cases update : paletteLutReq session plan with
  | none => rfl
  | some req =>
      have loaded := paletteLutReq_registers update
      exact loaded

theorem generateColorPaletteReq_registers {session : RgaSession} {src dst lut : RgaInfo}
    {lutRet : Int32} {req : RgaReq}
    (built : (generateColorPaletteReq session src dst lut lutRet).2 = .ok req) :
    ∃ plan info, planPalette src dst lut = .ok plan ∧
      req.registers = { clip := dstClip plan.dst.rect, mmuInfo := info } := by
  unfold generateColorPaletteReq at built
  split at built
  · contradiction
  · rename_i plan planned
    obtain ⟨info, base⟩ := paletteReqBase_registers session plan
    have whole := (paletteReq_registers session plan).trans base
    refine ⟨plan, info, planned, ?_⟩
    split at built
    · cases built
      exact whole
    · split at built
      · contradiction
      · cases built
        exact whole

end LibRga
