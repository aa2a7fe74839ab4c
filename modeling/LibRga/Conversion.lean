import LibRga.Bounds
import LibRga.Registers
import LibRga.Submit

/-!
The request of an RGA1 or RGA2 driver beside the one it is converted from.

The builder leaves the offset of a turned destination at its top left pixel and exchanges
the active sides for a quarter turn; the conversion moves the offset to the pixel at which
the older drivers start to write.
-/

namespace LibRga

structure SharedImage (img : RgaImgInfo) (converted : Rga2ImgInfo) : Prop where
  yrgbAddr : converted.yrgbAddr = img.yrgbAddr
  uvAddr : converted.uvAddr = img.uvAddr
  vAddr : converted.vAddr = img.vAddr
  format : converted.format = img.format
  actW : converted.actW = img.actW
  actH : converted.actH = img.actH
  virW : converted.virW = img.virW
  virH : converted.virH = img.virH
  endianMode : converted.endianMode = img.endianMode
  alphaSwap : converted.alphaSwap = img.alphaSwap

def SameOffset (img : RgaImgInfo) (converted : Rga2ImgInfo) : Prop :=
  converted.xOffset = img.xOffset ∧ converted.yOffset = img.yOffset

/-- The fields that `rga_req` and `rga2_req` have in common, without the offsets of `dst`. -/
structure SharedFields (req : RgaReq) (converted : Rga2Req) : Prop where
  renderMode : converted.renderMode = req.renderMode
  src : SharedImage req.src converted.src ∧ SameOffset req.src converted.src
  dst : SharedImage req.dst converted.dst
  pat : SharedImage req.pat converted.pat ∧ SameOffset req.pat converted.pat
  ropMaskAddr : converted.ropMaskAddr = req.ropMaskAddr
  lutAddr : converted.lutAddr = req.lutAddr
  clip : converted.clip = req.clip
  sina : converted.sina = req.sina
  cosa : converted.cosa = req.cosa
  alphaRopFlag : converted.alphaRopFlag = req.alphaRopFlag
  scaleMode : converted.scaleMode = req.scaleMode
  colorKeyMax : converted.colorKeyMax = req.colorKeyMax
  colorKeyMin : converted.colorKeyMin = req.colorKeyMin
  fgColor : converted.fgColor = req.fgColor
  bgColor : converted.bgColor = req.bgColor
  grColor : converted.grColor = req.grColor
  lineDrawInfo : converted.lineDrawInfo = req.lineDrawInfo
  fading : converted.fading = req.fading
  pdMode : converted.pdMode = req.pdMode
  alphaGlobalValue : converted.alphaGlobalValue = req.alphaGlobalValue
  ropCode : converted.ropCode = req.ropCode
  bsfilterFlag : converted.bsfilterFlag = req.bsfilterFlag
  paletteMode : converted.paletteMode = req.paletteMode
  yuv2rgbMode : converted.yuv2rgbMode = req.yuv2rgbMode
  endianMode : converted.endianMode = req.endianMode
  rotateMode : converted.rotateMode = req.rotateMode
  colorFillMode : converted.colorFillMode = req.colorFillMode
  mmuInfo : converted.mmuInfo = req.mmuInfo
  alphaRopMode : converted.alphaRopMode = req.alphaRopMode
  srcTransMode : converted.srcTransMode = req.srcTransMode
  ditherMode : converted.ditherMode = req.ditherMode
  fullCsc : converted.fullCsc = req.fullCsc

/-- A rectangle with pixels, inside a virtual size of 16 bits. -/
structure RgaRect.Within (rect : RgaRect) : Prop where
  left : 0 ≤ rect.xoffset.toInt
  top : 0 ≤ rect.yoffset.toInt
  width : 0 < rect.width.toInt
  height : 0 < rect.height.toInt
  right : rect.xoffset.toInt + rect.width.toInt ≤ rect.wstride.toInt
  bottom : rect.yoffset.toInt + rect.height.toInt ≤ rect.hstride.toInt
  virtual : rect.wstride.toInt < 65536 ∧ rect.hstride.toInt < 65536

/-- Where the older drivers start: at the top right, bottom right or bottom left pixel of a turned
rectangle, else at the top left one. -/
def RgaRect.corner (rect : RgaRect) (rotation : Int32) : Int × Int :=
  let base := rotation &&& (0xf : Int32)
  let lastX := rect.xoffset.toInt + rect.width.toInt - 1
  let lastY := rect.yoffset.toInt + rect.height.toInt - 1
  if base = halTransformRot90 then (lastX, rect.yoffset.toInt)
  else if base = halTransformRot180 then (lastX, lastY)
  else if base = halTransformRot270 then (rect.xoffset.toInt, lastY)
  else (rect.xoffset.toInt, rect.yoffset.toInt)

/-! The shared fields -/

theorem compatDstOffset_shared (sina cosa : Int32) (img : RgaImgInfo) :
    SharedImage img
      (compatDstOffset sina cosa (normalRgaCompatModeConvertRga2ImgeInfo img)) := by
  unfold compatDstOffset
  split_ifs <;> exact ⟨rfl, rfl, rfl, rfl, rfl, rfl, rfl, rfl, rfl, rfl⟩

theorem converted_shared (req : RgaReq) :
    SharedFields req (normalRgaCompatModeConvertRga2 req) := by
  have plain (img : RgaImgInfo) :
      SharedImage img (normalRgaCompatModeConvertRga2ImgeInfo img) ∧
        SameOffset img (normalRgaCompatModeConvertRga2ImgeInfo img) :=
    ⟨⟨rfl, rfl, rfl, rfl, rfl, rfl, rfl, rfl, rfl, rfl⟩, rfl, rfl⟩
  constructor
  case src => exact plain req.src
  case dst => exact compatDstOffset_shared req.sina req.cosa req.dst
  case pat => exact plain req.pat
  all_goals rfl

/-! The offset of a turned destination -/

theorem lastPixel_toNat {offset length : UInt16} (some : 0 < length.toNat)
    (inside : offset.toNat + length.toNat < 65536) :
    (offset + length - 1).toNat + 1 = offset.toNat + length.toNat := by
  have one : (1 : UInt16).toNat = 1 := rfl
  rw [UInt16.toNat_sub, UInt16.toNat_add, one]
  omega

theorem compatDstOffset_turned (turn : Orientation) (img : Rga2ImgInfo) :
    compatDstOffset (sinaTable turn) (cosaTable turn) img =
      match turn with
      | .deg0 => img
      | .deg90 => { img with xOffset := img.xOffset + img.actH - 1 }
      | .deg180 =>
          { img with
            xOffset := img.xOffset + img.actW - 1, yOffset := img.yOffset + img.actH - 1 }
      | .deg270 => { img with yOffset := img.yOffset + img.actW - 1 } := by
  cases turn <;> rfl

theorem turnOf_cases (rotation : Int32) (stretch : Bool) :
    ((turnOf rotation stretch).orientation, (turnOf rotation stretch).swapped) =
      if rotation &&& (0xf : Int32) = halTransformRot90 then (.deg90, true)
      else if rotation &&& (0xf : Int32) = halTransformRot180 then (.deg180, false)
      else if rotation &&& (0xf : Int32) = halTransformRot270 then (.deg270, true)
      else (.deg0, false) := by
  unfold turnOf
  generalize rotation &&& (0xf : Int32) = base
  dsimp only
  split_ifs <;> first | rfl | (subst base; contradiction)

section Built

variable {session : RgaSession} {src dst : RgaInfo} {src1 : Option RgaInfo} {req : RgaReq}

structure TurnedDst (src dst : RgaInfo) (req : RgaReq) (turn : Orientation) (swapped : Bool) :
    Prop where
  orientation : (turn, swapped) =
    if src.rotation &&& (0xf : Int32) = halTransformRot90 then (.deg90, true)
    else if src.rotation &&& (0xf : Int32) = halTransformRot180 then (.deg180, false)
    else if src.rotation &&& (0xf : Int32) = halTransformRot270 then (.deg270, true)
    else (.deg0, false)
  sina : req.sina = sinaTable turn
  cosa : req.cosa = cosaTable turn
  xOffset : req.dst.xOffset = toU16 (relRect dst.rect).xoffset
  yOffset : req.dst.yOffset = toU16 (relRect dst.rect).yoffset
  actW : req.dst.actW =
    toU16 (if swapped then (relRect dst.rect).height else (relRect dst.rect).width)
  actH : req.dst.actH =
    toU16 (if swapped then (relRect dst.rect).width else (relRect dst.rect).height)

theorem generateBlitReq_turned (built : generateBlitReq session src dst src1 = .ok req) :
    ∃ turn swapped, TurnedDst src dst req turn swapped := by
  obtain ⟨plan, planned, finished⟩ := generateBlitReq_finished built
  obtain ⟨same, samePlanned, registers⟩ := generateBlitReq_registers built
  cases planned.symm.trans samePlanned
  have plans := planBlit_planned planned
  obtain ⟨_, dstRect, _⟩ := plans.rects_eq
  have srcInfo := (openChannel_ok plans.src).1
  obtain ⟨rdMode, image⟩ := finished.dst
  refine ⟨_, _, (turnOf_cases plan.src.info.rotation plan.stretch).trans ?_, finished.sina,
    congrArg Registers.cosa registers, ?_, ?_, ?_, ?_⟩
  · rw [srcInfo]
  all_goals
    rw [image, Channel.image, dstRect]
    rfl

theorem converted_corner (built : generateBlitReq session src dst src1 = .ok req)
    (within : (relRect dst.rect).Within) :
    (((normalRgaCompatModeConvertRga2 req).dst.xOffset.toNat : Int),
        ((normalRgaCompatModeConvertRga2 req).dst.yOffset.toNat : Int)) =
      (relRect dst.rect).corner src.rotation := by
  obtain ⟨turn, swapped, turned⟩ := generateBlitReq_turned built
  obtain ⟨left, top, width, height, right, bottom, virtual⟩ := within
  have x := toU16_toNat (relRect dst.rect).xoffset left (by omega)
  have y := toU16_toNat (relRect dst.rect).yoffset top (by omega)
  have w := toU16_toNat (relRect dst.rect).width (by omega) (by omega)
  have h := toU16_toNat (relRect dst.rect).height (by omega) (by omega)
  have lastX := @lastPixel_toNat (toU16 (relRect dst.rect).xoffset)
    (toU16 (relRect dst.rect).width) (by omega) (by omega)
  have lastY := @lastPixel_toNat (toU16 (relRect dst.rect).yoffset)
    (toU16 (relRect dst.rect).height) (by omega) (by omega)
  have orientation := turned.orientation
  have offset : (normalRgaCompatModeConvertRga2 req).dst =
    compatDstOffset req.sina req.cosa (normalRgaCompatModeConvertRga2ImgeInfo req.dst) := rfl
  rw [offset, turned.sina, turned.cosa, compatDstOffset_turned]
  unfold RgaRect.corner
  dsimp only
  split_ifs at orientation ⊢ with quarter half threeQuarters
  · cases orientation
    simp only [normalRgaCompatModeConvertRga2ImgeInfo, turned.xOffset, turned.yOffset,
      turned.actH, if_true, Prod.mk.injEq]
    omega
  · cases orientation
    simp only [normalRgaCompatModeConvertRga2ImgeInfo, turned.xOffset, turned.yOffset,
      turned.actW, turned.actH, Bool.false_eq_true, if_false, Prod.mk.injEq]
    omega
  · cases orientation
    simp only [normalRgaCompatModeConvertRga2ImgeInfo, turned.xOffset, turned.yOffset,
      turned.actW, if_true, Prod.mk.injEq]
    omega
  · cases orientation
    simp only [normalRgaCompatModeConvertRga2ImgeInfo, turned.xOffset, turned.yOffset,
      Prod.mk.injEq]
    omega

theorem converted_unturned (built : generateBlitReq session src dst src1 = .ok req)
    (unturned : src.rotation &&& (0xf : Int32) ∉
      [halTransformRot90, halTransformRot180, halTransformRot270]) :
    SameOffset req.dst (normalRgaCompatModeConvertRga2 req).dst := by
  obtain ⟨turn, swapped, turned⟩ := generateBlitReq_turned built
  simp only [List.mem_cons, List.not_mem_nil, or_false, not_or] at unturned
  have orientation := turned.orientation
  rw [if_neg unturned.1, if_neg unturned.2.1, if_neg unturned.2.2] at orientation
  cases orientation
  have offset : (normalRgaCompatModeConvertRga2 req).dst =
    compatDstOffset req.sina req.cosa (normalRgaCompatModeConvertRga2ImgeInfo req.dst) := rfl
  rw [offset, turned.sina, turned.cosa, compatDstOffset_turned]
  exact ⟨rfl, rfl⟩

end Built

/-- Nothing but the offsets of `dst` changes, and for the requests of the blit builder they move
to the pixel at which a turned destination begins. -/
theorem compatConversion_settled :
    (∀ req, SharedFields req (normalRgaCompatModeConvertRga2 req)) ∧
      ∀ session src dst src1 req, generateBlitReq session src dst src1 = .ok req →
        ((relRect dst.rect).Within →
          (((normalRgaCompatModeConvertRga2 req).dst.xOffset.toNat : Int),
              ((normalRgaCompatModeConvertRga2 req).dst.yOffset.toNat : Int)) =
            (relRect dst.rect).corner src.rotation) ∧
        (src.rotation &&& (0xf : Int32) ∉
            [halTransformRot90, halTransformRot180, halTransformRot270] →
          SameOffset req.dst (normalRgaCompatModeConvertRga2 req).dst) := by
  refine ⟨converted_shared, ?_⟩
  intro session src dst src1 req built
  exact ⟨converted_corner built, converted_unturned built⟩

def quarterSrc : RgaInfo :=
  { virAddr := 0x10000, rotation := halTransformRot90
    rect := { width := 100, height := 50, wstride := 100, hstride := 50 } }

def quarterDst : RgaInfo :=
  { virAddr := 0x20000
    rect := { xoffset := 10, yoffset := 20, width := 50, height := 100
              wstride := 200, hstride := 200 } }

/-- A quarter turn into columns 10 to 59 starts in column 59. -/
theorem compatConversion_settled_quarter :
    ∃ req, generateBlitReq { driverType := .rga2 } quarterSrc quarterDst none = .ok req ∧
      (((normalRgaCompatModeConvertRga2 req).dst.xOffset.toNat : Int),
        ((normalRgaCompatModeConvertRga2 req).dst.yOffset.toNat : Int)) = (59, 20) := by
  have accepted :
      (generateBlitReq { driverType := .rga2 } quarterSrc quarterDst none).isOk = true := by
    decide +kernel
  cases built : generateBlitReq { driverType := .rga2 } quarterSrc quarterDst none with
  | error exit =>
      rw [built] at accepted
      cases accepted
  | ok req =>
      have within : (relRect quarterDst.rect).Within := by
        constructor <;> decide
      have corner : (relRect quarterDst.rect).corner quarterSrc.rotation = (59, 20) := by
        decide
      refine ⟨req, rfl, ?_⟩
      rw [(compatConversion_settled.2 _ _ _ _ req built).1 within, corner]

/-! The global alpha -/

/-- Bits 16 to 23 of the blend word; the legacy codes without a global alpha have it at its
maximum. -/
def foregroundAlpha (blend : UInt32) : UInt8 :=
  (blendWords blend).fgGlobalAlpha.toUInt8

def CarriesNoAlpha (blend : UInt32) : Prop :=
  (blend >>> (16 : UInt32)) &&& (0xff : UInt32) = 0 ∧
    blend &&& (0xfff : UInt32) ∉ ([0x504, 0x501, 0x100] : List UInt32)

instance (blend : UInt32) : Decidable (CarriesNoAlpha blend) :=
  inferInstanceAs (Decidable (_ ∧ _))

theorem setBlend_alpha (req : RgaReq) (blend : UInt32) :
    (setBlend req blend).alphaGlobalValue = req.alphaGlobalValue := by
  unfold setBlend
  dsimp only
  split_ifs <;> rfl

theorem setBlitChannels_alpha (req : RgaReq) (plan : BlitPlan) (mode : AddressMode)
    (single : Bool) :
    (setBlitChannels req plan mode single).alphaGlobalValue = req.alphaGlobalValue := by
  have source (channel : Channel) (req : RgaReq) :
      (channel.setSrc req mode single).alphaGlobalValue = req.alphaGlobalValue := by
    unfold Channel.setSrc
    dsimp only
    split_ifs <;> rfl
  have pattern (channel : Channel) (req : RgaReq) (clip : Rect) :
      (channel.setPat req mode single clip).alphaGlobalValue = req.alphaGlobalValue := by
    unfold Channel.setPat
    dsimp only
    split_ifs <;> rfl
  have destination (channel : Channel) (req : RgaReq) (clip : Rect) :
      (channel.setDst req mode single clip).alphaGlobalValue = req.alphaGlobalValue := by
    unfold Channel.setDst
    dsimp only
    split_ifs <;> rfl
  unfold setBlitChannels
  dsimp only
  rw [destination]
  cases plan.src1 with
  | none => exact source _ _
  | some channel => exact (pattern _ _ _).trans (source _ _)

theorem setBlitActive_alpha (req : RgaReq) (plan : BlitPlan) (turn : Turn) :
    (setBlitActive req plan turn).alphaGlobalValue = req.alphaGlobalValue := by
  unfold setBlitActive
  dsimp only
  split <;> split <;> rfl

theorem setFullCsc_alpha {req after : RgaReq} {mode : Int32}
    (converted : setFullCsc req mode = .ok after) :
    after.alphaGlobalValue = req.alphaGlobalValue := by
  obtain ⟨_, _, _, rfl⟩ := setFullCsc_writes converted
  rfl

theorem blitReqRest_alpha (req : RgaReq) (plan : BlitPlan) (mode : AddressMode) (word : Int32) :
    (blitReqRest req plan mode word).alphaGlobalValue = req.alphaGlobalValue := by
  have quantized (req : RgaReq) (nn : RgaNn) :
      (normalRgaNNQuantizeMode req nn).alphaGlobalValue = req.alphaGlobalValue := by
    unfold normalRgaNNQuantizeMode
    split <;> rfl
  have dithered (req : RgaReq) (dither : RgaDither) (format : Int32) :
      (normalRgaDitherMode req dither format).alphaGlobalValue = req.alphaGlobalValue := by
    unfold normalRgaDitherMode
    dsimp only
    split <;> split <;> rfl
  have mapped (req : RgaReq) : (setBlitMmu req plan mode).alphaGlobalValue =
      req.alphaGlobalValue := by
    unfold setBlitMmu
    dsimp only
    split <;> split <;> rfl
  have roped (req : RgaReq) (code : Int32) :
      (setRop req code).alphaGlobalValue = req.alphaGlobalValue := by
    unfold setRop
    split <;> rfl
  have keyed (req : RgaReq) (src : RgaInfo) :
      (setColorKey req src).alphaGlobalValue = req.alphaGlobalValue := by
    unfold setColorKey
    dsimp only
    split_ifs <;> rfl
  unfold blitReqRest
  dsimp only
  rw [keyed, roped, mapped, dithered, quantized]
  rfl

theorem setGauss_alpha (req : RgaReq) (config : RgaGaussConfig) (blend : UInt32) :
    (setGauss req config blend).alphaGlobalValue = req.alphaGlobalValue := by
  unfold setGauss
  dsimp only
  split <;> rfl

theorem blitReqTail_alpha (req : RgaReq) (plan : BlitPlan) :
    (blitReqTail req plan).alphaGlobalValue = req.alphaGlobalValue := by
  unfold blitReqTail setFeatureBlocks
  dsimp only
  split <;> rfl

open Result in
/-- No step of the builder writes the one alpha field of the older layout. -/
theorem generateBlitReq_alpha {session : RgaSession} {src dst : RgaInfo} {src1 : Option RgaInfo}
    {req : RgaReq} (built : generateBlitReq session src dst src1 = .ok req) :
    req.alphaGlobalValue = 0 := by
  simp only [generateBlitReq, blitReq, bind_eq_ok] at built
  obtain ⟨plan, planned, converted, conversion, filled⟩ := built
  cases filled
  rw [blitReqTail_alpha, setGauss_alpha, blitReqRest_alpha, setFullCsc_alpha conversion]
  unfold blitReqBase
  dsimp only
  rw [setBlitActive_alpha, setBlitChannels_alpha, setBlend_alpha]

theorem foregroundAlpha_eq_zero_iff (blend : UInt32) :
    foregroundAlpha blend = 0 ↔ CarriesNoAlpha blend := by
  have byte : ((blend >>> (16 : UInt32)) &&& (0xff : UInt32)).toUInt8 = 0 ↔
      (blend >>> (16 : UInt32)) &&& (0xff : UInt32) = 0 := by
    rw [← UInt8.toNat_inj, ← UInt32.toNat_inj, UInt32.toNat_toUInt8]
    have small : ((blend >>> (16 : UInt32)) &&& (0xff : UInt32)).toNat ≤ 255 := by
      rw [UInt32.toNat_and]
      exact Nat.and_le_right
    have zero : (0 : UInt8).toNat = 0 ∧ (0 : UInt32).toNat = 0 := ⟨rfl, rfl⟩
    omega
  unfold foregroundAlpha CarriesNoAlpha blendWords
  generalize blend &&& (0xfff : UInt32) = code
  dsimp only
  simp only [List.mem_cons, List.not_mem_nil, or_false, not_or]
  have alphaless {rest : Prop} (listed : ¬rest) :
      (0xff : UInt32).toUInt8 = 0 ↔
        ((blend >>> (16 : UInt32)) &&& (0xff : UInt32) = 0 ∧ rest) :=
    iff_of_false (by decide) fun carries => listed carries.2
  split_ifs with overMultiplied underMultiplied dstOver srcOver source
  · rw [byte, overMultiplied]
    exact (and_iff_left (by decide)).symm
  · exact alphaless fun other => other.1 underMultiplied
  · rw [byte, dstOver]
    exact (and_iff_left (by decide)).symm
  · exact alphaless fun other => other.2.1 srcOver
  · exact alphaless fun other => other.2.2 source
  · rw [byte]
    exact (and_iff_left ⟨underMultiplied, srcOver, source⟩).symm

/-- The older drivers get the foreground alpha of a blend exactly when there is none to get. -/
theorem compatConversion_alpha_iff {session : RgaSession} {src dst : RgaInfo}
    {src1 : Option RgaInfo} {req : RgaReq}
    (built : generateBlitReq session src dst src1 = .ok req)
    (older : session.driverType = .rga1 ∨ session.driverType = .rga2) :
    ∃ image, blitArg session req = some (.rga2Req image) ∧
      ((hasBit src.blend 0xfff = true → image.alphaGlobalValue = foregroundAlpha src.blend) ↔
        (hasBit src.blend 0xfff = true → CarriesNoAlpha src.blend)) := by
  refine ⟨normalRgaCompatModeConvertRga2 req, ?_, ?_⟩
  · unfold blitArg
    rcases older with driver | driver <;> rw [driver]
  · have kept := (converted_shared req).alphaGlobalValue
    rw [kept, generateBlitReq_alpha built, ← foregroundAlpha_eq_zero_iff]
    exact forall_congr' fun _ => eq_comm

def blendedSrc : RgaInfo :=
  { virAddr := 0x10000, blend := 0x800105
    rect := { width := 100, height := 50, wstride := 100, hstride := 50 } }

def blendedDst : RgaInfo :=
  { virAddr := 0x20000
    rect := { width := 100, height := 50, wstride := 100, hstride := 50 } }

/-- A source-over blend with half the alpha. -/
theorem compatConversion_drops_alpha :
    let session : RgaSession := { driverType := .rga2 }
    foregroundAlpha blendedSrc.blend = 0x80 ∧
      ((generateBlitReq session blendedSrc blendedDst none).toOption.bind fun req =>
        some (req.fgGlobalAlpha, (normalRgaCompatModeConvertRga2 req).alphaGlobalValue)) =
          some (0x80, 0) := by
  decide +kernel

theorem compatConversion_alpha_none :
    ∃ req image, generateBlitReq { driverType := .rga2 } { blendedSrc with blend := 0x105 }
        blendedDst none = .ok req ∧
      blitArg { driverType := .rga2 } req = some (.rga2Req image) ∧
      image.alphaGlobalValue = foregroundAlpha 0x105 := by
  have accepted : (generateBlitReq { driverType := .rga2 } { blendedSrc with blend := 0x105 }
      blendedDst none).isOk = true := by
    decide +kernel
  cases built : generateBlitReq { driverType := .rga2 } { blendedSrc with blend := 0x105 }
      blendedDst none with
  | error exit =>
      rw [built] at accepted
      cases accepted
  | ok req =>
      obtain ⟨image, passed, carries⟩ := compatConversion_alpha_iff built (.inr rfl)
      exact ⟨req, image, rfl, passed, carries.mpr (by decide) (by decide)⟩

end LibRga
