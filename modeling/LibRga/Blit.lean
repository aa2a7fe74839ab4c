import LibRga.Builder

/-!
`generate_blit_req`: the request of a two- or three-channel blit.

The builder first decides (`planBlit`), then fills the request (`blitReq`); only
the full colour-space conversion can still fail in the second part.
-/

namespace LibRga

structure BlitPlan where
  handleFlag : Bool
  src : Channel
  dst : Channel
  src1 : Option Channel
  stretch : Bool
  interp : RgaInterp
deriving DecidableEq, Repr, Inhabited

def openChannel (info : RgaInfo) : Except BuildExit Channel := do
  let addr ← requireAddr (resolveAddr info)
  .ok { info := info, addr := addr, rect := relRect info.rect }

/-- An empty `src1` rectangle keeps its format and `hstride`. -/
def openSrc1 (src1 : Option RgaInfo) : Except BuildExit (Option Channel) :=
  match src1 with
  | none => .ok none
  | some info => do
      let addr ← requireAddr (resolveAddr info)
      let rect := if isRectValid info.rect then relRect info.rect else info.rect
      .ok (some { info := info, addr := addr, rect := rect })

def checkBlitRects (src dst : Channel) (src1 : Option Channel) : Except BuildExit Unit :=
  if checkRectForRga src.rect = false then .error .srcRect
  else if src1.any (fun channel => !checkRectForRga channel.rect) then .error .src1Rect
  else if checkRectForRga dst.rect = false then .error .dstRect
  else .ok ()

/-- `(float)numerator / denominator` -/
def scaleRatio (numerator denominator : Int32) : ℚ :=
  Float32.div (Float32.ofInt numerator.toInt) (Float32.ofInt denominator.toInt)

structure BlitScale where
  horiz : ℚ
  verti : ℚ
deriving DecidableEq, Repr, Inhabited

/-- Scale from `src` to `src1` when there is one, else to `dst`; a flip hides the rotation. -/
def blitScale (rotation : Int32) (src dst : RgaRect) (src1 : Option RgaRect) : BlitScale :=
  let target := src1.getD dst
  if rotation = halTransformRot90 ∨ rotation = halTransformRot270 then
    ⟨scaleRatio src.width target.height, scaleRatio src.height target.width⟩
  else ⟨scaleRatio src.width target.width, scaleRatio src.height target.height⟩

/-- `1/2`, `1/8` and `1/16` are integer divisions here, so each lower bound is zero. -/
def blitScaleOk (session : RgaSession) (scale : BlitScale) : Bool :=
  if session.driverType = .rga1 ∧ session.coreVersion.minor ≤ 0 ∧
      (scale.horiz < 0 ∨ scale.verti < 0) then false
  else if session.driverType = .rga1 ∧ session.coreVersion.major ≤ 2 ∧
      (scale.horiz < 0 ∨ 8 < scale.horiz ∨ scale.verti < 0 ∨ 8 < scale.verti) then false
  else if scale.horiz < 0 ∨ 16 < scale.horiz ∨ scale.verti < 0 ∨ 16 < scale.verti then false
  else true

/-- Bicubic scaling up reads too wide a line. -/
def bicubicTooWide (scale : BlitScale) (srcWidth dstWidth limit : Int32) : Bool :=
  limit < srcWidth || (limit < dstWidth && 1 < scale.horiz)

def selectInterp (interp : RgaInterp) (scale : BlitScale) (srcWidth dstWidth limit : Int32) :
    RgaInterp :=
  { horiz :=
      if interp.horiz = rgaInterpDefault then
        if 1 < scale.horiz then rgaInterpAverage
        else if scale.horiz < 1 then rgaInterpBicubic
        else interp.horiz
      else interp.horiz
    verti :=
      if interp.verti = rgaInterpDefault then
        if 1 < scale.verti then rgaInterpAverage
        else if scale.verti < 1 then
          if bicubicTooWide scale srcWidth dstWidth limit then rgaInterpLinear
          else rgaInterpBicubic
        else interp.verti
      else interp.verti }

def interpOk (interp : RgaInterp) (scale : BlitScale) (srcWidth dstWidth limit : Int32) : Bool :=
  if interp.verti = rgaInterpBicubic ∧ scale.verti < 1 ∧
      bicubicTooWide scale srcWidth dstWidth limit = true then false
  else if ((1 < scale.verti ∧ interp.verti = rgaInterpLinear) ∨
        (1 < scale.horiz ∧ interp.horiz = rgaInterpLinear)) ∧
      (scale.horiz < 1 ∨ scale.verti < 1) then false
  else true

def requestedInterp (scaleMode : Int32) : RgaInterp :=
  { horiz := toU8 (scaleMode &&& (0xf : Int32))
    verti := toU8 ((scaleMode >>> (4 : Int32)) &&& (0xf : Int32)) }

def planBlit (session : RgaSession) (src dst : RgaInfo) (src1 : Option RgaInfo) :
    Except BuildExit BlitPlan := do
  let handleFlag ← handleMode (src.handle :: dst.handle :: (src1.map RgaInfo.handle).toList)
  let srcChannel ← openChannel src
  let src1Channel ← openSrc1 src1
  let dstChannel ← openChannel dst
  checkBlitRects srcChannel dstChannel src1Channel
  let scale := blitScale src.rotation srcChannel.rect dstChannel.rect (src1Channel.map Channel.rect)
  if blitScaleOk session scale = false then .error .scale
  else
    let limit := session.hardwareInfo.scaleVerBicubicLimit.toInt32
    let srcWidth := srcChannel.rect.width
    let dstWidth := dstChannel.rect.width
    let interp := selectInterp (requestedInterp src.scaleMode) scale srcWidth dstWidth limit
    if interpOk interp scale srcWidth dstWidth limit = false then .error .interp
    else if 1 < scale.verti ∧ interp.verti = rgaInterpLinear ∧ 4096 < dstWidth then .error .interp
    else .ok {
        handleFlag := handleFlag
        src := srcChannel
        dst := dstChannel
        src1 := src1Channel
        stretch := scale.horiz != 1 || scale.verti != 1
        interp := interp
      }

/-! Blending -/

structure BlendWords where
  fgGlobalAlpha : UInt32
  bgGlobalAlpha : UInt32
  blend : UInt32
deriving DecidableEq, Repr, Inhabited

/-- The legacy blend codes are rewritten; every other code keeps its word. -/
def blendWords (blend : UInt32) : BlendWords :=
  let fg := (blend >>> (16 : UInt32)) &&& (0xff : UInt32)
  let bg := (blend >>> (24 : UInt32)) &&& (0xff : UInt32)
  let code := blend &&& (0xfff : UInt32)
  if code = 0x405 then ⟨fg, 0xff, rgaAlphaBlendSrcOver ||| (0x1000 : UInt32)⟩
  else if code = 0x504 then ⟨0xff, 0xff, rgaAlphaBlendDstOver ||| (0x1000 : UInt32)⟩
  else if code = 0x105 then ⟨fg, 0xff, rgaAlphaBlendSrcOver⟩
  else if code = 0x501 then ⟨0xff, 0xff, rgaAlphaBlendDstOver⟩
  else if code = 0x100 then ⟨0xff, 0xff, rgaAlphaBlendSrc⟩
  else ⟨fg, bg, blend⟩

def setBlend (req : RgaReq) (blend : UInt32) : RgaReq :=
  if hasBit blend 0xfff then
    let words := blendWords blend
    let req := { req with feature := { req.feature with globalAlphaEn := true } }
    let req := normalRgaSetAlphaEnInfo req words.fgGlobalAlpha words.bgGlobalAlpha
      (words.blend &&& (0xfff : UInt32))
    if hasBit words.blend 0x1000 then
      { req with alphaRopFlag := req.alphaRopFlag ||| (0x200 : UInt16) }
    else req
  else req

/-- The blend word after the block above, which the Gaussian branch reads again. -/
def blendAfter (blend : UInt32) : UInt32 :=
  if hasBit blend 0xfff then (blendWords blend).blend else blend

/-! Rotation -/

structure Turn where
  orientation : Orientation
  rotateMode : Int32
  /-- `act_w` and `act_h` of `dst` and `src1` change places. -/
  swapped : Bool
deriving DecidableEq, Repr, Inhabited

def turnOf (rotation : Int32) (stretch : Bool) : Turn :=
  let base := rotation &&& (0xf : Int32)
  let turn : Turn :=
    if base = halTransformFlipH then ⟨.deg0, 2, false⟩
    else if base = halTransformFlipV then ⟨.deg0, 3, false⟩
    else if base = halTransformFlipHV then ⟨.deg0, 4, false⟩
    else if base = halTransformRot90 then ⟨.deg90, 1, true⟩
    else if base = halTransformRot180 then ⟨.deg180, 1, false⟩
    else if base = halTransformRot270 then ⟨.deg270, 1, true⟩
    else ⟨.deg0, if stretch then 1 else 0, false⟩
  let mirror := (rotation &&& (0xf0 : Int32)) >>> (4 : Int32)
  let mirrorMode : Int32 :=
    if mirror = halTransformFlipH then 0x20
    else if mirror = halTransformFlipV then 0x30
    else if mirror = halTransformFlipHV then 0x40
    else 0
  { turn with rotateMode := turn.rotateMode ||| mirrorMode }

def setBlitActive (req : RgaReq) (plan : BlitPlan) (turn : Turn) : RgaReq :=
  let src := plan.src.rect
  let dst := plan.dst.rect
  let req := normalRgaSetSrcActiveInfo req src.width src.height src.xoffset src.yoffset
  let req := if turn.swapped then
      normalRgaSetDstActiveInfo req dst.height dst.width dst.xoffset dst.yoffset
    else normalRgaSetDstActiveInfo req dst.width dst.height dst.xoffset dst.yoffset
  match plan.src1 with
  | none => req
  | some channel =>
      let rect := channel.rect
      if turn.swapped then
        normalRgaSetPatActiveInfo req rect.height rect.width rect.xoffset rect.yoffset
      else normalRgaSetPatActiveInfo req rect.width rect.height rect.xoffset rect.yoffset

def dstClip (rect : RgaRect) : Rect :=
  { xmin := 0, xmax := toU16 (rect.wstride - 1), ymin := 0, ymax := toU16 (rect.hstride - 1) }

def setBlitChannels (req : RgaReq) (plan : BlitPlan) (mode : AddressMode) (single : Bool) :
    RgaReq :=
  let clip := dstClip plan.dst.rect
  let req := plan.src.setSrc req mode single
  let req := match plan.src1 with
    | none => req
    | some channel => channel.setPat req mode single clip
  plan.dst.setDst req mode single clip

/-! Colour-space conversion -/

structure CscWords where
  y2r : Int32 := 0
  r2y : Int32 := 0
deriving DecidableEq, Repr, Inhabited

def defaultCsc (srcFormat dstFormat : Int32) (src1Format : Option Int32) : CscWords :=
  let src := rkRgaGetRgaFormat srcFormat
  let dst := rkRgaGetRgaFormat dstFormat
  match src1Format with
  | some format =>
      let src1 := rkRgaGetRgaFormat format
      if isYuvFormat src && isRgbFormat src1 && isRgbFormat dst then
        { y2r := imYuvToRgbBt601Limit }
      else if isYuvFormat src && isRgbFormat src1 && isYuvFormat dst then
        { y2r := imYuvToRgbBt601Limit, r2y := imRgbToYuvBt601Limit }
      else if isRgbFormat src && isRgbFormat src1 && isYuvFormat dst then
        { r2y := imRgbToYuvBt601Limit }
      else {}
  | none =>
      if isYuvFormat src && isRgbFormat dst then { y2r := imYuvToRgbBt601Limit }
      else if isRgbFormat src && isYuvFormat dst then { r2y := imRgbToYuvBt601Limit }
      else {}

def blitCscWords (csc : CscWords) (colorSpaceMode : Int32) : CscWords :=
  let y2r := if has colorSpaceMode imYuvToRgbMask then colorSpaceMode &&& imYuvToRgbMask
    else csc.y2r
  let r2y := if has colorSpaceMode imRgbToYuvMask then colorSpaceMode &&& imRgbToYuvMask
    else csc.r2y
  let full := colorSpaceMode &&& fullCscMask
  { y2r := y2r
    r2y := if full = rgb2yuv709Limit then imRgbToYuvBt709Limit
      else if full = rgb2yuv709Full then 0
      else r2y }

def setFullCsc (req : RgaReq) (colorSpaceMode : Int32) : Except BuildExit RgaReq :=
  if has colorSpaceMode fullCscMask then
    match normalRgaFullColorSpaceConvert req (colorSpaceMode &&& fullCscMask) with
    | none => .error .fullCsc
    | some req => .ok req
  else .ok req

def blitDither (srcFormat dstFormat : Int32) : Bool :=
  let src := rkRgaGetRgaFormat srcFormat
  let dst := rkRgaGetRgaFormat dstFormat
  isRgbFormat src && (src != rkFormatRgb565 || src != rkFormatBgr565) &&
    (dst == rkFormatRgb565 || dst == rkFormatBgr565)

/-! The remaining fields, in the order the builder writes them -/

def setBlitMmu (req : RgaReq) (plan : BlitPlan) (mode : AddressMode) : RgaReq :=
  let srcMmu := plan.src.mmu mode
  let dstMmu := plan.dst.mmu mode
  let req := if srcMmu || dstMmu then normalRgaMmuFlag (normalRgaMmuInfo req) srcMmu dstMmu
    else req
  match plan.src1 with
  | none => req
  | some channel =>
      let flag := if channel.mmu mode then req.mmuInfo.mmuFlag ||| (0xa00 : UInt32)
        else req.mmuInfo.mmuFlag
      { req with mmuInfo := { req.mmuInfo with mmuFlag := flag }, bsfilterFlag := 1 }

def setRop (req : RgaReq) (ropCode : Int32) : RgaReq :=
  if 0 < ropCode then
    { req with ropCode := toU16 ropCode, alphaRopFlag := 0x3, alphaRopMode := 0x1 }
  else req

def setColorKey (req : RgaReq) (src : RgaInfo) : RgaReq :=
  if src.colorkeyEn = 1 then
    let req := { req with alphaRopFlag := req.alphaRopFlag ||| (0x200 : UInt16) }
    if src.colorkeyMode = 0 then
      normalRgaSetSrcTransModeInfo req 0 src.colorkeyMin src.colorkeyMax
    else if src.colorkeyMode = 1 then
      normalRgaSetSrcTransModeInfo req 1 src.colorkeyMin src.colorkeyMax
    else req
  else req

def setGauss (req : RgaReq) (config : RgaGaussConfig) (blend : UInt32) : RgaReq :=
  let req := { req with gaussConfig := config }
  if 0 < config.size then
    { req with
      feature := { req.feature with globalAlphaEn := true }
      fgGlobalAlpha := ((blend >>> (16 : UInt32)) &&& (0xff : UInt32)).toUInt8 }
  else req

def setFeatureBlocks (req : RgaReq) (src : RgaInfo) : RgaReq :=
  let req := { req with osdInfo := src.osdInfo, preIntrInfo := src.preIntr }
  if src.rgba5551Flags = 1 then
    { req with
      rgba5551Alpha := ⟨src.rgba5551Flags, src.rgba5551Alpha0, src.rgba5551Alpha1⟩ }
  else req

def setRdModes (req : RgaReq) (src dst : RgaInfo) (src1 : Option RgaInfo) : RgaReq :=
  { req with
    src := { req.src with rdMode := rdModeOf src.rdMode }
    dst := { req.dst with rdMode := rdModeOf dst.rdMode }
    pat := { req.pat with
      rdMode := match src1 with
        | none => req.pat.rdMode
        | some info => rdModeOf info.rdMode } }

def setSchedule (req : RgaReq) (dst : RgaInfo) : RgaReq :=
  { req with
    inFenceFd := dst.inFenceFd
    core := toU8 dst.core
    priority := toU8 dst.priority }

def blitReqBase (session : RgaSession) (plan : BlitPlan) : RgaReq :=
  let src := plan.src.info
  let req : RgaReq :=
    { feature := { userCloseFence := hasBit session.driverFeature rgaDriverFeatureUserCloseFence }
      handleFlag := if plan.handleFlag then 1 else 0 }
  let req := setBlend req src.blend
  let req := setBlitChannels req plan (addressMode session) plan.handleFlag
  setBlitActive req plan (turnOf src.rotation plan.stretch)

def blitReqRest (req : RgaReq) (plan : BlitPlan) (mode : AddressMode) (yuvToRgbMode : Int32) :
    RgaReq :=
  let src := plan.src.info
  let dst := plan.dst.info
  let turn := turnOf src.rotation plan.stretch
  let req := normalRgaSetBitbltMode req plan.interp turn.rotateMode turn.orientation
    (blitDither plan.src.rect.format plan.dst.rect.format) yuvToRgbMode
  let req := normalRgaNNQuantizeMode req dst.nn
  let req := normalRgaDitherMode req dst.dither plan.dst.rect.format
  let req := setBlitMmu req plan mode
  let req := setRop req src.ropCode
  let req := setColorKey req src
  { req with mosaicInfo := src.mosaicInfo }

def blitReqTail (req : RgaReq) (plan : BlitPlan) : RgaReq :=
  let src := plan.src.info
  let dst := plan.dst.info
  let req := setFeatureBlocks req src
  let req := setRdModes req src dst (plan.src1.map Channel.info)
  setSchedule req dst

def blitReq (session : RgaSession) (plan : BlitPlan) : Except BuildExit RgaReq := do
  let colorSpaceMode := plan.dst.info.colorSpaceMode
  let csc := blitCscWords (defaultCsc plan.src.rect.format plan.dst.rect.format
    (plan.src1.map (fun channel => channel.rect.format))) colorSpaceMode
  let req ← setFullCsc (blitReqBase session plan) colorSpaceMode
  let req := blitReqRest req plan (addressMode session) (csc.r2y ||| csc.y2r)
  let req := setGauss req plan.src.info.gaussConfig (blendAfter plan.src.info.blend)
  .ok (blitReqTail req plan)

def generateBlitReq (session : RgaSession) (src dst : RgaInfo) (src1 : Option RgaInfo) :
    Except BuildExit RgaReq := do
  let plan ← planBlit session src dst src1
  blitReq session plan

end LibRga
