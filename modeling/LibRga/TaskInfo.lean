import LibRga.Check
import LibRga.Request

/-!
The first half of `rga_task_submit`: from buffers, options and usage to the
`rga_info_t` records the builders read.
-/

namespace LibRga

/-! Options -/

def apiVersion (word : UInt32) : RgaVersion :=
  { major := (word >>> (24 : UInt32)) &&& (0xff : UInt32)
    minor := (word >>> (16 : UInt32)) &&& (0xff : UInt32)
    revision := (word >>> (8 : UInt32)) &&& (0xff : UInt32) }

def rgaVersionCompare (version1 version2 : RgaVersion) : Ordering :=
  (compare version1.major version2.major).then <|
  (compare version1.minor version2.minor).then <|
  compare version1.revision version2.revision

/-- Options with a version word from before `1.7.2` lack the later blocks. -/
def rgaGetOpt : Option ImOpt → ImOpt
  | none => {}
  | some opt =>
      if rgaVersionCompare (apiVersion opt.version) ⟨2, 0, 0⟩ = .gt then {}
      else if rgaVersionCompare (apiVersion opt.version) ⟨1, 7, 2⟩ ≠ .gt then
        { color := opt.color
          colorkeyRange := opt.colorkeyRange
          nn := opt.nn
          ropCode := opt.ropCode
          priority := opt.priority
          core := opt.core }
      else opt

/-! Buffers -/

def rgaSetBufferInfo (image : RgaBuffer) (info : RgaInfo) : ImStatus × RgaInfo :=
  if 0 < image.handle then (.success, { info with handle := image.handle.toInt32 })
  else if image.phyAddr ≠ 0 then (.success, { info with phyAddr := image.phyAddr })
  else if 0 < image.fd then (.success, { info with fd := image.fd, mmuFlag := 1 })
  else if image.virAddr ≠ 0 then (.success, { info with virAddr := image.virAddr, mmuFlag := 1 })
  else (.invalidParam, info)

def rgaSetRect (rect : ImRect) (image : RgaBuffer) : RgaRect :=
  { xoffset := rect.x
    yoffset := rect.y
    width := image.width
    height := image.height
    wstride := image.wstride
    hstride := image.hstride
    format := image.format }

/-! Scaling, transform, blending -/

def taskScaleMode (interp : Int32) : Int32 :=
  if has interp imInterpHorizFlag || has interp imInterpVertiFlag then
    (if has interp imInterpHorizFlag then interp &&& imInterpMask else 0) |||
    (if has interp imInterpVertiFlag then interp &&& (imInterpMask <<< imInterpVertiShift) else 0)
  else
    (interp &&& imInterpMask) ||| ((interp &&& imInterpMask) <<< imInterpVertiShift)

/-- A flip beside a rotation goes into the high half of the word. -/
def taskRotation (usage : Int32) : Int32 :=
  if has usage imHalTransformMask then
    let turn := usage &&& imHalTransformRotMask
    let rotation : Int32 :=
      if turn = imHalTransformRot90 then halTransformRot90
      else if turn = imHalTransformRot180 then halTransformRot180
      else if turn = imHalTransformRot270 then halTransformRot270
      else 0
    let flip := usage &&& imHalTransformFlipMask
    let mirror : Int32 :=
      if flip = imHalTransformFlipV then halTransformFlipV
      else if flip = imHalTransformFlipH then halTransformFlipH
      else if flip = imHalTransformFlipHV then halTransformFlipHV
      else 0
    if rotation ≠ 0 then rotation ||| (mirror <<< (4 : Int32)) else rotation ||| mirror
  else 0

def taskBlendCode (usage : Int32) : UInt32 :=
  let mode := usage &&& imAlphaBlendMask
  if mode = imAlphaBlendSrc then rgaAlphaBlendSrc
  else if mode = imAlphaBlendDst then rgaAlphaBlendDst
  else if mode = imAlphaBlendSrcOver then rgaAlphaBlendSrcOver
  else if mode = imAlphaBlendDstOver then rgaAlphaBlendDstOver
  else if mode = imAlphaBlendSrcIn then rgaAlphaBlendSrcIn
  else if mode = imAlphaBlendDstIn then rgaAlphaBlendDstIn
  else if mode = imAlphaBlendSrcOut then rgaAlphaBlendSrcOut
  else if mode = imAlphaBlendDstOut then rgaAlphaBlendDstOut
  else if mode = imAlphaBlendSrcAtop then rgaAlphaBlendSrcAtop
  else if mode = imAlphaBlendDstAtop then rgaAlphaBlendDstAtop
  else if mode = imAlphaBlendXor then rgaAlphaBlendXor
  else 0

def taskBlend (usage srcAlpha dstAlpha : Int32) : UInt32 :=
  let fg := (srcAlpha.toUInt32 &&& (0xff : UInt32)) <<< (16 : UInt32)
  let bg := (dstAlpha.toUInt32 &&& (0xff : UInt32)) <<< (24 : UInt32)
  let blend : UInt32 :=
    if has usage imAlphaBlendMask then
      taskBlendCode usage ||| (if has usage imAlphaBlendPreMul then 0x1000 else 0) ||| fg ||| bg
    else 0
  let blend :=
    if has usage imAlphaColorkeyMask && !hasBit blend 0xfff then blend ||| (0xffff1001 : UInt32)
    else blend
  if has usage imGauss then blend ||| fg else blend

/-! Blocks that the options fill -/

def isRgba5551Format (format : Int32) : Bool :=
  format == rkFormatRgba5551 || format == rkFormatBgra5551 || format == rkFormatArgb1555 ||
    format == rkFormatAbgr1555

def osdInvertEnable (channel : Int32) : UInt8 :=
  if channel = imOsdInvertChannelNone then 0x6
  else if channel = imOsdInvertChannelYG then 0x4
  else if channel = imOsdInvertChannelCRb then 0x2
  else if channel = imOsdInvertChannelAlpha then 0x7
  else if channel = imOsdInvertChannelColor then 0
  else if channel = imOsdInvertChannelBoth then 0x1
  else 0

def taskOsd (usage : Int32) (osd : ImOsd) (patFormat : Int32) : RgaOsdInfo :=
  if has usage imOsd then
    let block := osd.blockParm
    let invert := osd.invertConfig
    { enable := 1
      modeCtrl :=
        { mode := toU8 osd.osdMode
          directionMode := toU8 block.direction
          widthMode := toU8 block.widthMode
          blockFixWidth := if block.widthMode = imOsdBlockModeNormal then toU16 block.width else 0
          blockNum := toU8 block.blockCount
          flagsIndex := toU16 invert.flagsIndex
          colorMode := toU8 block.colorMode
          invertFlagsMode := toU8 invert.flagsMode
          defaultColorSel := toU8 block.backgroundConfig
          invertEnable := osdInvertEnable invert.invertChannel
          invertMode := toU8 invert.invertMode
          invertThresh := toU8 invert.threash
          unfixIndex := if block.widthMode = imOsdBlockModeDifferent then toU8 block.width else 0 }
      calFactor := if invert.invertMode = imOsdInvertUseFactor then invert.factor else {}
      bpp2Info := if patFormat = rkFormatRgba2bpp then osd.bpp2Info
        else { color0 := block.normalColor, color1 := block.invertColor }
      lastFlags := invert.invertFlags
      curFlags := invert.currentFlags }
  else {}

def taskNn (usage : Int32) (nn : ImNn) : RgaNn :=
  if has usage imNnQuantize then
    { nnFlag := 1
      scaleR := nn.scaleR
      scaleG := nn.scaleG
      scaleB := nn.scaleB
      offsetR := nn.offsetR
      offsetG := nn.offsetG
      offsetB := nn.offsetB }
  else {}

def taskPreIntr (usage : Int32) (config : ImIntrConfig) : RgaPreIntrInfo :=
  if has usage imPreIntr then
    let read := hasBit config.flags imIntrReadIntr
    let write := hasBit config.flags imIntrWriteIntr
    { enable := 1
      readIntrEn := if read then 1 else 0
      readHoldEn := if read && hasBit config.flags imIntrReadHold then 1 else 0
      readThreshold := if read then config.readThreshold.toUInt32 else 0
      writeIntrEn := if write then 1 else 0
      writeStart := if write then config.writeStart.toUInt32 else 0
      writeStep := if write then config.writeStep.toUInt32 else 0 }
  else {}

def taskDither (dst : RgaBuffer) : RgaDither :=
  if dst.format = rkFormatY4 ∨ dst.format = rkFormatY8 then
    { enable := if dst.colorSpaceMode = imRgbToY4 then 0 else 1
      mode := if dst.colorSpaceMode = imRgbToY1Dither then 1 else 0
      lut0L := 0x3210
      lut0H := 0x7654
      lut1L := 0xba98
      lut1H := 0xfedc }
  else {}

/-! Colour space -/

def rgaGetDefaultCscMode (format : Int32) : Int32 :=
  if isRgbFormat format then imRgbFull
  else if isYuvFormat format then imYuvBt601LimitRange
  else 0

/-- A conversion without an encoding gives the status code as if it were a mode word. -/
def rgaGetCscMode (entry : RgaInfoTableEntry) (input output : Int32) : Int32 :=
  let unsupported := ImStatus.notSupported.toInt32
  if input = imRgbFull then
    if output = imYuvBt601LimitRange then imRgbToYuvBt601Limit
    else if output = imYuvBt601FullRange then imRgbToYuvBt601Full
    else if output = imYuvBt709LimitRange then
      if hasBit entry.feature imRgaSupportFeatureDstFullCsc then rgb2yuv709Limit
      else imRgbToYuvBt709Limit
    else if output = imYuvBt709FullRange then rgb2yuv709Full
    else if output = imRgbFull then 0
    else unsupported
  else if input = imYuvBt601LimitRange then
    if output = imRgbFull then imYuvToRgbBt601Limit
    else if output = imYuvBt601FullRange then yuv2yuv601Limit2601Full
    else if output = imYuvBt709LimitRange then yuv2yuv601Limit2709Limit
    else if output = imYuvBt709FullRange then yuv2yuv601Limit2709Full
    else if output = imYuvBt601LimitRange then 0
    else unsupported
  else if input = imYuvBt601FullRange then
    if output = imRgbFull then imYuvToRgbBt601Full
    else if output = imYuvBt601LimitRange then yuv2yuv601Full2601Limit
    else if output = imYuvBt709LimitRange then yuv2yuv601Full2709Limit
    else if output = imYuvBt709FullRange then yuv2yuv601Full2709Full
    else if output = imYuvBt601FullRange then 0
    else unsupported
  else if input = imYuvBt709LimitRange then
    if output = imRgbFull then imYuvToRgbBt709Limit
    else if output = imYuvBt601LimitRange then yuv2yuv709Limit2601Limit
    else if output = imYuvBt601FullRange then yuv2yuv709Limit2601Full
    else if output = imYuvBt709FullRange then yuv2yuv709Limit2709Full
    else if output = imYuvBt709LimitRange then 0
    else unsupported
  else if input = imYuvBt709FullRange then
    if output = imRgbFull then yuv2rgb709Full
    else if output = imYuvBt601LimitRange then yuv2yuv709Full2601Limit
    else if output = imYuvBt601FullRange then yuv2yuv709Full2601Full
    else if output = imYuvBt709LimitRange then yuv2yuv709Full2709Limit
    else if output = imYuvBt709FullRange then 0
    else unsupported
  else unsupported

def bufferColorSpace (image : RgaBuffer) : Int32 :=
  if image.colorSpaceMode = imColorSpaceDefault then rgaGetDefaultCscMode image.format
  else image.colorSpaceMode

/-- `dstinfo.color_space_mode`, or the refusal of a mode that does not fit the formats. -/
def taskColorSpaceMode (entry : RgaInfoTableEntry) (src dst pat : RgaBuffer) :
    Except ImStatus Int32 :=
  let mode := dst.colorSpaceMode
  let y2r := mode &&& imYuvToRgbMask
  let r2y := mode &&& imRgbToYuvMask
  let pattern := rgaIsBufferValid pat && isRgbFormat pat.format
  -- for BT.709 limited range the full conversion is preferred where there is one
  let full709 := r2y = imRgbToYuvBt709Limit ∧
    hasBit entry.feature imRgaSupportFeatureDstFullCsc = true
  if y2r ≠ 0 ∧ r2y ≠ 0 then
    if pattern && isYuvFormat src.format && isYuvFormat dst.format then
      .ok (if full709 then y2r ||| rgb2yuv709Limit else mode)
    else .error .illegalParam
  else if y2r ≠ 0 then
    if isYuvFormat src.format && isRgbFormat dst.format then .ok mode
    else .error .illegalParam
  else if r2y ≠ 0 then
    if pattern && isRgbFormat src.format && isYuvFormat dst.format then .ok mode
    else if isRgbFormat src.format && isYuvFormat dst.format then
      .ok (if full709 then rgb2yuv709Limit else mode)
    else .error .illegalParam
  else if has src.colorSpaceMode imFullCscMask || has pat.colorSpaceMode imFullCscMask ||
      has mode imFullCscMask then
    let input := bufferColorSpace src
    let output := bufferColorSpace dst
    if rgaIsBufferValid pat then
      if isRgbFormat pat.format then
        let between := bufferColorSpace pat
        .ok (rgaGetCscMode entry input between ||| rgaGetCscMode entry between output)
      else .error .illegalParam
    else .ok (rgaGetCscMode entry input output)
  else .ok 0

end LibRga
