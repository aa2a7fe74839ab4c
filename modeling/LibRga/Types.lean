/-!
The records that travel through the library.

C `int` is `Int32`, the fixed-width unsigned types are `UInt8` to `UInt64`, and
a pointer is the `UInt64` it holds, with `0` for `NULL`. Every field defaults to
zero, so `{}` is the structure after `memset`.
-/

namespace LibRga

/-! `im2d_type.h` -/

structure ImRect where
  x : Int32 := 0
  y : Int32 := 0
  width : Int32 := 0
  height : Int32 := 0
deriving DecidableEq, Repr, Inhabited

structure RgaBuffer where
  virAddr : UInt64 := 0
  phyAddr : UInt64 := 0
  fd : Int32 := 0
  width : Int32 := 0
  height : Int32 := 0
  wstride : Int32 := 0
  hstride : Int32 := 0
  format : Int32 := 0
  colorSpaceMode : Int32 := 0
  /-- Shares its storage with the two halves of `alpha_bit`. -/
  globalAlpha : Int32 := 0
  rdMode : Int32 := 0
  handle : UInt32 := 0
deriving DecidableEq, Repr, Inhabited

def RgaBuffer.alphaBit0 (buffer : RgaBuffer) : UInt16 :=
  buffer.globalAlpha.toUInt32.toUInt16

def RgaBuffer.alphaBit1 (buffer : RgaBuffer) : UInt16 :=
  (buffer.globalAlpha.toUInt32 >>> 16).toUInt16

structure ImColorkeyRange where
  max : Int32 := 0
  min : Int32 := 0
deriving DecidableEq, Repr, Inhabited

structure ImNn where
  scaleR : Int32 := 0
  scaleG : Int32 := 0
  scaleB : Int32 := 0
  offsetR : Int32 := 0
  offsetG : Int32 := 0
  offsetB : Int32 := 0
deriving DecidableEq, Repr, Inhabited

structure OsdInvertFactor where
  alphaMax : UInt8 := 0
  alphaMin : UInt8 := 0
  ygMax : UInt8 := 0
  ygMin : UInt8 := 0
  crbMax : UInt8 := 0
  crbMin : UInt8 := 0
deriving DecidableEq, Repr, Inhabited

structure OsdBpp2 where
  acSwap : UInt8 := 0
  endianSwap : UInt8 := 0
  color0 : UInt32 := 0
  color1 : UInt32 := 0
deriving DecidableEq, Repr, Inhabited

structure ImOsdBlock where
  widthMode : Int32 := 0
  /-- `width` in the normal mode, `width_index` in the other. -/
  width : Int32 := 0
  blockCount : Int32 := 0
  backgroundConfig : Int32 := 0
  direction : Int32 := 0
  colorMode : Int32 := 0
  normalColor : UInt32 := 0
  invertColor : UInt32 := 0
deriving DecidableEq, Repr, Inhabited

structure ImOsdInvert where
  invertChannel : Int32 := 0
  flagsMode : Int32 := 0
  flagsIndex : Int32 := 0
  invertFlags : UInt64 := 0
  currentFlags : UInt64 := 0
  invertMode : Int32 := 0
  factor : OsdInvertFactor := {}
  threash : Int32 := 0
deriving DecidableEq, Repr, Inhabited

structure ImOsd where
  osdMode : Int32 := 0
  blockParm : ImOsdBlock := {}
  invertConfig : ImOsdInvert := {}
  bpp2Info : OsdBpp2 := {}
deriving DecidableEq, Repr, Inhabited

structure ImIntrConfig where
  flags : UInt32 := 0
  readThreshold : Int32 := 0
  writeStart : Int32 := 0
  writeStep : Int32 := 0
deriving DecidableEq, Repr, Inhabited

/-- Of `im_gauss_t` only the kernel size decides anything but coefficients. -/
structure ImGauss where
  ksizeWidth : Int32 := 0
  ksizeHeight : Int32 := 0
deriving DecidableEq, Repr, Inhabited

structure ImOpt where
  version : UInt32 := 0
  color : Int32 := 0
  colorkeyRange : ImColorkeyRange := {}
  nn : ImNn := {}
  ropCode : Int32 := 0
  priority : Int32 := 0
  core : Int32 := 0
  mosaicMode : Int32 := 0
  osdConfig : ImOsd := {}
  intrConfig : ImIntrConfig := {}
  interp : Int32 := 0
  gaussConfig : ImGauss := {}
deriving DecidableEq, Repr, Inhabited

/-! `drmrga.h` -/

structure RgaRect where
  xoffset : Int32 := 0
  yoffset : Int32 := 0
  width : Int32 := 0
  height : Int32 := 0
  wstride : Int32 := 0
  hstride : Int32 := 0
  format : Int32 := 0
deriving DecidableEq, Repr, Inhabited

structure RgaNn where
  nnFlag : Int32 := 0
  scaleR : Int32 := 0
  scaleG : Int32 := 0
  scaleB : Int32 := 0
  offsetR : Int32 := 0
  offsetG : Int32 := 0
  offsetB : Int32 := 0
deriving DecidableEq, Repr, Inhabited

structure RgaDither where
  enable : Int32 := 0
  mode : Int32 := 0
  lut0L : Int32 := 0
  lut0H : Int32 := 0
  lut1L : Int32 := 0
  lut1H : Int32 := 0
deriving DecidableEq, Repr, Inhabited

structure RgaMosaicInfo where
  enable : UInt8 := 0
  mode : UInt8 := 0
deriving DecidableEq, Repr, Inhabited

structure RgaGaussConfig where
  size : UInt32 := 0
  coePtr : UInt64 := 0
deriving DecidableEq, Repr, Inhabited

structure RgaPreIntrInfo where
  enable : UInt8 := 0
  readIntrEn : UInt8 := 0
  writeIntrEn : UInt8 := 0
  readHoldEn : UInt8 := 0
  readThreshold : UInt32 := 0
  writeStart : UInt32 := 0
  writeStep : UInt32 := 0
deriving DecidableEq, Repr, Inhabited

structure RgaOsdModeCtrl where
  mode : UInt8 := 0
  directionMode : UInt8 := 0
  widthMode : UInt8 := 0
  blockFixWidth : UInt16 := 0
  blockNum : UInt8 := 0
  flagsIndex : UInt16 := 0
  colorMode : UInt8 := 0
  invertFlagsMode : UInt8 := 0
  defaultColorSel : UInt8 := 0
  invertEnable : UInt8 := 0
  invertMode : UInt8 := 0
  invertThresh : UInt8 := 0
  unfixIndex : UInt8 := 0
deriving DecidableEq, Repr, Inhabited

structure RgaOsdInfo where
  enable : UInt8 := 0
  modeCtrl : RgaOsdModeCtrl := {}
  calFactor : OsdInvertFactor := {}
  bpp2Info : OsdBpp2 := {}
  lastFlags : UInt64 := 0
  curFlags : UInt64 := 0
deriving DecidableEq, Repr, Inhabited

structure RgaInfo where
  fd : Int32 := 0
  virAddr : UInt64 := 0
  phyAddr : UInt64 := 0
  rect : RgaRect := {}
  blend : UInt32 := 0
  rotation : Int32 := 0
  color : Int32 := 0
  mmuFlag : Int32 := 0
  colorkeyEn : Int32 := 0
  colorkeyMode : Int32 := 0
  colorkeyMax : Int32 := 0
  colorkeyMin : Int32 := 0
  scaleMode : Int32 := 0
  colorSpaceMode : Int32 := 0
  syncMode : Int32 := 0
  nn : RgaNn := {}
  dither : RgaDither := {}
  ropCode : Int32 := 0
  rdMode : Int32 := 0
  inFenceFd : Int32 := 0
  core : Int32 := 0
  priority : Int32 := 0
  handle : Int32 := 0
  mosaicInfo : RgaMosaicInfo := {}
  osdInfo : RgaOsdInfo := {}
  preIntr : RgaPreIntrInfo := {}
  jobHandle : Int32 := 0
  rgba5551Flags : UInt16 := 0
  rgba5551Alpha0 : UInt8 := 0
  rgba5551Alpha1 : UInt8 := 0
  gaussConfig : RgaGaussConfig := {}
deriving DecidableEq, Repr, Inhabited

/-! `rga_ioctl.h` -/

structure RgaImgInfo where
  yrgbAddr : UInt64 := 0
  uvAddr : UInt64 := 0
  vAddr : UInt64 := 0
  format : UInt32 := 0
  actW : UInt16 := 0
  actH : UInt16 := 0
  xOffset : UInt16 := 0
  yOffset : UInt16 := 0
  virW : UInt16 := 0
  virH : UInt16 := 0
  endianMode : UInt16 := 0
  alphaSwap : UInt16 := 0
  rotateMode : UInt16 := 0
  rdMode : UInt16 := 0
  is10bCompact : UInt16 := 0
  is10bEndian : UInt16 := 0
  enable : UInt16 := 0
deriving DecidableEq, Repr, Inhabited

structure Rect where
  xmin : UInt16 := 0
  xmax : UInt16 := 0
  ymin : UInt16 := 0
  ymax : UInt16 := 0
deriving DecidableEq, Repr, Inhabited

structure Mmu where
  mmuEn : UInt8 := 0
  baseAddr : UInt64 := 0
  mmuFlag : UInt32 := 0
deriving DecidableEq, Repr, Inhabited

structure ColorFill where
  grXA : Int16 := 0
  grYA : Int16 := 0
  grXB : Int16 := 0
  grYB : Int16 := 0
  grXG : Int16 := 0
  grYG : Int16 := 0
  grXR : Int16 := 0
  grYR : Int16 := 0
deriving DecidableEq, Repr, Inhabited

structure Fading where
  b : UInt8 := 0
  g : UInt8 := 0
  r : UInt8 := 0
  res : UInt8 := 0
deriving DecidableEq, Repr, Inhabited

structure Point where
  x : UInt16 := 0
  y : UInt16 := 0
deriving DecidableEq, Repr, Inhabited

structure LineDraw where
  startPoint : Point := {}
  endPoint : Point := {}
  color : UInt32 := 0
  flag : UInt32 := 0
  lineWidth : UInt32 := 0
deriving DecidableEq, Repr, Inhabited

structure CscCoe where
  rV : Int16 := 0
  gY : Int16 := 0
  bU : Int16 := 0
  off : Int32 := 0
deriving DecidableEq, Repr, Inhabited

structure FullCsc where
  flag : UInt8 := 0
  coeY : CscCoe := {}
  coeU : CscCoe := {}
  coeV : CscCoe := {}
deriving DecidableEq, Repr, Inhabited

structure RgaCscRange where
  max : UInt16 := 0
  min : UInt16 := 0
deriving DecidableEq, Repr, Inhabited

structure RgaCscClip where
  y : RgaCscRange := {}
  uv : RgaCscRange := {}
deriving DecidableEq, Repr, Inhabited

structure RgaFeature where
  globalAlphaEn : Bool := false
  fullCscClipEn : Bool := false
  userCloseFence : Bool := false
deriving DecidableEq, Repr, Inhabited

/-- Two four-bit fields; `scale_mode` is the same byte. -/
structure RgaInterp where
  horiz : UInt8 := 0
  verti : UInt8 := 0
deriving DecidableEq, Repr, Inhabited

structure RgaRgba5551Alpha where
  flags : UInt16 := 0
  alpha0 : UInt8 := 0
  alpha1 : UInt8 := 0
deriving DecidableEq, Repr, Inhabited

structure RgaReq where
  renderMode : UInt8 := 0
  src : RgaImgInfo := {}
  dst : RgaImgInfo := {}
  pat : RgaImgInfo := {}
  ropMaskAddr : UInt64 := 0
  lutAddr : UInt64 := 0
  clip : Rect := {}
  sina : Int32 := 0
  cosa : Int32 := 0
  alphaRopFlag : UInt16 := 0
  interp : RgaInterp := {}
  colorKeyMax : UInt32 := 0
  colorKeyMin : UInt32 := 0
  fgColor : UInt32 := 0
  bgColor : UInt32 := 0
  grColor : ColorFill := {}
  lineDrawInfo : LineDraw := {}
  fading : Fading := {}
  pdMode : UInt8 := 0
  alphaGlobalValue : UInt8 := 0
  ropCode : UInt16 := 0
  bsfilterFlag : UInt8 := 0
  paletteMode : UInt8 := 0
  yuv2rgbMode : UInt8 := 0
  endianMode : UInt8 := 0
  rotateMode : UInt8 := 0
  colorFillMode : UInt8 := 0
  mmuInfo : Mmu := {}
  alphaRopMode : UInt8 := 0
  srcTransMode : UInt8 := 0
  ditherMode : UInt8 := 0
  fullCsc : FullCsc := {}
  inFenceFd : Int32 := 0
  core : UInt8 := 0
  priority : UInt8 := 0
  outFenceFd : Int32 := 0
  handleFlag : UInt8 := 0
  mosaicInfo : RgaMosaicInfo := {}
  uvhdsMode : UInt8 := 0
  uvvdsMode : UInt8 := 0
  osdInfo : RgaOsdInfo := {}
  preIntrInfo : RgaPreIntrInfo := {}
  fgGlobalAlpha : UInt8 := 0
  bgGlobalAlpha : UInt8 := 0
  feature : RgaFeature := {}
  fullCscClip : RgaCscClip := {}
  rgba5551Alpha : RgaRgba5551Alpha := {}
  gaussConfig : RgaGaussConfig := {}
deriving DecidableEq, Repr, Inhabited

/-- The byte that `scale_mode` reads: `horiz` in the low half, `verti` in the high half. -/
def RgaReq.scaleMode (req : RgaReq) : UInt8 :=
  (req.interp.horiz &&& (0xf : UInt8)) ||| (req.interp.verti <<< (4 : UInt8))

/-! `im2d_context.h` and `im2d_hardware.h` -/

inductive RgaDriverIocType where
  | unknown
  | rga1
  | rga2
  | multiRga
deriving DecidableEq, Repr, Inhabited

structure RgaVersion where
  major : UInt32 := 0
  minor : UInt32 := 0
  revision : UInt32 := 0
deriving DecidableEq, Repr, Inhabited

structure RgaInfoResolution where
  width : Int32 := 0
  height : Int32 := 0
deriving DecidableEq, Repr, Inhabited

structure RgaInfoTableEntry where
  version : UInt32 := 0
  inputResolution : RgaInfoResolution := {}
  outputResolution : RgaInfoResolution := {}
  byteStride : UInt32 := 0
  scaleLimit : UInt32 := 0
  performance : UInt32 := 0
  inputFormat : UInt32 := 0
  outputFormat : UInt32 := 0
  feature : UInt32 := 0
  scaleVerBicubicLimit : UInt32 := 0
deriving DecidableEq, Repr, Inhabited

/-- The fields of an initialised session that a submission reads. -/
structure RgaSession where
  driverType : RgaDriverIocType := .multiRga
  driverFeature : UInt32 := 0
  /-- `core_version.version[0]` -/
  coreVersion : RgaVersion := {}
  hardwareInfo : RgaInfoTableEntry := {}
deriving DecidableEq, Repr, Inhabited

structure ImContext where
  core : Int32 := 0
  priority : Int32 := 0
deriving DecidableEq, Repr, Inhabited

inductive ImStatus where
  | noError
  | success
  | notSupported
  | outOfMemory
  | invalidParam
  | illegalParam
  | errorVersion
  | noSession
  | failed
deriving DecidableEq, Repr, Inhabited

def ImStatus.ok : ImStatus → Bool
  | .noError | .success => true
  | _ => false

/-- The integer behind a status, which the library mixes with its mode words. -/
def ImStatus.toInt32 : ImStatus → Int32
  | .noError => 2
  | .success => 1
  | .notSupported => -1
  | .outOfMemory => -2
  | .invalidParam => -3
  | .illegalParam => -4
  | .errorVersion => -5
  | .noSession => -6
  | .failed => 0

end LibRga
