import LibRga.Float32
import LibRga.Format
import LibRga.Modes

/-!
The setters of `NormalRgaApi.cpp` that fill a request, and the rectangle check
the builders share. A setter of the source writes through a pointer; here it
returns the request it leaves behind.
-/

namespace LibRga

/-! Conversions the C compiler inserts when an `int` is stored elsewhere. -/

def toU8 (value : Int32) : UInt8 :=
  value.toUInt32.toUInt8

def toU16 (value : Int32) : UInt16 :=
  value.toUInt32.toUInt16

def toU64 (value : Int32) : UInt64 :=
  value.toInt64.toUInt64

def toI16 (value : Int32) : Int16 :=
  value.toInt16

def checkRectForRga (rect : RgaRect) : Bool :=
  if rect.xoffset < 0 ∨ rect.yoffset < 0 then false
  else if rect.width < 2 ∨ rect.height < 2 then false
  else if rect.wstride < rect.xoffset + rect.width then false
  else if rect.hstride < rect.yoffset + rect.height then false
  else if isYuvFormat (rkRgaGetRgaFormat rect.format) = true ∧
      (rect.wstride % 4 ≠ 0 ∨ rect.xoffset % 2 ≠ 0 ∨ rect.width % 2 ≠ 0 ∨
        rect.yoffset % 2 ≠ 0 ∨ rect.height % 2 ≠ 0 ∨ rect.hstride % 2 ≠ 0) then false
  else true

def isRectValid (rect : RgaRect) : Bool :=
  0 < rect.width && 0 < rect.height

def setActiveInfo (img : RgaImgInfo) (width height xOff yOff : Int32) : RgaImgInfo :=
  { img with
    actW := toU16 width
    actH := toU16 height
    xOffset := toU16 xOff
    yOffset := toU16 yOff }

def setVirtualInfo (img : RgaImgInfo) (yrgbAddr uvAddr vAddr : UInt64) (virW virH format : Int32) :
    RgaImgInfo :=
  { img with
    yrgbAddr := yrgbAddr
    uvAddr := uvAddr
    vAddr := vAddr
    virW := toU16 virW
    virH := toU16 virH
    format := format.toUInt32 >>> (8 : UInt32) }

def normalRgaSetSrcActiveInfo (req : RgaReq) (width height xOff yOff : Int32) : RgaReq :=
  { req with src := setActiveInfo req.src width height xOff yOff }

def normalRgaSetDstActiveInfo (req : RgaReq) (width height xOff yOff : Int32) : RgaReq :=
  { req with dst := setActiveInfo req.dst width height xOff yOff }

def normalRgaSetPatActiveInfo (req : RgaReq) (width height xOff yOff : Int32) : RgaReq :=
  { req with pat := setActiveInfo req.pat width height xOff yOff }

/-- Every caller passes `a_swap_en = 0`, so `alpha_swap` keeps its value. -/
def normalRgaSetSrcVirtualInfo (req : RgaReq) (yrgbAddr uvAddr vAddr : UInt64)
    (virW virH format : Int32) : RgaReq :=
  { req with src := setVirtualInfo req.src yrgbAddr uvAddr vAddr virW virH format }

def normalRgaSetDstVirtualInfo (req : RgaReq) (yrgbAddr uvAddr vAddr : UInt64)
    (virW virH : Int32) (clip : Rect) (format : Int32) : RgaReq :=
  { req with
    dst := setVirtualInfo req.dst yrgbAddr uvAddr vAddr virW virH format
    clip := clip }

def normalRgaSetPatVirtualInfo (req : RgaReq) (yrgbAddr uvAddr vAddr : UInt64)
    (virW virH : Int32) (clip : Rect) (format : Int32) : RgaReq :=
  { req with
    pat := setVirtualInfo req.pat yrgbAddr uvAddr vAddr virW virH format
    clip := clip }

/-- Both offsets are zero at every call. -/
def normalRgaSetFdsOffsets (req : RgaReq) (srcFd dstFd : UInt16) : RgaReq :=
  { req with
    lineDrawInfo := { req.lineDrawInfo with
      color := srcFd.toUInt32 ||| (dstFd.toUInt32 <<< (16 : UInt32))
      flag := 0
      lineWidth := 0 } }

/-- Called with `alpha_cal_mode = 1`, `alpha_mode = 1`, `PD_en = 1`, `dst_alpha_en = 0`. -/
def normalRgaSetAlphaEnInfo (req : RgaReq) (fgGlobalAlpha bgGlobalAlpha pdMode : UInt32) :
    RgaReq :=
  { req with
    alphaRopFlag := req.alphaRopFlag ||| (1 : UInt16) ||| (8 : UInt16) ||| (16 : UInt16)
    fgGlobalAlpha := fgGlobalAlpha.toUInt8
    bgGlobalAlpha := bgGlobalAlpha.toUInt8
    alphaRopMode := req.alphaRopMode ||| (1 : UInt8)
    pdMode := pdMode.toUInt8 }

/-- Called with every channel enabled and `zero_mode_en = 1`. -/
def normalRgaSetSrcTransModeInfo (req : RgaReq) (transMode : UInt8)
    (colorKeyMin colorKeyMax : Int32) : RgaReq :=
  { req with
    srcTransMode := (0x1e : UInt8) ||| (transMode &&& (1 : UInt8))
    colorKeyMin := colorKeyMin.toUInt32
    colorKeyMax := colorKeyMax.toUInt32
    alphaRopMode := req.alphaRopMode ||| (0x10 : UInt8) }

inductive Orientation where
  | deg0
  | deg90
  | deg180
  | deg270
deriving DecidableEq, Repr, Inhabited

def sinaTable : Orientation → Int32
  | .deg0 => 0
  | .deg90 => 65536
  | .deg180 => 0
  | .deg270 => -65536

def cosaTable : Orientation → Int32
  | .deg0 => 65536
  | .deg90 => 0
  | .deg180 => -65536
  | .deg270 => 0

/-- `AA_en` is zero at every call, so the antialiasing branch is not reached. -/
def normalRgaSetBitbltMode (req : RgaReq) (interp : RgaInterp) (rotateMode : Int32)
    (angle : Orientation) (ditherEn : Bool) (yuv2rgbMode : Int32) : RgaReq :=
  { req with
    renderMode := bitbltMode
    interp := if req.srcTransMode ≠ 0 then {} else interp
    rotateMode := toU8 rotateMode
    sina := sinaTable angle
    cosa := cosaTable angle
    yuv2rgbMode := toU8 yuv2rgbMode
    alphaRopFlag := if ditherEn then req.alphaRopFlag ||| (0x20 : UInt16) else req.alphaRopFlag }

/-- Called with an all-zero gradient and pattern, `cf_mode = 0` and `aa_en = 0`. -/
def normalRgaSetColorFillMode (req : RgaReq) (color : UInt32) : RgaReq :=
  { req with
    renderMode := colorFillMode
    grColor := {}
    colorFillMode := 0
    pat := { req.pat with actW := 0, actH := 0, xOffset := 0, yOffset := 0 }
    fgColor := color }

/-- Called with `mmu_en = 1`, no flush and `page_size = 2`. -/
def normalRgaMmuInfo (req : RgaReq) : RgaReq :=
  { req with mmuInfo := { mmuEn := 1, baseAddr := 0, mmuFlag := 0x21 } }

def normalRgaMmuFlag (req : RgaReq) (srcMmuEn dstMmuEn : Bool) : RgaReq :=
  let flag := req.mmuInfo.mmuFlag
  let flag := if srcMmuEn || dstMmuEn then flag ||| (0x80000000 : UInt32) else flag
  let flag := if srcMmuEn then flag ||| (0x100 : UInt32) else flag
  let flag := if dstMmuEn then flag ||| (0x400 : UInt32) else flag
  { req with mmuInfo := { req.mmuInfo with mmuFlag := flag } }

def normalRgaNNQuantizeMode (req : RgaReq) (nn : RgaNn) : RgaReq :=
  if nn.nnFlag = 1 then
    { req with
      alphaRopFlag := req.alphaRopFlag ||| (0x100 : UInt16)
      grColor := { req.grColor with
        grXR := toI16 nn.scaleR
        grXG := toI16 nn.scaleG
        grXB := toI16 nn.scaleB
        grYR := toI16 nn.offsetR
        grYG := toI16 nn.offsetG
        grYB := toI16 nn.offsetB } }
  else req

/-- With dithering enabled the flag word is assigned, not extended. -/
def normalRgaDitherMode (req : RgaReq) (dither : RgaDither) (format : Int32) : RgaReq :=
  let req := if dither.enable = 1 then
      { req with alphaRopFlag := (1 : UInt16) ||| (0x20 : UInt16) }
    else req
  if format = rkFormatY4 ∨ format = rkFormatY8 then
    { req with
      ditherMode := toU8 dither.mode
      grColor := { req.grColor with
        grXR := toI16 dither.lut0L
        grXG := toI16 dither.lut0H
        grYR := toI16 dither.lut1L
        grYG := toI16 dither.lut1H } }
  else req

/-! Full colour-space conversion tables -/

/-- `(int)(coefficient * factor + 0.5)` for the single-precision table entry. -/
def cscFixed (coefficient : ℚ) : Int :=
  let scaled := Float32.round (Float32.round coefficient * 1023) + 1 / 2
  if 0 ≤ scaled then scaled.floor else -(-scaled).floor

def cscCoe (rV gY bU off : ℚ) : CscCoe :=
  { rV := Int16.ofInt (cscFixed rV)
    gY := Int16.ofInt (cscFixed gY)
    bU := Int16.ofInt (cscFixed bU)
    off := Int32.ofInt (cscFixed off) }

def fullCscOf (coeY coeU coeV : CscCoe) : FullCsc :=
  { flag := 1, coeY := coeY, coeU := coeU, coeV := coeV }

def fullRangeClip : RgaCscClip :=
  { y := ⟨0xff, 0x0⟩, uv := ⟨0xff, 0x0⟩ }

def yuvLimitRangeClip : RgaCscClip :=
  { y := ⟨0xeb, 0x10⟩, uv := ⟨0xf0, 0x10⟩ }

/-- The coefficient and clip rows selected by `NormalRgaFullColorSpaceConvert`. -/
def fullCscTable (mode : Int32) : Option (FullCsc × RgaCscClip) :=
  if mode = rgb2yuv601Full then
    some (fullCscOf (cscCoe (299 / 1000) (587 / 1000) (114 / 1000) 0)
      (cscCoe (-169 / 1000) (-331 / 1000) (1 / 2) 128)
      (cscCoe (1 / 2) (-419 / 1000) (-81 / 1000) 128), fullRangeClip)
  else if mode = rgb2yuv709Limit then
    some (fullCscOf (cscCoe (183 / 1000) (614 / 1000) (62 / 1000) 16)
      (cscCoe (-101 / 1000) (-339 / 1000) (439 / 1000) 128)
      (cscCoe (439 / 1000) (-399 / 1000) (-40 / 1000) 128), yuvLimitRangeClip)
  else if mode = rgb2yuv709Full then
    some (fullCscOf (cscCoe (213 / 1000) (715 / 1000) (72 / 1000) 0)
      (cscCoe (-115 / 1000) (-385 / 1000) (1 / 2) 128)
      (cscCoe (1 / 2) (-454 / 1000) (-46 / 1000) 128), fullRangeClip)
  else if mode = yuv2yuv709Limit2601Limit then
    some (fullCscOf (cscCoe (1916 / 10000) 1 (993 / 10000) (-372476 / 10000))
      (cscCoe (-1106 / 10000) 0 (9895 / 10000) (154669 / 10000))
      (cscCoe (9827 / 10000) (2 / 10000) (-723 / 10000) (114231 / 10000)), yuvLimitRangeClip)
  else if mode = yuv2yuv601Full2709Limit then
    some (fullCscOf (cscCoe (-1826 / 10000) (8588 / 10000) (-1014 / 10000) (523554 / 10000))
      (cscCoe (1007 / 10000) (-4 / 10000) (8948 / 10000) (5781 / 10000))
      (cscCoe (9005 / 10000) 0 (653 / 10000) (43855 / 10000)), yuvLimitRangeClip)
  else if mode = yuv2yuv709Full2601Limit then
    some (fullCscOf (cscCoe (1685 / 10000) (8588 / 10000) (872 / 10000) (-167232 / 10000))
      (cscCoe (-971 / 10000) 0 (8695 / 10000) (291335 / 10000))
      (cscCoe (8638 / 10000) 0 (-637 / 10000) (255824 / 10000)), yuvLimitRangeClip)
  else if mode = yuv2yuv709Full2601Full then
    some (fullCscOf (cscCoe (1955 / 10000) 1 (1019 / 10000) (-380729 / 10000))
      (cscCoe (-1104 / 10000) 0 (9899 / 10000) (154218 / 10000))
      (cscCoe (9836 / 10000) 0 (-716 / 10000) (112587 / 10000)), fullRangeClip)
  else none

/-- `none` is the return value `-1`. -/
def normalRgaFullColorSpaceConvert (req : RgaReq) (colorSpaceMode : Int32) : Option RgaReq :=
  match fullCscTable colorSpaceMode with
  | none => none
  | some (csc, clip) =>
      some { req with
        fullCsc := csc
        fullCscClip := clip
        feature := { req.feature with fullCscClipEn := true } }

example : (fullCscTable rgb2yuv601Full).map (·.1.coeU) =
    some { rV := -172, gY := -338, bU := 512, off := 130944 } := by
  decide +kernel

end LibRga
