import LibRga.Types

/-!
The enumerations of `im2d_type.h`, `rga.h`, `drmrga.h`, `rga_ioctl.h` and
`im2d_hardware.h` that the modelled code tests, as the words it tests them in.
-/

namespace LibRga

/-! `IM_USAGE` -/

def imHalTransformRot90 : Int32 := 0x1
def imHalTransformRot180 : Int32 := 0x2
def imHalTransformRot270 : Int32 := 0x4
def imHalTransformFlipH : Int32 := 0x8
def imHalTransformFlipV : Int32 := 0x10
def imHalTransformFlipHV : Int32 := 0x20
def imHalTransformMask : Int32 := 0x3f
def imHalTransformRotMask : Int32 := 0x7
def imHalTransformFlipMask : Int32 := 0x38
def imAlphaBlendSrcOver : Int32 := 0x40
def imAlphaBlendSrc : Int32 := 0x80
def imAlphaBlendDst : Int32 := 0x100
def imAlphaBlendSrcIn : Int32 := 0x200
def imAlphaBlendDstIn : Int32 := 0x400
def imAlphaBlendSrcOut : Int32 := 0x800
def imAlphaBlendDstOut : Int32 := 0x1000
def imAlphaBlendDstOver : Int32 := 0x2000
def imAlphaBlendSrcAtop : Int32 := 0x4000
def imAlphaBlendDstAtop : Int32 := 0x8000
def imAlphaBlendXor : Int32 := 0x10000
def imAlphaBlendMask : Int32 := 0x1ffc0
def imAlphaColorkeyInverted : Int32 := 0x40000
def imAlphaColorkeyMask : Int32 := 0x60000
def imSync : Int32 := 0x80000
def imCrop : Int32 := 0x100000
def imColorFill : Int32 := 0x200000
def imColorPalette : Int32 := 0x400000
def imNnQuantize : Int32 := 0x800000
def imRop : Int32 := 0x1000000
def imAlphaBlendPreMul : Int32 := 0x2000000
def imAsync : Int32 := 0x4000000
def imMosaic : Int32 := 0x8000000
def imOsd : Int32 := 0x10000000
def imPreIntr : Int32 := 0x20000000
def imAlphaBitMap : Int32 := 0x40000000
def imGauss : Int32 := 0x80000000

/-- `word & mask` as a C condition. -/
def has (word mask : Int32) : Bool :=
  word &&& mask != 0

/-- `word & mask` as a C condition on unsigned words. -/
def hasBit (word mask : UInt32) : Bool :=
  word &&& mask != 0

/-! `IM_RD_MODE` -/

def imFbcMode : Int32 := 0x2
def imTileMode : Int32 := 0x4
def rasterMode : UInt16 := 0x1

/-! `IM_COLOR_SPACE_MODE` -/

def imYuvToRgbBt601Limit : Int32 := 0x1
def imYuvToRgbBt601Full : Int32 := 0x2
def imYuvToRgbBt709Limit : Int32 := 0x3
def imYuvToRgbMask : Int32 := 0x3
def imRgbToYuvBt601Full : Int32 := 0x4
def imRgbToYuvBt601Limit : Int32 := 0x8
def imRgbToYuvBt709Limit : Int32 := 0xc
def imRgbToYuvMask : Int32 := 0xc
def imRgbToY4 : Int32 := 0x10
def imRgbToY4Dither : Int32 := 0x20
def imRgbToY1Dither : Int32 := 0x30
def imRgbFull : Int32 := 0x100
def imRgbClip : Int32 := 0x200
def imYuvBt601LimitRange : Int32 := 0x300
def imYuvBt601FullRange : Int32 := 0x400
def imYuvBt709LimitRange : Int32 := 0x500
def imYuvBt709FullRange : Int32 := 0x600
def imFullCscMask : Int32 := 0xf00
def imColorSpaceDefault : Int32 := 0

/-! The full conversion modes of `rga.h`. -/

def rgb2yuv601Full : Int32 := 0x100
def rgb2yuv709Full : Int32 := 0x200
def yuv2yuv601Limit2709Limit : Int32 := 0x300
def yuv2yuv601Limit2709Full : Int32 := 0x400
def yuv2yuv709Limit2601Limit : Int32 := 0x500
def yuv2yuv709Limit2601Full : Int32 := 0x600
def yuv2yuv601Full2709Limit : Int32 := 0x700
def yuv2yuv601Full2709Full : Int32 := 0x800
def yuv2yuv709Full2601Limit : Int32 := 0x900
def yuv2yuv709Full2601Full : Int32 := 0xa00
def rgb2yuv709Limit : Int32 := 0xb00
def yuv2rgb709Full : Int32 := 0xc00
def yuv2yuv601Limit2601Full : Int32 := 0xd00
def yuv2yuv601Full2601Limit : Int32 := 0xe00
def yuv2yuv709Limit2709Full : Int32 := 0xf00
def yuv2yuv709Full2709Limit : Int32 := 0x1000
def fullCscMask : Int32 := 0xf00

/-! `IM_INTER_MODE` and `rga_scale_interp` -/

def imInterpMask : Int32 := 0xf
def imInterpVertiShift : Int32 := 4
def imInterpHorizFlag : Int32 := 0x100
def imInterpVertiFlag : Int32 := 0x200
def rgaInterpDefault : UInt8 := 0
def rgaInterpLinear : UInt8 := 1
def rgaInterpBicubic : UInt8 := 2
def rgaInterpAverage : UInt8 := 3

/-! OSD and pre-interrupt options -/

def imOsdBlockModeNormal : Int32 := 0
def imOsdBlockModeDifferent : Int32 := 1
def imOsdInvertChannelNone : Int32 := 0
def imOsdInvertChannelYG : Int32 := 1
def imOsdInvertChannelCRb : Int32 := 2
def imOsdInvertChannelColor : Int32 := 3
def imOsdInvertChannelAlpha : Int32 := 4
def imOsdInvertChannelBoth : Int32 := 7
def imOsdInvertUseFactor : Int32 := 0
def imIntrReadIntr : UInt32 := 0x1
def imIntrReadHold : UInt32 := 0x2
def imIntrWriteIntr : UInt32 := 0x4

/-! `drmrga.h`: rotation of an `rga_info_t`, and the two submission modes -/

def halTransformFlipH : Int32 := 0x1
def halTransformFlipV : Int32 := 0x2
def halTransformRot90 : Int32 := 0x4
def halTransformRot180 : Int32 := 0x3
def halTransformRot270 : Int32 := 0x7
def halTransformFlipHV : Int32 := 0x8
def rgaBlitSync : Int32 := 0x5017
def rgaBlitAsync : Int32 := 0x5018

/-! Render modes, blend modes and capacity of `rga_ioctl.h` -/

def bitbltMode : UInt8 := 0x0
def colorPaletteMode : UInt8 := 0x1
def colorFillMode : UInt8 := 0x2
def updatePaletteTableMode : UInt8 := 0x6
def rgaAlphaBlendSrc : UInt32 := 1
def rgaAlphaBlendDst : UInt32 := 2
def rgaAlphaBlendSrcOver : UInt32 := 3
def rgaAlphaBlendDstOver : UInt32 := 4
def rgaAlphaBlendSrcIn : UInt32 := 5
def rgaAlphaBlendDstIn : UInt32 := 6
def rgaAlphaBlendSrcOut : UInt32 := 7
def rgaAlphaBlendDstOut : UInt32 := 8
def rgaAlphaBlendSrcAtop : UInt32 := 9
def rgaAlphaBlendDstAtop : UInt32 := 10
def rgaAlphaBlendXor : UInt32 := 11
def rgaTaskNumMax : Int32 := 256

/-! `RGA_DRIVER_FEATURE` and `im2d_hardware.h` -/

def rgaDriverFeatureUserCloseFence : UInt32 := 1
def imRgaHwVersionRgaVErr : UInt32 := 0x1
def imRgaHwVersionRga1 : UInt32 := 0x2
def imRgaHwVersionRga1Plus : UInt32 := 0x4
def imRgaHwVersionRga2 : UInt32 := 0x8
def imRgaHwVersionRga2Lite0 : UInt32 := 0x10
def imRgaHwVersionRga2Lite1 : UInt32 := 0x20
def imRgaHwVersionRga2Enhance : UInt32 := 0x40
def imRgaHwVersionRga2Pro : UInt32 := 0x80
def imRgaHwVersionRga2Lite2 : UInt32 := 0x100
def imRgaHwVersionRga3 : UInt32 := 0x200
def imRgaSupportFormatRgb : UInt32 := 0x2
def imRgaSupportFormatArgb16Bit : UInt32 := 0x4
def imRgaSupportFormatRgba16Bit : UInt32 := 0x8
def imRgaSupportFormatBpp : UInt32 := 0x10
def imRgaSupportFormatYuv420SemiPlanner8Bit : UInt32 := 0x20
def imRgaSupportFormatYuv420SemiPlanner10Bit : UInt32 := 0x40
def imRgaSupportFormatYuv420Planner8Bit : UInt32 := 0x80
def imRgaSupportFormatYuv420Planner10Bit : UInt32 := 0x100
def imRgaSupportFormatYuv422SemiPlanner8Bit : UInt32 := 0x200
def imRgaSupportFormatYuv422SemiPlanner10Bit : UInt32 := 0x400
def imRgaSupportFormatYuv422Planner8Bit : UInt32 := 0x800
def imRgaSupportFormatYuv422Planner10Bit : UInt32 := 0x1000
def imRgaSupportFormatYuyv420 : UInt32 := 0x2000
def imRgaSupportFormatYuyv422 : UInt32 := 0x4000
def imRgaSupportFormatYuv400 : UInt32 := 0x8000
def imRgaSupportFormatY4 : UInt32 := 0x10000
def imRgaSupportFormatRgba2bpp : UInt32 := 0x20000
def imRgaSupportFormatAlpha8Bit : UInt32 := 0x40000
def imRgaSupportFormatYuv444SemiPlanner8Bit : UInt32 := 0x80000
def imRgaSupportFormatY8 : UInt32 := 0x100000
def imRgaSupportFormatRgba1010102 : UInt32 := 0x200000
def imRgaSupportFormatYuv444Paced10Bit : UInt32 := 0x400000
def imRgaSupportFeatureColorFill : UInt32 := 0x2
def imRgaSupportFeatureColorPalette : UInt32 := 0x4
def imRgaSupportFeatureRop : UInt32 := 0x8
def imRgaSupportFeatureQuantize : UInt32 := 0x10
def imRgaSupportFeatureSrc1R2yCsc : UInt32 := 0x20
def imRgaSupportFeatureDstFullCsc : UInt32 := 0x40
def imRgaSupportFeatureFbc : UInt32 := 0x80
def imRgaSupportFeatureBlendYuv : UInt32 := 0x100
def imRgaSupportFeatureBt2020 : UInt32 := 0x200
def imRgaSupportFeatureMosaic : UInt32 := 0x400
def imRgaSupportFeatureOsd : UInt32 := 0x800
def imRgaSupportFeaturePreIntr : UInt32 := 0x1000
def imRgaSupportFeatureAlphaBitMap : UInt32 := 0x2000
def imRgaSupportFeatureGauss : UInt32 := 0x4000
def imRgaSupportFeatureSecure : UInt32 := 0x8000

end LibRga
