import LibRga.Float32
import LibRga.Format
import LibRga.Modes

/-!
The validation of a submission: the `rga_check` family of `im2d_impl.cpp`.
The warnings they log are not part of their result and are left out.
-/

namespace LibRga

def rgaIsBufferValid (buffer : RgaBuffer) : Bool :=
  buffer.phyAddr != 0 || buffer.virAddr != 0 || 0 < buffer.fd || 0 < buffer.handle

def rgaApplyRect (image : RgaBuffer) (rect : ImRect) : RgaBuffer :=
  if 0 < rect.width ∧ 0 < rect.height then
    { image with width := rect.width, height := rect.height }
  else image

/-- Checks in sequence: the first one that does not pass is the result. -/
def ImStatus.andThen (first rest : ImStatus) : ImStatus :=
  if first = .noError then rest else first

def rgaYuvLegalityCheck (info : RgaBuffer) (rect : ImRect) : ImStatus :=
  if info.wstride % 2 ≠ 0 ∨ info.hstride % 2 ≠ 0 ∨ info.width % 2 ≠ 0 ∨ info.height % 2 ≠ 0 ∨
      rect.x % 2 ≠ 0 ∨ rect.y % 2 ≠ 0 ∨ rect.width % 2 ≠ 0 ∨ rect.height % 2 ≠ 0 then
    .invalidParam
  else .success

def rgaCheckInfo (info : RgaBuffer) (rect : ImRect) (resolution : RgaInfoResolution) : ImStatus :=
  if info.width ≤ 0 ∨ info.height ≤ 0 ∨ info.format < 0 then .illegalParam
  else if info.width < 2 ∨ info.height < 2 then .illegalParam
  else if info.wstride < info.width ∨ info.hstride < info.height then .invalidParam
  else if (rect.width = 0 ∧ 0 < rect.height) ∨ (0 < rect.width ∧ rect.height = 0) then
    .illegalParam
  else if rect.width < 0 ∨ rect.height < 0 ∨ rect.x < 0 ∨ rect.y < 0 then .illegalParam
  else if info.wstride < rect.width + rect.x ∨ info.hstride < rect.height + rect.y then
    .invalidParam
  else if resolution.width < info.width ∨ resolution.height < info.height then .notSupported
  else if (0 < rect.width ∧ resolution.width < rect.width) ∨
      (0 < rect.height ∧ resolution.height < rect.height) then .notSupported
  else .noError

def rgaCheckLimit (src dst : RgaBuffer) (scaleUsage modeUsage : Int32) : ImStatus :=
  let srcWidth := Float32.ofInt src.width.toInt
  let srcHeight := Float32.ofInt src.height.toInt
  let turned := has modeUsage imHalTransformRot270 || has modeUsage imHalTransformRot90
  let dstWidth := Float32.ofInt (if turned then dst.height else dst.width).toInt
  let dstHeight := Float32.ofInt (if turned then dst.width else dst.height).toInt
  let limit := Float32.ofInt scaleUsage.toInt
  if limit < Float32.div srcWidth dstWidth ∨ limit < Float32.div srcHeight dstHeight ∨
      limit < Float32.div dstWidth srcWidth ∨ limit < Float32.div dstHeight srcHeight then
    .notSupported
  else .noError

/-- One branch of `rga_check_format`: formats sharing a support bit. -/
structure FormatFamily where
  formats : List Int32
  support : UInt32
  yuv : Bool := false
  /-- Bit-packed formats also pass without the bit when they feed a palette. -/
  bpp : Bool := false

def formatFamilies : List FormatFamily :=
  [
    { formats := [rkFormatRgba8888, rkFormatBgra8888, rkFormatRgbx8888, rkFormatBgrx8888,
        rkFormatArgb8888, rkFormatAbgr8888, rkFormatXrgb8888, rkFormatXbgr8888, rkFormatRgb888,
        rkFormatBgr888, rkFormatRgb565, rkFormatBgr565]
      support := imRgaSupportFormatRgb },
    { formats := [rkFormatArgb4444, rkFormatAbgr4444, rkFormatArgb1555, rkFormatAbgr1555]
      support := imRgaSupportFormatArgb16Bit },
    { formats := [rkFormatRgba4444, rkFormatBgra4444, rkFormatRgba5551, rkFormatBgra5551]
      support := imRgaSupportFormatRgba16Bit },
    { formats := [rkFormatBpp1, rkFormatBpp2, rkFormatBpp4, rkFormatBpp8]
      support := imRgaSupportFormatBpp
      bpp := true },
    { formats := [rkFormatYCrCb420Sp, rkFormatYCbCr420Sp]
      support := imRgaSupportFormatYuv420SemiPlanner8Bit
      yuv := true },
    { formats := [rkFormatYCrCb420P, rkFormatYCbCr420P]
      support := imRgaSupportFormatYuv420Planner8Bit
      yuv := true },
    { formats := [rkFormatYCrCb422Sp, rkFormatYCbCr422Sp]
      support := imRgaSupportFormatYuv422SemiPlanner8Bit
      yuv := true },
    { formats := [rkFormatYCrCb422P, rkFormatYCbCr422P]
      support := imRgaSupportFormatYuv422Planner8Bit
      yuv := true },
    { formats := [rkFormatYCrCb420Sp10b, rkFormatYCbCr420Sp10b]
      support := imRgaSupportFormatYuv420SemiPlanner10Bit
      yuv := true },
    { formats := [rkFormatYCrCb422Sp10b, rkFormatYCbCr422Sp10b]
      support := imRgaSupportFormatYuv422SemiPlanner10Bit
      yuv := true },
    { formats := [rkFormatYuyv420, rkFormatYvyu420, rkFormatUyvy420, rkFormatVyuy420]
      support := imRgaSupportFormatYuyv420
      yuv := true },
    { formats := [rkFormatYuyv422, rkFormatYvyu422, rkFormatUyvy422, rkFormatVyuy422]
      support := imRgaSupportFormatYuyv422
      yuv := true },
    { formats := [rkFormatYCbCr400]
      support := imRgaSupportFormatYuv400
      yuv := true },
    { formats := [rkFormatY4]
      support := imRgaSupportFormatY4
      yuv := true },
    { formats := [rkFormatRgba2bpp]
      support := imRgaSupportFormatRgba2bpp },
    { formats := [rkFormatA8]
      support := imRgaSupportFormatAlpha8Bit },
    { formats := [rkFormatYCrCb444Sp, rkFormatYCbCr444Sp]
      support := imRgaSupportFormatYuv444SemiPlanner8Bit
      yuv := true },
    { formats := [rkFormatY8]
      support := imRgaSupportFormatY8
      yuv := true },
    { formats := [rkFormatRgba1010102, rkFormatBgra1010102, rkFormatArgb2101010,
        rkFormatAbgr2101010, rkFormatRgbx1010102, rkFormatBgrx1010102, rkFormatXrgb2101010,
        rkFormatXbgr2101010]
      support := imRgaSupportFormatRgba1010102 },
    { formats := [rkFormatYuv44410b]
      support := imRgaSupportFormatYuv444Paced10Bit
      yuv := true }
  ]

def rgaCheckFormat (info : RgaBuffer) (rect : ImRect) (formatUsage : UInt32) (modeUsage : Int32) :
    ImStatus :=
  match formatFamilies.find? (fun family => family.formats.contains info.format) with
  | none => .notSupported
  | some family =>
      if hasBit (~~~formatUsage) family.support ∧
          ¬(family.bpp = true ∧ has modeUsage imColorPalette = true) then .notSupported
      else if family.yuv = true ∧ rgaYuvLegalityCheck info rect ≠ .success then
        rgaYuvLegalityCheck info rect
      else .noError

def rgaCheckAlign (info : RgaBuffer) (byteStride : Int32) (isRead : Bool) : ImStatus :=
  let dataMode : ImStatus :=
    if info.rdMode = imFbcMode then
      if info.wstride % 16 ≠ 0 ∨ info.hstride % 16 ≠ 0 then .notSupported else .noError
    else if info.rdMode = imTileMode then
      if info.width % 8 ≠ 0 ∨ info.height % 8 ≠ 0 then .notSupported
      else if isRead = true ∧ (info.wstride % 16 ≠ 0 ∨ info.hstride % 16 ≠ 0) then .notSupported
      else .noError
    else .noError
  let bitStride := getPerPixelStrideFromFormat info.format * info.wstride
  dataMode.andThen (if bitStride % (byteStride * 8) = 0 then .noError else .notSupported)

def rgaCheckBlend (pat dst : RgaBuffer) (patEnable : Bool) : ImStatus :=
  if rgaIsBufferValid pat = true ∧ isRgbFormat pat.format = false then .notSupported
  else if rgaIsBufferValid pat = false ∧ isRgbFormat dst.format = false then .notSupported
  else if patEnable = true ∧ (pat.width ≠ dst.width ∨ pat.height ≠ dst.height) then .notSupported
  else .noError

def rgaCheckRotate (modeUsage : Int32) (table : RgaInfoTableEntry) : ImStatus :=
  if hasBit table.version (imRgaHwVersionRga1 ||| imRgaHwVersionRga1Plus) then
    if has modeUsage imHalTransformFlipHV then .notSupported
    else if has modeUsage imHalTransformRotMask ∧ has modeUsage imHalTransformFlipMask then
      .notSupported
    else .noError
  else .noError

/-- One test of `rga_check_feature`: a wanted feature whose support bit is clear. -/
def rgaCheckSupport (wanted : Bool) (feature support : UInt32) : ImStatus :=
  if wanted = true ∧ hasBit (~~~feature) support = true then .notSupported else .noError

def rgaCheckFeature (src pat dst : RgaBuffer) (patEnable : Bool) (modeUsage : Int32)
    (feature : UInt32) : ImStatus :=
  (rgaCheckSupport (has modeUsage imColorFill) feature imRgaSupportFeatureColorFill).andThen <|
  (rgaCheckSupport (has modeUsage imColorPalette) feature
    imRgaSupportFeatureColorPalette).andThen <|
  (rgaCheckSupport (has modeUsage imRop) feature imRgaSupportFeatureRop).andThen <|
  (rgaCheckSupport (has modeUsage imNnQuantize) feature imRgaSupportFeatureQuantize).andThen <|
  (rgaCheckSupport (patEnable && has pat.colorSpaceMode imRgbToYuvMask) feature
    imRgaSupportFeatureSrc1R2yCsc).andThen <|
  (rgaCheckSupport (has src.colorSpaceMode imFullCscMask || has dst.colorSpaceMode imFullCscMask ||
    (patEnable && has pat.colorSpaceMode imFullCscMask)) feature
    imRgaSupportFeatureDstFullCsc).andThen <|
  (rgaCheckSupport (has modeUsage imMosaic) feature imRgaSupportFeatureMosaic).andThen <|
  (rgaCheckSupport (has modeUsage imOsd) feature imRgaSupportFeatureOsd).andThen <|
  (rgaCheckSupport (has modeUsage imPreIntr) feature imRgaSupportFeaturePreIntr).andThen <|
  (rgaCheckSupport (has modeUsage imAlphaBitMap) feature
    imRgaSupportFeatureAlphaBitMap).andThen <|
  rgaCheckSupport (has modeUsage imGauss) feature imRgaSupportFeatureGauss

def rgaCheckImage (info : RgaBuffer) (rect : ImRect) (resolution : RgaInfoResolution)
    (formatUsage byteStride : UInt32) (modeUsage : Int32) (isRead : Bool) : ImStatus :=
  (rgaCheckInfo info rect resolution).andThen <|
  (rgaCheckFormat info rect formatUsage modeUsage).andThen <|
  rgaCheckAlign info byteStride.toInt32 isRead

def rgaCheck (table : RgaInfoTableEntry) (src dst pat : RgaBuffer)
    (srcRect dstRect patRect : ImRect) (modeUsage : Int32) : ImStatus :=
  let patEnable := has modeUsage imAlphaBlendMask && rgaIsBufferValid pat
  let fill := has modeUsage imColorFill
  (rgaCheckFeature src pat dst patEnable modeUsage table.feature).andThen <|
  (if fill then .noError
    else rgaCheckImage src srcRect table.inputResolution table.inputFormat table.byteStride
      modeUsage true).andThen <|
  (if patEnable then
      if hasBit table.version (imRgaHwVersionRga1 ||| imRgaHwVersionRga1Plus) then .notSupported
      else rgaCheckImage pat patRect table.inputResolution table.inputFormat table.byteStride
        modeUsage true
    else .noError).andThen <|
  (rgaCheckImage dst dstRect table.outputResolution table.outputFormat table.byteStride
    modeUsage false).andThen <|
  (if fill then .noError
    else rgaCheckLimit src dst table.scaleLimit.toInt32 modeUsage).andThen <|
  (if has modeUsage imAlphaBlendMask then rgaCheckBlend pat dst patEnable
    else .noError).andThen <|
  rgaCheckRotate modeUsage table

/-- `imcheck` without the session: the same checks on arguments prepared in its own way. -/
def rgaCheckExternal (table : RgaInfoTableEntry) (src dst pat : RgaBuffer)
    (srcRect dstRect patRect : ImRect) (modeUsage : Int32) : ImStatus :=
  let dstRect := if has modeUsage imCrop then
      { dstRect with width := srcRect.width, height := srcRect.height }
    else dstRect
  let src := rgaApplyRect src srcRect
  let srcFormat := convertToRgaFormat src.format
  let dst := rgaApplyRect dst dstRect
  let dstFormat := convertToRgaFormat dst.format
  let patFormat := convertToRgaFormat pat.format
  if srcFormat = rkFormatUnknown then .notSupported
  else if dstFormat = rkFormatUnknown then .notSupported
  else if rgaIsBufferValid pat = true ∧ patFormat = rkFormatUnknown then .notSupported
  else
    let pat := if rgaIsBufferValid pat then
        { rgaApplyRect pat patRect with format := patFormat }
      else pat
    rgaCheck table { src with format := srcFormat } { dst with format := dstFormat } pat
      srcRect dstRect patRect modeUsage

end LibRga
