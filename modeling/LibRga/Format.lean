/-!
Pixel formats: the codes of `rga.h` and the conversions of `core/utils`, as the
Linux build configures them.
-/

namespace LibRga

/-! Driver format codes, shifted left by eight bits. -/

def rkFormatRgba8888 : Int32 := 0x000
def rkFormatRgbx8888 : Int32 := 0x100
def rkFormatRgb888 : Int32 := 0x200
def rkFormatBgra8888 : Int32 := 0x300
def rkFormatRgb565 : Int32 := 0x400
def rkFormatRgba5551 : Int32 := 0x500
def rkFormatRgba4444 : Int32 := 0x600
def rkFormatBgr888 : Int32 := 0x700
def rkFormatYCbCr422Sp : Int32 := 0x800
def rkFormatYCbCr422P : Int32 := 0x900
def rkFormatYCbCr420Sp : Int32 := 0xa00
def rkFormatYCbCr420P : Int32 := 0xb00
def rkFormatYCrCb422Sp : Int32 := 0xc00
def rkFormatYCrCb422P : Int32 := 0xd00
def rkFormatYCrCb420Sp : Int32 := 0xe00
def rkFormatYCrCb420P : Int32 := 0xf00
def rkFormatBpp1 : Int32 := 0x1000
def rkFormatBpp2 : Int32 := 0x1100
def rkFormatBpp4 : Int32 := 0x1200
def rkFormatBpp8 : Int32 := 0x1300
def rkFormatY4 : Int32 := 0x1400
def rkFormatYCbCr400 : Int32 := 0x1500
def rkFormatBgrx8888 : Int32 := 0x1600
def rkFormatYvyu422 : Int32 := 0x1800
def rkFormatYvyu420 : Int32 := 0x1900
def rkFormatVyuy422 : Int32 := 0x1a00
def rkFormatVyuy420 : Int32 := 0x1b00
def rkFormatYuyv422 : Int32 := 0x1c00
def rkFormatYuyv420 : Int32 := 0x1d00
def rkFormatUyvy422 : Int32 := 0x1e00
def rkFormatUyvy420 : Int32 := 0x1f00
def rkFormatYCbCr420Sp10b : Int32 := 0x2000
def rkFormatYCrCb420Sp10b : Int32 := 0x2100
def rkFormatYCbCr422Sp10b : Int32 := 0x2200
def rkFormatYCrCb422Sp10b : Int32 := 0x2300
def rkFormatBgr565 : Int32 := 0x2400
def rkFormatBgra5551 : Int32 := 0x2500
def rkFormatBgra4444 : Int32 := 0x2600
def rkFormatArgb8888 : Int32 := 0x2800
def rkFormatXrgb8888 : Int32 := 0x2900
def rkFormatArgb1555 : Int32 := 0x2a00
def rkFormatArgb4444 : Int32 := 0x2b00
def rkFormatAbgr8888 : Int32 := 0x2c00
def rkFormatXbgr8888 : Int32 := 0x2d00
def rkFormatAbgr1555 : Int32 := 0x2e00
def rkFormatAbgr4444 : Int32 := 0x2f00
def rkFormatRgba2bpp : Int32 := 0x3000
def rkFormatA8 : Int32 := 0x3100
def rkFormatYCbCr444Sp : Int32 := 0x3200
def rkFormatYCrCb444Sp : Int32 := 0x3300
def rkFormatY8 : Int32 := 0x3400
def rkFormatRgba1010102 : Int32 := 0x3600
def rkFormatBgra1010102 : Int32 := 0x3700
def rkFormatArgb2101010 : Int32 := 0x3800
def rkFormatAbgr2101010 : Int32 := 0x3900
def rkFormatRgbx1010102 : Int32 := 0x3a00
def rkFormatBgrx1010102 : Int32 := 0x3b00
def rkFormatXrgb2101010 : Int32 := 0x3c00
def rkFormatXbgr2101010 : Int32 := 0x3d00
def rkFormatYuv44410b : Int32 := 0x3e00
def rkFormatY210 : Int32 := 0x3f00
def rkFormatP010 : Int32 := 0x4000
def rkFormatP210 : Int32 := 0x4100
def rkFormatUnknown : Int32 := 0x10000

def isYuvFormat (format : Int32) : Bool :=
  [rkFormatYCbCr422Sp, rkFormatYCbCr422P, rkFormatYCbCr420Sp, rkFormatYCbCr420P,
    rkFormatYCrCb422Sp, rkFormatYCrCb422P, rkFormatYCrCb420Sp, rkFormatYCrCb420P,
    rkFormatYvyu422, rkFormatYvyu420, rkFormatVyuy422, rkFormatVyuy420, rkFormatYuyv422,
    rkFormatYuyv420, rkFormatUyvy422, rkFormatUyvy420, rkFormatY8, rkFormatY4, rkFormatYCbCr400,
    rkFormatYCbCr420Sp10b, rkFormatYCrCb420Sp10b, rkFormatYCrCb422Sp10b, rkFormatYCbCr422Sp10b,
    rkFormatYCbCr444Sp, rkFormatYCrCb444Sp, rkFormatYuv44410b].contains format

def isRgbFormat (format : Int32) : Bool :=
  [rkFormatRgba8888, rkFormatRgbx8888, rkFormatRgba5551, rkFormatRgba4444, rkFormatRgb888,
    rkFormatRgb565, rkFormatBgra8888, rkFormatBgrx8888, rkFormatBgra5551, rkFormatBgra4444,
    rkFormatBgr888, rkFormatBgr565, rkFormatArgb8888, rkFormatXrgb8888, rkFormatArgb1555,
    rkFormatArgb4444, rkFormatAbgr8888, rkFormatXbgr8888, rkFormatAbgr1555, rkFormatAbgr4444,
    rkFormatRgba1010102, rkFormatBgra1010102, rkFormatArgb2101010, rkFormatAbgr2101010,
    rkFormatRgbx1010102, rkFormatBgrx1010102, rkFormatXrgb2101010,
    rkFormatXbgr2101010].contains format

def isRgaFormat (format : Int32) : Bool :=
  format &&& (0xff00 : Int32) != 0 || format == 0

/-! DRM fourcc codes and Android HAL codes. -/

def fourccCode (a b c d : Char) : UInt32 :=
  a.val ||| (b.val <<< (8 : UInt32)) ||| (c.val <<< (16 : UInt32)) ||| (d.val <<< (24 : UInt32))

def drmFourccTable : List (UInt32 × Int32) :=
  [
    (fourccCode 'R' 'A' '1' '5', rkFormatAbgr1555),
    (fourccCode 'B' 'A' '1' '5', rkFormatArgb1555),
    (fourccCode 'A' 'R' '1' '5', rkFormatBgra5551),
    (fourccCode 'A' 'B' '1' '5', rkFormatRgba5551),
    (fourccCode 'R' 'A' '1' '2', rkFormatAbgr4444),
    (fourccCode 'B' 'A' '1' '2', rkFormatArgb4444),
    (fourccCode 'A' 'R' '1' '2', rkFormatBgra4444),
    (fourccCode 'A' 'B' '1' '2', rkFormatRgba4444),
    (fourccCode 'R' 'G' '1' '6', rkFormatBgr565),
    (fourccCode 'B' 'G' '1' '6', rkFormatRgb565),
    (fourccCode 'R' 'G' '2' '4', rkFormatBgr888),
    (fourccCode 'B' 'G' '2' '4', rkFormatRgb888),
    (fourccCode 'R' 'A' '2' '4', rkFormatAbgr8888),
    (fourccCode 'B' 'A' '2' '4', rkFormatArgb8888),
    (fourccCode 'A' 'R' '2' '4', rkFormatBgra8888),
    (fourccCode 'A' 'B' '2' '4', rkFormatRgba8888),
    (fourccCode 'R' 'X' '2' '4', rkFormatXbgr8888),
    (fourccCode 'B' 'X' '2' '4', rkFormatXrgb8888),
    (fourccCode 'X' 'R' '2' '4', rkFormatBgrx8888),
    (fourccCode 'X' 'B' '2' '4', rkFormatRgbx8888),
    (fourccCode 'A' 'B' '3' '0', rkFormatRgba1010102),
    (fourccCode 'A' 'R' '3' '0', rkFormatBgra1010102),
    (fourccCode 'X' 'B' '3' '0', rkFormatRgbx1010102),
    (fourccCode 'X' 'R' '3' '0', rkFormatBgrx1010102),
    (fourccCode 'R' 'A' '3' '0', rkFormatAbgr2101010),
    (fourccCode 'B' 'A' '3' '0', rkFormatArgb2101010),
    (fourccCode 'R' 'X' '3' '0', rkFormatXbgr2101010),
    (fourccCode 'B' 'X' '3' '0', rkFormatXrgb2101010),
    (fourccCode 'Y' 'U' '0' '8', rkFormatYCbCr420Sp),
    (fourccCode 'Y' 'U' '1' '0', rkFormatYCbCr420Sp10b),
    (fourccCode 'N' 'V' '1' '2', rkFormatYCbCr420Sp),
    (fourccCode 'N' 'V' '2' '1', rkFormatYCrCb420Sp),
    (fourccCode 'N' 'V' '1' '5', rkFormatYCbCr420Sp10b),
    (fourccCode 'P' '0' '1' '0', rkFormatP010),
    (fourccCode 'Y' 'U' '1' '2', rkFormatYCbCr420P),
    (fourccCode 'Y' 'V' '1' '2', rkFormatYCrCb420P),
    (fourccCode 'Y' 'U' 'Y' 'V', rkFormatYuyv422),
    (fourccCode 'Y' 'V' 'Y' 'U', rkFormatYvyu422),
    (fourccCode 'U' 'Y' 'V' 'Y', rkFormatUyvy422),
    (fourccCode 'V' 'Y' 'U' 'Y', rkFormatVyuy422),
    (fourccCode 'Y' '2' '1' '0', rkFormatY210),
    (fourccCode 'N' 'V' '1' '6', rkFormatYCbCr422Sp),
    (fourccCode 'N' 'V' '6' '1', rkFormatYCrCb422Sp),
    (fourccCode 'N' 'V' '2' '0', rkFormatYCbCr422Sp10b),
    (fourccCode 'P' '2' '1' '0', rkFormatP210),
    (fourccCode 'Y' 'U' '1' '6', rkFormatYCbCr422P),
    (fourccCode 'Y' 'V' '1' '6', rkFormatYCrCb422P),
    (fourccCode 'V' 'U' '3' '0', rkFormatYuv44410b),
    (fourccCode 'N' 'V' '2' '4', rkFormatYCbCr444Sp),
    (fourccCode 'N' 'V' '4' '2', rkFormatYCrCb444Sp),
    (0, rkFormatUnknown)
  ]

def androidHalTable : List (UInt32 × Int32) :=
  [
    (0x5, rkFormatBgra8888),
    (0x1, rkFormatRgba8888),
    (0x2, rkFormatRgbx8888),
    (0x1d, rkFormatBgr888),
    (0x3, rkFormatRgb888),
    (0x4, rkFormatRgb565),
    (0x10, rkFormatYCbCr422Sp),
    (0x15, rkFormatYCbCr420Sp),
    (0x23, rkFormatYCbCr420Sp),
    (0x11, rkFormatYCrCb420Sp),
    (0x17, rkFormatYCbCr420Sp10b),
    (0x200, rkFormatYCbCr420Sp),
    (0x202, rkFormatYCbCr422Sp),
    (0x204, rkFormatYCbCr444Sp),
    (0x201, rkFormatYCbCr420Sp10b),
    (0x203, rkFormatYCbCr422Sp10b)
  ]

def getFormatFromDrmFourcc (drmFourcc : UInt32) : Int32 :=
  (drmFourccTable.lookup drmFourcc).getD rkFormatUnknown

def getFormatFromAndroidHal (androidHalFormat : UInt32) : Int32 :=
  (androidHalTable.lookup androidHalFormat).getD rkFormatUnknown

def isDrmFourcc (format : Int32) : Bool :=
  (format >>> (24 : Int32)) &&& (0xff : Int32) != 0 &&
  (format >>> (16 : Int32)) &&& (0xff : Int32) != 0 &&
  (format >>> (8 : Int32)) &&& (0xff : Int32) != 0 &&
  format &&& (0xff : Int32) != 0

def isAndroidHalFormat (format : Int32) : Bool :=
  format &&& (0xff : Int32) != 0

def getCompatibleFormat (format : Int32) : Int32 :=
  if format = 0 then format
  else if format >>> (8 : Int32) ≠ 0 then format
  else format <<< (8 : Int32)

def convertToRgaFormat (exFormat : Int32) : Int32 :=
  if isDrmFourcc exFormat then getFormatFromDrmFourcc exFormat.toUInt32
  else
    let exFormat := getCompatibleFormat exFormat
    if isAndroidHalFormat exFormat then getFormatFromAndroidHal exFormat.toUInt32
    else if isRgaFormat exFormat then exFormat
    else rkFormatUnknown

/-! `NormalRgaApi.cpp` -/

/-- The same shift as `get_compatible_format`, written a second time in the source. -/
def rkRgaCompatibleFormat (format : Int32) : Int32 :=
  getCompatibleFormat format

def rkRgaGetRgaFormat (format : Int32) : Int32 :=
  if isRgaFormat format then format
  else
    let format := rkRgaCompatibleFormat format
    if isRgaFormat format then format else -1

def getPerPixelStrideFromFormat (format : Int32) : Int32 :=
  let format := convertToRgaFormat format
  if format = rkFormatRgba2bpp then 2
  else if format = rkFormatY4 then 4
  else if [rkFormatBpp1, rkFormatBpp2, rkFormatBpp4, rkFormatBpp8, rkFormatYCbCr400, rkFormatA8,
      rkFormatYCbCr420Sp, rkFormatYCbCr420P, rkFormatYCrCb420P, rkFormatYCrCb420Sp,
      rkFormatYCbCr422Sp, rkFormatYCbCr422P, rkFormatYCrCb422Sp, rkFormatYCrCb422P,
      rkFormatYCbCr444Sp, rkFormatYCrCb444Sp, rkFormatY8].contains format then 8
  else if [rkFormatYCbCr420Sp10b, rkFormatYCrCb420Sp10b, rkFormatYCbCr422Sp10b,
      rkFormatYCrCb422Sp10b].contains format then 10
  else if [rkFormatRgb565, rkFormatRgba5551, rkFormatRgba4444, rkFormatBgr565, rkFormatBgra5551,
      rkFormatBgra4444, rkFormatArgb1555, rkFormatArgb4444, rkFormatAbgr1555, rkFormatAbgr4444,
      rkFormatYvyu422, rkFormatVyuy422, rkFormatYuyv422, rkFormatUyvy422, rkFormatYvyu420,
      rkFormatVyuy420, rkFormatYuyv420, rkFormatUyvy420].contains format then 16
  else if [rkFormatBgr888, rkFormatRgb888].contains format then 24
  else if format = rkFormatYuv44410b then 30
  else if [rkFormatRgba8888, rkFormatRgbx8888, rkFormatBgra8888, rkFormatBgrx8888, rkFormatArgb8888,
      rkFormatXrgb8888, rkFormatAbgr8888, rkFormatXbgr8888, rkFormatRgba1010102,
      rkFormatBgra1010102, rkFormatArgb2101010, rkFormatAbgr2101010, rkFormatRgbx1010102,
      rkFormatBgrx1010102, rkFormatXrgb2101010, rkFormatXbgr2101010].contains format then 32
  else 0

end LibRga
