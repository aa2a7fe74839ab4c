import LibRga.TaskInfo

/-!
The versions a driver reports and what the library makes of them:
`rga_version_check` against its binding tables, and `rga_get_info`, which merges
the tables of all cores into one.
-/

namespace LibRga

structure RgaVersionBind where
  current : RgaVersion
  minimum : RgaVersion
deriving DecidableEq, Repr, Inhabited

/-- The two index lookups are one loop from the last row down, over the column `field`. `rows`
counts the rows still ahead. -/
def rgaVersionTableGetIndex (field : RgaVersionBind → RgaVersion) (version : RgaVersion)
    (table : List RgaVersionBind) : (rows : Nat) → Int32
  | 0 => -1
  | i + 1 =>
      if (rgaVersionCompare version (field (table.getD i default))).isGE then
        if i + 1 = table.length then Int32.ofNat i
        else if (rgaVersionCompare (field (table.getD (i + 1) default)) version).isGT then
          Int32.ofNat i
        else rgaVersionTableGetIndex field version table i
      else rgaVersionTableGetIndex field version table i

def rgaVersionTableGetCurrentIndex (version : RgaVersion) (table : List RgaVersionBind) : Int32 :=
  rgaVersionTableGetIndex RgaVersionBind.current version table table.length

def rgaVersionTableGetMinimumIndex (version : RgaVersion) (table : List RgaVersionBind) : Int32 :=
  rgaVersionTableGetIndex RgaVersionBind.minimum version table table.length

def rgaVersionTableCheckMinimumRange (version : RgaVersion) (table : List RgaVersionBind)
    (index : Nat) : Int32 :=
  if (rgaVersionCompare version (table.getD index default).minimum).isGE then
    if index + 1 = table.length then 0
    else if (rgaVersionCompare version (table.getD (index + 1) default).minimum).isLT then 0
    else 1
  else -1

/-- `rga_version_check`. The operations only log: the one whose status is returned, for a version
below the whole table, answers `IM_STATUS_ERROR_VERSION` in both sets. -/
def rgaVersionCheck (currentVersion minimumVersion : RgaVersion) (table : List RgaVersionBind) :
    Int32 :=
  let index := rgaVersionTableGetCurrentIndex currentVersion table
  if index < 0 then ImStatus.errorVersion.toInt32
  else rgaVersionTableCheckMinimumRange minimumVersion table index.toInt.toNat

def rgaSetCurrentApiVersion : RgaVersion := ⟨1, 10, 5⟩

def userDriverBindTable : List RgaVersionBind :=
  [⟨⟨0, 0, 0⟩, ⟨0, 0, 0⟩⟩, ⟨⟨1, 0, 3⟩, ⟨0, 0, 0⟩⟩, ⟨⟨1, 6, 0⟩, ⟨1, 1, 5⟩⟩,
    ⟨⟨1, 7, 2⟩, ⟨1, 2, 0⟩⟩, ⟨⟨1, 7, 3⟩, ⟨1, 2, 4⟩⟩]

def rgaCheckDriver (driverVersion : RgaVersion) : ImStatus :=
  let ret := rgaVersionCheck rgaSetCurrentApiVersion driverVersion userDriverBindTable
  if ret = 0 ∨ ret = -1 then .success else .errorVersion

/-! `hw_info_table` -/

inductive RgaHwVersionIndex where
  | vErr
  | rga1
  | rga1Plus
  | rga2
  | rga2Lite0
  | rga2Lite1
  | rga2Enhance
  | rga2Pro
  | rga2Lite2
  | rga3
deriving DecidableEq, Repr, Inhabited

/-- The formats that every core before RGA3 reads, and those that it writes. -/
def commonInputFormat : UInt32 :=
  imRgaSupportFormatRgb ||| imRgaSupportFormatArgb16Bit |||
    imRgaSupportFormatYuv420SemiPlanner8Bit ||| imRgaSupportFormatYuv420Planner8Bit |||
    imRgaSupportFormatYuv422SemiPlanner8Bit ||| imRgaSupportFormatYuv422Planner8Bit

def commonOutputFormat : UInt32 :=
  imRgaSupportFormatRgb ||| imRgaSupportFormatArgb16Bit ||| imRgaSupportFormatRgba16Bit |||
    imRgaSupportFormatYuv420SemiPlanner8Bit ||| imRgaSupportFormatYuv420Planner8Bit |||
    imRgaSupportFormatYuv422SemiPlanner8Bit ||| imRgaSupportFormatYuv422Planner8Bit

def tenBitFormat : UInt32 :=
  imRgaSupportFormatYuv420SemiPlanner10Bit ||| imRgaSupportFormatYuv420Planner10Bit |||
    imRgaSupportFormatYuv422SemiPlanner10Bit ||| imRgaSupportFormatYuv422Planner10Bit

def rga3Format : UInt32 :=
  imRgaSupportFormatRgb ||| imRgaSupportFormatYuv420SemiPlanner8Bit |||
    imRgaSupportFormatYuv422SemiPlanner8Bit ||| imRgaSupportFormatYuv420SemiPlanner10Bit |||
    imRgaSupportFormatYuv422SemiPlanner10Bit ||| imRgaSupportFormatYuyv422

def fillAndPalette : UInt32 :=
  imRgaSupportFeatureColorFill ||| imRgaSupportFeatureColorPalette

def hwInfoTable : RgaHwVersionIndex → RgaInfoTableEntry
  | .vErr => { version := imRgaHwVersionRgaVErr }
  | .rga1 =>
      { version := imRgaHwVersionRga1
        inputResolution := ⟨8192, 8192⟩, outputResolution := ⟨2048, 2048⟩
        byteStride := 4, scaleLimit := 8, performance := 1
        inputFormat := commonInputFormat ||| imRgaSupportFormatBpp
        outputFormat := commonOutputFormat
        feature := fillAndPalette ||| imRgaSupportFeatureRop }
  | .rga1Plus =>
      { version := imRgaHwVersionRga1Plus
        inputResolution := ⟨8192, 8192⟩, outputResolution := ⟨4096, 4096⟩
        byteStride := 4, scaleLimit := 8, performance := 1
        inputFormat := commonInputFormat ||| imRgaSupportFormatBpp
        outputFormat := commonOutputFormat
        feature := fillAndPalette }
  | .rga2 =>
      { version := imRgaHwVersionRga2
        inputResolution := ⟨8192, 8192⟩, outputResolution := ⟨4096, 4096⟩
        byteStride := 4, scaleLimit := 16, performance := 2
        inputFormat := commonInputFormat
        outputFormat := commonOutputFormat
        feature := fillAndPalette ||| imRgaSupportFeatureRop
        scaleVerBicubicLimit := 1928 }
  | .rga2Lite0 =>
      { version := imRgaHwVersionRga2Lite0
        inputResolution := ⟨8192, 8192⟩, outputResolution := ⟨4096, 4096⟩
        byteStride := 4, scaleLimit := 8, performance := 2
        inputFormat := commonInputFormat
        outputFormat := commonOutputFormat
        feature := fillAndPalette ||| imRgaSupportFeatureRop
        scaleVerBicubicLimit := 1928 }
  | .rga2Lite1 =>
      { version := imRgaHwVersionRga2Lite1
        inputResolution := ⟨8192, 8192⟩, outputResolution := ⟨4096, 4096⟩
        byteStride := 4, scaleLimit := 8, performance := 2
        inputFormat := commonInputFormat ||| tenBitFormat
        outputFormat := commonOutputFormat
        feature := fillAndPalette
        scaleVerBicubicLimit := 1928 }
  | .rga2Enhance =>
      { version := imRgaHwVersionRga2Enhance
        inputResolution := ⟨8192, 8192⟩, outputResolution := ⟨4096, 4096⟩
        byteStride := 4, scaleLimit := 16, performance := 2
        inputFormat := commonInputFormat ||| tenBitFormat
        outputFormat := commonOutputFormat ||| imRgaSupportFormatYuyv420 |||
          imRgaSupportFormatYuyv422
        feature := fillAndPalette ||| imRgaSupportFeatureRop
        scaleVerBicubicLimit := 1928 }
  | .rga2Pro =>
      { version := imRgaHwVersionRga2Pro
        inputResolution := ⟨8192, 8192⟩, outputResolution := ⟨8192, 8192⟩
        byteStride := 4, scaleLimit := 16, performance := 2
        inputFormat := commonInputFormat ||| tenBitFormat ||| imRgaSupportFormatYuv400 |||
          imRgaSupportFormatYuv444SemiPlanner8Bit ||| imRgaSupportFormatYuyv422 |||
          imRgaSupportFormatRgba2bpp ||| imRgaSupportFormatAlpha8Bit
        outputFormat := commonOutputFormat ||| imRgaSupportFormatY4 |||
          imRgaSupportFormatYuv400 ||| imRgaSupportFormatYuv444SemiPlanner8Bit |||
          imRgaSupportFormatYuyv420 ||| imRgaSupportFormatYuyv422 ||| imRgaSupportFormatY8
        feature := fillAndPalette ||| imRgaSupportFeatureRop ||| imRgaSupportFeatureQuantize |||
          imRgaSupportFeatureSrc1R2yCsc ||| imRgaSupportFeatureDstFullCsc |||
          imRgaSupportFeatureMosaic ||| imRgaSupportFeatureOsd ||| imRgaSupportFeaturePreIntr |||
          imRgaSupportFeatureAlphaBitMap
        scaleVerBicubicLimit := 1928 }
  | .rga2Lite2 =>
      { version := imRgaHwVersionRga2Lite2
        inputResolution := ⟨2880, 8192⟩, outputResolution := ⟨2880, 8192⟩
        byteStride := 4, scaleLimit := 16, performance := 2
        inputFormat := commonInputFormat ||| tenBitFormat ||| imRgaSupportFormatYuv400 |||
          imRgaSupportFormatYuyv422
        outputFormat := commonOutputFormat ||| imRgaSupportFormatYuv400 |||
          imRgaSupportFormatYuyv422
        feature := fillAndPalette }
  | .rga3 =>
      { version := imRgaHwVersionRga3
        inputResolution := ⟨8176, 8176⟩, outputResolution := ⟨8128, 8128⟩
        byteStride := 16, scaleLimit := 8, performance := 4
        inputFormat := rga3Format
        outputFormat := rga3Format
        feature := imRgaSupportFeatureFbc ||| imRgaSupportFeatureBlendYuv |||
          imRgaSupportFeatureBt2020
        scaleVerBicubicLimit := 8128 }

/-! `rga_get_info` -/

def rgaHwSize : Nat := 5

/-- `rga_hw_versions_t`. Of the texts only that of the first core is read. A read behind the array
gives the zero version, which no table has. -/
structure RgaHwVersions where
  version : List RgaVersion := List.replicate rgaHwSize {}
  str : List UInt8 := []
  size : UInt32 := 0
deriving DecidableEq, Repr, Inhabited

def RgaHwVersions.entry (versions : RgaHwVersions) (i : Nat) : RgaVersion :=
  versions.version.getD i {}

def rgaSupportInfoMergeResolution (dst merge : RgaInfoResolution) : RgaInfoResolution :=
  if dst.width < merge.width ∧ dst.height < merge.height then merge else dst

def rgaSupportInfoMergeTable (dst merge : RgaInfoTableEntry) : RgaInfoTableEntry :=
  { version := dst.version ||| merge.version
    inputFormat := dst.inputFormat ||| merge.inputFormat
    outputFormat := dst.outputFormat ||| merge.outputFormat
    feature := dst.feature ||| merge.feature
    inputResolution := rgaSupportInfoMergeResolution dst.inputResolution merge.inputResolution
    outputResolution := rgaSupportInfoMergeResolution dst.outputResolution merge.outputResolution
    byteStride := max dst.byteStride merge.byteStride
    scaleLimit := max dst.scaleLimit merge.scaleLimit
    performance := max dst.performance merge.performance
    scaleVerBicubicLimit := max dst.scaleVerBicubicLimit merge.scaleVerBicubicLimit }

def RgaInfoTableEntry.adds (entry : RgaInfoTableEntry) (input output feature : UInt32) :
    RgaInfoTableEntry :=
  { entry with
    inputFormat := entry.inputFormat ||| input
    outputFormat := entry.outputFormat ||| output
    feature := entry.feature ||| feature }

def RgaInfoTableEntry.drops (entry : RgaInfoTableEntry) (output feature : UInt32) :
    RgaInfoTableEntry :=
  { entry with
    outputFormat := entry.outputFormat &&& ~~~output
    feature := entry.feature &&& ~~~feature }

/-- What RV1109, RK3566, RK3568 and RK3588 add to the enhanced RGA2. -/
def rk3568Entry : RgaInfoTableEntry :=
  (hwInfoTable .rga2Enhance).adds (imRgaSupportFormatYuyv422 ||| imRgaSupportFormatYuv400)
    (imRgaSupportFormatYuv400 ||| imRgaSupportFormatY4)
    (imRgaSupportFeatureQuantize ||| imRgaSupportFeatureSrc1R2yCsc |||
      imRgaSupportFeatureDstFullCsc)

/-- RV1106, RK3562 and RK3528 -/
def rv1106Entry : RgaInfoTableEntry :=
  (hwInfoTable .rga2Enhance).adds
    (imRgaSupportFormatYuyv422 ||| imRgaSupportFormatYuv400 ||| imRgaSupportFormatRgba2bpp)
    (imRgaSupportFormatYuv400 ||| imRgaSupportFormatY4)
    (imRgaSupportFeatureQuantize ||| imRgaSupportFeatureSrc1R2yCsc |||
      imRgaSupportFeatureDstFullCsc ||| imRgaSupportFeatureMosaic ||| imRgaSupportFeatureOsd |||
      imRgaSupportFeaturePreIntr)

def rk3506Entry : RgaInfoTableEntry :=
  { ((hwInfoTable .rga2Enhance).adds
      (imRgaSupportFormatYuyv422 ||| imRgaSupportFormatYuv400 ||| imRgaSupportFormatAlpha8Bit)
      imRgaSupportFormatYuv400
      (imRgaSupportFeatureSrc1R2yCsc ||| imRgaSupportFeatureDstFullCsc |||
        imRgaSupportFeatureGauss)).drops 0 imRgaSupportFeatureRop with
    inputResolution := ⟨1280, 8192⟩
    outputResolution := ⟨1280, 4096⟩
    scaleVerBicubicLimit := 600 }

/-- The rows of `rga_get_info`: the table of one core by its version. -/
def rgaCoreTable : List (RgaVersion × RgaInfoTableEntry) :=
  [ (⟨2, 0, 0⟩, hwInfoTable .rga2),
    (⟨3, 0, 0x16445⟩, hwInfoTable .rga2),
    (⟨3, 0, 0x22245⟩, hwInfoTable .rga2Enhance),
    (⟨3, 0, 0x76831⟩, hwInfoTable .rga3),
    (⟨3, 2, 0x18218⟩, (hwInfoTable .rga2Enhance).adds 0 0 imRgaSupportFeatureRop),
    (⟨3, 2, 0x56726⟩, rk3568Entry),
    (⟨3, 2, 0x63318⟩, rk3568Entry),
    (⟨3, 3, 0x87975⟩, rv1106Entry),
    (⟨3, 6, 0x92812⟩, rv1106Entry),
    (⟨3, 7, 0x93215⟩, rv1106Entry),
    (⟨3, 0xa, 0x07135⟩, rk3506Entry),
    (⟨3, 0xe, 0x19357⟩, hwInfoTable .rga2Pro),
    (⟨4, 1, 0x34669⟩, (hwInfoTable .rga2Pro).drops
      (imRgaSupportFormatY4 ||| imRgaSupportFormatY8)
      (imRgaSupportFeatureMosaic ||| imRgaSupportFeatureRop ||| imRgaSupportFeatureQuantize)),
    (⟨4, 1, 0x33689⟩, (hwInfoTable .rga2Pro).drops
      (imRgaSupportFormatY4 ||| imRgaSupportFormatY8) imRgaSupportFeatureMosaic),
    (⟨3, 0xf, 0x23690⟩, hwInfoTable .rga2Lite2),
    (⟨4, 0, 0x18632⟩, hwInfoTable .rga2Lite0),
    (⟨4, 0, 0x23998⟩, (hwInfoTable .rga2Lite1).adds 0 0 imRgaSupportFeatureSrc1R2yCsc),
    (⟨4, 0, 0x27615⟩, (hwInfoTable .rga2Lite1).adds 0 0 imRgaSupportFeatureSrc1R2yCsc),
    (⟨4, 0, 0x28610⟩, (hwInfoTable .rga2Lite1).adds 0 0 imRgaSupportFeatureSrc1R2yCsc),
    (⟨5, 2, 0x48482⟩, ((hwInfoTable .rga2Pro).adds imRgaSupportFormatRgba16Bit
      (imRgaSupportFormatYuv420SemiPlanner10Bit ||| imRgaSupportFormatYuv422SemiPlanner10Bit |||
        imRgaSupportFormatRgba1010102 ||| imRgaSupportFormatYuv444Paced10Bit)
      imRgaSupportFeatureSecure).drops 0
      (imRgaSupportFeatureQuantize ||| imRgaSupportFeatureRop)),
    (⟨42, 0, 0x17760⟩, hwInfoTable .rga2Lite1) ]

/-- `TRY_TO_COMPATIBLE`: the table by the text of the first core's version. -/
def rgaCompatibleIndex (str : List UInt8) : RgaHwVersionIndex :=
  if "1.3".toUTF8.toList.isPrefixOf str then .rga1
  else if "1.6".toUTF8.toList.isPrefixOf str then .rga1Plus
  else if "2.00".toUTF8.toList.isPrefixOf str then .rga2
  else if "3.00".toUTF8.toList.isPrefixOf str then .rga2
  else if "3.02".toUTF8.toList.isPrefixOf str then .rga2Enhance
  else if "4.00".toUTF8.toList.isPrefixOf str then .rga2Lite0
  else .vErr

/-- The loop over the cores; `none` is the jump to `TRY_TO_COMPATIBLE`. -/
def rgaMergeCores (table : RgaInfoTableEntry) : List RgaVersion → Option RgaInfoTableEntry
  | [] => some table
  | version :: rest =>
      match rgaCoreTable.lookup version with
      | none => none
      | some entry => rgaMergeCores (rgaSupportInfoMergeTable table entry) rest

def rgaGetInfo (versions : RgaHwVersions) (table : RgaInfoTableEntry) :
    ImStatus × RgaInfoTableEntry :=
  match rgaMergeCores table ((List.range versions.size.toNat).map versions.entry) with
  | some merged => (.success, merged)
  | none =>
      let index := rgaCompatibleIndex versions.str
      (if index = .vErr then .failed else .success, hwInfoTable index)

end LibRga
