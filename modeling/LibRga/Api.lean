import LibRga.Submit

/-!
The single-call and task wrappers of `im2d.cpp`.

A wrapper either refuses its arguments, or makes a list of submissions of which
each is made only while the ones before it return `IM_STATUS_SUCCESS`. The merge
of the release fences of an array call is left out.
-/

namespace LibRga

abbrev ApiPlan := Except ImStatus (List TaskArgs)

def rgaCurrentApiVersion : UInt32 := 0x010a050b

def syncUsage (sync : Int32) : Int32 :=
  if sync = 0 then imAsync else if sync = 1 then imSync else 0

/-- `(int)value`; out of range it saturates, as the conversion instruction does. -/
def doubleToInt (value : ℚ) : Int32 :=
  let whole : Int := if 0 ≤ value then value.floor else -((-value).floor)
  if whole < Int32.minValue.toInt then Int32.minValue
  else if Int32.maxValue.toInt < whole then Int32.maxValue
  else Int32.ofInt whole

def downAlign2 (value : Int32) : Int32 :=
  value &&& (~~~1 : Int32)

/-- The scaled destination of `imresize`; the factors are finite doubles. -/
def resizeBuffer (table : RgaInfoTableEntry) (src dst : RgaBuffer) (fx fy : ℚ) :
    Except ImStatus RgaBuffer :=
  if 0 < fx ∨ 0 < fy then
    let fx := if fx = 0 then 1 else fx
    let fy := if fy = 0 then 1 else fy
    let dst := { dst with
      width := doubleToInt (Float32.double (src.width.toInt * fx))
      height := doubleToInt (Float32.double (src.height.toInt * fy)) }
    let format := convertToRgaFormat dst.format
    if format = rkFormatUnknown then .error .notSupported
    else if isYuvFormat format then
      let dst := { dst with width := downAlign2 dst.width, height := downAlign2 dst.height }
      let status := rgaCheckExternal table src dst {} {} {} {} 0
      if status ≠ .noError then .error status else .ok dst
    else .ok dst
  else .ok dst

def sameSize (left right : RgaBuffer) : Bool :=
  left.width == right.width && left.height == right.height

def rectangleSides (rect : ImRect) (thickness : Int32) : List ImRect :=
  let vLength := rect.height - 2 * thickness
  [⟨rect.x, rect.y, rect.width, thickness⟩,
    ⟨rect.x, rect.y + (rect.height - thickness), rect.width, thickness⟩,
    ⟨rect.x, rect.y + thickness, thickness, vLength⟩,
    ⟨rect.x + (rect.width - thickness), rect.y + thickness, thickness, vLength⟩]

/-! Single calls -/

def imcopy (src dst : RgaBuffer) (sync : Int32) (releaseFence : Bool) : ApiPlan :=
  if sameSize src dst = false then .error .invalidParam
  else .ok [{
      src := src, dst := dst, releaseFence := releaseFence, opt := some {}
      usage := syncUsage sync }]

def imresize (table : RgaInfoTableEntry) (src dst : RgaBuffer) (fx fy : ℚ)
    (interpolation sync : Int32) (releaseFence : Bool) : ApiPlan := do
  let dst ← resizeBuffer table src dst fx fy
  .ok [{
      src := src, dst := dst, releaseFence := releaseFence
      opt := some { version := rgaCurrentApiVersion, interp := interpolation }
      usage := syncUsage sync }]

def imcvtcolor (src dst : RgaBuffer) (sfmt dfmt mode sync : Int32) (releaseFence : Bool) :
    ApiPlan :=
  let src := { src with format := sfmt }
  let dst := { dst with
    format := dfmt
    colorSpaceMode := if dst.colorSpaceMode = 0 then mode else dst.colorSpaceMode }
  .ok [{
      src := src, dst := dst, releaseFence := releaseFence, opt := some {}
      usage := syncUsage sync }]

def imcrop (src dst : RgaBuffer) (rect : ImRect) (sync : Int32) (releaseFence : Bool) : ApiPlan :=
  .ok [{
      src := src, dst := dst, srect := rect
      drect := { width := rect.width, height := rect.height }, releaseFence := releaseFence
      opt := some {}, usage := syncUsage sync }]

def imtranslate (src dst : RgaBuffer) (x y sync : Int32) (releaseFence : Bool) : ApiPlan :=
  if sameSize src dst = false then .error .invalidParam
  else .ok [{
      src := src, dst := dst, srect := { width := src.width - x, height := src.height - y }
      drect := ⟨x, y, src.width - x, src.height - y⟩, releaseFence := releaseFence, opt := some {}
      usage := syncUsage sync }]

def imrotate (src dst : RgaBuffer) (rotation sync : Int32) (releaseFence : Bool) : ApiPlan :=
  .ok [{
      src := src, dst := dst, releaseFence := releaseFence, opt := some {}
      usage := rotation ||| syncUsage sync }]

def imflip (src dst : RgaBuffer) (mode sync : Int32) (releaseFence : Bool) : ApiPlan :=
  .ok [{
      src := src, dst := dst, releaseFence := releaseFence, opt := some {}
      usage := mode ||| syncUsage sync }]

def imcomposite (srcA srcB dst : RgaBuffer) (mode sync : Int32) (releaseFence : Bool) : ApiPlan :=
  .ok [{
      src := srcA, dst := dst, pat := srcB, releaseFence := releaseFence, opt := some {}
      usage := mode ||| syncUsage sync }]

def imblend (src dst : RgaBuffer) (mode sync : Int32) (releaseFence : Bool) : ApiPlan :=
  imcomposite src {} dst mode sync releaseFence

def imosd (osd dst : RgaBuffer) (osdRect : ImRect) (osdInfo : ImOsd) (sync : Int32)
    (releaseFence : Bool) : ApiPlan :=
  .ok [{
      src := dst, dst := dst, pat := osd, srect := osdRect, drect := osdRect
      releaseFence := releaseFence
      opt := some { version := rgaCurrentApiVersion, osdConfig := osdInfo }
      usage := (imAlphaBlendDstOver ||| imOsd) ||| syncUsage sync }]

def imcolorkey (src dst : RgaBuffer) (range : ImColorkeyRange) (mode sync : Int32)
    (releaseFence : Bool) : ApiPlan :=
  .ok [{
      src := src, dst := dst, releaseFence := releaseFence, opt := some { colorkeyRange := range }
      usage := mode ||| syncUsage sync }]

def imquantize (src dst : RgaBuffer) (nnInfo : ImNn) (sync : Int32) (releaseFence : Bool) :
    ApiPlan :=
  .ok [{
      src := src, dst := dst, releaseFence := releaseFence, opt := some { nn := nnInfo }
      usage := imNnQuantize ||| syncUsage sync }]

def imrop (src dst : RgaBuffer) (ropCode sync : Int32) (releaseFence : Bool) : ApiPlan :=
  .ok [{
      src := src, dst := dst, releaseFence := releaseFence, opt := some { ropCode := ropCode }
      usage := imRop ||| syncUsage sync }]

def immosaic (image : RgaBuffer) (rect : ImRect) (mosaicMode sync : Int32) (releaseFence : Bool) :
    ApiPlan :=
  .ok [{
      src := image, dst := image, srect := rect, drect := rect, releaseFence := releaseFence
      opt := some { version := rgaCurrentApiVersion, mosaicMode := mosaicMode }
      usage := imMosaic ||| syncUsage sync }]

def forRects (rects : List ImRect) (call : ImRect → ApiPlan) : ApiPlan :=
  (rects.mapM call).map List.flatten

def immosaicArray (dst : RgaBuffer) (rects : List ImRect) (mosaicMode sync : Int32)
    (releaseFence : Bool) : ApiPlan :=
  forRects rects fun rect => immosaic dst rect mosaicMode sync releaseFence

def impalette (src dst lut : RgaBuffer) (sync : Int32) (releaseFence : Bool) : ApiPlan :=
  if sameSize src dst = false then .error .invalidParam
  else .ok [{
      src := src, dst := dst, pat := lut, releaseFence := releaseFence, opt := some {}
      usage := imColorPalette ||| syncUsage sync }]

def imfill (dst : RgaBuffer) (rect : ImRect) (color sync : Int32) (releaseFence : Bool) :
    ApiPlan :=
  .ok [{
      dst := dst, drect := rect, releaseFence := releaseFence, opt := some { color := color }
      usage := imColorFill ||| syncUsage sync }]

def imfillArray (dst : RgaBuffer) (rects : List ImRect) (color : UInt32) (sync : Int32)
    (releaseFence : Bool) : ApiPlan :=
  forRects rects fun rect => imfill dst rect color.toInt32 sync releaseFence

def imrectangle (dst : RgaBuffer) (rect : ImRect) (color : UInt32) (thickness sync : Int32)
    (releaseFence : Bool) : ApiPlan :=
  if thickness < 0 then imfill dst rect color.toInt32 sync releaseFence
  else imfillArray dst (rectangleSides rect thickness) color sync releaseFence

def imrectangleArray (dst : RgaBuffer) (rects : List ImRect) (color : UInt32)
    (thickness sync : Int32) (releaseFence : Bool) : ApiPlan :=
  forRects rects fun rect => imrectangle dst rect color thickness sync releaseFence

def improcess (src dst pat : RgaBuffer) (srect drect prect : ImRect) (acquireFenceFd : Int32)
    (releaseFence : Bool) (opt : Option ImOpt) (usage : Int32) : ApiPlan :=
  .ok [{
      src := src, dst := dst, pat := pat, srect := srect, drect := drect, prect := prect
      acquireFenceFd := acquireFenceFd, releaseFence := releaseFence, opt := opt, usage := usage }]

/-! Task calls -/

def improcessTask (jobHandle : UInt32) (src dst pat : RgaBuffer) (srect drect prect : ImRect)
    (opt : Option ImOpt) (usage : Int32) : ApiPlan :=
  .ok [{
      jobHandle := jobHandle, src := src, dst := dst, pat := pat, srect := srect, drect := drect
      prect := prect, opt := opt, usage := usage }]

def imcopyTask (jobHandle : UInt32) (src dst : RgaBuffer) : ApiPlan :=
  if sameSize src dst = false then .error .invalidParam
  else improcessTask jobHandle src dst {} {} {} {} (some {}) 0

def imresizeTask (table : RgaInfoTableEntry) (jobHandle : UInt32) (src dst : RgaBuffer)
    (fx fy : ℚ) (interpolation : Int32) : ApiPlan := do
  let dst ← resizeBuffer table src dst fx fy
  improcessTask jobHandle src dst {} {} {} {}
    (some { version := rgaCurrentApiVersion, interp := interpolation }) 0

def imcropTask (jobHandle : UInt32) (src dst : RgaBuffer) (rect : ImRect) : ApiPlan :=
  improcessTask jobHandle src dst {} rect { width := rect.width, height := rect.height } {}
    (some {}) 0

def imcvtcolorTask (jobHandle : UInt32) (src dst : RgaBuffer) (sfmt dfmt mode : Int32) :
    ApiPlan :=
  improcessTask jobHandle { src with format := sfmt }
    { dst with format := dfmt, colorSpaceMode := mode } {} {} {} {} (some {}) 0

def imtranslateTask (jobHandle : UInt32) (src dst : RgaBuffer) (x y : Int32) : ApiPlan :=
  if sameSize src dst = false then .error .invalidParam
  else improcessTask jobHandle src dst {} { width := src.width - x, height := src.height - y }
    ⟨x, y, src.width - x, src.height - y⟩ {} (some {}) 0

def imrotateTask (jobHandle : UInt32) (src dst : RgaBuffer) (rotation : Int32) : ApiPlan :=
  improcessTask jobHandle src dst {} {} {} {} (some {}) rotation

def imflipTask (jobHandle : UInt32) (src dst : RgaBuffer) (mode : Int32) : ApiPlan :=
  improcessTask jobHandle src dst {} {} {} {} (some {}) mode

def imcompositeTask (jobHandle : UInt32) (srcA srcB dst : RgaBuffer) (mode : Int32) : ApiPlan :=
  improcessTask jobHandle srcA dst srcB {} {} {} (some {}) mode

def imblendTask (jobHandle : UInt32) (src dst : RgaBuffer) (mode : Int32) : ApiPlan :=
  imcompositeTask jobHandle src {} dst mode

def imcolorkeyTask (jobHandle : UInt32) (src dst : RgaBuffer) (range : ImColorkeyRange)
    (mode : Int32) : ApiPlan :=
  improcessTask jobHandle src dst {} {} {} {} (some { colorkeyRange := range }) mode

def imosdTask (jobHandle : UInt32) (osd bgImage : RgaBuffer) (osdRect : ImRect)
    (osdConfig : ImOsd) : ApiPlan :=
  improcessTask jobHandle bgImage bgImage osd osdRect osdRect {}
    (some { version := rgaCurrentApiVersion, osdConfig := osdConfig })
    (imAlphaBlendDstOver ||| imOsd)

def imquantizeTask (jobHandle : UInt32) (src dst : RgaBuffer) (nnInfo : ImNn) : ApiPlan :=
  improcessTask jobHandle src dst {} {} {} {} (some { nn := nnInfo }) imNnQuantize

def imropTask (jobHandle : UInt32) (src dst : RgaBuffer) (ropCode : Int32) : ApiPlan :=
  improcessTask jobHandle src dst {} {} {} {} (some { ropCode := ropCode }) imRop

def immosaicTask (jobHandle : UInt32) (image : RgaBuffer) (rect : ImRect) (mosaicMode : Int32) :
    ApiPlan :=
  improcessTask jobHandle image image {} rect rect {}
    (some { version := rgaCurrentApiVersion, mosaicMode := mosaicMode }) imMosaic

def immosaicTaskArray (jobHandle : UInt32) (dst : RgaBuffer) (rects : List ImRect)
    (mosaicMode : Int32) : ApiPlan :=
  forRects rects fun rect => immosaicTask jobHandle dst rect mosaicMode

def imfillTask (jobHandle : UInt32) (dst : RgaBuffer) (rect : ImRect) (color : UInt32) :
    ApiPlan :=
  improcessTask jobHandle {} dst {} {} rect {} (some { color := color.toInt32 }) imColorFill

def imfillTaskArray (jobHandle : UInt32) (dst : RgaBuffer) (rects : List ImRect)
    (color : UInt32) : ApiPlan :=
  forRects rects fun rect => imfillTask jobHandle dst rect color

def imrectangleTask (jobHandle : UInt32) (dst : RgaBuffer) (rect : ImRect) (color : UInt32)
    (thickness : Int32) : ApiPlan :=
  if thickness < 0 then imfillTask jobHandle dst rect color
  else imfillTaskArray jobHandle dst (rectangleSides rect thickness) color

def imrectangleTaskArray (jobHandle : UInt32) (dst : RgaBuffer) (rects : List ImRect)
    (color : UInt32) (thickness : Int32) : ApiPlan :=
  forRects rects fun rect => imrectangleTask jobHandle dst rect color thickness

def impaletteTask (jobHandle : UInt32) (src dst lut : RgaBuffer) : ApiPlan :=
  if sameSize src dst = false then .error .invalidParam
  else improcessTask jobHandle src dst lut {} {} {} (some {}) imColorPalette

/-! The operations that exist in both forms, with the arguments they share -/

inductive ImOp where
  | copy (src dst : RgaBuffer)
  | resize (src dst : RgaBuffer) (fx fy : ℚ) (interpolation : Int32)
  | crop (src dst : RgaBuffer) (rect : ImRect)
  | translate (src dst : RgaBuffer) (x y : Int32)
  | cvtcolor (src dst : RgaBuffer) (sfmt dfmt mode : Int32)
  | rotate (src dst : RgaBuffer) (rotation : Int32)
  | flip (src dst : RgaBuffer) (mode : Int32)
  | blend (src dst : RgaBuffer) (mode : Int32)
  | composite (srcA srcB dst : RgaBuffer) (mode : Int32)
  | colorkey (src dst : RgaBuffer) (range : ImColorkeyRange) (mode : Int32)
  | osd (layer dst : RgaBuffer) (osdRect : ImRect) (osdInfo : ImOsd)
  | quantize (src dst : RgaBuffer) (nnInfo : ImNn)
  | rop (src dst : RgaBuffer) (ropCode : Int32)
  | fill (dst : RgaBuffer) (rect : ImRect) (color : UInt32)
  | fillArray (dst : RgaBuffer) (rects : List ImRect) (color : UInt32)
  | rectangle (dst : RgaBuffer) (rect : ImRect) (color : UInt32) (thickness : Int32)
  | rectangleArray (dst : RgaBuffer) (rects : List ImRect) (color : UInt32) (thickness : Int32)
  | mosaic (image : RgaBuffer) (rect : ImRect) (mosaicMode : Int32)
  | mosaicArray (dst : RgaBuffer) (rects : List ImRect) (mosaicMode : Int32)
  | palette (src dst lut : RgaBuffer)
  | process (src dst pat : RgaBuffer) (srect drect prect : ImRect) (opt : Option ImOpt)
      (usage : Int32)
deriving DecidableEq, Repr

/-- The single call, with `sync` set where it has that argument; only `improcess` takes a
fence to wait for. -/
def ImOp.direct (table : RgaInfoTableEntry) (acquireFenceFd : Int32) (releaseFence : Bool) :
    ImOp → ApiPlan
  | copy src dst => imcopy src dst 1 releaseFence
  | resize src dst fx fy interpolation => imresize table src dst fx fy interpolation 1 releaseFence
  | crop src dst rect => imcrop src dst rect 1 releaseFence
  | translate src dst x y => imtranslate src dst x y 1 releaseFence
  | cvtcolor src dst sfmt dfmt mode => imcvtcolor src dst sfmt dfmt mode 1 releaseFence
  | rotate src dst rotation => imrotate src dst rotation 1 releaseFence
  | flip src dst mode => imflip src dst mode 1 releaseFence
  | blend src dst mode => imblend src dst mode 1 releaseFence
  | composite srcA srcB dst mode => imcomposite srcA srcB dst mode 1 releaseFence
  | colorkey src dst range mode => imcolorkey src dst range mode 1 releaseFence
  | osd layer dst osdRect osdInfo => imosd layer dst osdRect osdInfo 1 releaseFence
  | quantize src dst nnInfo => imquantize src dst nnInfo 1 releaseFence
  | rop src dst ropCode => imrop src dst ropCode 1 releaseFence
  | fill dst rect color => imfill dst rect color.toInt32 1 releaseFence
  | fillArray dst rects color => imfillArray dst rects color 1 releaseFence
  | rectangle dst rect color thickness => imrectangle dst rect color thickness 1 releaseFence
  | rectangleArray dst rects color thickness =>
      imrectangleArray dst rects color thickness 1 releaseFence
  | mosaic image rect mosaicMode => immosaic image rect mosaicMode 1 releaseFence
  | mosaicArray dst rects mosaicMode => immosaicArray dst rects mosaicMode 1 releaseFence
  | palette src dst lut => impalette src dst lut 1 releaseFence
  | process src dst pat srect drect prect opt usage =>
      improcess src dst pat srect drect prect acquireFenceFd releaseFence opt usage

def ImOp.task (table : RgaInfoTableEntry) (jobHandle : UInt32) : ImOp → ApiPlan
  | copy src dst => imcopyTask jobHandle src dst
  | resize src dst fx fy interpolation => imresizeTask table jobHandle src dst fx fy interpolation
  | crop src dst rect => imcropTask jobHandle src dst rect
  | translate src dst x y => imtranslateTask jobHandle src dst x y
  | cvtcolor src dst sfmt dfmt mode => imcvtcolorTask jobHandle src dst sfmt dfmt mode
  | rotate src dst rotation => imrotateTask jobHandle src dst rotation
  | flip src dst mode => imflipTask jobHandle src dst mode
  | blend src dst mode => imblendTask jobHandle src dst mode
  | composite srcA srcB dst mode => imcompositeTask jobHandle srcA srcB dst mode
  | colorkey src dst range mode => imcolorkeyTask jobHandle src dst range mode
  | osd layer dst osdRect osdInfo => imosdTask jobHandle layer dst osdRect osdInfo
  | quantize src dst nnInfo => imquantizeTask jobHandle src dst nnInfo
  | rop src dst ropCode => imropTask jobHandle src dst ropCode
  | fill dst rect color => imfillTask jobHandle dst rect color
  | fillArray dst rects color => imfillTaskArray jobHandle dst rects color
  | rectangle dst rect color thickness => imrectangleTask jobHandle dst rect color thickness
  | rectangleArray dst rects color thickness =>
      imrectangleTaskArray jobHandle dst rects color thickness
  | mosaic image rect mosaicMode => immosaicTask jobHandle image rect mosaicMode
  | mosaicArray dst rects mosaicMode => immosaicTaskArray jobHandle dst rects mosaicMode
  | palette src dst lut => impaletteTask jobHandle src dst lut
  | process src dst pat srect drect prect opt usage =>
      improcessTask jobHandle src dst pat srect drect prect opt usage

/-! Carrying a call out -/

/-- Submissions in order, the `n`-th in its own surroundings, until one does not succeed. -/
def submitAll (session : RgaSession) :
    (Nat → TaskEnv) → JobManager RgaReq → List TaskArgs → SubmitResult
  | _, manager, [] => { status := .success, manager := manager }
  | env, manager, args :: rest =>
      let first := rgaTaskSubmit session (env 0) manager args
      if first.status = .success then
        let later := submitAll session (fun n => env (n + 1)) first.manager rest
        { later with events := first.events ++ later.events }
      else first

def runApi (session : RgaSession) (env : Nat → TaskEnv) (manager : JobManager RgaReq) :
    ApiPlan → SubmitResult
  | .error status => { status := status, manager := manager }
  | .ok calls => submitAll session env manager calls

end LibRga
