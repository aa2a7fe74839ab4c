import LibRga.Driver
import LibRga.Fill

/-!
The legacy entry points `RgaBlit`, `RgaCollorFill` and `RgaCollorPalette` of
`NormalRga.cpp`.

They carry their own copies of the builders; what is written identically there
is shared with the im2d builders here, and what differs is kept apart: the
generation tests, the scale limits, the colour-space selector and the planes of
a handle.
-/

namespace LibRga

/-- The context fields that an operation reads. `mVersion` is a `float`. -/
structure RgaContext where
  mVersion : ℚ := 0
  driver : RgaDriverIocType := .multiRga
  driverFeature : UInt32 := 0
deriving DecidableEq, Repr, Inhabited

/-- `RgaBlit` compares with `(float)1.003` and `(float)1.6`. -/
def rgaBlitAddressMode (ctx : RgaContext) : AddressMode :=
  if ctx.mVersion ≤ Float32.round (1003 / 1000) then .planar
  else if ctx.mVersion < Float32.round (16 / 10) then .fdOffsets
  else .words

/-- `RgaCollorFill` compares with the double literals. -/
def rgaCollorFillAddressMode (ctx : RgaContext) : AddressMode :=
  if ctx.mVersion ≤ Float32.double (1003 / 1000) then .planar
  else if ctx.mVersion < Float32.double (16 / 10) then .fdOffsets
  else .words

def scaleOutside (scale : BlitScale) (low high : ℚ) : Bool :=
  scale.horiz < low || high < scale.horiz || scale.verti < low || high < scale.verti

/-- With `src1` the lower bounds are integer divisions, without it they are not. -/
def rgaBlitScaleOk (ctx : RgaContext) (scale : BlitScale) (three : Bool) : Bool :=
  let old := decide (ctx.mVersion ≤ Float32.double (1003 / 1000))
  if three then
    if old && (scale.horiz < 0 || scale.verti < 0) then false
    else if ctx.mVersion ≤ 2 ∧ scaleOutside scale 0 8 = true then false
    else !scaleOutside scale 0 16
  else
    if scaleOutside scale (1 / 16) 16 then false
    else if ctx.mVersion < 2 ∧ scaleOutside scale (1 / 8) 8 = true then false
    else !(old && (scale.horiz < 1 / 2 || scale.verti < 1 / 2))

def planRgaBlit (ctx : RgaContext) (src dst : RgaInfo) (src1 : Option RgaInfo) :
    Except BuildExit BlitPlan := do
  let handleFlag ← handleMode (src.handle :: dst.handle :: (src1.map RgaInfo.handle).toList)
  let srcChannel ← openChannel src
  let src1Channel ← openSrc1 src1
  let dstChannel ← openChannel dst
  checkBlitRects srcChannel dstChannel src1Channel
  let scale := blitScale src.rotation srcChannel.rect dstChannel.rect (src1Channel.map Channel.rect)
  if rgaBlitScaleOk ctx scale src1Channel.isSome = false then .error .scale
  else
    let srcWidth := srcChannel.rect.width
    let dstWidth := dstChannel.rect.width
    let interp := selectInterp (requestedInterp src.scaleMode) scale srcWidth dstWidth 1996
    if interpOk interp scale srcWidth dstWidth 1996 = false then .error .interp
    else .ok {
        handleFlag := handleFlag
        src := srcChannel
        dst := dstChannel
        src1 := src1Channel
        stretch := scale.horiz != 1 || scale.verti != 1
        interp := interp
      }

/-- A positive mode word replaces the selector as a whole. -/
def rgaBlitYuvToRgbMode (csc : CscWords) (colorSpaceMode : Int32) : Int32 :=
  let mode := if 0 < colorSpaceMode then colorSpaceMode else csc.y2r ||| csc.r2y
  if has colorSpaceMode fullCscMask ∧ colorSpaceMode = rgb2yuv709Limit then
    mode ||| (0xc : Int32)
  else mode

def rgaBlitReqBase (ctx : RgaContext) (plan : BlitPlan) : RgaReq :=
  let src := plan.src.info
  let req : RgaReq :=
    { feature := { userCloseFence := hasBit ctx.driverFeature rgaDriverFeatureUserCloseFence }
      handleFlag := if plan.handleFlag then 1 else 0 }
  let req := setBlend req src.blend
  let req := setBlitChannels req plan (rgaBlitAddressMode ctx) false
  setBlitActive req plan (turnOf src.rotation plan.stretch)

def rgaBlitReq (ctx : RgaContext) (src dst : RgaInfo) (src1 : Option RgaInfo) :
    Except BuildExit RgaReq := do
  let plan ← planRgaBlit ctx src dst src1
  let colorSpaceMode := plan.dst.info.colorSpaceMode
  let csc := defaultCsc plan.src.rect.format plan.dst.rect.format
    (plan.src1.map (fun channel => channel.rect.format))
  let req ← setFullCsc (rgaBlitReqBase ctx plan) colorSpaceMode
  let req := blitReqRest req plan (rgaBlitAddressMode ctx) (rgaBlitYuvToRgbMode csc colorSpaceMode)
  .ok (blitReqTail req plan)

def rgaCollorFillReq (ctx : RgaContext) (dst : RgaInfo) : Except BuildExit RgaReq :=
  fillReq (rgaCollorFillAddressMode ctx) dst

structure LegacyResult where
  ret : Int32
  events : List DriverEvent := []
  /-- The value left in `dst->out_fence_fd`, when the call writes it. -/
  outFenceFd : Option Int32 := none
deriving DecidableEq, Repr

/-- The layout each legacy driver type is given; the others are refused with `-errno`. -/
def legacyArg (driver : RgaDriverIocType) (req : RgaReq) : Option BlitArg :=
  match driver with
  | .rga2 => some (.rga2Req (normalRgaCompatModeConvertRga2 req))
  | .multiRga => some (.rgaReq req)
  | _ => none

def legacyIoctl (ctx : RgaContext) (dst : RgaInfo) (syncMode : Int32) (req : RgaReq)
    (reply : IoctlReply) (outFence : Int32) : LegacyResult :=
  match legacyArg ctx.driver req with
  | none => { ret := -reply.errno }
  | some arg =>
      let blit := DriverEvent.blit syncMode req arg
      if reply.ret ≠ 0 then { ret := -reply.errno, events := [blit] }
      else if hasBit ctx.driverFeature rgaDriverFeatureUserCloseFence ∧ 0 < dst.inFenceFd ∧
          syncMode = rgaBlitAsync then
        { ret := 0, events := [blit, .closeFence dst.inFenceFd], outFenceFd := some outFence }
      else { ret := 0, events := [blit], outFenceFd := some outFence }

def rgaBlit (ctx : RgaContext) (src dst : RgaInfo) (src1 : Option RgaInfo) (reply : IoctlReply) :
    LegacyResult :=
  match rgaBlitReq ctx src dst src1 with
  | .error exit => { ret := exit.ret }
  | .ok req =>
      let syncMode := if src.syncMode = rgaBlitAsync ∨ dst.syncMode = rgaBlitAsync then rgaBlitAsync
        else rgaBlitSync
      let outFence := if ctx.driver = .multiRga then reply.outFenceFd else -1
      legacyIoctl ctx dst syncMode req reply outFence

def rgaCollorFill (ctx : RgaContext) (dst : RgaInfo) (reply : IoctlReply) : LegacyResult :=
  match rgaCollorFillReq ctx dst with
  | .error exit => { ret := exit.ret }
  | .ok req =>
      let syncMode := if dst.syncMode = rgaBlitAsync then rgaBlitAsync else rgaBlitSync
      -- on the compat layout the driver never writes `rgaReg`, whose fence stays zero
      let outFence := if ctx.driver = .multiRga then reply.outFenceFd else req.outFenceFd
      legacyIoctl ctx dst syncMode req reply outFence

/-! Colour palette -/

/-- Unlike the im2d builder, this one does not take `RK_FORMAT_YCbCr_400` for an 8-bit index. -/
def rgaCollorPaletteModeOf (format : Int32) : UInt8 :=
  let format := rkRgaGetRgaFormat format
  if format = rkFormatBpp1 then 0
  else if format = rkFormatBpp2 then 1
  else if format = rkFormatBpp4 then 2
  else if format = rkFormatBpp8 then 3
  else 0

/-- Without a table its rectangle is read all the same: it is what the stack held before. -/
def openLegacyLut (lut : Option RgaInfo) (stack : RgaRect) : Channel :=
  openLut (lut.getD { rect := stack })

def planRgaCollorPalette (src dst : RgaInfo) (lut : Option RgaInfo) (stack : RgaRect) :
    Except BuildExit PalettePlan := do
  let handles := src.handle :: dst.handle :: (lut.map RgaInfo.handle).toList
  if handles.any (fun handle => decide (handle ≤ 0)) then .error .mixedHandles
  else
    let srcChannel ← openChannel src
    let dstChannel ← openChannel dst
    if checkRectForRga srcChannel.rect = false then .error .srcRect
    else if checkRectForRga dstChannel.rect = false then .error .dstRect
    else .ok { src := srcChannel, dst := dstChannel, lut := openLegacyLut lut stack }

def rgaCollorPaletteReqBase (ctx : RgaContext) (plan : PalettePlan) (lut : Option RgaInfo) :
    RgaReq :=
  let mode := rgaBlitAddressMode ctx
  let clip := dstClip plan.dst.rect
  let src := plan.src.rect
  let dst := plan.dst.rect
  let table := plan.lut.rect
  let req : RgaReq := { feature := { userCloseFence := true }, handleFlag := 1 }
  let req := plan.src.setSrc req mode false
  let req := plan.dst.setDst req mode false clip
  let req := plan.lut.setPat req mode false clip
  let req := normalRgaSetSrcActiveInfo req src.width src.height src.xoffset src.yoffset
  let req := normalRgaSetDstActiveInfo req dst.width dst.height dst.xoffset dst.yoffset
  let req := normalRgaSetPatActiveInfo req table.width table.height table.xoffset table.yoffset
  let req := setPaletteMmu req plan mode
  let req := { req with paletteMode := rgaCollorPaletteModeOf src.format }
  let req := setRdModes req plan.src.info plan.dst.info lut
  setSchedule req plan.dst.info

def rgaCollorPaletteLutReq (ctx : RgaContext) (plan : PalettePlan) (lut : Option RgaInfo) :
    Option RgaReq :=
  if plan.lut.addr.fd = -1 ∧ plan.lut.addr.buf = 0 then none
  else
    let req := rgaCollorPaletteReqBase ctx plan lut
    some { req with
      fading := { req.fading with g := 0xff }
      renderMode := updatePaletteTableMode }

def rgaCollorPaletteReq (ctx : RgaContext) (plan : PalettePlan) (lut : Option RgaInfo) : RgaReq :=
  let req := (rgaCollorPaletteLutReq ctx plan lut).getD (rgaCollorPaletteReqBase ctx plan lut)
  { req with renderMode := colorPaletteMode, endianMode := 1 }

/-- `lutRet` is what the ioctl of the table returns. The table goes out as it stands, and the
palette itself through the address of `ioc_req`, which is already a pointer. -/
def rgaCollorPalette (ctx : RgaContext) (src dst : RgaInfo) (lut : Option RgaInfo)
    (stack : RgaRect) (lutRet : Int32) (reply : IoctlReply) : LegacyResult :=
  match planRgaCollorPalette src dst lut stack with
  | .error exit => { ret := exit.ret }
  | .ok plan =>
      let update := rgaCollorPaletteLutReq ctx plan lut
      let loads := (update.map fun req => DriverEvent.blit rgaBlitSync req (.rgaReq req)).toList
      if update.isSome = true ∧ lutRet ≠ 0 then { ret := -1, events := loads }
      else
        let req := rgaCollorPaletteReq ctx plan lut
        match legacyArg ctx.driver req with
        | none => { ret := -reply.errno, events := loads }
        | some arg =>
            { ret := if reply.ret ≠ 0 then -reply.errno else 0
              events := loads ++ [.blit rgaBlitSync req (.pointer arg)] }

end LibRga
