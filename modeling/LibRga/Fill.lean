import LibRga.Blit

/-!
The two single-purpose builders: `generate_fill_req` and
`generate_color_palette_req`. The second one issues an ioctl of its own, so its
result carries what it handed to the driver while building.
-/

namespace LibRga

/-! Colour fill -/

/-- A fill prefers the handle to the fd, and keeps a physical or virtual address beside it. -/
def fillAddr (dst : RgaInfo) : BufferAddr :=
  { fd := if 0 < dst.handle then dst.handle else dst.fd
    buf := if dst.phyAddr ≠ 0 then dst.phyAddr else dst.virAddr }

def fillClip (rect : RgaRect) : Rect :=
  { xmin := 0, xmax := toU16 (rect.width - 1), ymin := 0, ymax := toU16 (rect.height - 1) }

def fillYuv2rgbMode (format colorSpaceMode : Int32) : UInt8 :=
  if 0 < colorSpaceMode then toU8 colorSpaceMode
  else if isYuvFormat (rkRgaGetRgaFormat format) then 8
  else 0

def setFillMmu (req : RgaReq) (mmu : Bool) : RgaReq :=
  if mmu then normalRgaMmuFlag (normalRgaMmuInfo req) mmu mmu else req

/-- The body shared by `generate_fill_req` and `RgaCollorFill`, up to the generation test. -/
def fillReq (mode : AddressMode) (dst : RgaInfo) : Except BuildExit RgaReq := do
  let addr ← requireAddr (fillAddr dst)
  let channel : Channel := { info := dst, addr := addr, rect := relRect dst.rect }
  let rect := channel.rect
  let req : RgaReq :=
    { feature := { userCloseFence := true }
      handleFlag := if 0 < dst.handle then 1 else 0 }
  let req := channel.setDst req mode false (fillClip rect)
  let req := { req with yuv2rgbMode := fillYuv2rgbMode rect.format dst.colorSpaceMode }
  let req := normalRgaSetDstActiveInfo req rect.width rect.height rect.xoffset rect.yoffset
  let req := normalRgaSetColorFillMode req dst.color.toUInt32
  let req := setFillMmu req (channelMmu mode false dst dst.mmuFlag addr)
  let req := { req with dst := { req.dst with rdMode := rdModeOf dst.rdMode } }
  .ok (setSchedule req dst)

def generateFillReq (session : RgaSession) (dst : RgaInfo) : Except BuildExit RgaReq :=
  fillReq (addressMode session) dst

/-! Colour palette -/

structure PalettePlan where
  src : Channel
  dst : Channel
  lut : Channel
deriving DecidableEq, Repr, Inhabited

/-- The table may lack an address, and its rectangle is neither completed nor checked. -/
def openLut (lut : RgaInfo) : Channel :=
  let addr := resolveAddr lut
  { info := lut
    addr := if addr.fd = 0 then { addr with fd := -1 } else addr
    rect := { lut.rect with format := rkRgaCompatibleFormat lut.rect.format } }

def planPalette (src dst lut : RgaInfo) : Except BuildExit PalettePlan := do
  if src.handle ≤ 0 ∨ dst.handle ≤ 0 ∨ lut.handle ≤ 0 then .error .mixedHandles
  else
    let srcChannel ← openChannel src
    let dstChannel ← openChannel dst
    if checkRectForRga srcChannel.rect = false then .error .srcRect
    else if checkRectForRga dstChannel.rect = false then .error .dstRect
    else .ok { src := srcChannel, dst := dstChannel, lut := openLut lut }

def setPaletteMmu (req : RgaReq) (plan : PalettePlan) (mode : AddressMode) : RgaReq :=
  let srcMmu := plan.src.mmu mode
  let dstMmu := plan.dst.mmu mode
  let lutMmu := plan.lut.mmu mode
  if srcMmu || dstMmu || lutMmu then
    let req := normalRgaMmuFlag (normalRgaMmuInfo req) srcMmu dstMmu
    let flag := if lutMmu then req.mmuInfo.mmuFlag ||| (0xa00 : UInt32) else req.mmuInfo.mmuFlag
    { req with mmuInfo := { req.mmuInfo with mmuFlag := flag } }
  else req

def paletteModeOf (format : Int32) : UInt8 :=
  let format := rkRgaGetRgaFormat format
  if format = rkFormatBpp1 then 0
  else if format = rkFormatBpp2 then 1
  else if format = rkFormatBpp4 then 2
  else if format = rkFormatBpp8 ∨ format = rkFormatYCbCr400 then 3
  else 0

def paletteReqBase (session : RgaSession) (plan : PalettePlan) : RgaReq :=
  let mode := addressMode session
  let clip := dstClip plan.dst.rect
  let src := plan.src.rect
  let dst := plan.dst.rect
  let lut := plan.lut.rect
  let req : RgaReq := { feature := { userCloseFence := true }, handleFlag := 1 }
  let req := plan.src.setSrc req mode false
  let req := plan.dst.setDst req mode false clip
  let req := plan.lut.setPat req mode false clip
  let req := normalRgaSetSrcActiveInfo req src.width src.height src.xoffset src.yoffset
  let req := normalRgaSetDstActiveInfo req dst.width dst.height dst.xoffset dst.yoffset
  let req := normalRgaSetPatActiveInfo req lut.width lut.height lut.xoffset lut.yoffset
  let req := setPaletteMmu req plan mode
  let req := { req with paletteMode := paletteModeOf src.format }
  let req := setRdModes req plan.src.info plan.dst.info (some plan.lut.info)
  setSchedule req plan.dst.info

def paletteLutReq (session : RgaSession) (plan : PalettePlan) : Option RgaReq :=
  if plan.lut.addr.fd = -1 ∧ plan.lut.addr.buf = 0 then none
  else
    let req := paletteReqBase session plan
    some { req with
      fading := { req.fading with g := 0xff }
      renderMode := updatePaletteTableMode }

/-- The palette request itself; it keeps the fading byte of the table update. -/
def paletteReq (session : RgaSession) (plan : PalettePlan) : RgaReq :=
  let req := (paletteLutReq session plan).getD (paletteReqBase session plan)
  { req with renderMode := colorPaletteMode, endianMode := 1 }

/-- The table update that was issued, and the result; `lutRet` is what its ioctl returned. -/
def generateColorPaletteReq (session : RgaSession) (src dst lut : RgaInfo) (lutRet : Int32) :
    Option RgaReq × Except BuildExit RgaReq :=
  match planPalette src dst lut with
  | .error exit => (none, .error exit)
  | .ok plan =>
      match paletteLutReq session plan with
      | none => (none, .ok (paletteReq session plan))
      | some update =>
          if lutRet ≠ 0 then (some update, .error .lutIoctl)
          else (some update, .ok (paletteReq session plan))

end LibRga
