import LibRga.Modes

/-!
What the library hands to the kernel: the older request layout with its
conversion, and the calls a submission makes.
-/

namespace LibRga

/-! `rga2_driver.h` -/

structure Rga2ImgInfo where
  yrgbAddr : UInt64 := 0
  uvAddr : UInt64 := 0
  vAddr : UInt64 := 0
  format : UInt32 := 0
  actW : UInt16 := 0
  actH : UInt16 := 0
  xOffset : UInt16 := 0
  yOffset : UInt16 := 0
  virW : UInt16 := 0
  virH : UInt16 := 0
  endianMode : UInt16 := 0
  alphaSwap : UInt16 := 0
deriving DecidableEq, Repr, Inhabited

structure Rga2Req where
  renderMode : UInt8 := 0
  src : Rga2ImgInfo := {}
  dst : Rga2ImgInfo := {}
  pat : Rga2ImgInfo := {}
  ropMaskAddr : UInt64 := 0
  lutAddr : UInt64 := 0
  clip : Rect := {}
  sina : Int32 := 0
  cosa : Int32 := 0
  alphaRopFlag : UInt16 := 0
  scaleMode : UInt8 := 0
  colorKeyMax : UInt32 := 0
  colorKeyMin : UInt32 := 0
  fgColor : UInt32 := 0
  bgColor : UInt32 := 0
  grColor : ColorFill := {}
  lineDrawInfo : LineDraw := {}
  fading : Fading := {}
  pdMode : UInt8 := 0
  alphaGlobalValue : UInt8 := 0
  ropCode : UInt16 := 0
  bsfilterFlag : UInt8 := 0
  paletteMode : UInt8 := 0
  yuv2rgbMode : UInt8 := 0
  endianMode : UInt8 := 0
  rotateMode : UInt8 := 0
  colorFillMode : UInt8 := 0
  mmuInfo : Mmu := {}
  alphaRopMode : UInt8 := 0
  srcTransMode : UInt8 := 0
  ditherMode : UInt8 := 0
  fullCsc : FullCsc := {}
deriving DecidableEq, Repr, Inhabited

def normalRgaCompatModeConvertRga2ImgeInfo (img : RgaImgInfo) : Rga2ImgInfo :=
  { yrgbAddr := img.yrgbAddr
    uvAddr := img.uvAddr
    vAddr := img.vAddr
    format := img.format
    actW := img.actW
    actH := img.actH
    xOffset := img.xOffset
    yOffset := img.yOffset
    virW := img.virW
    virH := img.virH
    endianMode := img.endianMode
    alphaSwap := img.alphaSwap }

/-- The rotation handling that the multi-RGA driver does itself. -/
def compatDstOffset (sina cosa : Int32) (dst : Rga2ImgInfo) : Rga2ImgInfo :=
  if sina = 65536 ∧ cosa = 0 then
    { dst with xOffset := dst.xOffset + dst.actH - 1 }
  else if sina = 0 ∧ cosa = -65536 then
    { dst with xOffset := dst.xOffset + dst.actW - 1, yOffset := dst.yOffset + dst.actH - 1 }
  else if sina = -65536 ∧ cosa = 0 then
    { dst with yOffset := dst.yOffset + dst.actW - 1 }
  else dst

def normalRgaCompatModeConvertRga2 (req : RgaReq) : Rga2Req :=
  { renderMode := req.renderMode
    src := normalRgaCompatModeConvertRga2ImgeInfo req.src
    dst := compatDstOffset req.sina req.cosa (normalRgaCompatModeConvertRga2ImgeInfo req.dst)
    pat := normalRgaCompatModeConvertRga2ImgeInfo req.pat
    ropMaskAddr := req.ropMaskAddr
    lutAddr := req.lutAddr
    clip := req.clip
    sina := req.sina
    cosa := req.cosa
    alphaRopFlag := req.alphaRopFlag
    scaleMode := req.scaleMode
    colorKeyMax := req.colorKeyMax
    colorKeyMin := req.colorKeyMin
    fgColor := req.fgColor
    bgColor := req.bgColor
    grColor := req.grColor
    lineDrawInfo := req.lineDrawInfo
    fading := req.fading
    pdMode := req.pdMode
    alphaGlobalValue := req.alphaGlobalValue
    ropCode := req.ropCode
    bsfilterFlag := req.bsfilterFlag
    paletteMode := req.paletteMode
    yuv2rgbMode := req.yuv2rgbMode
    endianMode := req.endianMode
    rotateMode := req.rotateMode
    colorFillMode := req.colorFillMode
    mmuInfo := req.mmuInfo
    alphaRopMode := req.alphaRopMode
    srcTransMode := req.srcTransMode
    ditherMode := req.ditherMode
    fullCsc := req.fullCsc }

inductive BlitArg where
  | rgaReq (req : RgaReq)
  | rga2Req (req : Rga2Req)
  /-- The address of a pointer to the request. -/
  | pointer (target : BlitArg)
deriving DecidableEq, Repr

/-- What a submission does outside its own variables, in the order it happens. -/
inductive DriverEvent where
  /-- One request, retried while the ioctl is interrupted. -/
  | blit (cmd : Int32) (req : RgaReq) (arg : BlitArg)
  | queueTask (handle : UInt32) (req : RgaReq)
  | closeFence (fd : Int32)
  | gaussAlloc (ptr : UInt64)
  | gaussFree (ptr : UInt64)
deriving DecidableEq, Repr

structure IoctlReply where
  ret : Int32 := 0
  errno : Int32 := 0
  /-- `out_fence_fd` as the driver leaves it in an `rga_req`. -/
  outFenceFd : Int32 := 0
deriving DecidableEq, Repr, Inhabited

def blitRequests (events : List DriverEvent) : List RgaReq :=
  events.filterMap fun
    | .blit _ req _ => some req
    | _ => none

def queuedRequests (events : List DriverEvent) : List RgaReq :=
  events.filterMap fun
    | .queueTask _ req => some req
    | _ => none

@[simp]
theorem blitRequests_append (first second : List DriverEvent) :
    blitRequests (first ++ second) = blitRequests first ++ blitRequests second :=
  List.filterMap_append

@[simp]
theorem queuedRequests_append (first second : List DriverEvent) :
    queuedRequests (first ++ second) = queuedRequests first ++ queuedRequests second :=
  List.filterMap_append

end LibRga
