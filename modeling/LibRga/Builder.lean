import LibRga.Request

/-!
What the request builders share: resolving the address of a buffer, normalising
its rectangle and choosing the plane words and the MMU bit of a channel.
-/

namespace LibRga

inductive BuildExit where
  /-- `return ret` while `ret` is still zero: a buffer has neither fd nor address. -/
  | noAddress
  | fdZero
  | mixedHandles
  | srcRect
  | src1Rect
  | dstRect
  | scale
  | interp
  | fullCsc
  /-- The driver refused the palette table. -/
  | lutIoctl
deriving DecidableEq, Repr, Inhabited

def BuildExit.ret : BuildExit → Int32
  | .noAddress => 0
  | .lutIoctl => -1
  | _ => -22

structure BufferAddr where
  fd : Int32 := -1
  buf : UInt64 := 0
deriving DecidableEq, Repr, Inhabited

/-- The address chain of a blit or palette channel; fd and virtual addresses set `mmuFlag`. -/
def resolveAddr (info : RgaInfo) : BufferAddr :=
  if info.handle ≠ 0 then { fd := info.handle }
  else if info.phyAddr ≠ 0 then { buf := info.phyAddr }
  else if 0 < info.fd then { fd := info.fd }
  else if info.virAddr ≠ 0 then { buf := info.virAddr }
  else {}

def resolveMmuFlag (info : RgaInfo) : Int32 :=
  if info.handle ≠ 0 ∨ info.phyAddr ≠ 0 then info.mmuFlag
  else if 0 < info.fd ∨ info.virAddr ≠ 0 then 1
  else info.mmuFlag

def requireAddr (addr : BufferAddr) : Except BuildExit BufferAddr :=
  if addr.fd = -1 ∧ addr.buf = 0 then .error .noAddress
  else if addr.fd = 0 ∧ addr.buf = 0 then .error .fdZero
  else .ok (if addr.fd = 0 then { addr with fd := -1 } else addr)

/-- Handles on every channel set the flag, on none leave it, and on some are refused. -/
def handleMode (handles : List Int32) : Except BuildExit Bool :=
  if handles.all (fun handle => decide (0 < handle)) then .ok true
  else if handles.any (fun handle => decide (0 < handle)) &&
      handles.any (fun handle => decide (handle ≤ 0)) then .error .mixedHandles
  else .ok false

/-- The `rel…Rect` of a channel: driver format, and the height for a missing `hstride`. -/
def relRect (rect : RgaRect) : RgaRect :=
  { rect with
    format := rkRgaCompatibleFormat rect.format
    hstride := if rect.hstride = 0 then rect.height else rect.hstride }

structure Channel where
  info : RgaInfo
  addr : BufferAddr
  rect : RgaRect
deriving DecidableEq, Repr, Inhabited

inductive AddressMode where
  | planar
  | fdOffsets
  | words
deriving DecidableEq, Repr, Inhabited

def addressMode (session : RgaSession) : AddressMode :=
  match session.driverType with
  | .rga1 => if session.coreVersion.minor < 6 then .planar else .fdOffsets
  | _ => .words

/-- `(unsigned long)buf + virW * virH`, with the product in `int`. -/
def planeAfter (buf : UInt64) (virW virH : Int32) : UInt64 :=
  buf + toU64 (virW * virH)

/-- `(unsigned long)buf + virW * virH * 5/4` -/
def secondPlaneAfter (buf : UInt64) (virW virH : Int32) : UInt64 :=
  buf + toU64 (virW * virH * 5 / 4)

structure PlaneWords where
  yrgb : UInt64
  uv : UInt64
  v : UInt64
deriving DecidableEq, Repr, Inhabited

/-- `single` marks the builder that leaves the third word empty for a handle. -/
def planeWords (mode : AddressMode) (addr : BufferAddr) (virW virH : Int32) (single : Bool) :
    PlaneWords :=
  let separate : PlaneWords :=
    ⟨addr.buf, planeAfter addr.buf virW virH, secondPlaneAfter addr.buf virW virH⟩
  match mode with
  | .planar => separate
  | .fdOffsets => if addr.fd ≠ -1 then ⟨0, 0, 0⟩ else separate
  | .words => ⟨if addr.fd ≠ -1 then toU64 addr.fd else 0, addr.buf,
      if single then 0 else planeAfter addr.buf virW virH⟩

/-- `hnd` only resets the flag to the zero it starts from, so it is left out. -/
def bufMmu (info : RgaInfo) (buf : UInt64) : Bool :=
  buf != info.phyAddr && buf == info.virAddr

/-- `planar` is what the builder assigns on the oldest generation. -/
def channelMmu (mode : AddressMode) (planar : Bool) (info : RgaInfo) (mmuFlag : Int32)
    (addr : BufferAddr) : Bool :=
  let byFd := addr.fd == info.fd && mmuFlag != 0
  match mode with
  | .planar => planar
  | .fdOffsets => if addr.fd ≠ -1 then byFd else bufMmu info addr.buf
  | .words =>
      if addr.fd = info.fd then mmuFlag != 0
      else if addr.fd ≠ -1 then false
      else bufMmu info addr.buf

def Channel.words (channel : Channel) (mode : AddressMode) (single : Bool) : PlaneWords :=
  planeWords mode channel.addr channel.rect.wstride channel.rect.hstride single

def Channel.mmu (channel : Channel) (mode : AddressMode) : Bool :=
  channelMmu mode true channel.info (resolveMmuFlag channel.info) channel.addr

def Channel.setSrc (channel : Channel) (req : RgaReq) (mode : AddressMode) (single : Bool) :
    RgaReq :=
  let words := channel.words mode single
  let req := normalRgaSetSrcVirtualInfo req words.yrgb words.uv words.v channel.rect.wstride
    channel.rect.hstride (rkRgaGetRgaFormat channel.rect.format)
  if mode = .fdOffsets ∧ channel.addr.fd ≠ -1 then
    normalRgaSetFdsOffsets req (toU16 channel.addr.fd) 0
  else req

def Channel.setDst (channel : Channel) (req : RgaReq) (mode : AddressMode) (single : Bool)
    (clip : Rect) : RgaReq :=
  let words := channel.words mode single
  let req := normalRgaSetDstVirtualInfo req words.yrgb words.uv words.v channel.rect.wstride
    channel.rect.hstride clip (rkRgaGetRgaFormat channel.rect.format)
  if mode = .fdOffsets ∧ channel.addr.fd ≠ -1 then
    normalRgaSetFdsOffsets req 0 (toU16 channel.addr.fd)
  else req

def Channel.setPat (channel : Channel) (req : RgaReq) (mode : AddressMode) (single : Bool)
    (clip : Rect) : RgaReq :=
  let words := channel.words mode single
  let req := normalRgaSetPatVirtualInfo req words.yrgb words.uv words.v channel.rect.wstride
    channel.rect.hstride clip (rkRgaGetRgaFormat channel.rect.format)
  if mode = .fdOffsets ∧ channel.addr.fd ≠ -1 then
    normalRgaSetFdsOffsets req 0 (toU16 channel.addr.fd)
  else req

/-- `rd_mode ? rd_mode : raster_mode` -/
def rdModeOf (rdMode : Int32) : UInt16 :=
  if rdMode ≠ 0 then toU16 rdMode else rasterMode

end LibRga
