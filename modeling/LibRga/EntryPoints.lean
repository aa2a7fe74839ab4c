import LibRga.FenceArray
import LibRga.Session

/-!
The entry points of the im2d API that ask for the session, over any outcomes of
the calls they make.

`get_rga_session` returns an error pointer when it cannot initialise the session.
Every function asks for itself and has its own way with that pointer. What other
threads do in between is left open: the job manager and the session are read anew
each time they are locked.
-/

namespace LibRga.Entry

open Interaction

/-! The calls -/

/-- The function that asks for the session. -/
inductive Asker where
  | rgaCheck
  | rgaImportBuffers
  | rgaReleaseBuffers
  | rgaTaskSubmit
  /-- `generate_blit_req`, `generate_fill_req` and `generate_color_palette_req`. -/
  | generateReq
  | rgaJobCreate
  /-- `dropped` when its caller does not look at the result. -/
  | rgaJobCancel (dropped : Bool)
  | rgaJobSubmit
  | rgaJobConfig
  | querystring
  | getDebugState
  | isDebugEn
deriving DecidableEq, Repr

structure RgaMemoryParm where
  width : UInt32 := 0
  height : UInt32 := 0
  format : UInt32 := 0
  size : UInt32 := 0
deriving DecidableEq, Repr, Inhabited

structure RgaExternalBuffer where
  memory : UInt64 := 0
  type : UInt32 := 0
  handle : UInt32 := 0
  memoryInfo : RgaMemoryParm := {}
deriving DecidableEq, Repr, Inhabited

structure ImHandleParam where
  width : UInt32
  height : UInt32
  format : UInt32
deriving DecidableEq, Repr, Inhabited

/-- What the library calls outside itself, with the mutexes and with what it reads of the process.
`dropped` is as for `Asker`. -/
inductive SysCall where
  /-- The session under its read lock. -/
  | readSession
  /-- The session under its write lock. -/
  | lockSession
  | initSession (asker : Asker) (session : SessionData)
  | unlockSession (session : SessionData)
  /-- A read through an error pointer. -/
  | strayRead (asker : Asker) (err : ImStatus)
  /-- `rga_log_enable_get` against the level. -/
  | logEnabled
  /-- `rga_log_level_update` and `rga_log_enable_update`, stored as `is_debug` of the session. -/
  | updateLog
  | loadIsDebug
  | loadContext
  | lockJobs
  | unlockJobs (manager : JobManager RgaReq)
  | malloc
  | free (ptr : UInt64)
  | importBuffer (buffers : List RgaExternalBuffer)
  | releaseBuffer (buffers : List RgaExternalBuffer)
  | requestCreate (flags : UInt32)
  | requestCancel (dropped : Bool) (handle : UInt32)
  | requestSubmit (request : RgaUserRequest RgaReq) (acquireFenceFd : Int32)
  | requestConfig (request : RgaUserRequest RgaReq) (acquireFenceFd : Int32)
  /-- Retried while it is interrupted. -/
  | blit (cmd : Int32) (req : RgaReq) (arg : BlitArg)
  | poll (fd : Int32)
  | close (fd : Int32)
  | loadUapiVersion
  | storeUapiVersion (version : Fenced.UapiVersion)
  | modernSyncMerge (name : String) (fd1 fd2 : Int32)
  | legacySyncMerge (name : String) (fd1 fd2 : Int32)

/-- An import replies with the handles it wrote, `REQUEST_CREATE` with the one it made. -/
@[reducible]
def SysCall.Reply : SysCall → Type
  | readSession | lockSession => SessionData
  | initSession _ _ => SessionReply
  | strayRead _ _ => RgaSession
  | logEnabled | updateLog | loadIsDebug | releaseBuffer _ | requestCancel _ _ | poll _ => Bool
  | loadContext => ImContext
  | lockJobs => JobManager RgaReq
  | malloc => Option UInt64
  | importBuffer _ => Option (List UInt32)
  | requestCreate _ => Option UInt32
  | requestSubmit _ _ | requestConfig _ _ | blit _ _ _ => IoctlReply
  | loadUapiVersion => Fenced.UapiVersion
  | modernSyncMerge _ _ _ | legacySyncMerge _ _ _ => Fenced.MergeReply
  | unlockSession _ | unlockJobs _ | free _ | close _ | storeUapiVersion _ => Unit

abbrev Program (α : Type) := Prog SysCall SysCall.Reply α

def call (request : SysCall) : Program (SysCall.Reply request) :=
  .call request .done

/-! The session -/

/-- `rga_session_t *`: the global session, or `ERR_PTR` of a status. -/
inductive SessionPtr where
  | object (session : RgaSession)
  | errPtr (err : ImStatus)
deriving DecidableEq, Repr

namespace SessionPtr

def isNull : SessionPtr → Bool
  | object _ => false
  | errPtr err => err.toInt32 = 0

def isErr : SessionPtr → Bool
  | object _ => false
  | errPtr err => err.toInt32 < 0 ∧ -7 < err.toInt32

/-- `(IM_STATUS)PTR_ERR(session)`, for an error pointer. -/
def ptrErr : SessionPtr → ImStatus
  | object _ => .success
  | errPtr err => err

/-- A read of its fields, for `asker`. -/
def read (asker : Asker) : SessionPtr → Program RgaSession
  | object session => return session
  | errPtr err => call (.strayRead asker err)

end SessionPtr

def getRgaSession (asker : Asker) : Program SessionPtr := do
  let found ← call .readSession
  if 0 < found.rgaDevFd then return .object found.rgaSession
  let locked ← call .lockSession
  if 0 < locked.rgaDevFd then return .object locked.rgaSession
  let reply ← call (.initSession asker locked)
  let tried := locked.rgaSessionInit reply
  call (.unlockSession tried.2.1)
  if tried.1 ≠ .success then return .errPtr .noSession
  return .object tried.2.1.rgaSession

def withSession {α : Type} (asker : Asker) (failed : ImStatus → α)
    (body : RgaSession → Program α) : Program α := do
  let ptr ← getRgaSession asker
  if ptr.isErr then return failed ptr.ptrErr
  let session ← ptr.read asker
  body session

def getDebugState : Program Bool := do
  let ptr ← getRgaSession .getDebugState
  let _ ← ptr.read .getDebugState
  call .updateLog

def isDebugEn : Program Bool := do
  let ptr ← getRgaSession .isDebugEn
  let _ ← ptr.read .isDebugEn
  call .loadIsDebug

/-! `querystring` -/

def rgaVendor : Int32 := 0
def rgaInputFormat : Int32 := 6
def rgaOutputFormat : Int32 := 7
def rgaFeature : Int32 := 8
def rgaAll : Int32 := 10

/-- Which text comes back; `report` is made from the table. -/
inductive QueryText where
  | noSession
  | invalidInstruction
  | vendor
  | report (name : Int32) (table : RgaInfoTableEntry)
deriving DecidableEq, Repr

def querystring (name : Int32) : Program QueryText := do
  let ptr ← getRgaSession .querystring
  if ptr.isNull then return .noSession
  if name = rgaVendor then return .vendor
  if name < rgaVendor ∨ rgaAll < name then return .invalidInstruction
  let session ← ptr.read .querystring
  return .report name session.hardwareInfo

/-- `IM_LOGW` with `querystring(name)` among its arguments: they are evaluated for the message that
is kept, and once more for the one that is printed. -/
def logQuery (name : Int32) : Program Unit := do
  let _ ← querystring name
  let enabled : Bool ← call .logEnabled
  if enabled then
    let _ ← querystring name

/-! Checks -/

def rgaCheckFormatQuery (name : Int32) (info : RgaBuffer) (formatUsage : UInt32)
    (modeUsage : Int32) : Option Int32 :=
  match formatFamilies.find? (fun family => family.formats.contains info.format) with
  | none => some name
  | some family =>
      if hasBit (~~~formatUsage) family.support ∧
          ¬(family.bpp = true ∧ has modeUsage imColorPalette = true) then some name
      else none

/-- The image checks before the format have no `querystring` in their messages, nor has the one
after it. -/
def rgaCheckImageQuery (name : Int32) (info : RgaBuffer) (rect : ImRect)
    (resolution : RgaInfoResolution) (formatUsage : UInt32) (modeUsage : Int32) : Option Int32 :=
  if rgaCheckInfo info rect resolution ≠ .noError then none
  else rgaCheckFormatQuery name info formatUsage modeUsage

/-- The `querystring` in the message of the check that fails first. -/
def rgaCheckQuery (table : RgaInfoTableEntry) (src dst pat : RgaBuffer)
    (srcRect dstRect patRect : ImRect) (modeUsage : Int32) : Option Int32 :=
  let patEnable := has modeUsage imAlphaBlendMask && rgaIsBufferValid pat
  let fill := has modeUsage imColorFill
  if rgaCheckFeature src pat dst patEnable modeUsage table.feature ≠ .noError then some rgaFeature
  else if fill = false ∧ rgaCheckImage src srcRect table.inputResolution table.inputFormat
      table.byteStride modeUsage true ≠ .noError then
    rgaCheckImageQuery rgaInputFormat src srcRect table.inputResolution table.inputFormat modeUsage
  else if patEnable = true ∧
      hasBit table.version (imRgaHwVersionRga1 ||| imRgaHwVersionRga1Plus) = true then none
  else if patEnable = true ∧ rgaCheckImage pat patRect table.inputResolution table.inputFormat
      table.byteStride modeUsage true ≠ .noError then
    rgaCheckImageQuery rgaInputFormat pat patRect table.inputResolution table.inputFormat modeUsage
  else
    rgaCheckImageQuery rgaOutputFormat dst dstRect table.outputResolution table.outputFormat
      modeUsage

def rgaCheck (src dst pat : RgaBuffer) (srcRect dstRect patRect : ImRect) (modeUsage : Int32) :
    Program ImStatus :=
  withSession .rgaCheck id fun session => do
    let table := session.hardwareInfo
    match rgaCheckQuery table src dst pat srcRect dstRect patRect modeUsage with
    | some name => logQuery name
    | none => pure ()
    return LibRga.rgaCheck table src dst pat srcRect dstRect patRect modeUsage

/-- `imcheck_t` -/
def rgaCheckExternal (src dst pat : RgaBuffer) (srcRect dstRect patRect : ImRect)
    (modeUsage : Int32) : Program ImStatus := do
  let dstRect := if has modeUsage imCrop then
      { dstRect with width := srcRect.width, height := srcRect.height }
    else dstRect
  let src := rgaApplyRect src srcRect
  let srcFormat := convertToRgaFormat src.format
  let dst := rgaApplyRect dst dstRect
  let dstFormat := convertToRgaFormat dst.format
  let patFormat := convertToRgaFormat pat.format
  if srcFormat = rkFormatUnknown then return .notSupported
  if dstFormat = rkFormatUnknown then return .notSupported
  if rgaIsBufferValid pat = true ∧ patFormat = rkFormatUnknown then return .notSupported
  let pat := if rgaIsBufferValid pat then
      { rgaApplyRect pat patRect with format := patFormat }
    else pat
  rgaCheck { src with format := srcFormat } { dst with format := dstFormat } pat srcRect dstRect
    patRect modeUsage

/-! Buffers -/

/-- `none` is a null pointer to the pool. -/
def rgaImportBuffers (pool : Option (List RgaExternalBuffer)) :
    Program (ImStatus × List UInt32) :=
  withSession .rgaImportBuffers (·, []) fun _ => do
    match pool with
    | none => return (.failed, [])
    | some buffers =>
        let reply : Option (List UInt32) ← call (.importBuffer buffers)
        match reply with
        | none => return (.failed, [])
        | some handles => return (.success, handles)

/-- `buffers[0].handle`, which was cleared before. -/
def importOne (buffer : RgaExternalBuffer) : Program UInt32 := do
  let imported ← rgaImportBuffers (some [buffer])
  if imported.1 ≠ .success then return 0
  return imported.2.headD 0

def rgaImportBuffer (memory : UInt64) (type : Int32) (size : UInt32) : Program UInt32 :=
  importOne { memory := memory, type := type.toUInt32, memoryInfo := { size := size } }

def rgaImportBufferParam (memory : UInt64) (type : Int32) (param : ImHandleParam) :
    Program UInt32 := do
  let format := convertToRgaFormat param.format.toInt32
  if format = rkFormatUnknown then return ImStatus.notSupported.toInt32.toUInt32
  importOne {
    memory := memory
    type := type.toUInt32
    memoryInfo := {
      width := param.width
      height := param.height
      format := (format >>> (8 : Int32)).toUInt32
    }
  }

def rgaReleaseBuffers (pool : Option (List RgaExternalBuffer)) : Program ImStatus :=
  withSession .rgaReleaseBuffers id fun _ => do
    match pool with
    | none => return .failed
    | some buffers =>
        let released : Bool ← call (.releaseBuffer buffers)
        return if released then .success else .failed

def rgaReleaseBuffer (handle : UInt32) : Program ImStatus :=
  rgaReleaseBuffers (some [{ handle := handle }])

/-! Jobs -/

def rgaJobCancel (dropped : Bool) (handle : UInt32) : Program ImStatus :=
  withSession (.rgaJobCancel dropped) id fun _ => do
    let manager ← call .lockJobs
    match rgaMapFindJob manager.jobMap handle with
    | some ptr => call (.unlockJobs ((manager.removeJob handle).setAllocated ptr false))
    | none => call (.unlockJobs manager)
    let cancelled : Bool ← call (.requestCancel dropped handle)
    return if cancelled then .success else .failed

/-- `error_cancel_job` -/
def errorCancelJob (manager : JobManager RgaReq) (handle : UInt32) : Program UInt32 := do
  call (.unlockJobs manager)
  let _ ← rgaJobCancel true handle
  return 0

def rgaJobCreate (kind : JobMapKind) (flags : UInt32) : Program UInt32 :=
  withSession .rgaJobCreate (fun err => err.toInt32.toUInt32) fun _ => do
    let reply : Option UInt32 ← call (.requestCreate flags)
    match reply with
    | none => return 0
    | some handle =>
        let manager ← call .lockJobs
        match rgaMapFindJob manager.jobMap handle with
        | some _ => errorCancelJob manager handle
        | none =>
            let block : Option UInt64 ← call .malloc
            match block with
            | none => errorCancelJob manager handle
            | some ptr =>
                call (.unlockJobs (manager.insertJob kind handle ptr))
                return handle

def rgaJobSubmit (handle : UInt32) (syncMode acquireFenceFd : Int32) (releaseFence : Bool) :
    Program FenceReply :=
  withSession .rgaJobSubmit (fun err => { status := err }) fun _ => do
    match jobSyncMode syncMode with
    | none => return { status := .illegalParam }
    | some command =>
        let manager ← call .lockJobs
        match rgaMapFindJob manager.jobMap handle with
        | none =>
            call (.unlockJobs manager)
            return { status := .illegalParam }
        | some ptr =>
            call (.unlockJobs (manager.removeJob handle))
            let reply ← call (.requestSubmit (manager.userRequest ptr command) acquireFenceFd)
            call (.free ptr)
            if reply.ret < 0 then return { status := .failed }
            if syncMode = imAsync ∧ releaseFence = true then
              return { status := .success, fence := reply.outFenceFd }
            return { status := .success }

def rgaJobConfig (handle : UInt32) (syncMode acquireFenceFd : Int32) (releaseFence : Bool) :
    Program FenceReply :=
  withSession .rgaJobConfig (fun err => { status := err }) fun _ => do
    match jobSyncMode syncMode with
    | none => return { status := .illegalParam }
    | some command =>
        let manager ← call .lockJobs
        match rgaMapFindJob manager.jobMap handle with
        | none =>
            call (.unlockJobs manager)
            return { status := .illegalParam }
        | some ptr =>
            let reply ← call (.requestConfig (manager.userRequest ptr command) acquireFenceFd)
            call (.unlockJobs manager)
            if reply.ret < 0 then return { status := .failed }
            if syncMode = imAsync ∧ releaseFence = true then
              return { status := .success, fence := reply.outFenceFd }
            return { status := .success }

/-! Submissions -/

/-- What the builder leaves, unless it returned a negative value. Whether a palette table goes out
does not depend on what its ioctl returns. -/
def generateReq (args : TaskArgs) (setup : TaskSetup) : Program (Option RgaReq) :=
  withSession .generateReq (fun _ => none) fun session => do
    match (buildTask session (taskPath args) setup 0).1 with
    | none => return builtReq (buildTask session (taskPath args) setup 0).2
    | some update =>
        let reply ← call (.blit rgaBlitSync update (.rgaReq update))
        return builtReq (buildTask session (taskPath args) setup reply.ret).2

def queueTask (args : TaskArgs) (req : RgaReq) : Program FenceReply := do
  let manager ← call .lockJobs
  match manager.appendTask args.jobHandle req with
  | .appended _ after =>
      call (.unlockJobs after)
      return { status := .success }
  | _ =>
      call (.unlockJobs manager)
      return { status := .illegalParam }

def blitTask (session : RgaSession) (args : TaskArgs) (req : RgaReq) : Program FenceReply := do
  match blitArg session req with
  | none => return { status := .failed }
  | some arg =>
      let reply ← call (.blit (taskSyncMode args.usage) req arg)
      if reply.ret ≠ 0 then return { status := .failed }
      if has args.usage imAsync then
        if hasBit session.driverFeature rgaDriverFeatureUserCloseFence ∧
            0 < args.acquireFenceFd then
          call (.close args.acquireFenceFd)
        return { status := .success, fence := replyFence session req reply }
      return { status := .success }

def submitReq (session : RgaSession) (args : TaskArgs) (req : RgaReq) : Program FenceReply := do
  let result ← if 0 < args.jobHandle then queueTask args req else blitTask session args req
  if has args.usage imGauss ∧ req.gaussConfig.coePtr ≠ 0 then
    call (.free req.gaussConfig.coePtr)
  return result

/-- From the Gaussian coefficients on. -/
def buildAndSubmit (session : RgaSession) (args : TaskArgs) (buffers : TaskBuffers) (mode : Int32) :
    Program FenceReply := do
  let block : Option UInt64 ← if has args.usage imGauss then call .malloc else pure none
  if lacksFence args then return { status := .illegalParam }
  let context : ImContext ← call .loadContext
  let env : TaskEnv := { context := context, coePtr := block.getD 0 }
  let built ← generateReq args (taskSetup env args buffers mode)
  match built with
  | none => return { status := .failed }
  | some req => submitReq session args req

def rgaTaskSubmit (args : TaskArgs) : Program FenceReply :=
  withSession .rgaTaskSubmit (fun err => { status := err }) fun session => do
    let _ ← getDebugState
    let _ ← isDebugEn
    if (bufferInfoStatus args).ok = false then return { status := bufferInfoStatus args }
    match settleBuffers args with
    | .error status => return { status := status }
    | .ok buffers =>
        let status ← rgaCheck buffers.src buffers.dst buffers.pat args.srect args.drect args.prect
          args.usage
        if status ≠ .noError then return { status := status }
        match taskColorSpaceMode session.hardwareInfo buffers.src buffers.dst buffers.pat with
        | .error status => return { status := status }
        | .ok mode =>
            let gauss := gaussStatus buffers (rgaGetOpt args.opt) args.usage
            if has args.usage imGauss = true ∧ gauss ≠ .success then return { status := gauss }
            buildAndSubmit session args buffers mode

def rgaSingleTaskSubmit (args : TaskArgs) : Program FenceReply :=
  rgaTaskSubmit { args with jobHandle := 0 }

/-! Wrappers -/

def submitAll : List TaskArgs → Program ImStatus
  | [] => return .success
  | args :: rest => do
      let reply ← rgaTaskSubmit args
      if reply.status ≠ .success then return reply.status
      submitAll rest

def runApi : ApiPlan → Program ImStatus
  | .error status => return status
  | .ok calls => submitAll calls

def resizeBuffer (src dst : RgaBuffer) (fx fy : ℚ) : Program (Except ImStatus RgaBuffer) := do
  if 0 < fx ∨ 0 < fy then
    let fx := if fx = 0 then 1 else fx
    let fy := if fy = 0 then 1 else fy
    let dst := { dst with
      width := doubleToInt (Float32.double (src.width.toInt * fx))
      height := doubleToInt (Float32.double (src.height.toInt * fy)) }
    let format := convertToRgaFormat dst.format
    if format = rkFormatUnknown then return .error .notSupported
    if isYuvFormat format then
      let dst := { dst with width := downAlign2 dst.width, height := downAlign2 dst.height }
      let status ← rgaCheckExternal src dst {} {} {} {} 0
      if status ≠ .noError then return .error status
      return .ok dst
    return .ok dst
  return .ok dst

/-- `submit` is the plan for a destination that has its size. -/
def resizeTo (src dst : RgaBuffer) (fx fy : ℚ) (submit : RgaBuffer → ApiPlan) :
    Program ImStatus := do
  let resized ← resizeBuffer src dst fx fy
  match resized with
  | .error status => return status
  | .ok dst => runApi (submit dst)

/-- The fenced array calls, with the submission of one operation carried out. -/
def answerFenced : (request : Fenced.Call) → Program (Fenced.Call.Reply request)
  | .rgaSingleTaskSubmit args => rgaSingleTaskSubmit args
  | .loadUapiVersion => call .loadUapiVersion
  | .storeUapiVersion version => call (.storeUapiVersion version)
  | .modernSyncMerge name fd1 fd2 => call (.modernSyncMerge name fd1 fd2)
  | .legacySyncMerge name fd1 fd2 => call (.legacySyncMerge name fd1 fd2)
  | .close fd => call (.close fd)

def runFenced (prog : Fenced.Program Fenced.ArrayResult) : Program ImStatus :=
  Fenced.ArrayResult.status <$> prog.interpret answerFenced

/-- The single call; `slot` is as for the fenced array calls. -/
def direct (sync acquireFenceFd : Int32) (slot : Option Int32) : ImOp → Program ImStatus
  | .copy src dst => runApi (imcopy src dst sync slot.isSome)
  | .resize src dst fx fy interpolation =>
      resizeTo src dst fx fy fun dst => imresize {} src dst 0 0 interpolation sync slot.isSome
  | .crop src dst rect => runApi (imcrop src dst rect sync slot.isSome)
  | .translate src dst x y => runApi (imtranslate src dst x y sync slot.isSome)
  | .cvtcolor src dst sfmt dfmt mode => runApi (imcvtcolor src dst sfmt dfmt mode sync slot.isSome)
  | .rotate src dst rotation => runApi (imrotate src dst rotation sync slot.isSome)
  | .flip src dst mode => runApi (imflip src dst mode sync slot.isSome)
  | .blend src dst mode => runApi (imblend src dst mode sync slot.isSome)
  | .composite srcA srcB dst mode => runApi (imcomposite srcA srcB dst mode sync slot.isSome)
  | .colorkey src dst range mode => runApi (imcolorkey src dst range mode sync slot.isSome)
  | .osd layer dst osdRect osdInfo => runApi (imosd layer dst osdRect osdInfo sync slot.isSome)
  | .quantize src dst nnInfo => runApi (imquantize src dst nnInfo sync slot.isSome)
  | .rop src dst ropCode => runApi (imrop src dst ropCode sync slot.isSome)
  | .fill dst rect color => runFenced (Fenced.imfill dst rect color.toInt32 sync slot)
  | .fillArray dst rects color => runFenced (Fenced.imfillArray dst rects color sync slot)
  | .rectangle dst rect color thickness =>
      runFenced (Fenced.imrectangle dst rect color thickness sync slot)
  | .rectangleArray dst rects color thickness =>
      runFenced (Fenced.imrectangleArray dst rects color thickness sync slot)
  | .mosaic image rect mosaicMode => runFenced (Fenced.immosaic image rect mosaicMode sync slot)
  | .mosaicArray dst rects mosaicMode =>
      runFenced (Fenced.immosaicArray dst rects mosaicMode sync slot)
  | .palette src dst lut => runApi (impalette src dst lut sync slot.isSome)
  | .process src dst pat srect drect prect opt usage =>
      runApi (improcess src dst pat srect drect prect acquireFenceFd slot.isSome opt usage)

def task (jobHandle : UInt32) : ImOp → Program ImStatus
  | .resize src dst fx fy interpolation =>
      resizeTo src dst fx fy fun dst => imresizeTask {} jobHandle src dst 0 0 interpolation
  | op => runApi (op.task {} jobHandle)

def improcessCtx (args : TaskArgs) (acquireFenceFd : Int32) (releaseFence : Bool) (ctxId : UInt32) :
    Program ImStatus := do
  let reply ← rgaTaskSubmit { args with
    jobHandle := ctxId, acquireFenceFd := -1, releaseFence := false }
  if reply.status ≠ .success then return reply.status
  let syncMode := if has args.usage imAsync then imAsync else imSync
  let config ← rgaJobConfig ctxId syncMode acquireFenceFd releaseFence
  return config.status

def imsync (fenceFd : Int32) : Program ImStatus := do
  if fenceFd ≤ 0 then return .illegalParam
  let signalled : Bool ← call (.poll fenceFd)
  call (.close fenceFd)
  return if signalled then .success else .failed

/-! `immakeBorder` -/

def borderTask (src dst : RgaBuffer) (handle : UInt32) : BorderTask → Program ImStatus
  | .imfillTask rect color => runApi (imfillTask handle dst rect color)
  | .improcessTask fromDst srect drect usage =>
      runApi (improcessTask handle (if fromDst then dst else src) dst {} srect drect {} none usage)

/-- The border type decides whether a cancel is the result of the call or is only made on its way
out. -/
def answerBorder (kind : JobMapKind) (src dst : RgaBuffer) (known : Bool) :
    (request : BorderCall) → Program (BorderCall.Reply request)
  | .improcess drect acquireFenceFd => rgaSingleTaskSubmit {
      src := src, dst := dst, drect := drect, acquireFenceFd := acquireFenceFd
      releaseFence := true, usage := imAsync }
  | .imbeginJob => rgaJobCreate kind 0
  | .task handle task => borderTask src dst handle task
  | .imendJob handle syncMode acquireFenceFd release =>
      rgaJobSubmit handle syncMode acquireFenceFd (release ≠ .null)
  | .imcancelJob handle => rgaJobCancel known handle
  | .imsync fenceFd => imsync fenceFd

def immakeBorder (kind : JobMapKind) (src dst : RgaBuffer) (args : BorderArgs) :
    Program ImStatus :=
  let args := { args with
    srcWidth := src.width, srcHeight := src.height, dstWidth := dst.width, dstHeight := dst.height }
  BorderResult.status <$>
    (LibRga.immakeBorder args).interpret (answerBorder kind src dst args.Known)

/-! The entry points by what they return -/

inductive HandleEntry where
  | rgaJobCreate (flags : UInt32)
  | imbegin (flags : UInt32)
  | imbeginJob (flags : UInt64)
  | rgaImportBuffer (memory : UInt64) (type : Int32) (size : UInt32)
  | rgaImportBufferParam (memory : UInt64) (type : Int32) (param : ImHandleParam)
deriving DecidableEq, Repr

/-- `imcancelJob`, `imcancel` and `imendJob` are the job functions under another name. -/
inductive StatusEntry where
  | direct (sync acquireFenceFd : Int32) (slot : Option Int32) (op : ImOp)
  | task (jobHandle : UInt32) (op : ImOp)
  | improcessCtx (args : TaskArgs) (acquireFenceFd : Int32) (releaseFence : Bool) (ctxId : UInt32)
  | immakeBorder (src dst : RgaBuffer) (args : BorderArgs)
  | rgaTaskSubmit (args : TaskArgs)
  | rgaSingleTaskSubmit (args : TaskArgs)
  | imcheck (src dst pat : RgaBuffer) (srcRect dstRect patRect : ImRect) (modeUsage : Int32)
  | imsync (fenceFd : Int32)
  | rgaImportBuffers (pool : Option (List RgaExternalBuffer))
  | rgaReleaseBuffers (pool : Option (List RgaExternalBuffer))
  | rgaReleaseBuffer (handle : UInt32)
  | rgaJobCancel (handle : UInt32)
  | rgaJobSubmit (handle : UInt32) (syncMode acquireFenceFd : Int32) (releaseFence : Bool)
  | rgaJobConfig (handle : UInt32) (syncMode acquireFenceFd : Int32) (releaseFence : Bool)
deriving DecidableEq, Repr

inductive EntryPoint where
  | handle (entry : HandleEntry)
  | status (entry : StatusEntry)
  | querystring (name : Int32)
  | getDebugState
  | isDebugEn
deriving DecidableEq, Repr

inductive Returned where
  | handle (value : UInt32)
  | status (value : ImStatus)
  | text (value : QueryText)
  | flag (value : Bool)
deriving DecidableEq, Repr

def HandleEntry.program (kind : JobMapKind) : HandleEntry → Program UInt32
  | rgaJobCreate flags | imbegin flags => Entry.rgaJobCreate kind flags
  | imbeginJob flags => Entry.rgaJobCreate kind flags.toUInt32
  | rgaImportBuffer memory type size => Entry.rgaImportBuffer memory type size
  | rgaImportBufferParam memory type param => Entry.rgaImportBufferParam memory type param

def StatusEntry.program (kind : JobMapKind) : StatusEntry → Program ImStatus
  | direct sync acquireFenceFd slot op => Entry.direct sync acquireFenceFd slot op
  | task jobHandle op => Entry.task jobHandle op
  | improcessCtx args acquireFenceFd releaseFence ctxId =>
      Entry.improcessCtx args acquireFenceFd releaseFence ctxId
  | immakeBorder src dst args => Entry.immakeBorder kind src dst args
  | rgaTaskSubmit args => FenceReply.status <$> Entry.rgaTaskSubmit args
  | rgaSingleTaskSubmit args => FenceReply.status <$> Entry.rgaSingleTaskSubmit args
  | imcheck src dst pat srcRect dstRect patRect modeUsage =>
      rgaCheckExternal src dst pat srcRect dstRect patRect modeUsage
  | imsync fenceFd => Entry.imsync fenceFd
  | rgaImportBuffers pool => Prod.fst <$> Entry.rgaImportBuffers pool
  | rgaReleaseBuffers pool => Entry.rgaReleaseBuffers pool
  | rgaReleaseBuffer handle => Entry.rgaReleaseBuffer handle
  | rgaJobCancel handle => Entry.rgaJobCancel false handle
  | rgaJobSubmit handle syncMode acquireFenceFd releaseFence =>
      FenceReply.status <$> Entry.rgaJobSubmit handle syncMode acquireFenceFd releaseFence
  | rgaJobConfig handle syncMode acquireFenceFd releaseFence =>
      FenceReply.status <$> Entry.rgaJobConfig handle syncMode acquireFenceFd releaseFence

def EntryPoint.program (kind : JobMapKind) : EntryPoint → Program Returned
  | handle entry => Returned.handle <$> entry.program kind
  | status entry => Returned.status <$> entry.program kind
  | querystring name => Returned.text <$> Entry.querystring name
  | getDebugState => Returned.flag <$> Entry.getDebugState
  | isDebugEn => Returned.flag <$> Entry.isDebugEn

end LibRga.Entry
