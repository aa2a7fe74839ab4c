import LibRga.Driver
import LibRga.Fill
import LibRga.Job
import LibRga.TaskInfo

/-!
`rga_task_submit`: set up the infos, build the request, then queue it in a job
or hand it to the driver.
-/

namespace LibRga

structure TaskArgs where
  jobHandle : UInt32 := 0
  src : RgaBuffer := {}
  dst : RgaBuffer := {}
  pat : RgaBuffer := {}
  srect : ImRect := {}
  drect : ImRect := {}
  prect : ImRect := {}
  acquireFenceFd : Int32 := -1
  /-- Whether `release_fence_fd` points somewhere. -/
  releaseFence : Bool := false
  opt : Option ImOpt := none
  usage : Int32 := 0
deriving DecidableEq, Repr, Inhabited

/-- What the surroundings answer during one submission. -/
structure TaskEnv where
  context : ImContext := {}
  /-- The block `malloc` returns for the Gaussian coefficients. -/
  coePtr : UInt64 := 0
  lutRet : Int32 := 0
  reply : IoctlReply := {}
deriving DecidableEq, Repr, Inhabited

structure TaskBuffers where
  src : RgaBuffer
  dst : RgaBuffer
  pat : RgaBuffer
  patTaken : Bool
deriving DecidableEq, Repr, Inhabited

/-- `rga_apply_rect` and `convert_to_rga_format` on one buffer. -/
def settleBuffer (image : RgaBuffer) (rect : ImRect) : Except ImStatus RgaBuffer :=
  let format := convertToRgaFormat image.format
  if format = rkFormatUnknown then .error .notSupported
  else .ok { rgaApplyRect image rect with format := format }

/-- The status of `src` is overwritten by that of `dst`. -/
def bufferInfoStatus (args : TaskArgs) : ImStatus :=
  (rgaSetBufferInfo args.dst {}).1

def takesPattern (args : TaskArgs) : Bool :=
  (has args.usage imColorPalette || has args.usage imAlphaBlendMask) && rgaIsBufferValid args.pat

def settleBuffers (args : TaskArgs) : Except ImStatus TaskBuffers := do
  let src ← settleBuffer args.src args.srect
  let dst ← settleBuffer args.dst args.drect
  if takesPattern args then
    let status := (rgaSetBufferInfo args.pat {}).1
    if status.ok = false then .error status
    else
      let pat ← settleBuffer args.pat args.prect
      .ok { src := src, dst := dst, pat := pat, patTaken := true }
  else .ok { src := src, dst := dst, pat := args.pat, patTaken := false }

def gaussStatus (buffers : TaskBuffers) (opt : ImOpt) (usage : Int32) : ImStatus :=
  if has usage imHalTransformMask then .notSupported
  else if buffers.src.width ≠ buffers.dst.width ∨ buffers.src.height ≠ buffers.dst.height then
    .invalidParam
  else if opt.gaussConfig.ksizeWidth ≠ 3 ∨ opt.gaussConfig.ksizeHeight ≠ 3 then .notSupported
  else .success

def taskSrcInfo (env : TaskEnv) (args : TaskArgs) (buffers : TaskBuffers) : RgaInfo :=
  let opt := rgaGetOpt args.opt
  let usage := args.usage
  let info := if has usage imColorFill then {} else (rgaSetBufferInfo args.src {}).2
  let keyed := has usage imAlphaColorkeyMask
  let alphaBits := has usage imAlphaBitMap && isRgba5551Format buffers.pat.format
  { info with
    rect := rgaSetRect args.srect buffers.src
    scaleMode := taskScaleMode opt.interp
    rotation := taskRotation usage
    rgba5551Flags := if alphaBits then 1 else 0
    rgba5551Alpha0 := if alphaBits then args.pat.alphaBit0.toUInt8 else 0
    rgba5551Alpha1 := if alphaBits then args.pat.alphaBit1.toUInt8 else 0
    blend := taskBlend usage args.src.globalAlpha args.dst.globalAlpha
    colorkeyEn := if keyed then 1 else 0
    colorkeyMin := if keyed then opt.colorkeyRange.min else 0
    colorkeyMax := if keyed then opt.colorkeyRange.max else 0
    colorkeyMode := if usage &&& imAlphaColorkeyMask = imAlphaColorkeyInverted then 1 else 0
    osdInfo := taskOsd usage opt.osdConfig buffers.pat.format
    ropCode := if has usage imRop then opt.ropCode else 0
    mosaicInfo := if has usage imMosaic then { enable := 1, mode := toU8 opt.mosaicMode } else {}
    preIntr := taskPreIntr usage opt.intrConfig
    gaussConfig := if has usage imGauss then { size := 3, coePtr := env.coePtr } else {}
    rdMode := args.src.rdMode }

def taskSyncMode (usage : Int32) : Int32 :=
  if has usage imAsync then rgaBlitAsync else rgaBlitSync

def taskDstInfo (env : TaskEnv) (args : TaskArgs) (buffers : TaskBuffers)
    (colorSpaceMode : Int32) : RgaInfo :=
  let opt := rgaGetOpt args.opt
  { (rgaSetBufferInfo args.dst {}).2 with
    rect := rgaSetRect args.drect buffers.dst
    nn := taskNn args.usage opt.nn
    colorSpaceMode := colorSpaceMode
    dither := taskDither buffers.dst
    rdMode := args.dst.rdMode
    syncMode := taskSyncMode args.usage
    inFenceFd := args.acquireFenceFd
    core := if opt.core ≠ 0 then opt.core else env.context.core
    priority := if opt.priority ≠ 0 then opt.priority else env.context.priority
    jobHandle := args.jobHandle.toInt32
    color := if has args.usage imColorFill then opt.color else 0 }

def taskPatInfo (args : TaskArgs) (buffers : TaskBuffers) : RgaInfo :=
  let info : RgaInfo :=
    if buffers.patTaken then
      { (rgaSetBufferInfo args.pat {}).2 with rect := rgaSetRect args.prect buffers.pat }
    else {}
  if rgaIsBufferValid args.pat then { info with rdMode := args.pat.rdMode } else info

structure TaskSetup where
  src : RgaInfo
  dst : RgaInfo
  pat : RgaInfo
deriving DecidableEq, Repr, Inhabited

def validateTask (session : RgaSession) (args : TaskArgs) :
    Except ImStatus (TaskBuffers × Int32) := do
  if (bufferInfoStatus args).ok = false then .error (bufferInfoStatus args)
  else
    let buffers ← settleBuffers args
    let status := rgaCheck session.hardwareInfo buffers.src buffers.dst buffers.pat
      args.srect args.drect args.prect args.usage
    if status ≠ .noError then .error status
    else
      let mode ← taskColorSpaceMode session.hardwareInfo buffers.src buffers.dst buffers.pat
      let gauss := gaussStatus buffers (rgaGetOpt args.opt) args.usage
      if has args.usage imGauss = true ∧ gauss ≠ .success then .error gauss
      else .ok (buffers, mode)

def taskSetup (env : TaskEnv) (args : TaskArgs) (buffers : TaskBuffers) (mode : Int32) :
    TaskSetup :=
  { src := taskSrcInfo env args buffers
    dst := taskDstInfo env args buffers mode
    pat := taskPatInfo args buffers }

inductive TaskPath where
  | fill
  | palette
  | blend
  | blit
deriving DecidableEq, Repr, Inhabited

def taskPath (args : TaskArgs) : TaskPath :=
  if has args.usage imColorFill then .fill
  else if has args.usage imColorPalette then .palette
  else if has args.usage imAlphaBlendMask && rgaIsBufferValid args.pat then .blend
  else .blit

/-- The palette table the builder hands to the driver itself, and what it returns. -/
def buildTask (session : RgaSession) (path : TaskPath) (setup : TaskSetup) (lutRet : Int32) :
    Option RgaReq × Except BuildExit RgaReq :=
  match path with
  | .fill => (none, generateFillReq session setup.dst)
  | .palette => generateColorPaletteReq session setup.src setup.dst setup.pat lutRet
  | .blend => (none, generateBlitReq session setup.src setup.dst (some setup.pat))
  | .blit => (none, generateBlitReq session setup.src setup.dst none)

/-- `req` after the builder, unless it returned a negative value. -/
def builtReq : Except BuildExit RgaReq → Option RgaReq
  | .ok req => some req
  | .error exit => if exit.ret < 0 then none else some {}

structure SubmitResult where
  status : ImStatus
  releaseFence : Option Int32 := none
  events : List DriverEvent := []
  manager : JobManager RgaReq

def blitArg (session : RgaSession) (req : RgaReq) : Option BlitArg :=
  match session.driverType with
  | .rga1 | .rga2 => some (.rga2Req (normalRgaCompatModeConvertRga2 req))
  | .multiRga => some (.rgaReq req)
  | .unknown => none

/-- `req.out_fence_fd` afterwards: only the newest driver writes into `req` itself. -/
def replyFence (session : RgaSession) (req : RgaReq) (reply : IoctlReply) : Int32 :=
  if session.driverType = .multiRga then reply.outFenceFd else req.outFenceFd

def submitDirect (session : RgaSession) (env : TaskEnv) (manager : JobManager RgaReq)
    (args : TaskArgs) (req : RgaReq) : SubmitResult :=
  match blitArg session req with
  | none => { status := .failed, manager := manager }
  | some arg =>
      let call := DriverEvent.blit (taskSyncMode args.usage) req arg
      if env.reply.ret ≠ 0 then { status := .failed, events := [call], manager := manager }
      else if has args.usage imAsync then
        let closes := hasBit session.driverFeature rgaDriverFeatureUserCloseFence &&
          0 < args.acquireFenceFd
        { status := .success
          releaseFence := some (replyFence session req env.reply)
          events := call :: if closes then [.closeFence args.acquireFenceFd] else []
          manager := manager }
      else { status := .success, events := [call], manager := manager }

def submitJob (manager : JobManager RgaReq) (args : TaskArgs) (req : RgaReq) : SubmitResult :=
  match manager.appendTask args.jobHandle req with
  | .appended _ after =>
      { status := .success, events := [.queueTask args.jobHandle req], manager := after }
  | _ => { status := .illegalParam, manager := manager }

def submitReq (session : RgaSession) (env : TaskEnv) (manager : JobManager RgaReq)
    (args : TaskArgs) (req : RgaReq) : SubmitResult :=
  let result := if 0 < args.jobHandle then submitJob manager args req
    else submitDirect session env manager args req
  if has args.usage imGauss && req.gaussConfig.coePtr != 0 then
    { result with events := result.events ++ [.gaussFree req.gaussConfig.coePtr] }
  else result

/-- The events of the builder: the palette table goes out as it stands, never converted. -/
def lutEvents (update : Option RgaReq) : List DriverEvent :=
  (update.map fun req => .blit rgaBlitSync req (.rgaReq req)).toList

/-- `async` without a place for the release fence. -/
def lacksFence (args : TaskArgs) : Bool :=
  has args.usage imAsync && !args.releaseFence

def prepareTask (session : RgaSession) (env : TaskEnv) (args : TaskArgs) :
    List DriverEvent × Except ImStatus RgaReq :=
  match validateTask session args with
  | .error status => ([], .error status)
  | .ok (buffers, mode) =>
      let gauss := if has args.usage imGauss then [DriverEvent.gaussAlloc env.coePtr] else []
      if lacksFence args then (gauss, .error .illegalParam)
      else
        let built := buildTask session (taskPath args) (taskSetup env args buffers mode) env.lutRet
        match builtReq built.2 with
        | none => (gauss ++ lutEvents built.1, .error .failed)
        | some req => (gauss ++ lutEvents built.1, .ok req)

def rgaTaskSubmit (session : RgaSession) (env : TaskEnv) (manager : JobManager RgaReq)
    (args : TaskArgs) : SubmitResult :=
  match prepareTask session env args with
  | (events, .error status) => { status := status, events := events, manager := manager }
  | (events, .ok req) =>
      let result := submitReq session env manager args req
      { result with events := events ++ result.events }

def rgaSingleTaskSubmit (session : RgaSession) (env : TaskEnv) (manager : JobManager RgaReq)
    (args : TaskArgs) : SubmitResult :=
  rgaTaskSubmit session env manager { args with jobHandle := 0 }

end LibRga
