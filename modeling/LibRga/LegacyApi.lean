import LibRga.Hardware
import LibRga.LegacyMonitor
import LibRga.Library.Callers

/-!
The C functions of `RgaApi.cpp` over the `RockchipRga` of the process, turn by
turn.

`getInstance` makes the object with the lock of `RgaSingleton.h` held, so the
constructor calls `RgaInit` under it. Nothing destroys the object.
-/

namespace LibRga

open Monitor

/-- What the constructor leaves in the object; none of the C functions writes to it. -/
structure RockchipRga where
  mSupportRga : Bool := false
  mContext : Option CtxPtr := none
deriving DecidableEq, Repr, Inhabited

inductive ApiCall where
  | rkRgaInit
  | rkRgaDeInit
  | rkRgaGetContext
  /-- `c_RkRgaBlit`, `c_RkRgaColorFill` and `c_RkRgaFlush`. -/
  | rkRgaOperation
  /-- The functions on a `bo_t`, which is their caller's. -/
  | rkRgaBuffer
deriving DecidableEq, Repr

inductive ApiResult where
  | status (ret : Int32)
  | context (ctx : Option CtxPtr)
  | operation (result : CallResult)
  | buffer
deriving DecidableEq, Repr

inductive ApiPlace where
  | getInstance (call : ApiCall)
  | instanceTest (call : ApiCall)
  | rgaInitOpen (call : ApiCall)
  | rgaInitCheck (call : ApiCall) (ctx : LegacyContext)
  | rgaInitClose (call : ApiCall) (ctx : LegacyContext)
  | constructed (call : ApiCall) (object : RockchipRga)
  | instanceUnlock (call : ApiCall)
  | method (call : ApiCall)
  | finished (result : ApiResult)
deriving DecidableEq, Repr

namespace ApiPlace

abbrev ApiTurn :=
  CallerTurn LegacyCall CallResult (Option RockchipRga) RgaVersion ApiPlace ApiResult

/-- What the system answers at a turn is the `mDriverVersion` that an open has found. -/
def code : ApiPlace → ApiTurn
  -- Singleton::getInstance
  | getInstance call => .lock (instanceTest call)
  | instanceTest call => .read fun sInstance =>
      if sInstance.isSome then instanceUnlock call else rgaInitOpen call
  -- RgaInit
  | rgaInitOpen call => .call (.normalRgaOpen true) fun result =>
      match result with
      | .opened ctx => rgaInitCheck call ctx
      | _ => constructed call {}
  | rgaInitCheck call ctx => .own fun sInstance mDriverVersion =>
      let ret := rgaCheckDriver mDriverVersion
      (sInstance, if ret = .errorVersion then rgaInitClose call ctx
        else constructed call { mSupportRga := 0 ≤ ret.toInt32, mContext := ctx.ptr })
  | rgaInitClose call ctx => .call (.normalRgaClose (.context ctx.ptr)) fun _ =>
      constructed call {}
  | constructed call object => .own fun _ _ => (some object, instanceUnlock call)
  | instanceUnlock call => .unlock (method call)
  -- RockchipRga
  | method .rkRgaGetContext => .read fun sInstance =>
      finished (.context (sInstance.bind RockchipRga.mContext))
  | method .rkRgaOperation => .call .operation fun result => finished (.operation result)
  | method _ => .read fun _ => finished .buffer
  | finished result => .ret result

/-- `c_RkRgaInit` and `c_RkRgaDeInit` do nothing. -/
def start : ApiCall → ApiPlace
  | .rkRgaInit | .rkRgaDeInit => finished (.status 0)
  | call => getInstance call

def inside : ApiPlace → Bool
  | getInstance _ | method _ | finished _ => false
  | _ => true

theorem code_fits (place : ApiPlace) : place.code.Fits inside place.inside := by
  cases place with
  | getInstance call | instanceUnlock call => exact ⟨rfl, rfl⟩
  | instanceTest call =>
      intro sInstance
      dsimp only
      split <;> rfl
  | rgaInitOpen call =>
      intro result
      cases result <;> rfl
  | rgaInitCheck call ctx =>
      refine ⟨rfl, fun sInstance mDriverVersion => ?_⟩
      dsimp only
      split <;> rfl
  | rgaInitClose call ctx => exact fun _ => rfl
  | constructed call object => exact ⟨rfl, fun _ _ => rfl⟩
  | method call => cases call <;> exact fun _ => rfl
  | finished result => exact rfl

end ApiPlace

def apiCallers : Callers LegacyCall CallResult (Option RockchipRga) RgaVersion ApiCall ApiPlace
    ApiResult where
  start := ApiPlace.start
  code := ApiPlace.code
  inside := ApiPlace.inside
  outside_first := by
    intro call
    cases call <;> rfl
  fits := ApiPlace.code_fits

/-- The threads of the process, and `sInstance`. -/
abbrev ApiState := Joint Thread LegacyData LegacyPlace (Option RockchipRga) ApiPlace

abbrev ApiEvent :=
  JointEvent Thread LegacyCall LegacyPlace DeviceCall CallResult ApiCall ApiPlace ApiResult

abbrev ApiOp := JointOp Thread LegacyReply RgaVersion ApiCall

/-- No thread in a call yet, and no object. -/
def ApiState.first : ApiState :=
  { monitor := { data := {} }, shared := none }

/-- Two threads make their first call at once; the one that has the lock makes the object. -/
def racingOps : List ApiOp :=
  [.begin 0 .rkRgaOperation, .begin 1 .rkRgaGetContext, .own 0 default, .own 0 default,
    .own 0 default] ++
  List.replicate 11 (.run 0 { block := some 0x1000, fd := 3, ok := true }) ++
  [.own 0 ⟨1, 3, 0⟩, .own 0 default]

end LibRga
