import LibRga.Context
import LibRga.Library.Wakeups

/-!
The functions of `NormalRga.cpp` that share the context, instruction by instruction.

Here `mMutex` and `context_idle` are those of the system: between any two
accesses to `rgaCtx`, `refCount`, `active_operations` or `context_closing` other
threads may run. `Context` has whole critical sections as its steps.
-/

namespace LibRga

open Monitor

/-- What `mMutex` guards, with the blocks and fds of the device that are in use. -/
structure LegacyData where
  refCount : Int := 0
  rgaCtx : Option LegacyContext := none
  /-- `Is_debug` in the block of `rgaCtx`. -/
  isDebug : Int32 := 0
  activeOperations : Nat := 0
  contextClosing : Bool := false
  ledger : DeviceLedger := {}
  allocations : Nat := 0

def LegacyData.perform (data : LegacyData) (call : DeviceCall) : LegacyData :=
  { data with ledger := data.ledger.apply call }

/-- What an operation does next between `RgaContextUse` and its destructor. -/
inductive OperationStep where
  | isDebugLog
  | isOutLog
  | done
deriving DecidableEq, Repr

/-- Whatever the system may answer: the block of `malloc` with the word that becomes `Is_debug`, the
fd of `open`, whether an `ioctl` succeeds, the value of `ROCKCHIP_RGA_LOG`. -/
structure LegacyReply where
  block : Option CtxPtr := none
  garbage : Int32 := 0
  fd : Int32 := -1
  ok : Bool := false
  property : Int32 := 0
  next : OperationStep := .done
deriving DecidableEq, Repr, Inhabited

inductive LegacyCall where
  | normalRgaOpen (slot : Bool)
  | normalRgaClose (arg : CloseArg)
  /-- `RgaBlit`, `RgaFlush`, `RgaCollorFill` and `RgaCollorPalette`. -/
  | operation
  | isDebugLog
  | isOutLog
deriving DecidableEq, Repr

inductive CallResult where
  | status (ret : Int32)
  | opened (ctx : LegacyContext)
  | level (level : Int32)
deriving DecidableEq, Repr

inductive LegacyPlace where
  | openLock
  /-- `while (context_closing)` -/
  | openLoop
  | openLookup
  | openMalloc
  | openDevice (ptr : CtxPtr)
  | openDriverVersion (ptr : CtxPtr) (fd : Int32)
  | openHwVersion (ptr : CtxPtr) (fd : Int32)
  | openRga2Version (ptr : CtxPtr) (fd : Int32)
  | openRga1Version (ptr : CtxPtr) (fd : Int32)
  | openPublish (ptr : CtxPtr) (fd : Int32)
  | openCount (ctx : LegacyContext)
  /-- `getVersionError` -/
  | openClose (ptr : CtxPtr) (fd : Int32)
  /-- `rgaOpenErr` -/
  | openFree (ptr : CtxPtr) (ret : Int32)
  | openUnlock (result : CallResult)
  | useLock
  | useTest
  | useCount (ctx : LegacyContext)
  | useUnlock (ctx : Option LegacyContext)
  | operating (ctx : LegacyContext)
  | endLock (ctx : LegacyContext)
  | endCount
  | endBroadcast
  | endUnlock
  /-- `is_debug_log` and `is_out_log`, on their own or in an operation. -/
  | debugLock (operation : Option LegacyContext)
  | debugSet (operation : Option LegacyContext)
  | outLock (operation : Option LegacyContext)
  | outRead (operation : Option LegacyContext)
  | logUnlock (operation : Option LegacyContext) (level : Int32)
  | closeLock (arg : CloseArg)
  | closeTest (arg : CloseArg)
  | closeCount (ctx : LegacyContext)
  | closeMark (ctx : LegacyContext)
  /-- `while (active_operations != 0)` -/
  | closeLoop (ctx : LegacyContext)
  | closeClear (ctx : LegacyContext)
  | closeFd (ctx : LegacyContext)
  | closeFree (ctx : LegacyContext)
  | closeCalm
  | closeBroadcast
  | closeUnlock (ret : Int32)
  | done (result : CallResult)
deriving DecidableEq, Repr

namespace LegacyPlace

abbrev LegacyInstr := Instr LegacyData LegacyReply LegacyPlace DeviceCall CallResult

/-- An access that asks the system for nothing. -/
def update (effect : LegacyData → LegacyData × LegacyPlace) : LegacyInstr :=
  .act fun data _ => some ((effect data).1, [], (effect data).2)

/-- The `ioctl` of a version, and where it leads when it succeeds and when it fails. -/
def ioctl (succeeded failed : LegacyPlace) : LegacyInstr :=
  .act fun data reply => some (data, [], if reply.ok then succeeded else failed)

def code : LegacyPlace → LegacyInstr
  -- NormalRgaOpen
  | openLock => .lock openLoop
  | openLoop => .await LegacyData.contextClosing openLookup
  | openLookup => update fun data =>
      match data.rgaCtx with
      | none => (data, openMalloc)
      | some ctx => (data, openCount ctx)
  | openMalloc => .act fun data reply =>
      match reply.block with
      | none => some (data, [], openUnlock (.status (-12)))
      | some ptr =>
          if ptr ∈ data.ledger.contexts then none
          else some ({ data.perform (.malloc ptr) with
              allocations := data.allocations + 1
              isDebug := reply.garbage }, [.malloc ptr], openDevice ptr)
  | openDevice ptr => .act fun data reply =>
      if reply.fd < 0 then some (data, [], openFree ptr (-19))
      else if reply.fd ∈ data.ledger.fds then none
      else some (data.perform (.openFd reply.fd), [.openFd reply.fd],
        openDriverVersion ptr reply.fd)
  | openDriverVersion ptr fd => ioctl (openHwVersion ptr fd) (openRga2Version ptr fd)
  | openHwVersion ptr fd => ioctl (openPublish ptr fd) (openClose ptr fd)
  | openRga2Version ptr fd => ioctl (openPublish ptr fd) (openRga1Version ptr fd)
  | openRga1Version ptr fd => ioctl (openPublish ptr fd) (openClose ptr fd)
  | openPublish ptr fd => update fun data =>
      let ctx := { ptr := ptr, rgaFd := fd, serial := data.allocations - 1 }
      ({ data with rgaCtx := some ctx }, openCount ctx)
  | openCount ctx => update fun data =>
      ({ data with refCount := data.refCount + 1 }, openUnlock (.opened ctx))
  | openClose ptr fd => .act fun data _ =>
      some (data.perform (.closeFd fd), [.closeFd fd], openFree ptr (-1))
  | openFree ptr ret => .act fun data _ =>
      some (data.perform (.free ptr), [.free ptr], openUnlock (.status ret))
  | openUnlock result => .unlock (done result)
  -- RgaContextUse
  | useLock => .lock useTest
  | useTest => update fun data =>
      match if data.contextClosing then none else data.rgaCtx with
      | none => (data, useUnlock none)
      | some ctx => (data, useCount ctx)
  | useCount ctx => update fun data =>
      ({ data with activeOperations := data.activeOperations + 1 }, useUnlock (some ctx))
  | useUnlock none => .unlock (done (.status (-19)))
  | useUnlock (some ctx) => .unlock (operating ctx)
  | operating ctx => .choose fun reply =>
      match reply.next with
      | .isDebugLog => debugLock (some ctx)
      | .isOutLog => outLock (some ctx)
      | .done => endLock ctx
  | endLock _ => .lock endCount
  | endCount => update fun data =>
      let after := { data with activeOperations := data.activeOperations - 1 }
      (after, if after.activeOperations = 0 then endBroadcast else endUnlock)
  | endBroadcast => .broadcast endUnlock
  | endUnlock => .unlock (done (.status 0))
  -- is_debug_log, is_out_log
  | debugLock operation => .lock (debugSet operation)
  | debugSet operation => .act fun data reply =>
      some (if data.rgaCtx.isSome then { data with isDebug := reply.property } else data, [],
        logUnlock operation 0)
  | outLock operation => .lock (outRead operation)
  | outRead operation => update fun data =>
      (data, logUnlock operation (if data.rgaCtx.isSome then data.isDebug else 0))
  | logUnlock none level => .unlock (done (.level level))
  | logUnlock (some ctx) _ => .unlock (operating ctx)
  -- NormalRgaClose
  | closeLock arg => .lock (closeTest arg)
  | closeTest arg => update fun data =>
      match data.rgaCtx, arg with
      | some ctx, .context ptr =>
          if ptr ≠ ctx.ptr then (data, closeUnlock (-19))
          else if data.refCount ≤ 0 then (data, closeUnlock 0)
          else (data, closeCount ctx)
      | _, _ => (data, closeUnlock (-19))
  | closeCount ctx => update fun data =>
      let after := { data with refCount := data.refCount - 1 }
      (after, if 0 < after.refCount then closeUnlock 0 else closeMark ctx)
  | closeMark ctx => update fun data => ({ data with contextClosing := true }, closeLoop ctx)
  | closeLoop ctx => .await (fun data => data.activeOperations != 0) (closeClear ctx)
  | closeClear ctx => update fun data => ({ data with rgaCtx := none }, closeFd ctx)
  | closeFd ctx => .act fun data _ =>
      some (data.perform (.closeFd ctx.rgaFd), [.closeFd ctx.rgaFd], closeFree ctx)
  | closeFree ctx => .act fun data _ =>
      some (data.perform (.free ctx.ptr), [.free ctx.ptr], closeCalm)
  | closeCalm => update fun data => ({ data with contextClosing := false }, closeBroadcast)
  | closeBroadcast => .broadcast (closeUnlock 0)
  | closeUnlock ret => .unlock (done (.status ret))
  | done result => .ret result

def start : LegacyCall → LegacyPlace
  | .normalRgaOpen slot => if slot then openLock else done (.status (-22))
  | .normalRgaClose .noSlot => done (.status (-19))
  | .normalRgaClose arg => closeLock arg
  | .operation => useLock
  | .isDebugLog => debugLock none
  | .isOutLog => outLock none

def inside : LegacyPlace → Bool
  | openLock | useLock | operating _ | endLock _ | debugLock _ | outLock _ | closeLock _ | done _ =>
      false
  | _ => true

theorem update_fits {effect : LegacyData → LegacyData × LegacyPlace}
    (stays : ∀ data, inside (effect data).2 = true) : (update effect).Fits inside true := by
  refine ⟨rfl, fun data _ after notes next same => ?_⟩
  cases same
  exact stays data

theorem ioctl_fits {succeeded failed : LegacyPlace} (good : inside succeeded = true)
    (bad : inside failed = true) : (ioctl succeeded failed).Fits inside true := by
  refine ⟨rfl, fun data reply after notes next same => ?_⟩
  cases same
  split
  · exact good
  · exact bad

theorem code_fits (place : LegacyPlace) : place.code.Fits inside place.inside := by
  cases place with
  | openLookup =>
      refine update_fits fun data => ?_
      cases data.rgaCtx <;> rfl
  | openMalloc =>
      refine ⟨rfl, fun data reply after notes next answered => ?_⟩
      dsimp only at answered
      split at answered
      · cases answered
        rfl
      · split at answered
        · cases answered
        · cases answered
          rfl
  | openDevice ptr =>
      refine ⟨rfl, fun data reply after notes next answered => ?_⟩
      dsimp only at answered
      split at answered
      · cases answered
        rfl
      · split at answered
        · cases answered
        · cases answered
          rfl
  | openDriverVersion ptr fd | openHwVersion ptr fd | openRga2Version ptr fd
  | openRga1Version ptr fd => exact ioctl_fits rfl rfl
  | openPublish ptr fd | openCount ctx | useCount ctx | outRead operation | closeMark ctx
  | closeClear ctx | closeCalm => exact update_fits fun data => rfl
  | openClose ptr fd | openFree ptr ret | debugSet operation | closeFd ctx | closeFree ctx =>
      refine ⟨rfl, fun data reply after notes next answered => ?_⟩
      cases answered
      rfl
  | useTest =>
      refine update_fits fun data => ?_
      split <;> rfl
  | useUnlock ctx => cases ctx <;> exact ⟨rfl, rfl⟩
  | logUnlock operation level => cases operation <;> exact ⟨rfl, rfl⟩
  | operating ctx =>
      refine ⟨rfl, fun reply => ?_⟩
      dsimp only
      cases reply.next <;> rfl
  | endCount =>
      refine update_fits fun data => ?_
      dsimp only
      split <;> rfl
  | closeTest arg =>
      refine update_fits fun data => ?_
      split
      · split
        · rfl
        · split <;> rfl
      · rfl
  | closeCount ctx =>
      refine update_fits fun data => ?_
      dsimp only
      split <;> rfl
  | done result => rfl
  | _ => exact ⟨rfl, rfl⟩

end LegacyPlace

/-- The calls with their mutex: nothing that it guards is touched without it. -/
def legacyProgram :
    Program LegacyCall LegacyData LegacyReply LegacyPlace DeviceCall CallResult where
  start := LegacyPlace.start
  code := LegacyPlace.code
  inside := LegacyPlace.inside
  outside_first := by
    intro call
    cases call with
    | normalRgaOpen slot => cases slot <;> rfl
    | normalRgaClose arg => cases arg <;> rfl
    | _ => rfl
  fits := LegacyPlace.code_fits

/-- One thread opens, another one operates, the first closes and waits for it, and a third one wants
to open meanwhile. -/
def drainingOps : List (Op Thread LegacyCall LegacyReply) :=
  .enter 0 (.normalRgaOpen true) ::
    List.replicate 11 (.run 0 { block := some 0x1000, fd := 3, ok := true }) ++
  .enter 1 .operation :: List.replicate 4 (.run 1 {}) ++
  .enter 0 (.normalRgaClose (.context 0x1000)) :: List.replicate 5 (.run 0 {}) ++
  .enter 2 (.normalRgaOpen true) :: List.replicate 2 (.run 2 {})

end LibRga
