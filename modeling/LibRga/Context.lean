import LibRga.Job

/-!
The legacy context of `NormalRga.cpp`: `NormalRgaOpen`, `NormalRgaClose` and the
bracket `RgaContextUse` around every operation.

All three work under `mMutex`, so a step is what one thread does between taking
the mutex and letting go of it, by unlocking or by waiting on `context_idle`. The
calls to the system inside a step are kept in order.
-/

namespace LibRga

abbrev CtxPtr := UInt64

/-- A context with its address. `serial` counts allocations; no step depends on it. -/
structure LegacyContext where
  ptr : CtxPtr
  rgaFd : Int32
  serial : Nat
deriving DecidableEq, Repr, Inhabited

inductive DeviceCall where
  | malloc (ptr : CtxPtr)
  | openFd (fd : Int32)
  | closeFd (fd : Int32)
  | free (ptr : CtxPtr)
deriving DecidableEq, Repr

structure DeviceLedger where
  contexts : List CtxPtr := []
  fds : List Int32 := []
deriving DecidableEq, Repr, Inhabited

def DeviceLedger.apply (ledger : DeviceLedger) : DeviceCall → DeviceLedger
  | .malloc ptr => { ledger with contexts := ptr :: ledger.contexts }
  | .openFd fd => { ledger with fds := fd :: ledger.fds }
  | .closeFd fd => { ledger with fds := ledger.fds.erase fd }
  | .free ptr => { ledger with contexts := ledger.contexts.erase ptr }

def DeviceLedger.replay (ledger : DeviceLedger) (calls : List DeviceCall) : DeviceLedger :=
  calls.foldl DeviceLedger.apply ledger

structure OpenReply where
  block : Option CtxPtr := none
  fd : Int32 := -1
  driverVersion : Bool := false
  hwVersion : Bool := false
  rga2Version : Bool := false
  rga1Version : Bool := false
deriving DecidableEq, Repr, Inhabited

/-- Without a driver version the library falls back to the versions of RGA2 and RGA1. -/
def OpenReply.versionKnown (reply : OpenReply) : Bool :=
  if reply.driverVersion then reply.hwVersion else reply.rga2Version || reply.rga1Version

inductive ContextPc where
  | idle
  /-- `NormalRgaOpen` on `context_idle`; `since` is how many contexts had been allocated when
  the call came. -/
  | openWait (since : Nat)
  | using (ctx : LegacyContext)
  /-- `NormalRgaClose` on `context_idle`. -/
  | closeWait (ctx : LegacyContext)
deriving DecidableEq, Repr

/-- `refCount` counts clients, which are far fewer than `2 ^ 31`. -/
structure ContextState where
  refCount : Int := 0
  rgaCtx : Option LegacyContext := none
  activeOperations : Nat := 0
  contextClosing : Bool := false
  pc : Thread → ContextPc := fun _ => .idle
  ledger : DeviceLedger := {}
  allocations : Nat := 0
  /-- The contexts that successful opens have handed out and no close has taken back. -/
  clients : List CtxPtr := []

/-- The argument of `NormalRgaClose`: `NULL`, the address of a `NULL`, or of a context. -/
inductive CloseArg where
  | noSlot
  | emptySlot
  | context (ptr : CtxPtr)
deriving DecidableEq, Repr

inductive ContextOp where
  | openLock (thread : Thread) (slot : Bool) (reply : OpenReply)
  | openWake (thread : Thread) (reply : OpenReply)
  | useBegin (thread : Thread)
  | useEnd (thread : Thread)
  | closeLock (thread : Thread) (arg : CloseArg)
  | closeWake (thread : Thread)

inductive ContextEvent where
  | openFailed (thread : Thread) (ret : Int32) (calls : List DeviceCall)
  | openWaits (thread : Thread)
  | opened (thread : Thread) (ctx : LegacyContext) (waited : Option Nat) (calls : List DeviceCall)
  | useRefused (thread : Thread)
  | useBegan (thread : Thread) (ctx : LegacyContext)
  | useEnded (thread : Thread)
  | closeRefused (thread : Thread) (ret : Int32)
  | closed (thread : Thread)
  | closeWaits (thread : Thread) (ctx : LegacyContext)
  | tornDown (thread : Thread) (ctx : LegacyContext) (calls : List DeviceCall)
deriving DecidableEq, Repr

def ContextEvent.calls : ContextEvent → List DeviceCall
  | openFailed _ _ calls | opened _ _ _ calls | tornDown _ _ calls => calls
  | _ => []

namespace ContextState

def setPc (state : ContextState) (thread : Thread) (pc : ContextPc) : ContextState :=
  { state with pc := fun other => if other = thread then pc else state.pc other }

/-- The rest of `NormalRgaOpen` once no close is draining. -/
def openSection (state : ContextState) (thread : Thread) (waited : Option Nat)
    (reply : OpenReply) : Option (ContextState × ContextEvent) :=
  match state.rgaCtx with
  | some ctx =>
      some ({ state with refCount := state.refCount + 1, clients := ctx.ptr :: state.clients }.setPc
        thread .idle, .opened thread ctx waited [])
  | none =>
      match reply.block with
      | none => some (state.setPc thread .idle, .openFailed thread (-12) [])
      | some ptr =>
          let allocated := { state with allocations := state.allocations + 1 }
          -- the system gives neither a block nor an fd that is in use
          if ptr ∈ state.ledger.contexts ∨ 0 ≤ reply.fd ∧ reply.fd ∈ state.ledger.fds then none
          else if reply.fd < 0 then
            let calls := [.malloc ptr, .free ptr]
            some ({ allocated with ledger := state.ledger.replay calls }.setPc thread .idle,
              .openFailed thread (-19) calls)
          else if reply.versionKnown then
            let ctx : LegacyContext :=
              { ptr := ptr, rgaFd := reply.fd, serial := state.allocations }
            let calls := [.malloc ptr, .openFd reply.fd]
            some ({ allocated with
                ledger := state.ledger.replay calls
                rgaCtx := some ctx
                refCount := state.refCount + 1
                clients := ptr :: state.clients }.setPc thread .idle,
              .opened thread ctx waited calls)
          else
            let calls := [.malloc ptr, .openFd reply.fd, .closeFd reply.fd, .free ptr]
            some ({ allocated with ledger := state.ledger.replay calls }.setPc thread .idle,
              .openFailed thread (-1) calls)

/-- The end of `NormalRgaClose`, with no operation left. -/
def tearDown (state : ContextState) (thread : Thread) (ctx : LegacyContext) :
    ContextState × ContextEvent :=
  let calls := [.closeFd ctx.rgaFd, .free ctx.ptr]
  ({ state with
      rgaCtx := none
      contextClosing := false
      ledger := state.ledger.replay calls }.setPc thread .idle, .tornDown thread ctx calls)

/-- `NormalRgaClose` from its mutex on; the client's open is spent whatever comes out. -/
def closeSection (state : ContextState) (thread : Thread) (ptr : CtxPtr) :
    ContextState × ContextEvent :=
  let spent := { state with clients := state.clients.erase ptr }
  match state.rgaCtx with
  | none => (spent, .closeRefused thread (-19))
  | some ctx =>
      if ptr ≠ ctx.ptr then (spent, .closeRefused thread (-19))
      else if state.refCount ≤ 0 then (spent, .closeRefused thread 0)
      else
        let released := { spent with refCount := state.refCount - 1 }
        if 0 < released.refCount then (released, .closed thread)
        else
          let closing := { released with contextClosing := true }
          if closing.activeOperations ≠ 0 then
            (closing.setPc thread (.closeWait ctx), .closeWaits thread ctx)
          else closing.tearDown thread ctx

/-- One step; `none` when the thread does not stand where the step begins, or has to wait on. A
client closes what it opened, and once. -/
def step (state : ContextState) : ContextOp → Option (ContextState × ContextEvent)
  | .openLock thread slot reply =>
      if state.pc thread ≠ .idle then none
      else if slot = false then some (state, .openFailed thread (-22) [])
      else if state.contextClosing then
        some (state.setPc thread (.openWait state.allocations), .openWaits thread)
      else state.openSection thread none reply
  | .openWake thread reply =>
      match state.pc thread with
      | .openWait since =>
          if state.contextClosing then none else state.openSection thread (some since) reply
      | _ => none
  | .useBegin thread =>
      if state.pc thread ≠ .idle then none
      else
        match state.contextClosing, state.rgaCtx with
        | false, some ctx =>
            some ({ state with activeOperations := state.activeOperations + 1 }.setPc thread
              (.using ctx), .useBegan thread ctx)
        | _, _ => some (state, .useRefused thread)
  | .useEnd thread =>
      match state.pc thread with
      | .using _ =>
          some ({ state with activeOperations := state.activeOperations - 1 }.setPc thread .idle,
            .useEnded thread)
      | _ => none
  | .closeLock thread arg =>
      if state.pc thread ≠ .idle then none
      else
        match arg with
        | .noSlot | .emptySlot => some (state, .closeRefused thread (-19))
        | .context ptr =>
            if ptr ∈ state.clients then some (state.closeSection thread ptr) else none
  | .closeWake thread =>
      match state.pc thread with
      | .closeWait ctx =>
          if state.activeOperations ≠ 0 then none else some (state.tearDown thread ctx)
      | _ => none

end ContextState

end LibRga
