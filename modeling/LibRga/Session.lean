import LibRga.Context
import LibRga.Hardware
import LibRga.Library.Run

/-!
The session of `im2d_context.cpp`: `get_rga_session`, which opens the device on
the first call and again after every failure.

A call tests `rga_dev_fd` under the read lock, and if that misses it tests it
once more under the write lock and initialises. Each of the two is a step.
-/

namespace LibRga

/-! `sscanf` with `%x.%x.%x` -/

def hexDigit (byte : UInt8) : Option UInt32 :=
  if 48 ≤ byte ∧ byte ≤ 57 then some (byte - 48).toUInt32
  else if 97 ≤ byte ∧ byte ≤ 102 then some (byte - 87).toUInt32
  else if 65 ≤ byte ∧ byte ≤ 70 then some (byte - 55).toUInt32
  else none

def isBlank (byte : UInt8) : Bool :=
  byte = 32 ∨ 9 ≤ byte ∧ byte ≤ 13

def scanDigits (value : UInt32) : List UInt8 → UInt32 × List UInt8
  | [] => (value, [])
  | byte :: rest =>
      match hexDigit byte with
      | some digit => scanDigits (value * 16 + digit) rest
      | none => (value, byte :: rest)

def dropHexPrefix : List UInt8 → List UInt8
  | 48 :: 120 :: rest | 48 :: 88 :: rest => rest
  | text => text

def scanUnsigned (text : List UInt8) : Option (UInt32 × List UInt8) :=
  match dropHexPrefix text with
  | [] => none
  | byte :: rest => (hexDigit byte).map fun digit => scanDigits digit rest

/-- `%x` -/
def scanHex (text : List UInt8) : Option (UInt32 × List UInt8) :=
  match text.dropWhile isBlank with
  | 45 :: rest => (scanUnsigned rest).map fun (value, after) => (-value, after)
  | 43 :: rest => scanUnsigned rest
  | rest => scanUnsigned rest

/-- `.%x` -/
def scanDotHex : List UInt8 → Option (UInt32 × List UInt8)
  | 46 :: rest => scanHex rest
  | _ => none

/-- What is not matched keeps its value. -/
def scanVersion (text : List UInt8) (version : RgaVersion) : RgaVersion :=
  match scanHex text with
  | none => version
  | some (major, text) =>
      match scanDotHex text with
      | none => { version with major := major }
      | some (minor, text) =>
          match scanDotHex text with
          | none => { version with major := major, minor := minor }
          | some (revision, _) => ⟨major, minor, revision⟩

/-! Initialisation -/

/-- `rga_session_t` without its locks -/
structure SessionData where
  rgaDevFd : Int32 := -1
  coreVersion : RgaHwVersions := {}
  driverVersion : RgaVersion := {}
  driverType : RgaDriverIocType := .unknown
  driverFeature : UInt32 := 0
  hardwareInfo : RgaInfoTableEntry := {}
deriving DecidableEq, Repr, Inhabited

/-- What the system answers during one initialisation; an ioctl that fails writes nothing. -/
structure SessionReply where
  fd : Int32 := -1
  driverVersion : Option RgaVersion := none
  hwVersions : Option RgaHwVersions := none
  rga2Version : Option (List UInt8) := none
  rga1Version : Option (List UInt8) := none
deriving DecidableEq, Repr, Inhabited

namespace SessionData

def setDriverFeature (session : SessionData) : SessionData :=
  if (rgaVersionCompare session.driverVersion ⟨1, 3, 0⟩).isGE then
    { session with driverFeature := session.driverFeature ||| rgaDriverFeatureUserCloseFence }
  else session

/-- The queries of `rga_device_init`; the flag says whether they were answered. -/
def queryVersions (session : SessionData) (reply : SessionReply) : SessionData × Bool :=
  match reply.driverVersion with
  | some driverVersion =>
      let session := { session with driverVersion := driverVersion }
      match reply.hwVersions with
      | none => (session, false)
      | some versions => ({ session with coreVersion := versions, driverType := .multiRga }, true)
  | none =>
      let session := { session with coreVersion := { session.coreVersion with size := 1 } }
      match reply.rga2Version.or reply.rga1Version with
      | none => (session, false)
      | some text =>
          let first := scanVersion text (session.coreVersion.entry 0)
          ({ session with
              coreVersion :=
                { session.coreVersion with
                  version := session.coreVersion.version.set 0 first, str := text }
              driverType := if first.major < 2 then .rga1 else .rga2 }, true)

def rgaDeviceInit (session : SessionData) (reply : SessionReply) :
    ImStatus × SessionData × List DeviceCall :=
  if reply.fd < 0 then (.failed, session, [])
  else
    let asked := session.queryVersions reply
    if asked.2 = false then (.failed, asked.1, [.openFd reply.fd, .closeFd reply.fd])
    else if rgaCheckDriver asked.1.driverVersion = .errorVersion then
      (.errorVersion, asked.1, [.openFd reply.fd, .closeFd reply.fd])
    else (.success, { asked.1.setDriverFeature with rgaDevFd := reply.fd }, [.openFd reply.fd])

def rgaDeviceExit (session : SessionData) : SessionData × List DeviceCall :=
  if session.rgaDevFd < 0 then (session, [])
  else
    ({ session with rgaDevFd := -1, driverType := .unknown, driverFeature := 0 },
      [.closeFd session.rgaDevFd])

def rgaSessionInit (session : SessionData) (reply : SessionReply) :
    ImStatus × SessionData × List DeviceCall :=
  let (ret, session, calls) := session.rgaDeviceInit reply
  if ret ≠ .success then (ret, session, calls)
  else
    let (ret, info) := rgaGetInfo session.coreVersion session.hardwareInfo
    let session := { session with hardwareInfo := info }
    if ret ≠ .success then
      let (session, closing) := session.rgaDeviceExit
      (ret, session, calls ++ closing)
    else (.success, session, calls)

/-- The part of the session that a submission reads. -/
def rgaSession (session : SessionData) : RgaSession :=
  { driverType := session.driverType
    driverFeature := session.driverFeature
    coreVersion := session.coreVersion.entry 0
    hardwareInfo := session.hardwareInfo }

end SessionData

/-! Any number of threads -/

inductive SessionPc where
  | idle
  /-- The test under the read lock has failed. -/
  | missed
deriving DecidableEq, Repr

structure SessionState where
  session : SessionData := {}
  ledger : DeviceLedger := {}
  pc : Thread → SessionPc := fun _ => .idle

inductive SessionOp where
  | readLock (thread : Thread)
  | writeLock (thread : Thread) (reply : SessionReply)

/-- `found` and `initialised` return the session, `refused` returns `IM_STATUS_NO_SESSION`. The
last two keep the session as the attempt found it. -/
inductive SessionEvent where
  | found (thread : Thread)
  | missed (thread : Thread)
  | initialised (thread : Thread) (session : SessionData) (reply : SessionReply)
      (calls : List DeviceCall)
  | refused (thread : Thread) (session : SessionData) (reply : SessionReply)
      (calls : List DeviceCall)
deriving DecidableEq, Repr

def SessionEvent.calls : SessionEvent → List DeviceCall
  | initialised _ _ _ calls | refused _ _ _ calls => calls
  | _ => []

namespace SessionState

def setPc (state : SessionState) (thread : Thread) (pc : SessionPc) : SessionState :=
  { state with pc := fun other => if other = thread then pc else state.pc other }

/-- `get_rga_session` -/
def step (state : SessionState) : SessionOp → Option (SessionState × SessionEvent)
  | .readLock thread =>
      if state.pc thread ≠ .idle then none
      else if 0 < state.session.rgaDevFd then some (state, .found thread)
      else some (state.setPc thread .missed, .missed thread)
  | .writeLock thread reply =>
      if state.pc thread ≠ .missed then none
      else if 0 < state.session.rgaDevFd then some (state.setPc thread .idle, .found thread)
      -- `open` does not return an fd that is open
      else if 0 ≤ reply.fd ∧ reply.fd ∈ state.ledger.fds then none
      else
        let (ret, session, calls) := state.session.rgaSessionInit reply
        let after := { state with session := session, ledger := state.ledger.replay calls }.setPc
          thread .idle
        if ret ≠ .success then some (after, .refused thread state.session reply calls)
        else some (after, .initialised thread state.session reply calls)

end SessionState

end LibRga
