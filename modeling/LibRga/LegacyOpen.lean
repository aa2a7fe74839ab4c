import LibRga.Legacy
import LibRga.Session

/-!
What `NormalRgaOpen` leaves in a new context.

The block comes from `malloc` and is not cleared. Where a query fails, and in
`driver_feature`, which is only ever or-ed into, the old contents stay.
-/

namespace LibRga

/-! `atof`; a version text is neither hexadecimal nor infinite. -/

def decimalDigit (byte : UInt8) : Option Nat :=
  if 48 ≤ byte ∧ byte ≤ 57 then some (byte - 48).toNat else none

/-- The digits at the front: their value, how many there are, and the rest. -/
def scanDecimal (value count : Nat) : List UInt8 → Nat × Nat × List UInt8
  | [] => (value, count, [])
  | byte :: rest =>
      match decimalDigit byte with
      | some digit => scanDecimal (value * 10 + digit) (count + 1) rest
      | none => (value, count, byte :: rest)

/-- An exponent without digits is not one. -/
def scanExponent : List UInt8 → Int
  | 101 :: 45 :: rest | 69 :: 45 :: rest => -(scanDecimal 0 0 rest).1
  | 101 :: 43 :: rest | 69 :: 43 :: rest => (scanDecimal 0 0 rest).1
  | 101 :: rest | 69 :: rest => (scanDecimal 0 0 rest).1
  | _ => 0

def scanFraction (whole : Nat) : List UInt8 → ℚ × List UInt8
  | 46 :: rest =>
      let (value, count, rest) := scanDecimal whole 0 rest
      (value / (10 : ℚ) ^ count, rest)
  | rest => (whole, rest)

def atofUnsigned (text : List UInt8) : ℚ :=
  let (whole, _, rest) := scanDecimal 0 0 text
  let (mantissa, rest) := scanFraction whole rest
  Float32.double (mantissa * (10 : ℚ) ^ scanExponent rest)

def atof (text : List UInt8) : ℚ :=
  match text.dropWhile isBlank with
  | 45 :: rest => -atofUnsigned rest
  | 43 :: rest => atofUnsigned rest
  | rest => atofUnsigned rest

/-! `NormalRgaOpen` -/

/-- The fields of `rgaContext` that are read after it is opened. -/
structure ContextBlock where
  mVersion : ℚ := 0
  mHwVersions : RgaHwVersions := {}
  mDriverVersion : RgaVersion := {}
  driver : RgaDriverIocType := .unknown
  driverFeature : UInt32 := 0
deriving DecidableEq, Repr, Inhabited

namespace ContextBlock

def rgaSetDriverFeature (ctx : ContextBlock) : ContextBlock :=
  if (rgaVersionCompare ctx.mDriverVersion ⟨1, 3, 0⟩).isGE then
    { ctx with driverFeature := ctx.driverFeature ||| rgaDriverFeatureUserCloseFence }
  else ctx

/-- The context made from the block that `malloc` returned; `none` when the open fails. -/
def normalRgaOpen (block : ContextBlock) (reply : SessionReply) : Option ContextBlock :=
  if reply.fd < 0 then none
  else
    match reply.driverVersion with
    | some driverVersion =>
        reply.hwVersions.map fun versions =>
          { block with
            mDriverVersion := driverVersion
            mHwVersions := versions
            mVersion := Float32.round (Float32.double (32 / 10))
            driver := .multiRga }.rgaSetDriverFeature
    | none =>
        (reply.rga2Version.or reply.rga1Version).map fun text =>
          { block with
            mHwVersions :=
              { version := block.mHwVersions.version.set 0
                  (scanVersion text (block.mHwVersions.entry 0))
                str := text
                size := 1 }
            mVersion := Float32.round (atof text)
            driver := .rga2 }.rgaSetDriverFeature

def rgaContext (ctx : ContextBlock) : RgaContext :=
  { mVersion := ctx.mVersion, driver := ctx.driver, driverFeature := ctx.driverFeature }

theorem normalRgaOpen_isSome (block : ContextBlock) (reply : SessionReply) (opening : OpenReply)
    (fd : opening.fd = reply.fd) (driver : opening.driverVersion = reply.driverVersion.isSome)
    (hw : opening.hwVersion = reply.hwVersions.isSome)
    (rga2 : opening.rga2Version = reply.rga2Version.isSome)
    (rga1 : opening.rga1Version = reply.rga1Version.isSome) :
    (block.normalRgaOpen reply).isSome = (decide (0 ≤ opening.fd) && opening.versionKnown) := by
  unfold normalRgaOpen OpenReply.versionKnown
  rw [fd, driver, hw, rga2, rga1]
  by_cases negative : reply.fd < 0
  · simp [negative, Int32.not_le.mpr negative]
  · rw [if_neg negative]
    cases reply.driverVersion <;> simp [Int32.not_lt.mp negative]

end ContextBlock

end LibRga
