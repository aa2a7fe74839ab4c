import LibRga.Interpolation

/-!
The MMU bits of a blit beside the way its buffers are named.
-/

namespace LibRga

/-- The memory of the channel is given by fd or virtual address; a handle and a physical
address go first. -/
def mapped (info : RgaInfo) : Bool :=
  info.handle == 0 && info.phyAddr == 0 && (0 < info.fd || info.virAddr != 0)

/-- The bits 8, 10, 9 and 11 follow the channels, and any of them switches the MMU on. -/
structure MmuMatches (mmu : Mmu) (src dst : RgaInfo) (src1 : Option RgaInfo) : Prop where
  src : hasBit mmu.mmuFlag 0x100 = mapped src
  dst : hasBit mmu.mmuFlag 0x400 = mapped dst
  src1 : hasBit mmu.mmuFlag 0x200 = src1.any mapped ∧ hasBit mmu.mmuFlag 0x800 = src1.any mapped
  enabled : hasBit mmu.mmuFlag 0xf00 = true →
    mmu.mmuEn = 1 ∧ hasBit mmu.mmuFlag 0x80000000 = true

theorem mmuMatches_iff {mmu : Mmu} {src dst : RgaInfo} {src1 : Option RgaInfo} :
    MmuMatches mmu src dst src1 ↔
      hasBit mmu.mmuFlag 0x100 = mapped src ∧ hasBit mmu.mmuFlag 0x400 = mapped dst ∧
        (hasBit mmu.mmuFlag 0x200 = src1.any mapped ∧
          hasBit mmu.mmuFlag 0x800 = src1.any mapped) ∧
        (hasBit mmu.mmuFlag 0xf00 = true →
          mmu.mmuEn = 1 ∧ hasBit mmu.mmuFlag 0x80000000 = true) :=
  ⟨fun ⟨src, dst, third, enabled⟩ => ⟨src, dst, third, enabled⟩,
    fun ⟨src, dst, third, enabled⟩ => ⟨src, dst, third, enabled⟩⟩

/-- `mmuFlag` of an info is read although the buffer does not come from its fd. -/
def MmuFlagClear (info : RgaInfo) : Prop :=
  (info.handle ≠ 0 → info.fd = info.handle → info.mmuFlag = 0) ∧
    (info.handle = 0 → info.phyAddr ≠ 0 → info.fd = -1 → info.mmuFlag = 0)

theorem resolved_handle {info : RgaInfo} {addr : BufferAddr} (handle : info.handle ≠ 0)
    (resolved : requireAddr (resolveAddr info) = .ok addr) :
    addr = { fd := info.handle } ∧ info.handle ≠ -1 := by
  unfold resolveAddr requireAddr at resolved
  rw [if_pos handle] at resolved
  by_cases missing : info.handle = -1
  · simp [missing] at resolved
  · simp only [missing, handle, false_and, if_false, Except.ok.injEq] at resolved
    exact ⟨resolved.symm, missing⟩

theorem resolved_physical {info : RgaInfo} {addr : BufferAddr} (handle : info.handle = 0)
    (physical : info.phyAddr ≠ 0) (resolved : requireAddr (resolveAddr info) = .ok addr) :
    addr = { buf := info.phyAddr } := by
  unfold resolveAddr requireAddr at resolved
  simpa [handle, physical, eq_comm] using resolved

theorem resolved_mapped {info : RgaInfo} {addr : BufferAddr} (handle : info.handle = 0)
    (physical : info.phyAddr = 0) (resolved : requireAddr (resolveAddr info) = .ok addr) :
    mapped info = true ∧
      addr = if 0 < info.fd then { fd := info.fd } else { buf := info.virAddr } := by
  unfold resolveAddr at resolved
  rw [if_neg (not_not.mpr handle), if_neg (not_not.mpr physical)] at resolved
  by_cases byFd : 0 < info.fd
  · obtain ⟨nonzero, set⟩ := ne_of_positive byFd
    simp only [byFd, requireAddr, nonzero, set, false_and, if_true, if_false,
      Except.ok.injEq] at resolved
    exact ⟨by simp [mapped, handle, physical, byFd], by rw [if_pos byFd, resolved]⟩
  · by_cases virtual : info.virAddr = 0
    · simp [byFd, virtual, requireAddr] at resolved
    · simp [byFd, virtual, requireAddr] at resolved
      exact ⟨by simp [mapped, handle, physical, virtual], by rw [if_neg byFd, resolved]⟩

theorem channelMmu_mapped {info : RgaInfo} {channel : Channel} (same : channel.info = info)
    (resolved : requireAddr (resolveAddr info) = .ok channel.addr) :
    channel.mmu .words = mapped info ↔ MmuFlagClear info := by
  unfold Channel.mmu channelMmu
  dsimp only
  rw [same]
  by_cases handle : info.handle = 0
  · by_cases physical : info.phyAddr = 0
    · obtain ⟨byMmu, addr⟩ := resolved_mapped handle physical resolved
      have clear : MmuFlagClear info :=
        ⟨fun set => absurd handle set, fun _ set => absurd physical set⟩
      refine iff_of_true ?_ clear
      rw [byMmu, addr]
      by_cases byFd : 0 < info.fd
      · simp [byFd, resolveMmuFlag, handle, physical]
      · have virtual : info.virAddr ≠ 0 := by
          rintro zero
          simp [mapped, zero, byFd] at byMmu
        by_cases unset : info.fd = -1
        · simp [unset, resolveMmuFlag, handle, physical, virtual]
        · have other : (-1 : Int32) ≠ info.fd := Ne.symm unset
          simp [byFd, other, bufMmu, physical, virtual]
    · rw [resolved_physical handle physical resolved]
      have unmapped : mapped info = false := by simp [mapped, physical]
      rw [unmapped]
      by_cases unset : info.fd = -1
      · simp [unset, resolveMmuFlag, handle, physical, MmuFlagClear]
      · have other : (-1 : Int32) ≠ info.fd := Ne.symm unset
        simp [other, unset, bufMmu, MmuFlagClear, handle]
  · obtain ⟨addr, set⟩ := resolved_handle handle resolved
    have unmapped : mapped info = false := by simp [mapped, handle]
    rw [addr, unmapped]
    by_cases named : info.fd = info.handle
    · simp [named, resolveMmuFlag, handle, MmuFlagClear]
    · have other : info.handle ≠ info.fd := Ne.symm named
      simp [other, named, set, MmuFlagClear, handle]

-- the bits of the three channels do not overlap
theorem blitMmu_bits (src dst third srcMapped dstMapped thirdMapped : Bool) :
    let mmu : Mmu :=
      { mmuEn := if src || dst then 1 else 0
        mmuFlag := mmuBit (src || dst) 0x80000021 ||| mmuBit src 0x100 ||| mmuBit dst 0x400 |||
          mmuBit third 0xa00 }
    (hasBit mmu.mmuFlag 0x100 = srcMapped ∧ hasBit mmu.mmuFlag 0x400 = dstMapped ∧
        (hasBit mmu.mmuFlag 0x200 = thirdMapped ∧ hasBit mmu.mmuFlag 0x800 = thirdMapped) ∧
        (hasBit mmu.mmuFlag 0xf00 = true →
          mmu.mmuEn = 1 ∧ hasBit mmu.mmuFlag 0x80000000 = true)) ↔
      ((src = srcMapped ∧ dst = dstMapped ∧ third = thirdMapped) ∧
        (thirdMapped = true → srcMapped = true ∨ dstMapped = true)) := by
  decide +revert

theorem addressMode_words {session : RgaSession} (newer : session.driverType ≠ .rga1) :
    addressMode session = .words := by
  unfold addressMode
  split
  · rename_i old
    exact absurd old newer
  · rfl

/-- `src1` never switches the MMU on by itself, and `mmuFlag` is believed where an fd is named. -/
theorem mmu_matches_iff {session : RgaSession} {src dst : RgaInfo} {src1 : Option RgaInfo}
    {req : RgaReq} (newer : session.driverType ≠ .rga1)
    (built : generateBlitReq session src dst src1 = .ok req) :
    MmuMatches req.mmuInfo src dst src1 ↔
      (∀ info ∈ src :: dst :: src1.toList, MmuFlagClear info) ∧
        (src1.any mapped = true → mapped src = true ∨ mapped dst = true) := by
  obtain ⟨plan, planned, registers⟩ := generateBlitReq_registers built
  have facts := planBlit_planned planned
  have mmu : req.mmuInfo = blitMmu plan .words := by
    rw [← addressMode_words newer]
    exact congrArg Registers.mmuInfo registers
  obtain ⟨srcInfo, _, srcResolved⟩ := openChannel_ok facts.src
  obtain ⟨dstInfo, _, dstResolved⟩ := openChannel_ok facts.dst
  have third : plan.src1.any (fun channel => channel.mmu .words) = src1.any mapped ↔
      ∀ info ∈ src1.toList, MmuFlagClear info := by
    cases src1 with
    | none =>
        rw [openSrc1_none facts.src1]
        simp
    | some info =>
        obtain ⟨channel, three, _⟩ := openSrc1_ok facts.src1
        obtain ⟨same, _, resolved⟩ := facts.src1_rect three
        rw [three]
        simpa using channelMmu_mapped same resolved
  rw [mmuMatches_iff, mmu]
  refine (blitMmu_bits _ _ _ _ _ _).trans ?_
  rw [channelMmu_mapped srcInfo srcResolved, channelMmu_mapped dstInfo dstResolved, third]
  simp only [List.forall_mem_cons]

def fdInfo (fd : Int32) : RgaInfo :=
  { fd := fd, rect := { width := 64, height := 64, wstride := 64, hstride := 64 } }

def physicalInfo (phyAddr : UInt64) : RgaInfo :=
  { phyAddr := phyAddr, rect := { width := 64, height := 64, wstride := 64, hstride := 64 } }

theorem mmu_matches_mixed :
    ∃ req, generateBlitReq rga2ProSession (physicalInfo 0x10000) (fdInfo 7) (some (fdInfo 8)) =
        .ok req ∧
      MmuMatches req.mmuInfo (physicalInfo 0x10000) (fdInfo 7) (some (fdInfo 8)) := by
  obtain ⟨req, built, _⟩ := Result.exists_ok_of_any
    (generateBlitReq rga2ProSession (physicalInfo 0x10000) (fdInfo 7) (some (fdInfo 8)))
    (fun _ => true) (by decide +kernel)
  refine ⟨req, built, (mmu_matches_iff (by decide) built).mpr ⟨?_, fun _ => .inr (by decide)⟩⟩
  simp [MmuFlagClear, physicalInfo, fdInfo]

theorem mmu_disabled_for_src1 :
    ∃ req, generateBlitReq rga2ProSession (physicalInfo 0x10000) (physicalInfo 0x20000)
        (some (fdInfo 8)) = .ok req ∧
      ¬ MmuMatches req.mmuInfo (physicalInfo 0x10000) (physicalInfo 0x20000)
        (some (fdInfo 8)) := by
  obtain ⟨req, built, off⟩ := Result.exists_ok_of_any
    (generateBlitReq rga2ProSession (physicalInfo 0x10000) (physicalInfo 0x20000)
      (some (fdInfo 8)))
    (fun req => req.mmuInfo == { mmuFlag := 0xa00 }) (by decide +kernel)
  refine ⟨req, built, fun matched => ?_⟩
  rw [beq_iff_eq.mp off] at matched
  exact absurd matched.enabled (by decide)

end LibRga
