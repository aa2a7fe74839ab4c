import LibRga.Interpolation
import LibRga.Narrowing
import LibRga.Session
import LibRga.Spared

/-!
Where a blit for an RGA1 driver carries the fds of its source and destination.

From 1.005 up to 1.6 they share one word, a half each, and every channel that is
placed writes the whole word. Before that no fd is placed at all, and from 1.6
on it stands in the address of its image.
-/

namespace LibRga

namespace BlitCaller

def mode : BlitCaller → AddressMode
  | im2d session => addressMode session
  | legacy ctx => rgaBlitAddressMode ctx

end BlitCaller

/-- Neither a handle nor a physical address stands before the fd. -/
def RgaInfo.GivenByFd (info : RgaInfo) : Prop :=
  info.handle = 0 ∧ info.phyAddr = 0 ∧ 0 < info.fd

/-! The places that a driver reads, in the layout it is given -/

def srcFdPlace (mode : AddressMode) (req : Rga2Req) : UInt64 :=
  match mode with
  | .fdOffsets => req.lineDrawInfo.color.toUInt16.toUInt64
  | _ => req.src.yrgbAddr

def dstFdPlace (mode : AddressMode) (req : Rga2Req) : UInt64 :=
  match mode with
  | .fdOffsets => (req.lineDrawInfo.color >>> 16).toUInt16.toUInt64
  | _ => req.dst.yrgbAddr

structure FdsCarried (mode : AddressMode) (src dst : RgaInfo) (req : Rga2Req) : Prop where
  src : src.GivenByFd → srcFdPlace mode req = toU64 src.fd
  dst : dst.GivenByFd → dstFdPlace mode req = toU64 dst.fd

/-- A source goes lost where another channel has an fd as well. -/
def SrcFdFits (mode : AddressMode) (src dst : RgaInfo) (src1 : Option RgaInfo) : Prop :=
  match mode with
  | .planar => False
  | .fdOffsets => src.fd < 65536 ∧ (resolveAddr dst).fd = -1 ∧
      ∀ info, src1 = some info → (resolveAddr info).fd = -1
  | .words => True

def DstFdFits (mode : AddressMode) (dst : RgaInfo) : Prop :=
  match mode with
  | .planar => False
  | .fdOffsets => dst.fd < 65536
  | .words => True

structure FdsFit (mode : AddressMode) (src dst : RgaInfo) (src1 : Option RgaInfo) : Prop where
  src : src.GivenByFd → SrcFdFits mode src dst src1
  dst : dst.GivenByFd → DstFdFits mode dst

/-! One word for two fds -/

def packFds (srcFd dstFd : UInt16) : UInt32 :=
  srcFd.toUInt32 ||| (dstFd.toUInt32 <<< (16 : UInt32))

theorem packFds_src (srcFd : UInt16) : (packFds srcFd 0).toUInt16 = srcFd := by
  have empty : ((0 : UInt16).toUInt32 <<< (16 : UInt32)) = 0 := by decide
  rw [packFds, empty, UInt32.or_zero]
  exact UInt16.toUInt16_toUInt32 srcFd

theorem packFds_dst (dstFd : UInt16) :
    (packFds 0 dstFd).toUInt16 = 0 ∧ (packFds 0 dstFd >>> 16).toUInt16 = dstFd := by
  have empty : (0 : UInt16).toUInt32 = 0 := rfl
  have small := dstFd.toNat_lt
  have word : (packFds 0 dstFd).toNat = dstFd.toNat * 65536 := by
    rw [packFds, empty, UInt32.zero_or, UInt32.toNat_shiftLeft, UInt16.toNat_toUInt32,
      Nat.shiftLeft_eq]
    show dstFd.toNat * 65536 % 4294967296 = dstFd.toNat * 65536
    omega
  constructor
  · apply UInt16.toNat_inj.mp
    rw [UInt32.toNat_toUInt16, word]
    exact Nat.mul_mod_left _ _
  · apply UInt16.toNat_inj.mp
    rw [UInt32.toNat_toUInt16, UInt32.toNat_shiftRight, word, Nat.shiftRight_eq_div_pow]
    show dstFd.toNat * 65536 / 65536 % 65536 = dstFd.toNat
    omega

/-- A half keeps an fd of 16 bits. -/
theorem half_eq_iff {fd : Int32} (positive : 0 < fd) :
    (toU16 fd).toUInt64 = toU64 fd ↔ fd < 65536 := by
  have low : 0 < fd.toInt := Int32.lt_iff_toInt_lt.mp positive
  have high := fd.toInt_lt
  have half := toU16_emod fd
  have whole : (toU64 fd).toNat = fd.toInt.toNat := by
    rw [toU64_eq_ofInt, UInt64.ofInt, UInt64.toNat_ofNat']
    omega
  rw [← UInt64.toNat_inj, UInt16.toNat_toUInt64, whole, Int32.lt_iff_toInt_lt]
  show _ ↔ fd.toInt < 65536
  omega

/-! What the channels leave in the word -/

theorem Channel.setSrc_color (channel : Channel) (req : RgaReq) (mode : AddressMode)
    (single : Bool) :
    (channel.setSrc req mode single).lineDrawInfo.color =
      if mode = .fdOffsets ∧ channel.addr.fd ≠ -1 then packFds (toU16 channel.addr.fd) 0
      else req.lineDrawInfo.color := by
  unfold Channel.setSrc
  dsimp only
  split <;> rfl

theorem Channel.setDst_color (channel : Channel) (req : RgaReq) (mode : AddressMode)
    (single : Bool) (clip : Rect) :
    (channel.setDst req mode single clip).lineDrawInfo.color =
      if mode = .fdOffsets ∧ channel.addr.fd ≠ -1 then packFds 0 (toU16 channel.addr.fd)
      else req.lineDrawInfo.color := by
  unfold Channel.setDst
  dsimp only
  split <;> rfl

theorem Channel.setPat_color (channel : Channel) (req : RgaReq) (mode : AddressMode)
    (single : Bool) (clip : Rect) :
    (channel.setPat req mode single clip).lineDrawInfo.color =
      if mode = .fdOffsets ∧ channel.addr.fd ≠ -1 then packFds 0 (toU16 channel.addr.fd)
      else req.lineDrawInfo.color := by
  unfold Channel.setPat
  dsimp only
  split <;> rfl

section Word

variable {plan : BlitPlan} {single : Bool}

theorem color_of_dst (start : RgaReq) (set : plan.dst.addr.fd ≠ -1) :
    (setBlitChannels start plan .fdOffsets single).lineDrawInfo.color =
      packFds 0 (toU16 plan.dst.addr.fd) := by
  unfold setBlitChannels
  dsimp only
  rw [Channel.setDst_color, if_pos ⟨rfl, set⟩]

theorem color_of_src1 {channel : Channel} (start : RgaReq) (unset : plan.dst.addr.fd = -1)
    (three : plan.src1 = some channel) (set : channel.addr.fd ≠ -1) :
    (setBlitChannels start plan .fdOffsets single).lineDrawInfo.color =
      packFds 0 (toU16 channel.addr.fd) := by
  unfold setBlitChannels
  rw [three]
  dsimp only
  rw [Channel.setDst_color, if_neg (by simp [unset]), Channel.setPat_color, if_pos ⟨rfl, set⟩]

theorem color_of_src (start : RgaReq) (unset : plan.dst.addr.fd = -1)
    (alone : ∀ channel, plan.src1 = some channel → channel.addr.fd = -1)
    (set : plan.src.addr.fd ≠ -1) :
    (setBlitChannels start plan .fdOffsets single).lineDrawInfo.color =
      packFds (toU16 plan.src.addr.fd) 0 := by
  unfold setBlitChannels
  dsimp only
  rw [Channel.setDst_color, if_neg (by simp [unset])]
  cases three : plan.src1 with
  | none =>
      dsimp only
      rw [Channel.setSrc_color, if_pos ⟨rfl, set⟩]
  | some channel =>
      dsimp only
      rw [Channel.setPat_color, if_neg (by simp [alone channel three]), Channel.setSrc_color,
        if_pos ⟨rfl, set⟩]

end Word

/-! The request -/

theorem resolveAddr_fd (info : RgaInfo) :
    (freeFd (resolveAddr info)).fd = (resolveAddr info).fd := by
  have set : (resolveAddr info).fd ≠ 0 := by
    unfold resolveAddr
    split_ifs with handle physical fd
    · exact handle
    · simp
    · dsimp only
      rintro zero
      rw [zero] at fd
      exact absurd fd (by decide)
    · simp
    · simp
  rw [freeFd, if_neg set]

theorem RgaInfo.GivenByFd.resolved {info : RgaInfo} (given : info.GivenByFd) :
    resolveAddr info = { fd := info.fd } := by
  obtain ⟨handle, physical, fd⟩ := given
  simp [resolveAddr, handle, physical, fd]

theorem RgaInfo.GivenByFd.set {info : RgaInfo} (given : info.GivenByFd) : info.fd ≠ -1 := by
  intro unset
  have positive := given.2.2
  rw [unset] at positive
  exact absurd positive (by decide)

theorem RgaInfo.GivenByFd.word {info : RgaInfo} (given : info.GivenByFd) :
    toU64 info.fd ≠ 0 := by
  intro zero
  have positive := given.2.2
  rw [(toU64_eq_zero _).mp zero] at positive
  exact absurd positive (by decide)

theorem openChannel_fd {info : RgaInfo} {channel : Channel}
    (opened : openChannel info = .ok channel) : channel.addr.fd = (resolveAddr info).fd := by
  rw [requireAddr_ok (openChannel_ok opened).2.2, resolveAddr_fd]

theorem openChannel_given {info : RgaInfo} {channel : Channel}
    (opened : openChannel info = .ok channel) (given : info.GivenByFd) :
    channel.addr = { fd := info.fd } := by
  have nonzero : info.fd ≠ 0 := fun zero => given.word ((toU64_eq_zero _).mpr zero)
  rw [requireAddr_ok (openChannel_ok opened).2.2, given.resolved, freeFd, if_neg nonzero]

theorem BlitCaller.build_placed {caller : BlitCaller} {src dst : RgaInfo} {src1 : Option RgaInfo}
    {req : RgaReq} (built : caller.build src dst src1 = .ok req) :
    ∃ plan start single, Planned src dst src1 plan ∧
      Spares (setBlitChannels start plan caller.mode single) req ∧
      FinishedBlit plan caller.mode single req := by
  cases caller with
  | im2d session =>
      obtain ⟨plan, start, planned, _, spared⟩ := generateBlitReq_placed built
      obtain ⟨other, same, finished⟩ := generateBlitReq_finished built
      rw [planned] at same
      cases same
      exact ⟨plan, start, plan.handleFlag, planBlit_planned planned, spared, finished⟩
  | legacy ctx =>
      obtain ⟨plan, start, planned, spared⟩ := rgaBlitReq_placed built
      obtain ⟨other, same, finished⟩ := rgaBlitReq_finished built
      rw [planned] at same
      cases same
      exact ⟨plan, start, false, planRgaBlit_planned planned, spared, finished⟩

theorem TaggedImage.yrgbAddr {img : RgaImgInfo} {channel : Channel} {mode : AddressMode}
    {single swapped : Bool} (tagged : TaggedImage img (channel.image mode single swapped)) :
    img.yrgbAddr = (channel.words mode single).yrgb := by
  obtain ⟨_, rfl⟩ := tagged
  rfl

theorem converted_dst (req : RgaReq) :
    (normalRgaCompatModeConvertRga2 req).dst.yrgbAddr = req.dst.yrgbAddr := by
  simp only [normalRgaCompatModeConvertRga2, compatDstOffset]
  split_ifs <;> rfl

theorem Planned.src1_fd {src dst : RgaInfo} {src1 : Option RgaInfo} {plan : BlitPlan}
    (planned : Planned src dst src1 plan) :
    (∀ channel, plan.src1 = some channel → channel.addr.fd = -1) ↔
      ∀ info, src1 = some info → (resolveAddr info).fd = -1 := by
  cases src1 with
  | none =>
      rw [openSrc1_none planned.src1]
      simp
  | some info =>
      obtain ⟨third, three, _, _, resolved⟩ := openSrc1_ok planned.src1
      have fd : third.addr.fd = (resolveAddr info).fd := by
        rw [requireAddr_ok resolved, resolveAddr_fd]
      rw [three]
      simp [fd]

theorem color_converted {start req : RgaReq} (spared : Spares start req) :
    (normalRgaCompatModeConvertRga2 req).lineDrawInfo.color = start.lineDrawInfo.color :=
  congrArg LineDraw.color spared.lineDrawInfo

section Carried

variable {src dst : RgaInfo} {src1 : Option RgaInfo} {plan : BlitPlan} {mode : AddressMode}
  {single : Bool} {start req : RgaReq}

theorem src_carried_iff (planned : Planned src dst src1 plan)
    (spared : Spares (setBlitChannels start plan mode single) req)
    (finished : FinishedBlit plan mode single req) (given : src.GivenByFd) :
    srcFdPlace mode (normalRgaCompatModeConvertRga2 req) = toU64 src.fd ↔
      SrcFdFits mode src dst src1 := by
  have opened := openChannel_given planned.src given
  cases mode with
  | planar =>
      have place : req.src.yrgbAddr = 0 := by
        rw [finished.src.yrgbAddr, Channel.words, opened]
        rfl
      refine iff_of_false ?_ id
      intro carried
      exact given.word (carried.symm.trans place)
  | words =>
      have place : req.src.yrgbAddr = toU64 src.fd := by
        rw [finished.src.yrgbAddr, Channel.words, opened]
        simp only [planeWords, given.set, ne_eq, not_false_eq_true, if_true]
      exact iff_of_true place trivial
  | fdOffsets =>
      have dstFd := openChannel_fd planned.dst
      rw [srcFdPlace, color_converted spared]
      have lost {fd : UInt16} (other : (setBlitChannels start plan .fdOffsets
          single).lineDrawInfo.color = packFds 0 fd) :
          (setBlitChannels start plan .fdOffsets single).lineDrawInfo.color.toUInt16.toUInt64 ≠
            toU64 src.fd := by
        rw [other, (packFds_dst fd).1]
        exact given.word.symm
      by_cases unset : (resolveAddr dst).fd = -1
      · by_cases alone : ∀ info, src1 = some info → (resolveAddr info).fd = -1
        · rw [color_of_src start (dstFd.trans unset) (planned.src1_fd.mpr alone)
            (by rw [opened]; exact given.set), packFds_src, opened, half_eq_iff given.2.2]
          exact ⟨fun fits => ⟨fits, unset, alone⟩, fun fits => fits.1⟩
        · refine iff_of_false ?_ fun fits => alone fits.2.2
          have shared := mt planned.src1_fd.mp alone
          push Not at shared
          obtain ⟨channel, three, set⟩ := shared
          exact lost (color_of_src1 start (dstFd.trans unset) three set)
      · refine iff_of_false ?_ fun fits => unset fits.2.1
        exact lost (color_of_dst start (dstFd ▸ unset))

theorem dst_carried_iff (planned : Planned src dst src1 plan)
    (spared : Spares (setBlitChannels start plan mode single) req)
    (finished : FinishedBlit plan mode single req) (given : dst.GivenByFd) :
    dstFdPlace mode (normalRgaCompatModeConvertRga2 req) = toU64 dst.fd ↔
      DstFdFits mode dst := by
  have opened := openChannel_given planned.dst given
  cases mode with
  | planar =>
      have place : req.dst.yrgbAddr = 0 := by
        rw [finished.dst.yrgbAddr, Channel.words, opened]
        rfl
      refine iff_of_false ?_ id
      intro carried
      exact given.word (carried.symm.trans ((converted_dst req).trans place))
  | words =>
      have place : req.dst.yrgbAddr = toU64 dst.fd := by
        rw [finished.dst.yrgbAddr, Channel.words, opened]
        simp only [planeWords, given.set, ne_eq, not_false_eq_true, if_true]
      exact iff_of_true ((converted_dst req).trans place) trivial
  | fdOffsets =>
      rw [dstFdPlace, color_converted spared, color_of_dst start (by rw [opened]; exact given.set),
        (packFds_dst _).2, opened, half_eq_iff given.2.2]
      exact Iff.rfl

end Carried

theorem fdPlacement_iff (caller : BlitCaller) (src dst : RgaInfo) (src1 : Option RgaInfo)
    (req : RgaReq) (built : caller.build src dst src1 = .ok req) :
    FdsCarried caller.mode src dst (normalRgaCompatModeConvertRga2 req) ↔
      FdsFit caller.mode src dst src1 := by
  obtain ⟨plan, start, single, planned, spared, finished⟩ := BlitCaller.build_placed built
  constructor
  · intro carried
    exact ⟨fun given => (src_carried_iff planned spared finished given).mp (carried.src given),
      fun given => (dst_carried_iff planned spared finished given).mp (carried.dst given)⟩
  · intro fits
    exact ⟨fun given => (src_carried_iff planned spared finished given).mpr (fits.src given),
      fun given => (dst_carried_iff planned spared finished given).mpr (fits.dst given)⟩

/-- A driver that answers `RGA_GET_VERSION` with the text "1.6". -/
def rga160Session : RgaSession :=
  (SessionData.rgaSessionInit {} { fd := 3, rga1Version := some [49, 46, 54] }).2.1.rgaSession

/-- A context of `RgaBlit` on a core whose version reads as the given number. -/
def olderContext (mVersion : ℚ) : RgaContext :=
  { mVersion := mVersion, driver := .rga2 }

def sharedInfo (fd : Int32) : RgaInfo :=
  { fd := fd, rect := { width := 64, height := 64, wstride := 64, hstride := 64 } }

def mappedInfo (virAddr : UInt64) : RgaInfo :=
  { virAddr := virAddr, rect := { width := 64, height := 64, wstride := 64, hstride := 64 } }

def BlitCaller.request (caller : BlitCaller) (src dst : RgaInfo) : RgaReq :=
  (caller.build src dst none).toOption.getD {}

theorem fdPlacement_source_alone :
    FdsCarried (BlitCaller.im2d rga160Session).mode (sharedInfo 5) (mappedInfo 0x1000)
      (normalRgaCompatModeConvertRga2
        ((BlitCaller.im2d rga160Session).request (sharedInfo 5) (mappedInfo 0x1000))) := by
  refine (fdPlacement_iff (.im2d rga160Session) (sharedInfo 5) (mappedInfo 0x1000) none _
    (by decide +kernel)).mpr ⟨fun _ => ?_, fun given => absurd given.2.2 (by decide)⟩
  have mode : (BlitCaller.im2d rga160Session).mode = .fdOffsets := by decide +kernel
  rw [mode]
  exact ⟨by decide, by decide, by simp⟩

def BlitCaller.DropsFd (caller : BlitCaller) (src dst : RgaInfo) : Prop :=
  ∃ req, caller.build src dst none = .ok req ∧
    ¬FdsCarried caller.mode src dst (normalRgaCompatModeConvertRga2 req)

/-- With both by fd the half of the source is zero, and the oldest driver gets no fd. -/
theorem source_fd_overwritten :
    (BlitCaller.im2d rga160Session).DropsFd (sharedInfo 5) (sharedInfo 6) ∧
      (BlitCaller.legacy (olderContext (3 / 2))).DropsFd (sharedInfo 5) (sharedInfo 6) ∧
      (BlitCaller.legacy (olderContext 1)).DropsFd (mappedInfo 0x1000) (sharedInfo 6) := by
  have given : (sharedInfo 5).GivenByFd ∧ (sharedInfo 6).GivenByFd := by
    unfold RgaInfo.GivenByFd
    decide
  refine ⟨⟨BlitCaller.request (.im2d rga160Session) (sharedInfo 5) (sharedInfo 6), ?_, ?_⟩,
    ⟨BlitCaller.request (.legacy (olderContext (3 / 2))) (sharedInfo 5) (sharedInfo 6), ?_, ?_⟩,
    ⟨BlitCaller.request (.legacy (olderContext 1)) (mappedInfo 0x1000) (sharedInfo 6), ?_, ?_⟩⟩
  · decide +kernel
  · exact fun carried => absurd (carried.src given.1) (by decide +kernel)
  · decide +kernel
  · exact fun carried => absurd (carried.src given.1) (by decide +kernel)
  · decide +kernel
  · exact fun carried => absurd (carried.dst given.2) (by decide +kernel)

end LibRga
