import LibRga.CheckAgreement
import LibRga.ClipWindow

/-!
The integers of a submission beside the 16-bit fields and the plane words that
carry them to the driver.
-/

namespace LibRga

/-! Plane words -/

def Channel.area (channel : Channel) : Int :=
  channel.rect.wstride.toInt * channel.rect.hstride.toInt

/-- The plane words in integers that do not wrap. -/
def Channel.exactWords (channel : Channel) (mode : AddressMode) (single : Bool) : PlaneWords :=
  let buf := channel.addr.buf
  let separate : PlaneWords :=
    ⟨buf, buf + UInt64.ofInt channel.area, buf + UInt64.ofInt ((channel.area * 5).tdiv 4)⟩
  match mode with
  | .planar => separate
  | .fdOffsets => if channel.addr.fd ≠ -1 then ⟨0, 0, 0⟩ else separate
  | .words => ⟨if channel.addr.fd ≠ -1 then toU64 channel.addr.fd else 0, buf,
      if single then 0 else buf + UInt64.ofInt channel.area⟩

/-- What the plane words take as products of type `int`. -/
def Channel.products (channel : Channel) (mode : AddressMode) (single : Bool) : List Int :=
  match mode with
  | .planar => [channel.area, channel.area * 5]
  | .fdOffsets => if channel.addr.fd ≠ -1 then [] else [channel.area, channel.area * 5]
  | .words => if single then [] else [channel.area]

def IntFits (value : Int) : Prop :=
  -2 ^ 31 ≤ value ∧ value < 2 ^ 31

theorem toU64_eq_ofInt (value : Int32) : toU64 value = UInt64.ofInt value.toInt := by
  apply UInt64.toBitVec_inj.mp
  show BitVec.ofInt 64 value.toInt = BitVec.ofNat 64 (value.toInt % 2 ^ 64).toNat
  apply BitVec.eq_of_toNat_eq
  have small : (value.toInt % 2 ^ 64).toNat < 2 ^ 64 := by omega
  rw [BitVec.toNat_ofInt, BitVec.toNat_ofNat, Nat.mod_eq_of_lt small]
  rfl

theorem toInt_mul_of_fits {left right : Int32} (fits : IntFits (left.toInt * right.toInt)) :
    (left * right).toInt = left.toInt * right.toInt := by
  obtain ⟨low, high⟩ := fits
  rw [Int32.toInt_mul, Int.bmod_eq_of_le (by omega) (by omega)]

theorem planeAfter_exact {virW virH : Int32} (buf : UInt64)
    (fits : IntFits (virW.toInt * virH.toInt)) :
    planeAfter buf virW virH = buf + UInt64.ofInt (virW.toInt * virH.toInt) := by
  rw [planeAfter, toU64_eq_ofInt, toInt_mul_of_fits fits]

theorem secondPlaneAfter_exact {virW virH : Int32} (buf : UInt64)
    (fits : IntFits (virW.toInt * virH.toInt)) (five : IntFits (virW.toInt * virH.toInt * 5)) :
    secondPlaneAfter buf virW virH =
      buf + UInt64.ofInt ((virW.toInt * virH.toInt * 5).tdiv 4) := by
  have product := toInt_mul_of_fits fits
  have times : (virW * virH * 5).toInt = virW.toInt * virH.toInt * 5 := by
    rw [toInt_mul_of_fits (by rw [product]; exact five), product]
    rfl
  rw [secondPlaneAfter, toU64_eq_ofInt, Int32.toInt_div_of_ne_right _ _ (by decide), times]
  rfl

theorem words_exact {channel : Channel} {mode : AddressMode} {single : Bool}
    (fits : ∀ product ∈ channel.products mode single, IntFits product) :
    channel.words mode single = channel.exactWords mode single := by
  have separate (area : IntFits channel.area) (five : IntFits (channel.area * 5)) :
      planeAfter channel.addr.buf channel.rect.wstride channel.rect.hstride =
          channel.addr.buf + UInt64.ofInt channel.area ∧
        secondPlaneAfter channel.addr.buf channel.rect.wstride channel.rect.hstride =
          channel.addr.buf + UInt64.ofInt ((channel.area * 5).tdiv 4) :=
    ⟨planeAfter_exact _ area, secondPlaneAfter_exact _ area five⟩
  unfold Channel.words planeWords Channel.exactWords
  cases mode with
  | planar =>
      obtain ⟨second, third⟩ := separate (fits _ (by simp [Channel.products]))
        (fits _ (by simp [Channel.products]))
      rw [second, third]
  | fdOffsets =>
      by_cases fd : channel.addr.fd = -1
      · obtain ⟨second, third⟩ := separate (fits _ (by simp [Channel.products, fd]))
          (fits _ (by simp [Channel.products, fd]))
        rw [second, third]
      · simp [fd]
  | words =>
      cases single with
      | true => rfl
      | false =>
          have area : IntFits channel.area := fits _ (by simp [Channel.products])
          have third : planeAfter channel.addr.buf channel.rect.wstride channel.rect.hstride =
              channel.addr.buf + UInt64.ofInt channel.area :=
            planeAfter_exact _ area
          rw [third]

/-! One channel -/

structure Carried (mode : AddressMode) (single : Bool) (img : RgaImgInfo) (channel : Channel) :
    Prop where
  virW : (img.virW.toNat : Int) = channel.rect.wstride.toInt
  virH : (img.virH.toNat : Int) = channel.rect.hstride.toInt
  actW : (img.actW.toNat : Int) = channel.rect.width.toInt
  actH : (img.actH.toNat : Int) = channel.rect.height.toInt
  xOffset : (img.xOffset.toNat : Int) = channel.rect.xoffset.toInt
  yOffset : (img.yOffset.toNat : Int) = channel.rect.yoffset.toInt
  products : ∀ product ∈ channel.products mode single, IntFits product
  words : (⟨img.yrgbAddr, img.uvAddr, img.vAddr⟩ : PlaneWords) = channel.exactWords mode single

def HalfFits (value : Int32) : Prop :=
  0 ≤ value.toInt ∧ value.toInt < 65536

theorem toU16_exact_iff (value : Int32) :
    ((toU16 value).toNat : Int) = value.toInt ↔ HalfFits value := by
  rw [toU16_emod, HalfFits]
  omega

structure RectHalves (rect : RgaRect) : Prop where
  wstride : HalfFits rect.wstride
  hstride : HalfFits rect.hstride
  width : HalfFits rect.width
  height : HalfFits rect.height
  xoffset : HalfFits rect.xoffset
  yoffset : HalfFits rect.yoffset

theorem PlainImage.carried_iff {mode : AddressMode} {single : Bool} {img : RgaImgInfo}
    {channel : Channel} (placed : PlainImage mode single img channel) :
    Carried mode single img channel ↔
      RectHalves channel.rect ∧ ∀ product ∈ channel.products mode single, IntFits product := by
  obtain ⟨rdMode, rfl⟩ := placed
  constructor
  · rintro ⟨virW, virH, actW, actH, xOffset, yOffset, products, _⟩
    exact ⟨⟨(toU16_exact_iff _).mp virW, (toU16_exact_iff _).mp virH, (toU16_exact_iff _).mp actW,
      (toU16_exact_iff _).mp actH, (toU16_exact_iff _).mp xOffset,
      (toU16_exact_iff _).mp yOffset⟩, products⟩
  · rintro ⟨⟨wstride, hstride, width, height, xoffset, yoffset⟩, products⟩
    exact ⟨(toU16_exact_iff _).mpr wstride, (toU16_exact_iff _).mpr hstride,
      (toU16_exact_iff _).mpr width, (toU16_exact_iff _).mpr height,
      (toU16_exact_iff _).mpr xoffset, (toU16_exact_iff _).mpr yoffset, products,
      words_exact products⟩

theorem placed_carried_iff {mode : AddressMode} {single : Bool} {images : List RgaImgInfo}
    {channels : List Channel} (placed : List.Forall₂ (PlainImage mode single) images channels) :
    List.Forall₂ (Carried mode single) images channels ↔
      ∀ channel ∈ channels,
        RectHalves channel.rect ∧ ∀ product ∈ channel.products mode single, IntFits product := by
  induction placed with
  | nil => simp
  | cons first _ rest => rw [List.forall₂_cons, first.carried_iff, rest, List.forall_mem_cons]

/-! The channels of a submission -/

def freeFd (addr : BufferAddr) : BufferAddr :=
  if addr.fd = 0 then { addr with fd := -1 } else addr

theorem requireAddr_ok {addr settled : BufferAddr} (required : requireAddr addr = .ok settled) :
    settled = freeFd addr := by
  unfold requireAddr at required
  split_ifs at required <;> cases required <;> simp_all [freeFd]

def openedChannel (info : RgaInfo) : Channel :=
  { info := info, addr := freeFd (resolveAddr info), rect := relRect info.rect }

theorem openedChannel_eq {info : RgaInfo} {channel : Channel} (same : channel.info = info)
    (rect : channel.rect = relRect info.rect)
    (resolved : requireAddr (resolveAddr info) = .ok channel.addr) :
    channel = openedChannel info := by
  rw [openedChannel, ← requireAddr_ok resolved, ← rect, ← same]

/-- The channels whose rectangle a check covers. -/
def TaskSetup.checkedChannels (setup : TaskSetup) : TaskPath → List Channel
  | .fill => [fillChannel setup.dst (freeFd (fillAddr setup.dst))]
  | .palette => [openedChannel setup.src, openedChannel setup.dst]
  | .blend => [openedChannel setup.src, openedChannel setup.dst, openedChannel setup.pat]
  | .blit => [openedChannel setup.src, openedChannel setup.dst]

def TaskSetup.channels (setup : TaskSetup) (path : TaskPath) : List Channel :=
  setup.checkedChannels path ++ if path = .palette then [openLut setup.pat] else []

/-- Blits of imported buffers alone leave the third plane word empty. -/
def TaskSetup.single (setup : TaskSetup) : TaskPath → Bool
  | .blend => [setup.src, setup.dst, setup.pat].all fun info => decide (0 < info.handle)
  | .blit => [setup.src, setup.dst].all fun info => decide (0 < info.handle)
  | _ => false

/-! What fits -/

/-- Both sides of a checked axis are bounded by the stride unless their sum wraps. -/
def AxisFits (offset length stride : Int32) : Prop :=
  offset.toInt + length.toInt < 2 ^ 31 ∧ stride.toInt < 65536

def CheckedFits (rect : RgaRect) : Prop :=
  AxisFits rect.xoffset rect.width rect.wstride ∧ AxisFits rect.yoffset rect.height rect.hstride

def Channel.PlanesFit (channel : Channel) (mode : AddressMode) (single : Bool) : Prop :=
  match mode with
  | .planar => channel.area * 5 < 2 ^ 31
  | .fdOffsets => channel.addr.fd = -1 → channel.area * 5 < 2 ^ 31
  | .words => single = false → channel.area < 2 ^ 31

structure TaskSetup.Fits (session : RgaSession) (path : TaskPath) (setup : TaskSetup) : Prop where
  checked : ∀ channel ∈ setup.checkedChannels path, CheckedFits channel.rect
  table : path = .palette → RectHalves (openLut setup.pat).rect
  planes : ∀ channel ∈ setup.channels path,
    channel.PlanesFit (addressMode session) (setup.single path)

/-- An axis as the checks leave it: the sum may have wrapped, or was never taken. -/
structure AxisNested (offset length stride : Int32) : Prop where
  low : 0 ≤ offset.toInt
  positive : 0 ≤ length.toInt
  nested : (offset + length).toInt ≤ stride.toInt ∨
    offset.toInt ≤ stride.toInt ∧ length.toInt ≤ stride.toInt

theorem AxisNested.fits_iff {offset length stride : Int32}
    (axis : AxisNested offset length stride) :
    AxisFits offset length stride ↔ HalfFits stride ∧ HalfFits length ∧ HalfFits offset := by
  obtain ⟨low, positive, nested⟩ := axis
  unfold AxisFits HalfFits
  constructor
  · rintro ⟨sum, small⟩
    rw [toInt_add_small low positive sum] at nested
    omega
  · rintro ⟨stride, length, offset⟩
    omega

def RectNested (rect : RgaRect) : Prop :=
  AxisNested rect.xoffset rect.width rect.wstride ∧
    AxisNested rect.yoffset rect.height rect.hstride

theorem RectChecked.nested {rect : RgaRect} (checked : RectChecked rect) : RectNested rect :=
  ⟨⟨checked.xoffset, checked.width, .inl checked.right⟩,
    ⟨checked.yoffset, checked.height, .inl checked.bottom⟩⟩

theorem RectNested.fits_iff {rect : RgaRect} (nested : RectNested rect) :
    CheckedFits rect ↔ RectHalves rect := by
  rw [CheckedFits, nested.1.fits_iff, nested.2.fits_iff]
  constructor
  · rintro ⟨⟨wstride, width, xoffset⟩, hstride, height, yoffset⟩
    exact ⟨wstride, hstride, width, height, xoffset, yoffset⟩
  · rintro ⟨wstride, hstride, width, height, xoffset, yoffset⟩
    exact ⟨⟨wstride, width, xoffset⟩, hstride, height, yoffset⟩

theorem RectHalves.products_iff {channel : Channel} (fits : RectHalves channel.rect)
    (mode : AddressMode) (single : Bool) :
    (∀ product ∈ channel.products mode single, IntFits product) ↔
      channel.PlanesFit mode single := by
  have positive : 0 ≤ channel.area := Int.mul_nonneg fits.wstride.1 fits.hstride.1
  have one : IntFits channel.area ↔ channel.area < 2 ^ 31 := by
    unfold IntFits
    omega
  have both : IntFits channel.area ∧ IntFits (channel.area * 5) ↔ channel.area * 5 < 2 ^ 31 := by
    unfold IntFits
    omega
  unfold Channel.products Channel.PlanesFit
  cases mode with
  | planar => simpa using both
  | fdOffsets =>
      by_cases fd : channel.addr.fd = -1
      · simpa [fd] using both
      · simp [fd]
  | words => cases single <;> simp [one]

theorem rgaCheckInfo_empty {info : RgaBuffer} {rect : ImRect} {resolution : RgaInfoResolution}
    (checked : rgaCheckInfo info rect resolution = .noError)
    (empty : ¬(0 < rect.width ∧ 0 < rect.height)) : rect.width = 0 ∧ rect.height = 0 := by
  obtain ⟨_, _, partly, negative, _⟩ := rgaCheckInfo_passed checked
  grind

/-! Requests as built -/

def taskClip (path : TaskPath) (rect : RgaRect) : Rect :=
  if path = .fill then fillClip rect else dstClip rect

structure Arranged (session : RgaSession) (path : TaskPath) (setup : TaskSetup) (req : RgaReq) :
    Prop where
  images : List.Forall₂ (PlainImage (addressMode session) (setup.single path)) (plainImages req)
    (setup.channels path)
  clip : req.clip = taskClip path (relRect setup.dst.rect)
  nested : ∀ channel ∈ setup.checkedChannels path, RectNested channel.rect

theorem Planned.handleFlag_eq {src dst : RgaInfo} {src1 : Option RgaInfo} {plan : BlitPlan}
    (planned : Planned src dst src1 plan) :
    plan.handleFlag =
      (src :: dst :: src1.toList).all fun info => decide (0 < info.handle) := by
  rw [Bool.eq_iff_iff, handleMode_positive planned.handles]
  cases src1 <;> simp

theorem Planned.channels_eq {src dst : RgaInfo} {src1 : Option RgaInfo} {plan : BlitPlan}
    (planned : Planned src dst src1 plan) :
    plan.src :: plan.dst :: plan.src1.toList =
      (src :: dst :: src1.toList).map openedChannel := by
  obtain ⟨srcInfo, srcRect, srcAddr⟩ := openChannel_ok planned.src
  obtain ⟨dstInfo, dstRect, dstAddr⟩ := openChannel_ok planned.dst
  rw [openedChannel_eq srcInfo srcRect srcAddr, openedChannel_eq dstInfo dstRect dstAddr]
  cases src1 with
  | none =>
      rw [openSrc1_none planned.src1]
      rfl
  | some info =>
      obtain ⟨third, three, _⟩ := openSrc1_ok planned.src1
      obtain ⟨same, rect, resolved⟩ := planned.src1_rect three
      rw [three, openedChannel_eq same rect resolved]
      rfl

theorem blit_arranged {session : RgaSession} {src dst : RgaInfo} {src1 : Option RgaInfo}
    {req : RgaReq} (built : generateBlitReq session src dst src1 = .ok req) :
    List.Forall₂ (PlainImage (addressMode session)
        ((src :: dst :: src1.toList).all fun info => decide (0 < info.handle)))
      (plainImages req) ((src :: dst :: src1.toList).map openedChannel) ∧
      req.clip = dstClip (relRect dst.rect) ∧
      ∀ channel ∈ (src :: dst :: src1.toList).map openedChannel, RectNested channel.rect := by
  obtain ⟨plan, planned, registers⟩ := generateBlitReq_registers built
  obtain ⟨same, again, finished⟩ := generateBlitReq_finished built
  rw [planned] at again
  cases again
  have facts := planBlit_planned planned
  have clip : req.clip = dstClip plan.dst.rect := congrArg Registers.clip registers
  obtain ⟨srcOk, dstOk, src1Ok⟩ := checkBlitRects_ok facts.rects
  rw [← facts.handleFlag_eq, ← facts.channels_eq, ← facts.rects_eq.2.1]
  refine ⟨finished.placed, clip, ?_⟩
  simp only [List.mem_cons, Option.mem_toList]
  rintro channel (rfl | rfl | three)
  · exact (checkRectForRga_checked srcOk).nested
  · exact (checkRectForRga_checked dstOk).nested
  · exact (checkRectForRga_checked (src1Ok channel three)).nested

theorem palette_arranged {session : RgaSession} {setup : TaskSetup} {plan : PalettePlan}
    {req : RgaReq} (planned : planPalette setup.src setup.dst setup.pat = .ok plan)
    (finished : FinishedPalette plan (addressMode session) req)
    (render : req.renderMode ≠ colorFillMode ∧ req.renderMode ≠ bitbltMode)
    (clip : req.clip = dstClip plan.dst.rect) : Arranged session .palette setup req := by
  obtain ⟨_, src, dst, lut, srcOk, dstOk⟩ := planPalette_ok planned
  obtain ⟨srcInfo, srcRect, srcAddr⟩ := openChannel_ok src
  obtain ⟨dstInfo, dstRect, dstAddr⟩ := openChannel_ok dst
  have placed := finished.placed render
  rw [openedChannel_eq srcInfo srcRect srcAddr, openedChannel_eq dstInfo dstRect dstAddr, lut]
    at placed
  rw [srcRect] at srcOk
  rw [dstRect] at dstOk clip
  refine ⟨placed, clip, ?_⟩
  simp only [TaskSetup.checkedChannels, List.mem_cons, List.not_mem_nil, or_false]
  rintro channel (rfl | rfl)
  · exact (checkRectForRga_checked srcOk).nested
  · exact (checkRectForRga_checked dstOk).nested

section Task

variable {session : RgaSession} {env : TaskEnv} {args : TaskArgs} {buffers : TaskBuffers}
  {mode : Int32}

-- an empty rectangle is checked as given, and sent with the size of the buffer
theorem fill_nested (accepted : Accepted session args buffers mode) :
    RectNested (channelRect args.drect buffers.dst) := by
  by_cases given : 0 < args.drect.width ∧ 0 < args.drect.height
  · exact (fill_checked accepted given).nested
  · have checked := rgaCheck_dst accepted.checked
    obtain ⟨noWidth, noHeight⟩ := rgaCheckInfo_empty checked given
    obtain ⟨wide, high, long, tall, left, top, right, bottom⟩ := rgaCheckInfo_noError checked
    obtain ⟨_, _, _, complete, _⟩ := dst_strides accepted
    rw [noWidth, Int32.zero_add] at right
    rw [noHeight, Int32.zero_add] at bottom
    refine ⟨⟨left, ?_, .inr ⟨right, long⟩⟩, ⟨top, ?_, .inr ?_⟩⟩
    · show 0 ≤ buffers.dst.width.toInt
      omega
    · show 0 ≤ buffers.dst.height.toInt
      omega
    · rw [complete]
      exact ⟨bottom, tall⟩

theorem built_arranged {req : RgaReq} (accepted : Accepted session args buffers mode)
    (made : (taskBuilt session env args buffers mode).1 = some req ∨
      (taskBuilt session env args buffers mode).2 = .ok req) :
    Arranged session (taskPath args) (taskSetup env args buffers mode) req := by
  obtain update | built := made
  · obtain ⟨path, plan, planned, issued⟩ := taskBuilt_update update
    obtain ⟨finished, render⟩ := paletteLutReq_finished issued
    obtain ⟨_, registers⟩ := paletteReqBase_registers session plan
    have clip : req.clip = dstClip plan.dst.rect :=
      congrArg Registers.clip ((paletteLutReq_registers issued).trans registers)
    rw [path]
    exact palette_arranged planned finished (by rw [render]; decide) clip
  · cases path : taskPath args with
    | fill =>
        simp only [taskBuilt, path, buildTask] at built
        obtain ⟨addr, required, finished⟩ := fillReq_finished built
        obtain ⟨_, registers⟩ := fillReq_registers built
        have placed := finished.placed
        rw [requireAddr_ok required] at placed
        refine ⟨placed, congrArg Registers.clip registers, ?_⟩
        simp only [TaskSetup.checkedChannels, List.mem_singleton]
        rintro channel rfl
        exact fill_nested accepted
    | palette =>
        simp only [taskBuilt, path, buildTask] at built
        obtain ⟨plan, _, planned, registers⟩ := generateColorPaletteReq_registers built
        obtain ⟨same, again, finished, render⟩ := generateColorPaletteReq_finished built
        rw [planned] at again
        cases again
        exact palette_arranged planned finished (by rw [render]; decide)
          (congrArg Registers.clip registers)
    | blit =>
        simp only [taskBuilt, path, buildTask] at built
        obtain ⟨images, clip, nested⟩ := blit_arranged built
        exact ⟨images, clip, nested⟩
    | blend =>
        simp only [taskBuilt, path, buildTask] at built
        obtain ⟨images, clip, nested⟩ := blit_arranged built
        exact ⟨images, clip, nested⟩

end Task

/-! A submission -/

def clipEnds (path : TaskPath) (rect : RgaRect) : Int × Int :=
  if path = .fill then (rect.width.toInt - 1, rect.height.toInt - 1)
  else (rect.wstride.toInt - 1, rect.hstride.toInt - 1)

structure Unnarrowed (session : RgaSession) (path : TaskPath) (setup : TaskSetup) (req : RgaReq) :
    Prop where
  channels : List.Forall₂ (Carried (addressMode session) (setup.single path)) (plainImages req)
    (setup.channels path)
  clipMin : req.clip.xmin = 0 ∧ req.clip.ymin = 0
  clipMax : ((req.clip.xmax.toNat : Int), (req.clip.ymax.toNat : Int)) =
    clipEnds path (relRect setup.dst.rect)

theorem TaskSetup.fits_iff {session : RgaSession} {path : TaskPath} {setup : TaskSetup}
    (nested : ∀ channel ∈ setup.checkedChannels path, RectNested channel.rect) :
    setup.Fits session path ↔ ∀ channel ∈ setup.channels path, RectHalves channel.rect ∧
      ∀ product ∈ channel.products (addressMode session) (setup.single path), IntFits product := by
  constructor
  · rintro ⟨checked, table, planes⟩ channel listed
    have rect : RectHalves channel.rect := by
      obtain given | last := List.mem_append.mp listed
      · exact (nested channel given).fits_iff.mp (checked channel given)
      · split at last
        · rename_i palette
          rw [List.mem_singleton.mp last]
          exact table palette
        · cases last
    exact ⟨rect, (rect.products_iff _ _).mpr (planes channel listed)⟩
  · intro fits
    refine ⟨fun channel given => ?_, fun palette => ?_, fun channel listed => ?_⟩
    · exact (nested channel given).fits_iff.mpr (fits channel (List.mem_append_left _ given)).1
    · exact (fits _ (List.mem_append_right _ (by simp [palette]))).1
    · obtain ⟨rect, products⟩ := fits channel listed
      exact (rect.products_iff _ _).mp products

theorem taskClip_exact (path : TaskPath) {rect : RgaRect} (fits : RectHalves rect)
    (sides : 1 ≤ rect.width.toInt ∧ 1 ≤ rect.height.toInt ∧ 1 ≤ rect.wstride.toInt ∧
      1 ≤ rect.hstride.toInt) :
    ((taskClip path rect).xmin = 0 ∧ (taskClip path rect).ymin = 0) ∧
      (((taskClip path rect).xmax.toNat : Int), ((taskClip path rect).ymax.toNat : Int)) =
        clipEnds path rect := by
  have pred (value : Int32) (half : HalfFits value) (positive : 1 ≤ value.toInt) :
      ((toU16 (value - 1)).toNat : Int) = value.toInt - 1 := by
    rw [toU16_pred]
    exact Int.emod_eq_of_lt (by omega) (by have := half.2; omega)
  obtain ⟨width, height, wstride, hstride⟩ := sides
  unfold taskClip clipEnds
  split
  · exact ⟨⟨rfl, rfl⟩, Prod.ext (pred _ fits.width width) (pred _ fits.height height)⟩
  · exact ⟨⟨rfl, rfl⟩, Prod.ext (pred _ fits.wstride wstride) (pred _ fits.hstride hstride)⟩

theorem Arranged.unnarrowed_iff {session : RgaSession} {path : TaskPath} {setup : TaskSetup}
    {req : RgaReq} (arranged : Arranged session path setup req)
    (sides : let rect := relRect setup.dst.rect
      1 ≤ rect.width.toInt ∧ 1 ≤ rect.height.toInt ∧ 1 ≤ rect.wstride.toInt ∧
        1 ≤ rect.hstride.toInt) :
    Unnarrowed session path setup req ↔ setup.Fits session path := by
  rw [TaskSetup.fits_iff arranged.nested, ← placed_carried_iff arranged.images]
  refine ⟨Unnarrowed.channels, fun carried => ?_⟩
  have fits := (placed_carried_iff arranged.images).mp carried
  have dst : ∃ channel ∈ setup.channels path, channel.rect = relRect setup.dst.rect := by
    cases path <;> simp [TaskSetup.channels, TaskSetup.checkedChannels, openedChannel, fillChannel]
  obtain ⟨channel, listed, rect⟩ := dst
  obtain ⟨low, high⟩ := taskClip_exact path (rect ▸ (fits channel listed).1) sides
  rw [← arranged.clip] at low high
  exact ⟨carried, low, high⟩

/-- Whatever goes to the driver or into a job carries the integers that the checks saw. -/
def NarrowingSettled (session : RgaSession) (env : TaskEnv) (manager : JobManager RgaReq)
    (args : TaskArgs) : Prop :=
  ∀ buffers mode, Accepted session args buffers mode →
    ∀ req ∈ handedOver (rgaTaskSubmit session env manager args),
      Unnarrowed session (taskPath args) (taskSetup env args buffers mode) req

/-- Nothing bounds a stride by the 16 bits it is sent in, nor a plane by an `int`. -/
theorem narrowing_settled_iff (session : RgaSession) (env : TaskEnv)
    (manager : JobManager RgaReq) (args : TaskArgs) :
    NarrowingSettled session env manager args ↔
      ∀ buffers mode, Accepted session args buffers mode → lacksFence args = false →
        ¬ BuilderRefuses session (taskPath args) (taskSetup env args buffers mode) →
        (taskPath args = .palette ∨ Delivers session manager args) →
        ¬ StaleReturn session args ∧
          (taskSetup env args buffers mode).Fits session (taskPath args) := by
  refine forall₃_congr fun buffers mode accepted => ?_
  obtain ⟨wide, high, long, complete, tall⟩ := dst_strides accepted
  by_cases fence : lacksFence args = false
  · have sides : let rect := relRect (taskDstInfo env args buffers mode).rect
        1 ≤ rect.width.toInt ∧ 1 ≤ rect.height.toInt ∧ 1 ≤ rect.wstride.toInt ∧
          1 ≤ rect.hstride.toInt := by
      refine ⟨?_, ?_, ?_, ?_⟩
      · show 1 ≤ buffers.dst.width.toInt
        omega
      · show 1 ≤ buffers.dst.height.toInt
        omega
      · show 1 ≤ (channelRect args.drect buffers.dst).wstride.toInt
        omega
      · show 1 ≤ (channelRect args.drect buffers.dst).hstride.toInt
        rw [complete]
        omega
    -- the blank request of a stale return clips to one pixel
    have blank (stale : StaleReturn session args) :
        ¬ Unnarrowed session (taskPath args) (taskSetup env args buffers mode) {} := by
      intro carried
      have path : taskPath args ≠ .fill := by
        obtain blit | blend := stale.blits
        · simp [blit]
        · simp [blend]
      have last := carried.clipMax
      rw [clipEnds, if_neg path] at last
      have wide : (0 : Int) = (channelRect args.drect buffers.dst).wstride.toInt - 1 :=
        congrArg Prod.fst last
      omega
    rw [handedOver_forall_iff env manager accepted fence fun req made =>
      (built_arranged accepted made).unnarrowed_iff sides]
    constructor
    · intro settled _ accepts emits
      obtain ⟨stale, fresh⟩ := settled accepts emits
      have returned : ¬ StaleReturn session args := fun returns => blank returns (stale returns)
      exact ⟨returned, fresh returned⟩
    · intro fits accepts emits
      obtain ⟨fresh, fitting⟩ := fits fence accepts emits
      exact ⟨fun stale => absurd stale fresh, fun _ => fitting⟩
  · rw [handedOver_unaccepted env manager fun _ _ _ => by simpa using fence]
    simp [fence]

theorem Unnarrowed.source {session : RgaSession} {path : TaskPath} {setup : TaskSetup}
    {req : RgaReq} (carried : Unnarrowed session path setup req) (blit : path = .blit) :
    ∃ img, Carried (addressMode session) (setup.single .blit) img (openedChannel setup.src) := by
  subst blit
  obtain ⟨img, _, source, _⟩ := List.forall₂_cons_right_iff.mp carried.channels
  exact ⟨img, source⟩

def stridedCopy (src dst : RgaBuffer) (wstride hstride : Int32) : TaskArgs :=
  { src := { src with wstride := wstride, hstride := hstride }
    dst := dst
    opt := some {}
    usage := imSync }

def fdBuffer (fd : Int32) : RgaBuffer :=
  { importedBuffer 0 with fd := fd }

/-- A stride of 65600 is sent as 64, and the plane of an fd overflows at 50000 by 50000. -/
theorem narrowing_silent :
    let long := stridedCopy (importedBuffer 1) (importedBuffer 2) 65600 64
    let large := stridedCopy (fdBuffer 1) (fdBuffer 2) 50000 50000
    let submit := rgaTaskSubmit rga2ProSession {} emptyManager
    (submit long).status = .success ∧
      (handedOver (submit long)).map (fun req => req.src.virW) = [64] ∧
      ¬ NarrowingSettled rga2ProSession {} emptyManager long ∧
      (submit large).status = .success ∧
      (handedOver (submit large)).map (fun req => req.src.vAddr) = [18446744071914584320] ∧
      ¬ NarrowingSettled rga2ProSession {} emptyManager large := by
  intro long large submit
  have longSent : (handedOver (submit long)).map (fun req => req.src.virW) = [64] := by
    decide +kernel
  have largeSent : (handedOver (submit large)).map (fun req => req.src.vAddr) =
      [18446744071914584320] := by
    decide +kernel
  refine ⟨by decide +kernel, longSent, fun settled => ?_, by decide +kernel, largeSent,
    fun settled => ?_⟩
  · obtain ⟨req, listed, _⟩ := List.map_eq_singleton_iff.mp longSent
    have accepted : Accepted rga2ProSession long (settledBuffers long) 0 :=
      validateTask_ok_iff.mp (by decide +kernel)
    have carried := settled _ _ accepted req (by rw [listed]; exact List.mem_singleton_self req)
    obtain ⟨img, source⟩ := carried.source (by decide)
    have stride : (img.virW.toNat : Int) = 65600 := source.virW
    have small := img.virW.toNat_lt
    omega
  · obtain ⟨req, listed, _⟩ := List.map_eq_singleton_iff.mp largeSent
    have accepted : Accepted rga2ProSession large (settledBuffers large) 0 :=
      validateTask_ok_iff.mp (by decide +kernel)
    have carried := settled _ _ accepted req (by rw [listed]; exact List.mem_singleton_self req)
    obtain ⟨img, source⟩ := carried.source (by decide)
    have fits : IntFits 2500000000 := source.products 2500000000 (by decide +kernel)
    exact absurd fits.2 (by decide)

end LibRga
