import LibRga.Plan

/-!
The plane words of requests that name their buffers by handle.
-/

namespace LibRga

inductive BuilderCall where
  | blit (session : RgaSession) (src dst : RgaInfo) (src1 : Option RgaInfo)
  | fill (session : RgaSession) (dst : RgaInfo)
  | palette (session : RgaSession) (src dst lut : RgaInfo) (lutRet : Int32)
  | legacyBlit (ctx : RgaContext) (src dst : RgaInfo) (src1 : Option RgaInfo)
  | legacyFill (ctx : RgaContext) (dst : RgaInfo)

def BuilderCall.build : BuilderCall → Except BuildExit RgaReq
  | blit session src dst src1 => generateBlitReq session src dst src1
  | fill session dst => generateFillReq session dst
  | palette session src dst lut lutRet => (generateColorPaletteReq session src dst lut lutRet).2
  | legacyBlit ctx src dst src1 => rgaBlitReq ctx src dst src1
  | legacyFill ctx dst => rgaCollorFillReq ctx dst

/-- The images the hardware reads or writes for a request. -/
def usedImages (req : RgaReq) : List RgaImgInfo :=
  if req.renderMode = colorFillMode then [req.dst]
  else if req.renderMode = bitbltMode then
    if req.bsfilterFlag ≠ 0 then [req.src, req.dst, req.pat] else [req.src, req.dst]
  else [req.src, req.dst, req.pat]

/-- In handle mode no channel in use names a second or third plane. -/
def HandlePlanesClear (req : RgaReq) : Prop :=
  req.handleFlag &&& 1 ≠ 0 → ∀ img ∈ usedImages req, img.uvAddr = 0 ∧ img.vAddr = 0

/-! When a plane word vanishes -/

theorem toU64_eq_zero (value : Int32) : toU64 value = 0 ↔ value = 0 := by
  constructor
  · intro zero
    have bits : value.toInt64 = 0 := congrArg UInt64.toInt64 zero
    have same : value.toInt64.toInt = 0 := by
      rw [bits]
      rfl
    rw [Int32.toInt_toInt64] at same
    exact Int32.toInt_inj.mp same
  · rintro rfl
    rfl

def planeArea (rect : RgaRect) : Int32 :=
  (relRect rect).wstride * (relRect rect).hstride

theorem planeAfter_zero (virW virH : Int32) : planeAfter 0 virW virH = 0 ↔ virW * virH = 0 := by
  rw [planeAfter, UInt64.zero_add, toU64_eq_zero]

theorem secondPlaneAfter_zero {virW virH : Int32} (area : virW * virH = 0) :
    secondPlaneAfter 0 virW virH = 0 := by
  simp [secondPlaneAfter, area, toU64_eq_zero]

theorem planeWords_handle (mode : AddressMode) {handle : Int32} (virW virH : Int32)
    (single : Bool) (positive : 0 < handle) :
    ((planeWords mode { fd := handle, buf := 0 } virW virH single).uv = 0 ∧
        (planeWords mode { fd := handle, buf := 0 } virW virH single).v = 0) ↔
      mode = .fdOffsets ∨ (mode = .words ∧ single = true) ∨ virW * virH = 0 := by
  have set : handle ≠ -1 := by
    rintro rfl
    exact absurd positive (by decide)
  cases mode with
  | planar =>
      simp only [planeWords, planeAfter_zero, reduceCtorEq, false_and, false_or]
      exact ⟨fun both => both.1, fun area => ⟨area, secondPlaneAfter_zero area⟩⟩
  | fdOffsets => simp [planeWords, set]
  | words => cases single <;> simp [planeWords, planeAfter_zero]

theorem TaggedImage.planes {img : RgaImgInfo} {channel : Channel} {mode : AddressMode}
    {single swapped : Bool} (tagged : TaggedImage img (channel.image mode single swapped)) :
    img.uvAddr = (channel.words mode single).uv ∧ img.vAddr = (channel.words mode single).v := by
  obtain ⟨rdMode, rfl⟩ := tagged
  exact ⟨rfl, rfl⟩

theorem TaggedImage.handle_planes {img : RgaImgInfo} {channel : Channel} {info : RgaInfo}
    {mode : AddressMode} {single swapped : Bool}
    (tagged : TaggedImage img (channel.image mode single swapped)) (positive : 0 < info.handle)
    (resolved : requireAddr (resolveAddr info) = .ok channel.addr) :
    (img.uvAddr = 0 ∧ img.vAddr = 0) ↔
      mode = .fdOffsets ∨ (mode = .words ∧ single = true) ∨
        channel.rect.wstride * channel.rect.hstride = 0 := by
  rw [tagged.planes.1, tagged.planes.2, Channel.words, requireAddr_handle positive resolved]
  exact planeWords_handle mode _ _ single positive

/-! The condition on the inputs -/

/-- Planes beside the handle of a fill, whose info may also hold an address. -/
def FillPlanesVanish (mode : AddressMode) (dst : RgaInfo) : Prop :=
  let rect := relRect dst.rect
  let buf := (fillAddr dst).buf
  match mode with
  | .planar => planeAfter buf rect.wstride rect.hstride = 0 ∧
      secondPlaneAfter buf rect.wstride rect.hstride = 0
  | .fdOffsets => True
  | .words => buf = 0 ∧ planeArea dst.rect = 0

/-- A blit with a handle on every channel, on a generation and of a size that need planes. -/
def BlitPlanesSafe (safe : Bool) (src dst : RgaInfo) (src1 : Option RgaInfo) : Prop :=
  (∃ info ∈ src :: dst :: src1.toList, info.handle ≤ 0) ∨ safe = true ∨
    ∀ info ∈ src :: dst :: src1.toList, planeArea info.rect = 0

def BuilderCall.HandleSafe : BuilderCall → Prop
  | blit session src dst src1 => BlitPlanesSafe (addressMode session != .planar) src dst src1
  | fill session dst => dst.handle ≤ 0 ∨ FillPlanesVanish (addressMode session) dst
  | palette session src dst lut _ => addressMode session = .fdOffsets ∨
      (planeArea src.rect = 0 ∧ planeArea dst.rect = 0 ∧ lut.rect.wstride * lut.rect.hstride = 0)
  | legacyBlit ctx src dst src1 =>
      BlitPlanesSafe (rgaBlitAddressMode ctx == .fdOffsets) src dst src1
  | legacyFill ctx dst =>
      dst.handle ≤ 0 ∨ FillPlanesVanish (rgaCollorFillAddressMode ctx) dst

theorem FinishedBlit.used {plan : BlitPlan} {mode : AddressMode} {single : Bool} {req : RgaReq}
    (finished : FinishedBlit plan mode single req) :
    usedImages req = if plan.src1.isSome then [req.src, req.dst, req.pat]
      else [req.src, req.dst] := by
  unfold usedImages
  rw [finished.renderMode, finished.bsfilterFlag, if_neg (by decide), if_pos rfl]
  cases plan.src1 <;> rfl

theorem blitPlanesSafe_iff {safe : Bool} {src dst : RgaInfo} {src1 : Option RgaInfo}
    (positive : ∀ info ∈ src :: dst :: src1.toList, 0 < info.handle) :
    BlitPlanesSafe safe src dst src1 ↔
      ∀ info ∈ src :: dst :: src1.toList, safe = true ∨ planeArea info.rect = 0 := by
  constructor
  · rintro (⟨info, member, missing⟩ | safe | areas) other present
    · exact absurd (positive info member) (Int32.not_lt.mpr missing)
    · exact Or.inl safe
    · exact Or.inr (areas other present)
  · intro each
    cases safe with
    | true => exact Or.inr (Or.inl rfl)
    | false =>
        refine Or.inr (Or.inr fun info member => ?_)
        rcases each info member with impossible | area
        · contradiction
        · exact area

theorem blit_planes_iff {src dst : RgaInfo} {src1 : Option RgaInfo} {plan : BlitPlan}
    {mode : AddressMode} {single safe : Bool} {req : RgaReq} (planned : Planned src dst src1 plan)
    (finished : FinishedBlit plan mode single req)
    (generation : plan.handleFlag = true →
      (safe = true ↔ mode = .fdOffsets ∨ (mode = .words ∧ single = true))) :
    HandlePlanesClear req ↔ BlitPlanesSafe safe src dst src1 := by
  have positive := handleMode_positive planned.handles
  have infos : (∀ handle ∈ src.handle :: dst.handle :: (src1.map RgaInfo.handle).toList,
      0 < handle) ↔ ∀ info ∈ src :: dst :: src1.toList, 0 < info.handle := by
    cases src1 <;> simp
  rw [infos] at positive
  cases flag : plan.handleFlag with
  | false =>
      have clear : HandlePlanesClear req := by
        intro set
        rw [finished.handleFlag, flag] at set
        exact absurd rfl set
      have missing : ∃ info ∈ src :: dst :: src1.toList, info.handle ≤ 0 := by
        by_contra none
        push Not at none
        have all := positive.mpr fun info member => Int32.not_le.mp (none info member)
        simp [flag] at all
      exact ⟨fun _ => Or.inl missing, fun _ => clear⟩
  | true =>
      have all := positive.mp flag
      have split : ∀ area : Int32, (mode = .fdOffsets ∨ (mode = .words ∧ single = true) ∨
          area = 0) ↔ (safe = true ∨ area = 0) := by
        intro area
        rw [generation flag, or_assoc]
      obtain ⟨_, srcRect, srcAddr⟩ := openChannel_ok planned.src
      obtain ⟨_, dstRect, dstAddr⟩ := openChannel_ok planned.dst
      have srcPlanes := finished.src.handle_planes (all src (by simp)) srcAddr
      have dstPlanes := finished.dst.handle_planes (all dst (by simp)) dstAddr
      rw [srcRect, split] at srcPlanes
      rw [dstRect, split] at dstPlanes
      have set : req.handleFlag &&& 1 ≠ 0 := by
        rw [finished.handleFlag, flag]
        decide
      rw [blitPlanesSafe_iff all]
      unfold HandlePlanesClear
      rw [finished.used]
      cases src1 with
      | none =>
          have two : plan.src1 = none := openSrc1_none planned.src1
          simp [set, two, srcPlanes, dstPlanes, planeArea]
      | some info =>
          obtain ⟨third, three, _⟩ := openSrc1_ok planned.src1
          obtain ⟨_, patRect, patAddr⟩ := planned.src1_rect three
          have patPlanes :=
            (finished.pat third three).handle_planes (all info (by simp)) patAddr
          rw [patRect, split] at patPlanes
          simp [set, three, srcPlanes, dstPlanes, patPlanes, planeArea]

theorem fill_planes_iff {mode : AddressMode} {info : RgaInfo} {req : RgaReq}
    (built : fillReq mode info = .ok req) :
    HandlePlanesClear req ↔ info.handle ≤ 0 ∨ FillPlanesVanish mode info := by
  obtain ⟨addr, resolved, finished⟩ := fillReq_finished built
  have used : usedImages req = [req.dst] := by
    unfold usedImages
    rw [finished.renderMode, if_pos rfl]
  by_cases positive : 0 < info.handle
  · have set : req.handleFlag &&& 1 ≠ 0 := by
      rw [finished.handleFlag, if_pos positive]
      decide
    have present : ¬ info.handle ≤ 0 := Int32.not_le.mpr positive
    have fd : info.handle ≠ -1 ∧ info.handle ≠ 0 := by
      constructor
      · intro unset
        rw [unset] at positive
        exact absurd positive (by decide)
      · intro zero
        rw [zero] at positive
        exact absurd positive (by decide)
    have address : addr = { fd := info.handle, buf := (fillAddr info).buf } := by
      simp only [fillAddr, positive, if_true, requireAddr, fd.1, fd.2, false_and, if_false,
        Except.ok.injEq] at resolved
      rw [← resolved]
      rfl
    have planes := finished.dst.planes
    simp only [HandlePlanesClear, set, used, ne_eq, not_false_eq_true, forall_const,
      List.mem_singleton, forall_eq, planes.1, planes.2, present, false_or]
    rw [Channel.words, fillChannel, address]
    cases mode with
    | planar => rfl
    | fdOffsets => simp [planeWords, fd.1, FillPlanesVanish]
    | words =>
        simp only [planeWords, FillPlanesVanish, Bool.false_eq_true, if_false]
        constructor
        · rintro ⟨buf, plane⟩
          rw [buf] at plane
          exact ⟨buf, (planeAfter_zero _ _).mp plane⟩
        · rintro ⟨buf, area⟩
          rw [buf]
          exact ⟨rfl, (planeAfter_zero _ _).mpr area⟩
  · have clear : HandlePlanesClear req := by
      intro set
      rw [finished.handleFlag, if_neg positive] at set
      exact absurd rfl set
    exact ⟨fun _ => Or.inl (Int32.not_lt.mp positive), fun _ => clear⟩

theorem palette_planes_iff {session : RgaSession} {src dst lut : RgaInfo} {lutRet : Int32}
    {req : RgaReq} (built : (generateColorPaletteReq session src dst lut lutRet).2 = .ok req) :
    HandlePlanesClear req ↔ addressMode session = .fdOffsets ∨
      (planeArea src.rect = 0 ∧ planeArea dst.rect = 0 ∧
        lut.rect.wstride * lut.rect.hstride = 0) := by
  obtain ⟨plan, planned, finished, renderMode⟩ := generateColorPaletteReq_finished built
  obtain ⟨handles, srcOpened, dstOpened, table, _, _⟩ := planPalette_ok planned
  obtain ⟨_, srcRect, srcAddr⟩ := openChannel_ok srcOpened
  obtain ⟨_, dstRect, dstAddr⟩ := openChannel_ok dstOpened
  have srcPlanes := finished.src.handle_planes handles.1 srcAddr
  have dstPlanes := finished.dst.handle_planes handles.2.1 dstAddr
  simp only [srcRect, Bool.false_eq_true, and_false, false_or] at srcPlanes
  simp only [dstRect, Bool.false_eq_true, and_false, false_or] at dstPlanes
  have lutPlanes : (req.pat.uvAddr = 0 ∧ req.pat.vAddr = 0) ↔
      addressMode session = .fdOffsets ∨ lut.rect.wstride * lut.rect.hstride = 0 := by
    have nonzero : lut.handle ≠ 0 := by
      intro zero
      rw [zero] at handles
      exact absurd handles.2.2 (by decide)
    rw [finished.pat.planes.1, finished.pat.planes.2, table, Channel.words]
    simp only [openLut, resolveAddr, nonzero, ne_eq, not_false_eq_true, if_true, if_false]
    simpa using planeWords_handle (addressMode session) lut.rect.wstride lut.rect.hstride false
      handles.2.2
  have used : usedImages req = [req.src, req.dst, req.pat] := by
    unfold usedImages
    rw [renderMode]
    rfl
  have set : req.handleFlag &&& 1 ≠ 0 := by
    rw [finished.handleFlag]
    decide
  constructor
  · intro clear
    have all := clear set
    rw [used] at all
    have first := srcPlanes.mp (all req.src (by simp))
    have second := dstPlanes.mp (all req.dst (by simp))
    have third := lutPlanes.mp (all req.pat (by simp))
    rcases first with offsets | first
    · exact Or.inl offsets
    rcases second with offsets | second
    · exact Or.inl offsets
    rcases third with offsets | third
    · exact Or.inl offsets
    exact Or.inr ⟨first, second, third⟩
  · intro safe _
    rw [used]
    simp only [List.forall_mem_cons, List.not_mem_nil, false_implies, implies_true, and_true]
    rcases safe with offsets | ⟨first, second, third⟩
    · exact ⟨srcPlanes.mpr (Or.inl offsets), dstPlanes.mpr (Or.inl offsets),
        lutPlanes.mpr (Or.inl offsets)⟩
    · exact ⟨srcPlanes.mpr (Or.inr first), dstPlanes.mpr (Or.inr second),
        lutPlanes.mpr (Or.inr third)⟩

theorem handlePlanes_clear_iff (call : BuilderCall) {req : RgaReq}
    (built : call.build = .ok req) : HandlePlanesClear req ↔ call.HandleSafe := by
  cases call with
  | blit session src dst src1 =>
      obtain ⟨plan, planned, finished⟩ := generateBlitReq_finished built
      refine blit_planes_iff (planBlit_planned planned) finished ?_
      intro flag
      cases addressMode session <;> simp [flag]
  | fill session dst => exact fill_planes_iff built
  | palette session src dst lut lutRet => exact palette_planes_iff built
  | legacyBlit ctx src dst src1 =>
      obtain ⟨plan, planned, finished⟩ := rgaBlitReq_finished built
      refine blit_planes_iff (planRgaBlit_planned planned) finished ?_
      simp
  | legacyFill ctx dst => exact fill_planes_iff built

def handleFill : RgaInfo :=
  { handle := 4, rect := { width := 1920, height := 1080, wstride := 1920, hstride := 1080 } }

theorem handlePlanes_clear_blit :
    ∃ req, (BuilderCall.blit {} handleFill handleFill none).build = .ok req ∧
      req.handleFlag = 1 ∧ HandlePlanesClear req := by
  obtain ⟨req, built, flag⟩ := Result.exists_ok_of_any
    (BuilderCall.blit {} handleFill handleFill none).build
    (fun req => req.handleFlag == 1) (by decide +kernel)
  exact ⟨req, built, by simpa using flag,
    (handlePlanes_clear_iff _ built).mpr (Or.inr (Or.inl rfl))⟩

theorem handlePlanes_fill_leaks :
    ∃ req, (BuilderCall.fill {} handleFill).build = .ok req ∧ req.handleFlag = 1 ∧
      req.dst.vAddr = 2073600 ∧ ¬ HandlePlanesClear req := by
  obtain ⟨req, built, computed⟩ := Result.exists_ok_of_any
    (BuilderCall.fill {} handleFill).build
    (fun req => req.renderMode == colorFillMode && req.handleFlag == 1 &&
      req.dst.vAddr == 2073600) (by decide +kernel)
  simp only [Bool.and_eq_true, beq_iff_eq] at computed
  obtain ⟨⟨fill, flag⟩, plane⟩ := computed
  refine ⟨req, built, flag, plane, ?_⟩
  intro clear
  have planes := clear (by rw [flag]; decide) req.dst (by simp [usedImages, fill])
  rw [plane] at planes
  exact absurd planes.2 (by decide)

end LibRga
