import LibRga.Deferral
import LibRga.HandlePlanes

/-!
The rectangles of emitted requests inside their buffers.
-/

namespace LibRga

/-! Narrowing to the fields of a request -/

theorem toU16_emod (value : Int32) : ((toU16 value).toNat : Int) = value.toInt % 65536 := by
  have bits : value.toInt = value.toBitVec.toInt := rfl
  rw [BitVec.toInt_eq_toNat_cond] at bits
  have word : (toU16 value).toNat = value.toBitVec.toNat % 65536 := rfl
  have bound := value.toBitVec.isLt
  split at bits <;> omega

theorem toU16_toNat (value : Int32) (low : 0 ≤ value.toInt) (high : value.toInt < 65536) :
    ((toU16 value).toNat : Int) = value.toInt := by
  rw [toU16_emod]
  omega

theorem toInt_add_small {left right : Int32} (low : 0 ≤ left.toInt) (other : 0 ≤ right.toInt)
    (fits : left.toInt + right.toInt < 2 ^ 31) :
    (left + right).toInt = left.toInt + right.toInt := by
  rw [Int32.toInt_add, Int.bmod_eq_of_le (by omega) (by omega)]

def LowNest (offset length stride : Int32) : Prop :=
  (toU16 offset).toNat + (toU16 length).toNat ≤ (toU16 stride).toNat

theorem lowNest_of_nested {offset length stride : Int32} (low : 0 ≤ offset.toInt)
    (positive : 0 ≤ length.toInt) (nested : offset.toInt + length.toInt ≤ stride.toInt)
    (small : stride.toInt < 65536) : LowNest offset length stride := by
  have first := toU16_toNat offset low (by omega)
  have second := toU16_toNat length positive (by omega)
  have third := toU16_toNat stride (by omega) small
  unfold LowNest
  omega

/-! Requests -/

/-- A turn by 90 or 270 degrees shows in its sine, and exchanges the sides of `dst` and `pat`. -/
def unturned (req : RgaReq) (img : RgaImgInfo) : RgaImgInfo :=
  if req.sina = 0 then img else { img with actW := img.actH, actH := img.actW }

def ImageInBounds (img : RgaImgInfo) : Prop :=
  img.xOffset.toNat + img.actW.toNat ≤ img.virW.toNat ∧
    img.yOffset.toNat + img.actH.toNat ≤ img.virH.toNat

/-- Every channel in use stays inside its buffer, on the fields as emitted. -/
def InBounds (req : RgaReq) : Prop :=
  ∀ img ∈ usedImages { req with dst := unturned req req.dst, pat := unturned req req.pat },
    ImageInBounds img

instance (img : RgaImgInfo) : Decidable (ImageInBounds img) :=
  inferInstanceAs (Decidable (_ ∧ _))

instance (req : RgaReq) : Decidable (InBounds req) :=
  inferInstanceAs (Decidable (∀ img ∈ _, ImageInBounds img))

def RectNest (rect : RgaRect) : Prop :=
  LowNest rect.xoffset rect.width rect.wstride ∧ LowNest rect.yoffset rect.height rect.hstride

/-- An image as the builders leave it, with the sides of its rectangle in their own order. -/
def PlainImage (mode : AddressMode) (single : Bool) (img : RgaImgInfo) (channel : Channel) : Prop :=
  TaggedImage img (channel.image mode single false)

def plainImages (req : RgaReq) : List RgaImgInfo :=
  usedImages { req with dst := unturned req req.dst, pat := unturned req req.pat }

theorem turnOf_sina (rotation : Int32) (stretch : Bool) :
    sinaTable (turnOf rotation stretch).orientation = 0 ↔
      (turnOf rotation stretch).swapped = false := by
  unfold turnOf
  dsimp only
  split_ifs <;> decide

theorem unturned_tagged {req : RgaReq} {img : RgaImgInfo} {channel : Channel}
    {mode : AddressMode} {single swapped : Bool} (turned : req.sina = 0 ↔ swapped = false)
    (tagged : TaggedImage img (channel.image mode single swapped)) :
    TaggedImage (unturned req img) (channel.image mode single false) := by
  obtain ⟨rdMode, rfl⟩ := tagged
  refine ⟨rdMode, ?_⟩
  cases swapped with
  | false => rw [unturned, if_pos (turned.mpr rfl)]
  | true =>
      rw [unturned, if_neg (fun zero => by cases turned.mp zero)]
      rfl

theorem FinishedBlit.placed {plan : BlitPlan} {mode : AddressMode} {single : Bool} {req : RgaReq}
    (finished : FinishedBlit plan mode single req) :
    List.Forall₂ (PlainImage mode single) (plainImages req)
      (plan.src :: plan.dst :: plan.src1.toList) := by
  have turned : req.sina = 0 ↔ (turnOf plan.src.info.rotation plan.stretch).swapped = false := by
    rw [finished.sina, turnOf_sina]
  have dst := unturned_tagged turned finished.dst
  unfold plainImages usedImages
  dsimp only
  rw [finished.renderMode, finished.bsfilterFlag, if_neg (by decide), if_pos rfl]
  cases three : plan.src1 with
  | none => exact .cons finished.src (.cons dst .nil)
  | some channel =>
      have pat := unturned_tagged turned (finished.pat channel three)
      exact .cons finished.src (.cons dst (.cons pat .nil))

theorem FinishedPalette.placed {plan : PalettePlan} {mode : AddressMode} {req : RgaReq}
    (finished : FinishedPalette plan mode req)
    (render : req.renderMode ≠ colorFillMode ∧ req.renderMode ≠ bitbltMode) :
    List.Forall₂ (PlainImage mode false) (plainImages req) [plan.src, plan.dst, plan.lut] := by
  have turned := iff_of_true finished.sina (rfl : false = false)
  unfold plainImages usedImages
  dsimp only
  rw [if_neg render.1, if_neg render.2]
  exact .cons finished.src (.cons (unturned_tagged turned finished.dst)
    (.cons (unturned_tagged turned finished.pat) .nil))

theorem FinishedFill.placed {info : RgaInfo} {addr : BufferAddr} {mode : AddressMode}
    {req : RgaReq} (finished : FinishedFill info addr mode req) :
    List.Forall₂ (PlainImage mode false) (plainImages req) [fillChannel info addr] := by
  have turned := iff_of_true finished.sina (rfl : false = false)
  unfold plainImages usedImages
  dsimp only
  rw [finished.renderMode, if_pos rfl]
  exact .cons (unturned_tagged turned finished.dst) .nil

theorem inBounds_placed {req : RgaReq} {channels : List Channel} {mode : AddressMode}
    {single : Bool} (placed : List.Forall₂ (PlainImage mode single) (plainImages req) channels) :
    InBounds req ↔ ∀ channel ∈ channels, RectNest channel.rect := by
  show (∀ img ∈ plainImages req, ImageInBounds img) ↔ _
  generalize plainImages req = images at placed ⊢
  induction placed with
  | nil => simp
  | cons image _ ih =>
      obtain ⟨_, rfl⟩ := image
      rw [List.forall_mem_cons, List.forall_mem_cons, ih]
      exact Iff.rfl

/-! The rectangles of a submission -/

/-- What the checks of a rectangle leave: no negative value, and sums that may have wrapped. -/
structure RectChecked (rect : RgaRect) : Prop where
  xoffset : 0 ≤ rect.xoffset.toInt
  yoffset : 0 ≤ rect.yoffset.toInt
  width : 0 ≤ rect.width.toInt
  height : 0 ≤ rect.height.toInt
  right : (rect.xoffset + rect.width).toInt ≤ rect.wstride.toInt
  bottom : (rect.yoffset + rect.height).toInt ≤ rect.hstride.toInt

/-- The sums of a checked axis must not wrap, an unchecked one must nest by itself, and strides
must fit into 16 bits; else it is left to the low halves. -/
def AxisSafe (checked : Bool) (offset length stride : Int32) : Prop :=
  (if checked then offset.toInt + length.toInt < 2 ^ 31 ∧ stride.toInt < 65536
    else 0 ≤ offset.toInt ∧ 0 ≤ length.toInt ∧ offset.toInt + length.toInt ≤ stride.toInt ∧
      stride.toInt < 65536) ∨
    LowNest offset length stride

def RectSafe (checked : Bool) (rect : RgaRect) : Prop :=
  AxisSafe checked rect.xoffset rect.width rect.wstride ∧
    AxisSafe checked rect.yoffset rect.height rect.hstride

theorem axisSafe_iff {checked : Bool} {offset length stride : Int32}
    (fits : checked = true → 0 ≤ offset.toInt ∧ 0 ≤ length.toInt ∧
      (offset + length).toInt ≤ stride.toInt) :
    AxisSafe checked offset length stride ↔ LowNest offset length stride := by
  refine ⟨?_, .inr⟩
  rintro (safe | nested)
  · cases checked with
    | false =>
        obtain ⟨low, positive, nested, small⟩ := safe
        exact lowNest_of_nested low positive nested small
    | true =>
        obtain ⟨noWrap, small⟩ := safe
        obtain ⟨low, positive, inside⟩ := fits rfl
        rw [toInt_add_small low positive noWrap] at inside
        exact lowNest_of_nested low positive inside small
  · exact nested

theorem rectSafe_iff {checked : Bool} {rect : RgaRect} (fits : checked = true → RectChecked rect) :
    RectSafe checked rect ↔ RectNest rect :=
  and_congr
    (axisSafe_iff fun set => ⟨(fits set).xoffset, (fits set).width, (fits set).right⟩)
    (axisSafe_iff fun set => ⟨(fits set).yoffset, (fits set).height, (fits set).bottom⟩)

theorem checkRectForRga_checked {rect : RgaRect} (passed : checkRectForRga rect = true) :
    RectChecked rect := by
  unfold checkRectForRga at passed
  split_ifs at passed with offsets sides right bottom
  simp only [not_or, Int32.not_lt, Int32.le_iff_toInt_le] at offsets sides right bottom
  obtain ⟨left, top⟩ := offsets
  obtain ⟨wide, high⟩ := sides
  have two : (2 : Int32).toInt = 2 := by decide
  have zero : (0 : Int32).toInt = 0 := by decide
  rw [two] at wide high
  rw [zero] at left top
  exact ⟨left, top, by omega, by omega, right, bottom⟩

def channelRect (rect : ImRect) (image : RgaBuffer) : RgaRect :=
  relRect (rgaSetRect rect image)

/-- The rectangles of the channels in use, each with whether a check covers it as it is sent. A
fill checks the rectangle it was given, which is not the one it sends if that is empty; the table
of a palette is not checked. -/
def usedRects (args : TaskArgs) (buffers : TaskBuffers) : List (Bool × RgaRect) :=
  let src := (true, channelRect args.srect buffers.src)
  let dst := (true, channelRect args.drect buffers.dst)
  match taskPath args with
  | .fill => [(decide (0 < args.drect.width ∧ 0 < args.drect.height),
      channelRect args.drect buffers.dst)]
  | .palette => [src, dst, (false, rgaSetRect args.prect buffers.pat)]
  | .blend => [src, dst, (true, channelRect args.prect buffers.pat)]
  | .blit => [src, dst]

theorem rgaCheck_dst {table : RgaInfoTableEntry} {src dst pat : RgaBuffer}
    {srcRect dstRect patRect : ImRect} {modeUsage : Int32}
    (checked : rgaCheck table src dst pat srcRect dstRect patRect modeUsage = .noError) :
    rgaCheckInfo dst dstRect table.outputResolution = .noError := by
  unfold rgaCheck at checked
  simp only [andThen_eq_noError] at checked
  have image := checked.2.2.2.1
  unfold rgaCheckImage at image
  exact (andThen_eq_noError.mp image).1

theorem rgaCheckInfo_passed {info : RgaBuffer} {rect : ImRect} {resolution : RgaInfoResolution}
    (checked : rgaCheckInfo info rect resolution = .noError) :
    ¬(info.width < 2 ∨ info.height < 2) ∧
      ¬(info.wstride < info.width ∨ info.hstride < info.height) ∧
      ¬(rect.width = 0 ∧ 0 < rect.height ∨ 0 < rect.width ∧ rect.height = 0) ∧
      ¬(rect.width < 0 ∨ rect.height < 0 ∨ rect.x < 0 ∨ rect.y < 0) ∧
      ¬(info.wstride < rect.width + rect.x ∨ info.hstride < rect.height + rect.y) := by
  unfold rgaCheckInfo at checked
  split_ifs at checked with empty small stride partly negative outside
  exact ⟨small, stride, partly, negative, outside⟩

theorem rgaCheckInfo_noError {info : RgaBuffer} {rect : ImRect} {resolution : RgaInfoResolution}
    (checked : rgaCheckInfo info rect resolution = .noError) :
    2 ≤ info.width.toInt ∧ 2 ≤ info.height.toInt ∧
      info.width.toInt ≤ info.wstride.toInt ∧ info.height.toInt ≤ info.hstride.toInt ∧
      0 ≤ rect.x.toInt ∧ 0 ≤ rect.y.toInt ∧
      (rect.width + rect.x).toInt ≤ info.wstride.toInt ∧
      (rect.height + rect.y).toInt ≤ info.hstride.toInt := by
  obtain ⟨small, stride, _, negative, outside⟩ := rgaCheckInfo_passed checked
  simp only [not_or, Int32.not_lt, Int32.le_iff_toInt_le] at small stride negative outside
  have two : (2 : Int32).toInt = 2 := by decide
  have zero : (0 : Int32).toInt = 0 := by decide
  rw [two] at small
  rw [zero] at negative
  exact ⟨small.1, small.2, stride.1, stride.2, negative.2.2.1, negative.2.2.2, outside.1,
    outside.2⟩

section Submission

variable {session : RgaSession} {env : TaskEnv} {manager : JobManager RgaReq} {args : TaskArgs}
  {buffers : TaskBuffers} {mode : Int32}

open Result in
theorem settleBuffers_dst (settled : settleBuffers args = .ok buffers) :
    buffers.dst = { rgaApplyRect args.dst args.drect with
      format := convertToRgaFormat args.dst.format } := by
  simp only [settleBuffers, bind_eq_ok, settleBuffer, ite_error_eq_ok] at settled
  obtain ⟨src, _, dst, ⟨_, settledDst⟩, rest⟩ := settled
  cases settledDst
  split at rest
  · simp only [ite_error_eq_ok, bind_eq_ok] at rest
    obtain ⟨_, _, _, same⟩ := rest
    cases same
    rfl
  · cases rest
    rfl

theorem dst_strides (accepted : Accepted session args buffers mode) :
    2 ≤ buffers.dst.width.toInt ∧ 2 ≤ buffers.dst.height.toInt ∧
      2 ≤ (channelRect args.drect buffers.dst).wstride.toInt ∧
      (channelRect args.drect buffers.dst).hstride = buffers.dst.hstride ∧
      2 ≤ buffers.dst.hstride.toInt := by
  obtain ⟨wide, high, long, tall, _⟩ := rgaCheckInfo_noError (rgaCheck_dst accepted.checked)
  have stride : buffers.dst.hstride ≠ 0 := by
    rintro zero
    rw [zero] at tall
    have none : (0 : Int32).toInt = 0 := by decide
    omega
  refine ⟨wide, high, ?_, if_neg stride, by omega⟩
  show 2 ≤ buffers.dst.wstride.toInt
  omega

theorem fill_checked (accepted : Accepted session args buffers mode)
    (given : 0 < args.drect.width ∧ 0 < args.drect.height) :
    RectChecked (channelRect args.drect buffers.dst) := by
  obtain ⟨wide, high, _, _, left, top, right, bottom⟩ :=
    rgaCheckInfo_noError (rgaCheck_dst accepted.checked)
  obtain ⟨_, _, _, complete, _⟩ := dst_strides accepted
  have settled := settleBuffers_dst accepted.settled
  have width : buffers.dst.width = args.drect.width := by
    rw [settled, rgaApplyRect, if_pos given]
  have height : buffers.dst.height = args.drect.height := by
    rw [settled, rgaApplyRect, if_pos given]
  rw [Int32.add_comm, ← width] at right
  rw [Int32.add_comm, ← height] at bottom
  refine ⟨left, top, ?_, ?_, right, ?_⟩
  · show 0 ≤ buffers.dst.width.toInt
    omega
  · show 0 ≤ buffers.dst.height.toInt
    omega
  · rw [complete]
    exact bottom

theorem taskSrcInfo_rect :
    (taskSrcInfo env args buffers).rect = rgaSetRect args.srect buffers.src := rfl

theorem taskDstInfo_rect :
    (taskDstInfo env args buffers mode).rect = rgaSetRect args.drect buffers.dst := rfl

theorem taskPatInfo_rect (taken : buffers.patTaken = true) :
    (taskPatInfo args buffers).rect = rgaSetRect args.prect buffers.pat := by
  unfold taskPatInfo
  rw [if_pos taken]
  split <;> rfl

theorem blit_inBounds {src dst : RgaInfo} {src1 : Option RgaInfo} {req : RgaReq}
    (built : generateBlitReq session src dst src1 = .ok req) :
    (∀ rect ∈ relRect src.rect :: relRect dst.rect ::
        (src1.map fun info => relRect info.rect).toList, RectChecked rect) ∧
      (InBounds req ↔ ∀ rect ∈ relRect src.rect :: relRect dst.rect ::
        (src1.map fun info => relRect info.rect).toList, RectNest rect) := by
  obtain ⟨plan, planned, finished⟩ := generateBlitReq_finished built
  have plans := planBlit_planned planned
  obtain ⟨srcRect, dstRect, src1Rect⟩ := plans.rects_eq
  obtain ⟨srcOk, dstOk, src1Ok⟩ := checkBlitRects_ok plans.rects
  rw [inBounds_placed finished.placed, ← srcRect, ← dstRect, ← src1Rect]
  constructor
  · simp only [List.mem_cons, Option.mem_toList, Option.map_eq_some_iff]
    rintro rect (rfl | rfl | ⟨channel, three, rfl⟩)
    · exact checkRectForRga_checked srcOk
    · exact checkRectForRga_checked dstOk
    · exact checkRectForRga_checked (src1Ok channel three)
  · cases plan.src1 <;> simp

structure Framed (args : TaskArgs) (buffers : TaskBuffers) (req : RgaReq) : Prop where
  checked : ∀ pair ∈ usedRects args buffers, pair.1 = true → RectChecked pair.2
  inBounds_iff : InBounds req ↔ ∀ pair ∈ usedRects args buffers, RectNest pair.2

theorem Framed.safe_iff {req : RgaReq} (framed : Framed args buffers req) :
    InBounds req ↔ ∀ pair ∈ usedRects args buffers, RectSafe pair.1 pair.2 := by
  rw [framed.inBounds_iff]
  exact forall₂_congr fun pair used => (rectSafe_iff (framed.checked pair used)).symm

theorem palette_framed {plan : PalettePlan} {req : RgaReq} (path : taskPath args = .palette)
    (planned : planPalette (taskSrcInfo env args buffers) (taskDstInfo env args buffers mode)
      (taskPatInfo args buffers) = .ok plan)
    (finished : FinishedPalette plan (addressMode session) req)
    (render : req.renderMode ≠ colorFillMode ∧ req.renderMode ≠ bitbltMode) :
    Framed args buffers req := by
  obtain ⟨⟨_, _, handle⟩, src, dst, lut, srcOk, dstOk⟩ := planPalette_ok planned
  have srcRect := (openChannel_ok src).2.1
  have dstRect := (openChannel_ok dst).2.1
  have lutRect : RectNest plan.lut.rect ↔ RectNest (rgaSetRect args.prect buffers.pat) := by
    rw [lut, ← taskPatInfo_rect (patTaken_of_handle handle)]
    exact Iff.rfl
  rw [taskSrcInfo_rect] at srcRect
  rw [taskDstInfo_rect] at dstRect
  rw [srcRect] at srcOk
  rw [dstRect] at dstOk
  constructor
  · simp only [usedRects, path, List.mem_cons, List.not_mem_nil, or_false]
    rintro pair (rfl | rfl | rfl) set
    · exact checkRectForRga_checked srcOk
    · exact checkRectForRga_checked dstOk
    · cases set
  · rw [inBounds_placed (finished.placed render)]
    simp [usedRects, path, channelRect, srcRect, dstRect, lutRect]

theorem built_framed {req : RgaReq} (accepted : Accepted session args buffers mode)
    (built : (taskBuilt session env args buffers mode).2 = .ok req) :
    Framed args buffers req := by
  cases path : taskPath args with
  | fill =>
      simp only [taskBuilt, path, buildTask] at built
      obtain ⟨addr, _, finished⟩ := fillReq_finished built
      constructor
      · simp only [usedRects, path, List.mem_singleton]
        rintro pair rfl given
        exact fill_checked accepted (by simpa using given)
      · rw [inBounds_placed finished.placed]
        simp [usedRects, path, channelRect, taskSetup, taskDstInfo_rect, fillChannel]
  | palette =>
      simp only [taskBuilt, path, buildTask] at built
      obtain ⟨plan, planned, finished, render⟩ := generateColorPaletteReq_finished built
      exact palette_framed path planned finished (by rw [render]; decide)
  | blit =>
      simp only [taskBuilt, path, buildTask, taskSetup] at built
      obtain ⟨checked, inBounds⟩ := blit_inBounds built
      simp only [taskSrcInfo_rect, taskDstInfo_rect, Option.map_none, Option.toList_none]
        at checked inBounds
      constructor
      · simp only [usedRects, path, List.mem_cons, List.not_mem_nil, or_false]
        rintro pair (rfl | rfl) _
        · exact checked _ (by simp [channelRect])
        · exact checked _ (by simp [channelRect])
      · rw [inBounds]
        simp [usedRects, path, channelRect]
  | blend =>
      simp only [taskBuilt, path, buildTask, taskSetup] at built
      have taken := (settleBuffers_patTaken accepted.settled).trans (taskPath_blend path)
      obtain ⟨checked, inBounds⟩ := blit_inBounds built
      simp only [taskSrcInfo_rect, taskDstInfo_rect, taskPatInfo_rect taken, Option.map_some,
        Option.toList_some] at checked inBounds
      constructor
      · simp only [usedRects, path, List.mem_cons, List.not_mem_nil, or_false]
        rintro pair (rfl | rfl | rfl) _
        · exact checked _ (by simp [channelRect])
        · exact checked _ (by simp [channelRect])
        · exact checked _ (by simp [channelRect])
      · rw [inBounds]
        simp [usedRects, path, channelRect]

theorem table_framed {req : RgaReq}
    (update : (taskBuilt session env args buffers mode).1 = some req) :
    Framed args buffers req := by
  obtain ⟨path, plan, planned, issued⟩ := taskBuilt_update update
  obtain ⟨finished, render⟩ := paletteLutReq_finished issued
  exact palette_framed path planned finished (by rw [render]; decide)

def handedOver (result : SubmitResult) : List RgaReq :=
  blitRequests result.events ++ queuedRequests result.events

/-- A request that was built goes to a known driver, or into a job that has room for it. -/
def Delivers (session : RgaSession) (manager : JobManager RgaReq) (args : TaskArgs) : Prop :=
  args.jobHandle = 0 ∧ session.driverType ≠ .unknown ∨
    0 < args.jobHandle ∧ JobRoom manager args.jobHandle 1

theorem submitJob_handed (manager : JobManager RgaReq) (args : TaskArgs) (req emitted : RgaReq) :
    emitted ∈ blitRequests (submitJob manager args req).events ++
        queuedRequests (submitJob manager args req).events ↔
      emitted = req ∧ JobRoom manager args.jobHandle 1 := by
  obtain ⟨room, _, _, _, same⟩ | ⟨full, same⟩ := submitJob_cases manager args req
  · rw [same]
    simp [blitRequests, queuedRequests, room]
  · rw [same]
    simp [blitRequests, queuedRequests, full]

theorem submitReq_handed (session : RgaSession) (env : TaskEnv) (manager : JobManager RgaReq)
    (args : TaskArgs) (req emitted : RgaReq) :
    emitted ∈ handedOver (submitReq session env manager args req) ↔
      emitted = req ∧ Delivers session manager args := by
  obtain ⟨_, _, _, blits, queues⟩ := submitReq_branch session env manager args req
  unfold handedOver Delivers
  by_cases job : 0 < args.jobHandle
  · have nonzero : args.jobHandle ≠ 0 := by
      rintro zero
      rw [zero] at job
      exact absurd job (by decide)
    rw [if_pos job] at blits queues
    simp only [blits, queues, job, nonzero, false_and, true_and, false_or]
    exact submitJob_handed manager args req emitted
  · have zero : args.jobHandle = 0 := eq_zero_of_not_pos job
    rw [if_neg job] at blits queues
    rw [blits, queues]
    by_cases driver : session.driverType = .unknown
    · simp [submitDirect_unknown driver, driver, blitRequests, queuedRequests, zero]
    · have quiet : queuedRequests (submitDirect session env manager args req).events = [] := by
        unfold submitDirect
        split
        · rfl
        · dsimp only
          split_ifs <;> rfl
      simp [submitDirect_blits driver, driver, quiet, zero]

theorem handedOver_accepted (env : TaskEnv) (manager : JobManager RgaReq)
    (accepted : Accepted session args buffers mode) (fence : lacksFence args = false)
    (emitted : RgaReq) :
    emitted ∈ handedOver (rgaTaskSubmit session env manager args) ↔
      (taskBuilt session env args buffers mode).1 = some emitted ∨
        builtReq (taskBuilt session env args buffers mode).2 = some emitted ∧
          Delivers session manager args := by
  have prepared := prepareTask_accepted env accepted fence
  have gauss := gaussEvents_quiet env args
  unfold rgaTaskSubmit
  rw [prepared]
  cases builtReq (taskBuilt session env args buffers mode).2 with
  | none => simp [handedOver, gauss]
  | some req =>
      have handed := submitReq_handed session env manager args req emitted
      simp only [handedOver, List.mem_append] at handed
      simp only [Option.elim_some, handedOver, blitRequests_append, queuedRequests_append,
        gauss, blitRequests_lutEvents, queuedRequests_lutEvents, List.nil_append,
        List.mem_append, Option.mem_toList, Option.some.injEq, or_assoc, handed, eq_comm]

theorem handedOver_unaccepted (env : TaskEnv) (manager : JobManager RgaReq)
    (refused : ∀ buffers mode, Accepted session args buffers mode → lacksFence args = true) :
    handedOver (rgaTaskSubmit session env manager args) = [] := by
  have gauss := gaussEvents_quiet env args
  cases rgaTaskSubmit_submitted session env manager args with
  | invalid status _ same =>
      rw [same]
      rfl
  | noFence buffers mode accepted fence same => simp [same, handedOver, gauss]
  | refused buffers mode accepted fence =>
      rw [refused buffers mode accepted] at fence
      cases fence
  | built buffers mode accepted fence =>
      rw [refused buffers mode accepted] at fence
      cases fence

theorem inBounds_zero : InBounds {} := by
  intro img used
  have same : img = {} := by
    simpa [usedImages, unturned, colorFillMode, bitbltMode] using used
  rw [same]
  exact ⟨Nat.le_refl 0, Nat.le_refl 0⟩

theorem palette_fresh (path : taskPath args = .palette) : ¬ StaleReturn session args := by
  rintro ⟨_, _, blits | blits, _, _⟩
  · rw [path] at blits
    cases blits
  · rw [path] at blits
    cases blits

theorem accepts_of_update {req : RgaReq}
    (update : (taskBuilt session env args buffers mode).1 = some req) :
    ¬ BuilderRefuses session (taskPath args) (taskSetup env args buffers mode) := by
  have path := (taskBuilt_update update).1
  rw [path]
  intro refuses
  have none := (palette_refused path refuses).1
  rw [update] at none
  cases none

theorem handedOver_forall_iff (env : TaskEnv) (manager : JobManager RgaReq) {P : RgaReq → Prop}
    {Q : Prop} (accepted : Accepted session args buffers mode) (fence : lacksFence args = false)
    (framed : ∀ req, (taskBuilt session env args buffers mode).1 = some req ∨
      (taskBuilt session env args buffers mode).2 = .ok req → (P req ↔ Q)) :
    (∀ req ∈ handedOver (rgaTaskSubmit session env manager args), P req) ↔
      (¬ BuilderRefuses session (taskPath args) (taskSetup env args buffers mode) →
        (taskPath args = .palette ∨ Delivers session manager args) →
        (StaleReturn session args → P {}) ∧ (¬ StaleReturn session args → Q)) := by
  have handed := handedOver_accepted env manager accepted fence
  constructor
  · intro all accepts emits
    by_cases path : taskPath args = .palette
    · obtain ⟨plan, planned⟩ := palette_planned (path ▸ accepts)
      have updates := (palette_updates session env.lutRet planned).1
      have issued : (taskBuilt session env args buffers mode).1.isSome = true := by
        simpa only [taskBuilt, path, buildTask] using updates
      obtain ⟨update, issued⟩ := Option.isSome_iff_exists.mp issued
      have every := all update ((handed update).mpr (.inl issued))
      have holds := (framed update (.inl issued)).mp every
      exact ⟨fun stale => absurd stale (palette_fresh path), fun _ => holds⟩
    · have delivers := emits.resolve_left path
      cases builds : builtReq (taskBuilt session env args buffers mode).2 with
      | none => exact absurd ((built_refused_iff path).mp builds) accepts
      | some req =>
          have holds := all req ((handed req).mpr (.inr ⟨builds, delivers⟩))
          obtain built | ⟨exit, exits, stale, zero⟩ := builtReq_eq_some builds
          · exact ⟨fun returns => absurd returns (fresh_of_built accepted built),
              fun _ => (framed req (.inr built)).mp holds⟩
          · rw [zero] at holds
            exact ⟨fun _ => holds, fun fresh => absurd
              (fillsRequest_iff.mpr fresh buffers mode exit accepted fence exits) stale⟩
  · intro holds req member
    obtain update | ⟨builds, delivers⟩ := (handed req).mp member
    · have path := (taskBuilt_update update).1
      exact (framed req (.inl update)).mpr
        ((holds (accepts_of_update update) (.inl path)).2 (palette_fresh path))
    · obtain built | ⟨exit, exits, stale, zero⟩ := builtReq_eq_some builds
      · exact (framed req (.inr built)).mpr
          ((holds (accepts_of_built built) (.inr delivers)).2 (fresh_of_built accepted built))
      · have returns : StaleReturn session args := by
          by_contra fresh
          exact stale (fillsRequest_iff.mpr fresh buffers mode exit accepted fence exits)
        have path : taskPath args ≠ .palette := fun palette => palette_fresh palette returns
        have accepts : ¬ BuilderRefuses session (taskPath args)
            (taskSetup env args buffers mode) := by
          intro refuses
          rw [(built_refused_iff path).mpr refuses] at builds
          cases builds
        rw [zero]
        exact (holds accepts (.inr delivers)).1 returns

end Submission

/-- A fill of an empty rectangle at `x = 10`, which sends the width of the whole buffer. -/
def emptyRectFill : TaskArgs :=
  { dst := importedBuffer 1, drect := { x := 10 }, opt := some {}, usage := imColorFill ||| imSync }

/-- A copy whose source offset and width add up to `2 ^ 31`, which is negative to the checks. -/
def wrappedCopy : TaskArgs :=
  { src := importedBuffer 1, dst := importedBuffer 2, srect := ⟨0x7ffffffe, 0, 2, 2⟩
    drect := ⟨0, 0, 2, 2⟩, opt := some {}, usage := imSync }

end LibRga
