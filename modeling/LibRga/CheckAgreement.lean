import LibRga.Bounds

/-!
`imcheck` against the checks of a submission on the same arguments.
-/

namespace LibRga

/-- A bounded quantifier runs over its list, also where the words themselves are finitely many. -/
instance (priority := 2000) decidableForallMem {α : Type} (list : List α) (p : α → Prop)
    [DecidablePred p] : Decidable (∀ x ∈ list, p x) :=
  List.decidableBAll p list

/-! What both of them settle -/

def settledImage (image : RgaBuffer) (rect : ImRect) : RgaBuffer :=
  { rgaApplyRect image rect with format := convertToRgaFormat image.format }

def settledBuffers (args : TaskArgs) : TaskBuffers :=
  { src := settledImage args.src args.srect
    dst := settledImage args.dst args.drect
    pat := if takesPattern args then settledImage args.pat args.prect else args.pat
    patTaken := takesPattern args }

theorem settledImage_valid (image : RgaBuffer) (rect : ImRect) :
    rgaIsBufferValid (settledImage image rect) = rgaIsBufferValid image := by
  unfold settledImage rgaApplyRect
  split_ifs <;> rfl

def FormatKnown (image : RgaBuffer) : Prop :=
  convertToRgaFormat image.format ≠ rkFormatUnknown

theorem settleBuffer_ok_iff {image settled : RgaBuffer} {rect : ImRect} :
    settleBuffer image rect = .ok settled ↔
      FormatKnown image ∧ settled = settledImage image rect := by
  simp only [settleBuffer, Result.ite_error_eq_ok, Except.ok.injEq, FormatKnown]
  exact and_congr_right fun _ => eq_comm

theorem takesPattern_valid {args : TaskArgs} (taken : takesPattern args = true) :
    rgaIsBufferValid args.pat = true := by
  simp only [takesPattern, Bool.and_eq_true] at taken
  exact taken.2

open Result in
theorem settleBuffers_ok_iff {args : TaskArgs} {buffers : TaskBuffers} :
    settleBuffers args = .ok buffers ↔
      FormatKnown args.src ∧ FormatKnown args.dst ∧
        (takesPattern args = true → FormatKnown args.pat) ∧ buffers = settledBuffers args := by
  simp only [settleBuffers, bind_eq_ok, settleBuffer_ok_iff]
  by_cases taken : takesPattern args = true
  · have accepted : ¬((rgaSetBufferInfo args.pat {}).1.ok = false) := by
      rw [rgaSetBufferInfo_ok, takesPattern_valid taken]
      decide
    simp only [taken, if_true, if_neg accepted, bind_eq_ok, settleBuffer_ok_iff, settledBuffers]
    constructor
    · rintro ⟨_, ⟨src, rfl⟩, _, ⟨dst, rfl⟩, _, ⟨pat, rfl⟩, same⟩
      cases same
      exact ⟨src, dst, fun _ => pat, rfl⟩
    · rintro ⟨src, dst, pat, rfl⟩
      exact ⟨_, ⟨src, rfl⟩, _, ⟨dst, rfl⟩, _, ⟨pat trivial, rfl⟩, rfl⟩
  · simp only [taken, settledBuffers]
    constructor
    · rintro ⟨_, ⟨src, rfl⟩, _, ⟨dst, rfl⟩, same⟩
      cases same
      exact ⟨src, dst, by simp, by simp⟩
    · rintro ⟨src, dst, _, rfl⟩
      exact ⟨_, ⟨src, rfl⟩, _, ⟨dst, rfl⟩, by simp⟩

/-! The check itself -/

theorem rgaCheck_pat (table : RgaInfoTableEntry) (src dst pat other : RgaBuffer)
    (srcRect dstRect patRect : ImRect) {modeUsage : Int32}
    (unblended : has modeUsage imAlphaBlendMask = false) :
    rgaCheck table src dst pat srcRect dstRect patRect modeUsage =
      rgaCheck table src dst other srcRect dstRect patRect modeUsage := by
  simp [rgaCheck, unblended, rgaCheckFeature]

def croppedRect (args : TaskArgs) : ImRect :=
  if has args.usage imCrop then
    { args.drect with width := args.srect.width, height := args.srect.height }
  else args.drect

def settledCheck (table : RgaInfoTableEntry) (args : TaskArgs) (drect : ImRect) : ImStatus :=
  rgaCheck table (settledImage args.src args.srect) (settledImage args.dst drect)
    (settledBuffers args).pat args.srect drect args.prect args.usage

def imcheck (table : RgaInfoTableEntry) (args : TaskArgs) : ImStatus :=
  rgaCheckExternal table args.src args.dst args.pat args.srect args.drect args.prect args.usage

theorem imcheck_noError_iff (table : RgaInfoTableEntry) (args : TaskArgs) :
    imcheck table args = .noError ↔
      FormatKnown args.src ∧ FormatKnown args.dst ∧
        (rgaIsBufferValid args.pat = true → FormatKnown args.pat) ∧
        settledCheck table args (croppedRect args) = .noError := by
  have pattern : rgaCheck table (settledImage args.src args.srect)
      (settledImage args.dst (croppedRect args))
      (if rgaIsBufferValid args.pat then settledImage args.pat args.prect else args.pat)
      args.srect (croppedRect args) args.prect args.usage =
      settledCheck table args (croppedRect args) := by
    unfold settledCheck settledBuffers
    by_cases blended : has args.usage imAlphaBlendMask = true
    · simp [takesPattern, blended]
    · exact rgaCheck_pat _ _ _ _ _ _ _ _ (by simpa using blended)
  have format (image : RgaBuffer) (rect : ImRect) :
      (rgaApplyRect image rect).format = image.format := by
    unfold rgaApplyRect
    split <;> rfl
  rw [← pattern]
  unfold imcheck rgaCheckExternal FormatKnown croppedRect settledImage
  dsimp only
  rw [format, format]
  by_cases src : convertToRgaFormat args.src.format = rkFormatUnknown
  · simp [src]
  by_cases dst : convertToRgaFormat args.dst.format = rkFormatUnknown
  · simp [src, dst]
  by_cases pat : rgaIsBufferValid args.pat = true ∧
      convertToRgaFormat args.pat.format = rkFormatUnknown
  · simp [src, dst, pat]
  · simp only [src, dst, pat, if_false, ne_eq, not_false_eq_true, true_and]
    have known : rgaIsBufferValid args.pat = true →
        ¬ convertToRgaFormat args.pat.format = rkFormatUnknown :=
      fun valid unknown => pat ⟨valid, unknown⟩
    exact ⟨fun passes => ⟨known, passes⟩, And.right⟩

/-! The rectangle check of the builders, after `rga_check` -/

/-- What `checkRectForRga` asks beyond the check of an image: an empty rectangle stands for the
whole buffer and must still fit at its offset, and a YUV stride is a multiple of four. -/
def RectFits (rect : ImRect) (image : RgaBuffer) : Prop :=
  (0 < rect.width ∧ 0 < rect.height ∨
      rect.x + image.width ≤ image.wstride ∧ rect.y + image.height ≤ image.hstride) ∧
    (isYuvFormat (rkRgaGetRgaFormat (rkRgaCompatibleFormat image.format)) = true →
      image.wstride % 4 = 0)

theorem formatFamilies_yuv : ∀ family ∈ formatFamilies, ∀ format ∈ family.formats,
    isYuvFormat (rkRgaGetRgaFormat (rkRgaCompatibleFormat format)) = true →
      family.yuv = true := by
  decide +kernel

/-- No format is in two branches, so the first branch that has it is the only one. -/
theorem formatFamilies_apart : ∀ family ∈ formatFamilies, ∀ format ∈ family.formats,
    ∀ other ∈ formatFamilies, format ∈ other.formats →
      other.support = family.support ∧ other.yuv = family.yuv ∧ other.bpp = family.bpp := by
  decide +kernel

theorem rgaCheckFormat_family {info : RgaBuffer} {rect : ImRect} {formatUsage : UInt32}
    {modeUsage : Int32} (checked : rgaCheckFormat info rect formatUsage modeUsage = .noError) :
    ∃ family ∈ formatFamilies, info.format ∈ family.formats := by
  unfold rgaCheckFormat at checked
  split at checked
  · cases checked
  · rename_i family found
    exact ⟨family, List.mem_of_find?_eq_some found, by simpa using List.find?_some found⟩

theorem rgaCheckFormat_noError_iff {info : RgaBuffer} {family : FormatFamily}
    (listed : family ∈ formatFamilies) (member : info.format ∈ family.formats) (rect : ImRect)
    (formatUsage : UInt32) (modeUsage : Int32) :
    rgaCheckFormat info rect formatUsage modeUsage = .noError ↔
      (hasBit (~~~formatUsage) family.support = false ∨
        family.bpp = true ∧ has modeUsage imColorPalette = true) ∧
      (family.yuv = true → rgaYuvLegalityCheck info rect = .success) := by
  unfold rgaCheckFormat
  split
  · rename_i none
    have passed := List.find?_eq_none.mp none family listed
    simp [member] at passed
  · rename_i other found
    have contained : info.format ∈ other.formats := by
      simpa using List.find?_some found
    obtain ⟨support, yuv, bpp⟩ := formatFamilies_apart family listed info.format member other
      (List.mem_of_find?_eq_some found) contained
    rw [support, yuv, bpp]
    have legality : rgaYuvLegalityCheck info rect ≠ .noError := by
      unfold rgaYuvLegalityCheck
      split <;> decide
    rw [← Bool.not_eq_true]
    split_ifs with unsupported illegal
    · exact iff_of_false (by decide) (fun allowed => by tauto)
    · exact iff_of_false legality (fun allowed => by tauto)
    · exact iff_of_true rfl (by tauto)

theorem rgaCheckFormat_even {info : RgaBuffer} {rect : ImRect} {formatUsage : UInt32}
    {modeUsage : Int32} (checked : rgaCheckFormat info rect formatUsage modeUsage = .noError)
    (yuv : isYuvFormat (rkRgaGetRgaFormat (rkRgaCompatibleFormat info.format)) = true) :
    info.hstride % 2 = 0 ∧ info.width % 2 = 0 ∧ info.height % 2 = 0 ∧ rect.x % 2 = 0 ∧
      rect.y % 2 = 0 := by
  obtain ⟨family, listed, member⟩ := rgaCheckFormat_family checked
  have flagged := formatFamilies_yuv family listed info.format member yuv
  have legal := ((rgaCheckFormat_noError_iff listed member _ _ _).mp checked).2 flagged
  unfold rgaYuvLegalityCheck at legal
  split_ifs at legal with odd
  simp only [not_or, not_not] at odd
  exact ⟨odd.2.1, odd.2.2.1, odd.2.2.2.1, odd.2.2.2.2.1, odd.2.2.2.2.2.1⟩

theorem checkRectForRga_iff {image : RgaBuffer} {rect : ImRect} {resolution : RgaInfoResolution}
    {formatUsage byteStride : UInt32} {modeUsage : Int32} {isRead : Bool}
    (checked : rgaCheckImage (settledImage image rect) rect resolution formatUsage byteStride
      modeUsage isRead = .noError) :
    checkRectForRga (channelRect rect (settledImage image rect)) = true ↔
      RectFits rect (settledImage image rect) := by
  unfold rgaCheckImage at checked
  simp only [andThen_eq_noError] at checked
  obtain ⟨info, format, _⟩ := checked
  have even := rgaCheckFormat_even format
  have size (given : 0 < rect.width ∧ 0 < rect.height) :
      (settledImage image rect).width = rect.width ∧
        (settledImage image rect).height = rect.height := by
    simp [settledImage, rgaApplyRect, given]
  generalize settledImage image rect = settled at info even size ⊢
  obtain ⟨small, stride, _, negative, outside⟩ := rgaCheckInfo_passed info
  simp only [not_or, Int32.not_lt] at small stride negative outside
  have tall : settled.hstride ≠ 0 := by
    rintro zero
    have low := Int32.le_trans small.2 (zero ▸ stride.2)
    exact absurd low (by decide)
  have complete : (channelRect rect settled).hstride = settled.hstride := if_neg tall
  have inside : 0 < rect.width ∧ 0 < rect.height →
      rect.x + settled.width ≤ settled.wstride ∧ rect.y + settled.height ≤ settled.hstride := by
    intro given
    obtain ⟨width, height⟩ := size given
    rw [width, height, Int32.add_comm, Int32.add_comm rect.y]
    exact outside
  unfold checkRectForRga RectFits
  rw [complete]
  show (if rect.x < 0 ∨ rect.y < 0 then false
    else if settled.width < 2 ∨ settled.height < 2 then false
    else if settled.wstride < rect.x + settled.width then false
    else if settled.hstride < rect.y + settled.height then false
    else if isYuvFormat (rkRgaGetRgaFormat (rkRgaCompatibleFormat settled.format)) = true ∧
      (settled.wstride % 4 ≠ 0 ∨ rect.x % 2 ≠ 0 ∨ settled.width % 2 ≠ 0 ∨ rect.y % 2 ≠ 0 ∨
        settled.height % 2 ≠ 0 ∨ settled.hstride % 2 ≠ 0) then false
    else true) = true ↔ _
  rw [if_neg (by simp [negative]), if_neg (by simp [small])]
  by_cases fits : rect.x + settled.width ≤ settled.wstride ∧
      rect.y + settled.height ≤ settled.hstride
  · rw [if_neg (Int32.not_lt.mpr fits.1), if_neg (Int32.not_lt.mpr fits.2)]
    by_cases yuv : isYuvFormat (rkRgaGetRgaFormat (rkRgaCompatibleFormat settled.format)) = true
    · obtain ⟨rows, wide, high, left, top⟩ := even yuv
      simp [yuv, rows, wide, high, left, top, fits]
    · simp [yuv, fits]
  · have notGiven : ¬(0 < rect.width ∧ 0 < rect.height) := fun given => fits (inside given)
    simp only [notGiven, fits, or_false, false_and, iff_false]
    by_cases right : settled.wstride < rect.x + settled.width
    · simp [right]
    · have bottom : settled.hstride < rect.y + settled.height := by
        by_contra other
        exact fits ⟨Int32.not_lt.mp right, Int32.not_lt.mp other⟩
      simp [right, bottom]

def BuildExit.isRect : BuildExit → Bool
  | .srcRect | .src1Rect | .dstRect => true
  | _ => false

theorem checkBlitRects_error_iff {src dst : Channel} {src1 : Option Channel} :
    (∃ exit, checkBlitRects src dst src1 = .error exit ∧ exit.isRect = true) ↔
      ¬ ∀ channel ∈ src :: dst :: src1.toList, checkRectForRga channel.rect = true := by
  unfold checkBlitRects
  cases srcOk : checkRectForRga src.rect with
  | false => simp [srcOk, BuildExit.isRect]
  | true =>
      cases src1 with
      | none =>
          cases dstOk : checkRectForRga dst.rect <;> simp [srcOk, dstOk, BuildExit.isRect]
      | some channel =>
          cases patOk : checkRectForRga channel.rect <;>
            cases dstOk : checkRectForRga dst.rect <;>
              simp [srcOk, patOk, dstOk, BuildExit.isRect]

theorem exists_openChannel {info : RgaInfo} (resolved : ¬ Unresolved info) :
    ∃ channel, openChannel info = .ok channel := by
  cases opened : openChannel info with
  | ok channel => exact ⟨channel, rfl⟩
  | error exit => exact absurd (openChannel_error_iff.mp opened).1 resolved

theorem exists_openSrc1 {src1 : Option RgaInfo} (resolved : ∀ info ∈ src1, ¬ Unresolved info) :
    ∃ channel, openSrc1 src1 = .ok channel := by
  cases opened : openSrc1 src1 with
  | ok channel => exact ⟨channel, rfl⟩
  | error exit =>
      obtain ⟨⟨info, three, unresolved⟩, _⟩ := openSrc1_error_iff.mp opened
      exact absurd unresolved (resolved info three)

theorem planBlit_rect_iff {session : RgaSession} {src dst : RgaInfo} {src1 : Option RgaInfo}
    (whole : ∀ info ∈ src1, isRectValid info.rect = true) :
    (∃ exit, planBlit session src dst src1 = .error exit ∧ exit.isRect = true) ↔
      (∃ flag, handleMode (src.handle :: dst.handle :: (src1.map RgaInfo.handle).toList) =
          .ok flag) ∧
        (∀ info ∈ src :: dst :: src1.toList, ¬ Unresolved info) ∧
        ¬ ∀ info ∈ src :: dst :: src1.toList, checkRectForRga (relRect info.rect) = true := by
  unfold planBlit
  cases mode : handleMode (src.handle :: dst.handle :: (src1.map RgaInfo.handle).toList) with
  | error exit =>
      rw [handleMode_error mode]
      simp [bind, Except.bind, BuildExit.isRect]
  | ok flag =>
      by_cases resolved : ∀ info ∈ src :: dst :: src1.toList, ¬ Unresolved info
      · obtain ⟨srcChannel, srcOpened⟩ := exists_openChannel (resolved src (by simp))
        obtain ⟨dstChannel, dstOpened⟩ := exists_openChannel (resolved dst (by simp))
        have third : ∀ info ∈ src1, ¬ Unresolved info := fun info three =>
          resolved info (by simp [Option.mem_def.mp three])
        obtain ⟨src1Channel, src1Opened⟩ := exists_openSrc1 third
        have rects : (∀ channel ∈ srcChannel :: dstChannel :: src1Channel.toList,
            checkRectForRga channel.rect = true) ↔
            ∀ info ∈ src :: dst :: src1.toList, checkRectForRga (relRect info.rect) = true := by
          have first := (openChannel_ok srcOpened).2.1
          have second := (openChannel_ok dstOpened).2.1
          cases src1 with
          | none =>
              rw [openSrc1_none src1Opened]
              simp [first, second]
          | some info =>
              obtain ⟨third, same, _, rect, _⟩ := openSrc1_ok src1Opened
              rw [whole info rfl, if_pos rfl] at rect
              rw [same]
              simp [first, second, rect]
        rw [← rects, ← checkBlitRects_error_iff, and_iff_right ⟨flag, rfl⟩, and_iff_right resolved]
        simp only [srcOpened, dstOpened, src1Opened, bind, Except.bind]
        cases checked : checkBlitRects srcChannel dstChannel src1Channel with
        | error exit => simp
        | ok _ =>
            dsimp only
            split_ifs <;> simp [BuildExit.isRect]
      · have missing : ∃ info ∈ src :: dst :: src1.toList, Unresolved info := by
          by_contra none
          exact resolved fun info used unresolved => none ⟨info, used, unresolved⟩
        have stale : planBlit session src dst src1 = .error .noAddress :=
          planBlit_noAddress_iff.mpr ⟨⟨flag, mode⟩, missing⟩
        unfold planBlit at stale
        rw [mode] at stale
        rw [stale]
        refine iff_of_false ?_ fun claim => resolved claim.2.1
        rintro ⟨_, same, rect⟩
        cases same
        cases rect

theorem generateBlitReq_rect_iff {session : RgaSession} {src dst : RgaInfo}
    {src1 : Option RgaInfo} :
    (∃ exit, generateBlitReq session src dst src1 = .error exit ∧ exit.isRect = true) ↔
      ∃ exit, planBlit session src dst src1 = .error exit ∧ exit.isRect = true := by
  refine exists_congr fun exit => and_congr_left fun rect => ?_
  apply generateBlitReq_exit_iff
  rintro rfl
  cases rect

/-! The rectangle check of a submission -/

section Submission

variable {session : RgaSession} {env : TaskEnv} {manager : JobManager RgaReq} {args : TaskArgs}
  {buffers : TaskBuffers} {mode : Int32}

def checkedRects (args : TaskArgs) : List (ImRect × RgaBuffer) :=
  let src := (args.srect, settledImage args.src args.srect)
  let dst := (args.drect, settledImage args.dst args.drect)
  match taskPath args with
  | .fill => []
  | .palette | .blit => [src, dst]
  | .blend => [src, dst, (args.prect, settledImage args.pat args.prect)]

def RectsFit (args : TaskArgs) : Prop :=
  ∀ pair ∈ checkedRects args, RectFits pair.1 pair.2

def ReachesRects (args : TaskArgs) : Prop :=
  match taskPath args with
  | .fill => False
  | .palette => ∀ image ∈ requiredBuffers args, 0 < image.handle.toInt32
  | .blend | .blit =>
      ((∀ image ∈ requiredBuffers args, 0 < image.handle.toInt32) ∨
          ∀ image ∈ requiredBuffers args, image.handle.toInt32 ≤ 0) ∧
        ∀ image ∈ requiredBuffers args, ¬ Unaddressed image

theorem rgaCheckImage_rectValid {image : RgaBuffer} {rect : ImRect}
    {resolution : RgaInfoResolution} {formatUsage byteStride : UInt32} {modeUsage : Int32}
    {isRead : Bool} (checked : rgaCheckImage image rect resolution formatUsage byteStride modeUsage
      isRead = .noError) : isRectValid (rgaSetRect rect image) = true := by
  unfold rgaCheckImage at checked
  obtain ⟨wide, high, _⟩ := rgaCheckInfo_noError (andThen_eq_noError.mp checked).1
  simp only [isRectValid, rgaSetRect, Bool.and_eq_true, decide_eq_true_eq, Int32.lt_iff_toInt_lt]
  have zero : (0 : Int32).toInt = 0 := by decide
  omega

theorem rgaCheck_images {table : RgaInfoTableEntry} {src dst pat : RgaBuffer}
    {srcRect dstRect patRect : ImRect} {modeUsage : Int32}
    (checked : rgaCheck table src dst pat srcRect dstRect patRect modeUsage = .noError) :
    (has modeUsage imColorFill = false → rgaCheckImage src srcRect table.inputResolution
        table.inputFormat table.byteStride modeUsage true = .noError) ∧
      rgaCheckImage dst dstRect table.outputResolution table.outputFormat table.byteStride
        modeUsage false = .noError ∧
      ((has modeUsage imAlphaBlendMask && rgaIsBufferValid pat) = true →
        rgaCheckImage pat patRect table.inputResolution table.inputFormat table.byteStride
          modeUsage true = .noError) := by
  unfold rgaCheck at checked
  simp only [andThen_eq_noError] at checked
  obtain ⟨_, srcOk, patOk, dstOk, _⟩ := checked
  refine ⟨?_, dstOk, ?_⟩
  · intro notFill
    simpa [notFill] using srcOk
  · intro enabled
    rw [if_pos enabled] at patOk
    split at patOk
    · cases patOk
    · exact patOk

theorem requireAddr_exit {addr : BufferAddr} {exit : BuildExit}
    (refused : requireAddr addr = .error exit) : exit.isRect = false := by
  unfold requireAddr at refused
  split_ifs at refused <;> cases refused <;> rfl

theorem planPalette_rect_iff {src dst lut : RgaInfo} :
    (∃ exit, planPalette src dst lut = .error exit ∧ exit.isRect = true) ↔
      (0 < src.handle ∧ 0 < dst.handle ∧ 0 < lut.handle) ∧
        ¬(checkRectForRga (relRect src.rect) = true ∧
          checkRectForRga (relRect dst.rect) = true) := by
  unfold planPalette
  by_cases handles : src.handle ≤ 0 ∨ dst.handle ≤ 0 ∨ lut.handle ≤ 0
  · rw [if_pos handles]
    refine iff_of_false ?_ fun claim => ?_
    · rintro ⟨_, same, rect⟩
      cases same
      cases rect
    · simp only [← Int32.not_le] at claim
      tauto
  · rw [if_neg handles]
    simp only [not_or, Int32.not_le] at handles
    have resolved {info : RgaInfo} (positive : 0 < info.handle) :
        ∃ channel, openChannel info = .ok channel := by
      refine exists_openChannel fun unresolved => ?_
      obtain ⟨nonzero, set⟩ := ne_of_positive positive
      simp [Unresolved, resolveAddr, nonzero, requireAddr, set] at unresolved
    obtain ⟨srcChannel, srcOpened⟩ := resolved handles.1
    obtain ⟨dstChannel, dstOpened⟩ := resolved handles.2.1
    rw [← (openChannel_ok srcOpened).2.1, ← (openChannel_ok dstOpened).2.1]
    simp only [srcOpened, dstOpened, bind, Except.bind, handles, true_and]
    cases srcOk : checkRectForRga srcChannel.rect <;>
      cases dstOk : checkRectForRga dstChannel.rect <;>
        simp [BuildExit.isRect]

theorem palette_rect_iff {src dst lut : RgaInfo} {lutRet : Int32} :
    (∃ exit, (generateColorPaletteReq session src dst lut lutRet).2 = .error exit ∧
        exit.isRect = true) ↔
      ∃ exit, planPalette src dst lut = .error exit ∧ exit.isRect = true := by
  unfold generateColorPaletteReq
  cases planned : planPalette src dst lut with
  | error exit => simp
  | ok plan =>
      refine iff_of_false ?_ (by simp)
      rintro ⟨exit, refused, rect⟩
      dsimp only at refused
      split at refused
      · cases refused
      · split at refused <;> cases refused
        cases rect

theorem taskPatInfo_handle (settled : settleBuffers args = .ok buffers)
    (path : taskPath args = .palette) :
    (taskPatInfo args buffers).handle = args.pat.handle.toInt32 := by
  by_cases valid : rgaIsBufferValid args.pat = true
  · have palette : has args.usage imColorPalette = true := by
      unfold taskPath at path
      split_ifs at path with fill palette
      exact palette
    have taken : buffers.patTaken = true := by
      rw [settleBuffers_patTaken settled]
      simp [takesPattern, palette, valid]
    exact (taskPatInfo_resolved taken).2
  · have left : buffers.patTaken = false := by
      rw [settleBuffers_patTaken settled]
      simp [takesPattern, valid]
    have empty : args.pat.handle = 0 := by
      simp only [rgaIsBufferValid, Bool.or_eq_true, decide_eq_true_eq, not_or, UInt32.not_lt,
        UInt32.le_zero_iff] at valid
      exact valid.2
    rw [empty]
    simp [taskPatInfo, left, valid]

theorem taskPath_blend_usage (path : taskPath args = .blend) :
    (has args.usage imAlphaBlendMask && rgaIsBufferValid args.pat) = true := by
  unfold taskPath at path
  split_ifs at path with fill palette blend
  exact blend

theorem reaches_iff {infos : List RgaInfo} {images : List RgaBuffer}
    (described : List.Forall₂ Describes infos images) :
    (∃ flag, handleMode (infos.map RgaInfo.handle) = .ok flag) ∧
        (∀ info ∈ infos, ¬ Unresolved info) ↔
      ((∀ image ∈ images, 0 < image.handle.toInt32) ∨
          ∀ image ∈ images, image.handle.toInt32 ≤ 0) ∧
        ∀ image ∈ images, ¬ Unaddressed image := by
  have unresolved := not_congr (describes_unresolved described)
  simp only [not_exists, not_and] at unresolved
  rw [handleMode_ok_iff, describes_handles described, unresolved]
  simp only [List.mem_map, forall_exists_index, and_imp, forall_apply_eq_imp_iff₂]

theorem rect_exit_iff (env : TaskEnv) (accepted : Accepted session args buffers mode) :
    (∃ exit, (taskBuilt session env args buffers mode).2 = .error exit ∧ exit.isRect = true) ↔
      ReachesRects args ∧ ¬ RectsFit args := by
  obtain ⟨_, _, _, rfl⟩ := settleBuffers_ok_iff.mp accepted.settled
  obtain ⟨srcOk, dstOk, patOk⟩ := rgaCheck_images accepted.checked
  have dstFits := checkRectForRga_iff dstOk
  cases path : taskPath args with
  | fill =>
      refine iff_of_false ?_ (by simp [ReachesRects, path])
      rintro ⟨exit, refused, rect⟩
      simp only [taskBuilt, path, buildTask] at refused
      rw [requireAddr_exit (fillReq_error refused)] at rect
      cases rect
  | palette =>
      have notFill := notFill_of_path path (by decide)
      have srcFits := checkRectForRga_iff (srcOk notFill)
      simp only [taskBuilt, path, buildTask, taskSetup, palette_rect_iff, planPalette_rect_iff]
      rw [(taskSrcInfo_resolved notFill).2, taskDstInfo_resolved.2,
        taskPatInfo_handle accepted.settled path, taskSrcInfo_rect, taskDstInfo_rect]
      simp only [ReachesRects, RectsFit, checkedRects, requiredBuffers, path, List.forall_mem_cons,
        List.not_mem_nil, false_imp_iff, implies_true, and_true, ← srcFits, ← dstFits]
      exact Iff.rfl
  | blit =>
      have notFill := notFill_of_path path (by decide)
      have srcFits := checkRectForRga_iff (srcOk notFill)
      have described : List.Forall₂ Describes
          [taskSrcInfo env args (settledBuffers args),
            taskDstInfo env args (settledBuffers args) mode] [args.src, args.dst] :=
        .cons (taskSrcInfo_resolved notFill) (.cons taskDstInfo_resolved .nil)
      have reaches := reaches_iff described
      simp only [taskBuilt, path, buildTask, taskSetup, generateBlitReq_rect_iff]
      rw [planBlit_rect_iff (by simp), ← and_assoc]
      refine and_congr ?_ (not_congr ?_)
      · simpa [ReachesRects, requiredBuffers, path] using reaches
      · simp only [RectsFit, checkedRects, path, List.forall_mem_cons, List.not_mem_nil,
          false_imp_iff, implies_true, and_true, ← srcFits, ← dstFits, Option.toList_none,
          taskSrcInfo_rect, taskDstInfo_rect]
        exact Iff.rfl
  | blend =>
      have notFill := notFill_of_path path (by decide)
      have srcFits := checkRectForRga_iff (srcOk notFill)
      have taken := taskPath_blend path
      have pattern : (settledBuffers args).pat = settledImage args.pat args.prect := if_pos taken
      rw [pattern, settledImage_valid] at patOk
      have patImage := patOk (taskPath_blend_usage path)
      have patFits := checkRectForRga_iff patImage
      have described : List.Forall₂ Describes
          [taskSrcInfo env args (settledBuffers args),
            taskDstInfo env args (settledBuffers args) mode, taskPatInfo args (settledBuffers args)]
          [args.src, args.dst, args.pat] :=
        .cons (taskSrcInfo_resolved notFill)
          (.cons taskDstInfo_resolved (.cons (taskPatInfo_resolved taken) .nil))
      have reaches := reaches_iff described
      have patRect : (taskPatInfo args (settledBuffers args)).rect =
          rgaSetRect args.prect (settledImage args.pat args.prect) := by
        rw [taskPatInfo_rect taken, pattern]
      have whole : isRectValid (taskPatInfo args (settledBuffers args)).rect = true := by
        rw [patRect]
        exact rgaCheckImage_rectValid patImage
      simp only [taskBuilt, path, buildTask, taskSetup, generateBlitReq_rect_iff]
      rw [planBlit_rect_iff (by simpa using whole), ← and_assoc]
      refine and_congr ?_ (not_congr ?_)
      · simpa [ReachesRects, requiredBuffers, path] using reaches
      · simp only [RectsFit, checkedRects, path, List.forall_mem_cons, List.not_mem_nil,
          false_imp_iff, implies_true, and_true, ← srcFits, ← dstFits, ← patFits,
          Option.toList_some, taskSrcInfo_rect, taskDstInfo_rect, patRect]
        exact Iff.rfl

/-! Agreement -/

structure NotRejected (session : RgaSession) (env : TaskEnv) (args : TaskArgs) : Prop where
  address : (bufferInfoStatus args).ok = true
  pattern : takesPattern args = true → (rgaSetBufferInfo args.pat {}).1.ok = true
  check : ∀ buffers, settleBuffers args = .ok buffers →
    rgaCheck session.hardwareInfo buffers.src buffers.dst buffers.pat
      args.srect args.drect args.prect args.usage = .noError
  rects : ∀ buffers mode exit, Accepted session args buffers mode → lacksFence args = false →
    (taskBuilt session env args buffers mode).2 = .error exit → exit.isRect = false

def ImcheckSound (session : RgaSession) (env : TaskEnv) (args : TaskArgs) : Prop :=
  imcheck session.hardwareInfo args = .noError → NotRejected session env args

def ImcheckComplete (session : RgaSession) (env : TaskEnv) (manager : JobManager RgaReq)
    (args : TaskArgs) : Prop :=
  imcheck session.hardwareInfo args ≠ .noError →
    (rgaTaskSubmit session env manager args).status.ok = false

theorem notRejected_iff (env : TaskEnv)
    (passes : imcheck session.hardwareInfo args = .noError) :
    NotRejected session env args ↔
      rgaIsBufferValid args.dst = true ∧
        (has args.usage imCrop = true →
          settledCheck session.hardwareInfo args args.drect = .noError) ∧
        (∀ mode, Accepted session args (settledBuffers args) mode → lacksFence args = false →
          ReachesRects args → RectsFit args) := by
  obtain ⟨src, dst, pat, checked⟩ := (imcheck_noError_iff session.hardwareInfo args).mp passes
  have settles : settleBuffers args = .ok (settledBuffers args) :=
    settleBuffers_ok_iff.mpr ⟨src, dst, fun taken => pat (takesPattern_valid taken), rfl⟩
  constructor
  · intro clear
    refine ⟨?_, fun _ => clear.check _ settles, ?_⟩
    · have address := clear.address
      rwa [bufferInfoStatus, rgaSetBufferInfo_ok] at address
    · intro mode accepted fence reaches
      by_contra unfit
      obtain ⟨exit, refused, rect⟩ := (rect_exit_iff env accepted).mpr ⟨reaches, unfit⟩
      rw [clear.rects _ mode exit accepted fence refused] at rect
      cases rect
  · rintro ⟨valid, cropped, fit⟩
    refine ⟨?_, ?_, ?_, ?_⟩
    · rw [bufferInfoStatus, rgaSetBufferInfo_ok]
      exact valid
    · intro taken
      rw [rgaSetBufferInfo_ok]
      exact takesPattern_valid taken
    · intro buffers settled
      rw [settles] at settled
      cases settled
      by_cases crop : has args.usage imCrop = true
      · exact cropped crop
      · have same : croppedRect args = args.drect := if_neg crop
        rw [same] at checked
        exact checked
    · intro buffers mode exit accepted fence refused
      have same := accepted.settled
      rw [settles] at same
      cases same
      by_contra rect
      obtain ⟨reaches, unfit⟩ := (rect_exit_iff env accepted).mp
        ⟨exit, refused, by simpa using rect⟩
      exact unfit (fit mode accepted fence reaches)

theorem imcheckComplete_of (env : TaskEnv) (manager : JobManager RgaReq)
    (unused : rgaIsBufferValid args.pat = true → takesPattern args = true ∨ FormatKnown args.pat)
    (cropped : settledCheck session.hardwareInfo args args.drect = .noError →
      settledCheck session.hardwareInfo args (croppedRect args) = .noError) :
    ImcheckComplete session env manager args := by
  intro fails
  cases validated : validateTask session args with
  | error status =>
      simp only [rgaTaskSubmit, prepareTask, validated]
      exact refuses_not_ok (validateTask_error validated)
  | ok pair =>
      obtain ⟨buffers, mode⟩ := pair
      have accepted := validateTask_ok_iff.mp validated
      obtain ⟨src, dst, pat, rfl⟩ := settleBuffers_ok_iff.mp accepted.settled
      refine absurd ((imcheck_noError_iff session.hardwareInfo args).mpr ⟨src, dst, ?_, ?_⟩) fails
      · intro valid
        obtain taken | known := unused valid
        · exact pat taken
        · exact known
      · exact cropped accepted.checked

end Submission

/-- A copy from YUYV with a stride that is even but not a multiple of four. -/
def yuyvCopy : TaskArgs :=
  { src := { handle := 1, width := 66, height := 64, wstride := 66, hstride := 64
             format := rkFormatYuyv422 }
    dst := { handle := 2, width := 66, height := 64, wstride := 66, hstride := 64 }
    opt := some {}
    usage := imSync }

/-- A cropped copy into a smaller rectangle, which `imcheck` takes to be as large as its source. -/
def croppingCopy : TaskArgs :=
  { src := importedBuffer 1
    dst := { handle := 2, width := 32, height := 32, wstride := 32, hstride := 32 }
    srect := ⟨0, 0, 64, 64⟩
    drect := ⟨0, 0, 32, 32⟩
    opt := some {}
    usage := imCrop ||| imSync }

end LibRga
