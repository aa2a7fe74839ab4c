import LibRga.ColourSpace

/-!
The RGB-to-YUV selector of a fill.

A fill has no table for the full conversion; it keeps the low byte of the mode
word that `rga_task_submit` resolves for blits.
-/

namespace LibRga

def spaceStandard (space : Int32) : Int32 :=
  if space ∈ yuvSpaces then space else imYuvBt601LimitRange

/-- What the caller asks of a YUV destination: a selector, else a space it declares, else the
default. -/
def fillStandard (dst : RgaBuffer) : Int32 :=
  if has dst.colorSpaceMode imRgbToYuvMask then r2ySpace (dst.colorSpaceMode &&& imRgbToYuvMask)
  else spaceStandard dst.colorSpaceMode

/-- The selector bits of `yuv2rgb_mode` name the standard; for BT.709 full range there are none. -/
def FillEncodes (word : UInt8) (standard : Int32) : Prop :=
  ∃ selector ∈ edgeSelector (imRgbFull, standard), word &&& selector.1 = selector.2

instance (word : UInt8) (standard : Int32) : Decidable (FillEncodes word standard) :=
  inferInstanceAs (Decidable (∃ selector ∈ edgeSelector (imRgbFull, standard), _))

def fillWord (mode : Int32) : UInt8 :=
  if 0 < mode then toU8 mode else 8

/-- The edges that the mode of a fill is resolved for, as if it read its source. -/
def fillEdges (buffers : TaskBuffers) : List (Int32 × Int32) :=
  let source := bufferColorSpace buffers.src
  let between := bufferColorSpace buffers.pat
  let target := bufferColorSpace buffers.dst
  if rgaIsBufferValid buffers.pat then [(source, between), (between, target)]
  else [(source, target)]

/-- Edges without a row, or none that changes, leave the default. Otherwise one of them must lead
from RGB to the standard, with a selector. -/
def EdgesFit (full : Bool) (standard : Int32) (edges : List (Int32 × Int32)) : Prop :=
  if (∃ edge ∈ edges, edge.1 ∉ mainSpaces ∨ edge.2 ∉ mainSpaces) ∨
      ∀ edge ∈ edges, edge.1 = edge.2 then
    standard = imYuvBt601LimitRange
  else (∃ edge ∈ edges, edge.1 = imRgbFull ∧ edge.2 = standard) ∧
    standard ≠ imYuvBt709FullRange ∧ (standard = imYuvBt709LimitRange → full = false)

instance (full : Bool) (standard : Int32) (edges : List (Int32 × Int32)) :
    Decidable (EdgesFit full standard edges) :=
  inferInstanceAs (Decidable (ite _ _ _))

def FillFits (entry : RgaInfoTableEntry) (buffers : TaskBuffers) : Prop :=
  let full := hasBit entry.feature imRgaSupportFeatureDstFullCsc
  let mode := buffers.dst.colorSpaceMode
  let standard := fillStandard buffers.dst
  if has mode imRgbToYuvMask then
    standard = imYuvBt709LimitRange → full = true →
      has mode imYuvToRgbMask = false ∧
        (rgaIsBufferValid buffers.pat && isRgbFormat buffers.pat.format) = true
  else declaresSpace buffers.src buffers.dst buffers.pat = true →
    EdgesFit full standard (fillEdges buffers)

/-! The words -/

theorem selector_encodes : ∀ mode ∈ colorSpaceModes, has mode imRgbToYuvMask = true →
    FillEncodes (fillWord mode) (r2ySpace (mode &&& imRgbToYuvMask)) ∧
      (mode &&& imRgbToYuvMask = imRgbToYuvBt709Limit →
        ¬ FillEncodes (fillWord ((mode &&& imYuvToRgbMask) ||| rgb2yuv709Limit))
          imYuvBt709LimitRange) := by
  decide +kernel

theorem direct_encodes : ∀ full : Bool, ∀ source ∈ mainSpaces, ∀ target ∈ mainSpaces,
    FillEncodes (fillWord (rgaGetCscMode (if full then fullCscEntry else {}) source target))
        (spaceStandard target) ↔
      EdgesFit full (spaceStandard target) [(source, target)] := by
  decide +kernel

theorem between_encodes : ∀ full : Bool, ∀ source ∈ mainSpaces, ∀ between ∈ mainSpaces,
    ∀ target ∈ mainSpaces,
      let entry := if full then fullCscEntry else {}
      FillEncodes (fillWord (rgaGetCscMode entry source between |||
          rgaGetCscMode entry between target)) (spaceStandard target) ↔
        EdgesFit full (spaceStandard target) [(source, between), (between, target)] := by
  decide +kernel

theorem default_encodes : ∀ standard ∈ yuvSpaces,
    FillEncodes 8 standard ↔ standard = imYuvBt601LimitRange := by
  decide +kernel

theorem spaceStandard_mem (space : Int32) : spaceStandard space ∈ yuvSpaces := by
  unfold spaceStandard
  split
  · assumption
  · decide

theorem rgaGetCscMode_full (entry : RgaInfoTableEntry) (input output : Int32) :
    rgaGetCscMode entry input output =
      rgaGetCscMode
        (if hasBit entry.feature imRgaSupportFeatureDstFullCsc then fullCscEntry else {})
        input output := by
  apply rgaGetCscMode_congr
  cases hasBit entry.feature imRgaSupportFeatureDstFullCsc <;> decide

theorem edgesFit_rowless {full : Bool} {standard : Int32} {edges : List (Int32 × Int32)}
    (rowless : ∃ edge ∈ edges, edge.1 ∉ mainSpaces ∨ edge.2 ∉ mainSpaces) :
    EdgesFit full standard edges ↔ standard = imYuvBt601LimitRange := by
  unfold EdgesFit
  rw [if_pos (.inl rowless)]

section Resolved

variable {entry : RgaInfoTableEntry} {src dst pat : RgaBuffer} {mode : Int32}

theorem yuvFormat_not_rgb {format : Int32} (yuv : isYuvFormat format = true) :
    isRgbFormat format = false := by
  cases kind : isRgbFormat format with
  | false => rfl
  | true =>
      rw [rgbFormat_not_yuv _ kind] at yuv
      cases yuv

theorem fillStandard_space (plain : has dst.colorSpaceMode imRgbToYuvMask = false)
    (yuv : isYuvFormat dst.format = true) :
    fillStandard dst = spaceStandard (bufferColorSpace dst) := by
  have rgb := yuvFormat_not_rgb yuv
  unfold fillStandard
  rw [plain, if_neg (by decide)]
  unfold bufferColorSpace
  split
  · rename_i unset
    rw [unset, rgaGetDefaultCscMode, rgb, yuv]
    decide
  · rfl

theorem declared_encodes (entry : RgaInfoTableEntry) (source between target : Int32) :
    (FillEncodes (fillWord (rgaGetCscMode entry source target)) (spaceStandard target) ↔
        EdgesFit (hasBit entry.feature imRgaSupportFeatureDstFullCsc) (spaceStandard target)
          [(source, target)]) ∧
      (FillEncodes (fillWord (rgaGetCscMode entry source between |||
          rgaGetCscMode entry between target)) (spaceStandard target) ↔
        EdgesFit (hasBit entry.feature imRgaSupportFeatureDstFullCsc) (spaceStandard target)
          [(source, between), (between, target)]) := by
  have default := default_encodes _ (spaceStandard_mem target)
  have unsupported : fillWord (-1) = 8 := by decide
  constructor
  · by_cases main : source ∈ mainSpaces ∧ target ∈ mainSpaces
    · rw [rgaGetCscMode_full]
      exact direct_encodes _ source main.1 target main.2
    · have rowless := not_and_or.mp main
      rw [rgaGetCscMode_unsupported rowless, unsupported, default,
        edgesFit_rowless ⟨_, List.mem_singleton_self _, rowless⟩]
  · by_cases first : source ∈ mainSpaces ∧ between ∈ mainSpaces
    · by_cases main : target ∈ mainSpaces
      · rw [rgaGetCscMode_full entry source, rgaGetCscMode_full entry between]
        exact between_encodes _ source first.1 between first.2 target main
      · have rowless : between ∉ mainSpaces ∨ target ∉ mainSpaces := .inr main
        rw [rgaGetCscMode_unsupported rowless, Int32.or_neg_one, unsupported, default,
          edgesFit_rowless ⟨(between, target), by simp, rowless⟩]
    · have rowless := not_and_or.mp first
      rw [rgaGetCscMode_unsupported rowless, Int32.neg_one_or, unsupported, default,
        edgesFit_rowless ⟨(source, between), by simp, rowless⟩]

theorem fillStandard_undeclared (selects : has dst.colorSpaceMode imRgbToYuvMask = false)
    (plain : has dst.colorSpaceMode imFullCscMask = false) :
    fillStandard dst = imYuvBt601LimitRange := by
  have flagged : ∀ space ∈ yuvSpaces, has space imFullCscMask = true := by
    decide
  unfold fillStandard spaceStandard
  rw [selects, if_neg (by decide)]
  refine if_neg fun declared => ?_
  rw [flagged _ declared] at plain
  cases plain

theorem taskColorSpaceMode_r2y (selects : has dst.colorSpaceMode imRgbToYuvMask = true)
    (yuv : isYuvFormat dst.format = true)
    (colour : taskColorSpaceMode entry src dst pat = .ok mode) :
    mode =
      if dst.colorSpaceMode &&& imRgbToYuvMask = imRgbToYuvBt709Limit ∧
          hasBit entry.feature imRgaSupportFeatureDstFullCsc = true ∧
          ¬(has dst.colorSpaceMode imYuvToRgbMask = false ∧
            (rgaIsBufferValid pat && isRgbFormat pat.format) = true) then
        (dst.colorSpaceMode &&& imYuvToRgbMask) ||| rgb2yuv709Limit
      else dst.colorSpaceMode := by
  have r2y : dst.colorSpaceMode &&& imRgbToYuvMask ≠ 0 := by simpa [has] using selects
  unfold taskColorSpaceMode at colour
  dsimp only at colour
  by_cases y2r : dst.colorSpaceMode &&& imYuvToRgbMask = 0
  · have plain : has dst.colorSpaceMode imYuvToRgbMask = false := by simp [has, y2r]
    simp only [y2r, r2y, ne_eq, not_true_eq_false, false_and, not_false_eq_true, if_false,
      if_true, yuv, Bool.and_true] at colour
    by_cases pattern : (rgaIsBufferValid pat && isRgbFormat pat.format) = true
    · rw [if_neg (fun preferred => preferred.2.2 ⟨plain, pattern⟩)]
      rw [pattern, Bool.true_and] at colour
      split_ifs at colour
      exact (Except.ok.inj colour).symm
    · rw [Bool.not_eq_true] at pattern
      rw [pattern, Bool.false_and, if_neg (by decide)] at colour
      simp only [pattern, Bool.false_eq_true, and_false, not_false_eq_true, and_true, y2r,
        Int32.zero_or]
      split_ifs at colour ⊢ <;> exact (Except.ok.inj colour).symm
  · have joined : has dst.colorSpaceMode imYuvToRgbMask = true := by simp [has, y2r]
    simp only [y2r, r2y, ne_eq, not_false_eq_true, true_and, if_true] at colour
    simp only [joined, Bool.true_eq_false, false_and, not_false_eq_true, and_true]
    split_ifs at colour ⊢ <;> exact (Except.ok.inj colour).symm

theorem taskColorSpaceMode_unselected (selects : has dst.colorSpaceMode imRgbToYuvMask = false)
    (yuv : isYuvFormat dst.format = true)
    (colour : taskColorSpaceMode entry src dst pat = .ok mode) :
    selectsConversion dst.colorSpaceMode = false := by
  have r2y : dst.colorSpaceMode &&& imRgbToYuvMask = 0 := by simpa [has] using selects
  have rgb := yuvFormat_not_rgb yuv
  by_contra selected
  have y2r : dst.colorSpaceMode &&& imYuvToRgbMask ≠ 0 := by
    simpa [selectsConversion, has, r2y] using selected
  unfold taskColorSpaceMode at colour
  dsimp only at colour
  simp only [y2r, r2y, ne_eq, not_true_eq_false, and_false, not_false_eq_true, if_false, if_true,
    rgb, Bool.and_false, Bool.false_eq_true, reduceCtorEq] at colour

theorem mode_encodes {buffers : TaskBuffers}
    (named : buffers.dst.colorSpaceMode ∈ colorSpaceModes)
    (yuv : isYuvFormat buffers.dst.format = true)
    (colour : taskColorSpaceMode entry buffers.src buffers.dst buffers.pat = .ok mode) :
    FillEncodes (fillWord mode) (fillStandard buffers.dst) ↔ FillFits entry buffers := by
  unfold FillFits
  dsimp only
  cases selects : has buffers.dst.colorSpaceMode imRgbToYuvMask with
  | true =>
      obtain ⟨kept, dropped⟩ := selector_encodes _ named selects
      have standard : fillStandard buffers.dst =
          r2ySpace (buffers.dst.colorSpaceMode &&& imRgbToYuvMask) := by
        rw [fillStandard, if_pos selects]
      have limited : r2ySpace (buffers.dst.colorSpaceMode &&& imRgbToYuvMask) =
          imYuvBt709LimitRange ↔
            buffers.dst.colorSpaceMode &&& imRgbToYuvMask = imRgbToYuvBt709Limit := by
        revert named
        generalize buffers.dst.colorSpaceMode = word
        revert word
        decide
      rw [taskColorSpaceMode_r2y selects yuv colour, if_pos rfl, standard, limited]
      split_ifs with preferred
      · rw [preferred.1]
        refine iff_of_false (dropped preferred.1) fun fits => ?_
        exact preferred.2.2 (fits rfl preferred.2.1)
      · refine iff_of_true kept fun limit full => ?_
        by_contra plain
        exact preferred ⟨limit, full, plain⟩
  | false =>
      have plain := taskColorSpaceMode_unselected selects yuv colour
      rw [if_neg (by decide), fillStandard_space selects yuv]
      obtain ⟨selected, _⟩ | ⟨_, ⟨declared, word⟩ | ⟨undeclared, word⟩⟩ :=
        taskColorSpaceMode_ok colour
      · rw [plain] at selected
        cases selected
      · have edges := declared_encodes entry (bufferColorSpace buffers.src)
          (bufferColorSpace buffers.pat) (bufferColorSpace buffers.dst)
        rw [imp_iff_right declared, word]
        unfold fillEdges
        dsimp only
        split_ifs
        · exact edges.2
        · exact edges.1
      · have plain : has buffers.dst.colorSpaceMode imFullCscMask = false := by
          simp only [declaresSpace, Bool.or_eq_false_iff] at undeclared
          exact undeclared.2
        rw [word, ← fillStandard_space selects yuv, fillStandard_undeclared selects plain]
        refine iff_of_true (by decide) fun declared => ?_
        rw [undeclared] at declared
        cases declared

end Resolved

/-! A submitted fill -/

open Result in
theorem fillReq_yuv2rgbMode {mode : AddressMode} {dst : RgaInfo} {req : RgaReq}
    (built : fillReq mode dst = .ok req) :
    req.yuv2rgbMode = fillYuv2rgbMode (relRect dst.rect).format dst.colorSpaceMode := by
  simp only [fillReq, bind_eq_ok] at built
  obtain ⟨addr, _, filled⟩ := built
  cases filled
  exact (setFillMmu_keeps _ _).yuv2rgbMode

structure FillSettled (session : RgaSession) (env : TaskEnv) (manager : JobManager RgaReq)
    (args : TaskArgs) : Prop where
  encoded : ∀ req ∈ drawn (rgaTaskSubmit session env manager args),
    FillEncodes req.yuv2rgbMode (fillStandard (settledBuffers args).dst)
  refused : edgeSelector (imRgbFull, fillStandard (settledBuffers args).dst) = none →
    (rgaTaskSubmit session env manager args).status.ok = false

section Task

variable {session : RgaSession} {env : TaskEnv} {manager : JobManager RgaReq} {args : TaskArgs}
  {buffers : TaskBuffers} {mode : Int32}

theorem fill_encodes_iff {req : RgaReq} (accepted : Accepted session args buffers mode)
    (path : taskPath args = .fill) (named : args.dst.colorSpaceMode ∈ colorSpaceModes)
    (yuv : isYuvFormat buffers.dst.format = true)
    (builds : builtReq (taskBuilt session env args buffers mode).2 = some req) :
    FillEncodes req.yuv2rgbMode (fillStandard buffers.dst) ↔
      FillFits session.hardwareInfo buffers := by
  simp only [taskBuilt, path, buildTask] at builds
  obtain built | ⟨exit, exits, stale, _⟩ := builtReq_eq_some builds
  · have driver : DriverFormat buffers.dst.format :=
      rgaCheckImage_driverFormat (rgaCheck_images accepted.checked).2.1
    have word : req.yuv2rgbMode = fillWord mode := by
      rw [fillReq_yuv2rgbMode built]
      have kind : isYuvFormat (rkRgaGetRgaFormat (relRect (taskSetup env args buffers mode).dst.rect
          ).format) = true := by
        show isYuvFormat (rkRgaGetRgaFormat (rkRgaCompatibleFormat buffers.dst.format)) = true
        rw [driver]
        exact yuv
      unfold fillYuv2rgbMode fillWord
      rw [if_pos kind]
      rfl
    have same : buffers.dst.colorSpaceMode = args.dst.colorSpaceMode := by
      rw [accepted.buffers_eq]
      exact settledImage_colorSpaceMode _ _
    rw [word]
    exact mode_encodes (same ▸ named) yuv accepted.colour
  · exact absurd (fill_exit_negative exits) stale

end Task

/-- The selector survives in the low byte unless the mode word is a full conversion, or joins
one that the fill has no use for. -/
theorem fill_settled_iff (session : RgaSession) (env : TaskEnv) (manager : JobManager RgaReq)
    (args : TaskArgs) (path : taskPath args = .fill)
    (yuv : isYuvFormat (settledBuffers args).dst.format = true)
    (named : args.dst.colorSpaceMode ∈ colorSpaceModes) :
    FillSettled session env manager args ↔
      ∀ buffers mode, Paints session env manager args buffers mode →
        FillFits session.hardwareInfo buffers := by
  have each := drawn_forall_iff env manager
    (P := fun req => FillEncodes req.yuv2rgbMode (fillStandard (settledBuffers args).dst))
    (Q := fun buffers => FillFits session.hardwareInfo buffers)
    fun buffers mode req accepted _ builds => by
      rw [← accepted.buffers_eq] at yuv ⊢
      exact fill_encodes_iff accepted path named yuv builds
  refine ⟨fun settled => each.mp settled.encoded, fun fits => ?_⟩
  have encoded := each.mpr fits
  refine ⟨encoded, fun missing => not_ok_of_undrawn fun req painted => ?_⟩
  obtain ⟨selector, found, _⟩ := encoded req painted
  rw [missing] at found
  cases found

def yuvFill (colorSpaceMode : Int32) : TaskArgs :=
  { dst := { importedBuffer 2 with format := rkFormatYCbCr420Sp, colorSpaceMode := colorSpaceMode }
    opt := some {}
    usage := imColorFill ||| imSync }

theorem fill_settled_601 :
    (drawn (rgaTaskSubmit rga2ProSession {} emptyManager (yuvFill imRgbToYuvBt601Full))).map
        RgaReq.yuv2rgbMode = [4] ∧
      FillSettled rga2ProSession {} emptyManager (yuvFill imRgbToYuvBt601Full) := by
  refine ⟨by decide +kernel, ?_⟩
  refine (fill_settled_iff _ _ _ _ (by decide) (by decide +kernel) (by decide)).mpr ?_
  intro buffers mode paints
  rw [paints.accepted.buffers_eq]
  unfold FillFits
  dsimp only
  rw [if_pos (by decide +kernel)]
  exact fun limit => absurd limit (by decide +kernel)

/-- BT.709 limited range becomes a full conversion, of which a fill keeps the low byte, zero. -/
theorem fill_loses_709 :
    let result := rgaTaskSubmit rga2ProSession {} emptyManager (yuvFill imRgbToYuvBt709Limit)
    result.status = .success ∧ (drawn result).map RgaReq.yuv2rgbMode = [0] ∧
      ¬ FillSettled rga2ProSession {} emptyManager (yuvFill imRgbToYuvBt709Limit) := by
  intro result
  have blank : (drawn result).map RgaReq.yuv2rgbMode = [0] := by
    decide +kernel
  refine ⟨by decide +kernel, blank, fun settled => ?_⟩
  obtain ⟨req, painted, word⟩ := List.map_eq_singleton_iff.mp blank
  have encoded := settled.encoded req (by rw [painted]; exact List.mem_singleton_self req)
  rw [word] at encoded
  exact absurd encoded (by decide +kernel)

end LibRga
