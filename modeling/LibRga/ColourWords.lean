import LibRga.CheckAgreement

/-!
Colour-space conversions: the edges that change, their encodings, and what the mode words of the
blit builder carry of them.
-/

namespace LibRga

/-! The conversions that are asked for -/

/-- The values of `IM_COLOR_SPACE_MODE`, with the selectors of the two directions joined as
`yuv + rgb -> yuv` takes them. -/
def colorSpaceModes : List Int32 :=
  [imColorSpaceDefault,
    imYuvToRgbBt601Limit, imYuvToRgbBt601Full, imYuvToRgbBt709Limit,
    imRgbToYuvBt601Full, imRgbToYuvBt601Full ||| imYuvToRgbBt601Limit,
    imRgbToYuvBt601Full ||| imYuvToRgbBt601Full, imRgbToYuvBt601Full ||| imYuvToRgbBt709Limit,
    imRgbToYuvBt601Limit, imRgbToYuvBt601Limit ||| imYuvToRgbBt601Limit,
    imRgbToYuvBt601Limit ||| imYuvToRgbBt601Full, imRgbToYuvBt601Limit ||| imYuvToRgbBt709Limit,
    imRgbToYuvBt709Limit, imRgbToYuvBt709Limit ||| imYuvToRgbBt601Limit,
    imRgbToYuvBt709Limit ||| imYuvToRgbBt601Full, imRgbToYuvBt709Limit ||| imYuvToRgbBt709Limit,
    imRgbToY4, imRgbToY4Dither, imRgbToY1Dither,
    imRgbFull, imRgbClip, imYuvBt601LimitRange, imYuvBt601FullRange, imYuvBt709LimitRange,
    imYuvBt709FullRange, imFullCscMask]

def yuvSpaces : List Int32 :=
  [imYuvBt601LimitRange, imYuvBt601FullRange, imYuvBt709LimitRange, imYuvBt709FullRange]

def colorSpaces : List Int32 :=
  imRgbFull :: imRgbClip :: yuvSpaces

/-- The space a buffer declares, or else the one of its format. -/
def imageSpace (image : RgaBuffer) : Int32 :=
  if image.colorSpaceMode ∈ colorSpaces then image.colorSpaceMode
  else rgaGetDefaultCscMode image.format

/-- The spaces along the way of a task; `between` is that of the pattern. -/
structure TaskSpaces where
  source : Int32
  between : Int32
  target : Int32
deriving DecidableEq, Repr

def y2rSpace (selector : Int32) : Int32 :=
  if selector = imYuvToRgbBt601Limit then imYuvBt601LimitRange
  else if selector = imYuvToRgbBt601Full then imYuvBt601FullRange
  else if selector = imYuvToRgbBt709Limit then imYuvBt709LimitRange
  else imRgbFull

def r2ySpace (selector : Int32) : Int32 :=
  if selector = imRgbToYuvBt601Limit then imYuvBt601LimitRange
  else if selector = imRgbToYuvBt601Full then imYuvBt601FullRange
  else if selector = imRgbToYuvBt709Limit then imYuvBt709LimitRange
  else imRgbFull

def selectsConversion (mode : Int32) : Bool :=
  has mode imYuvToRgbMask || has mode imRgbToYuvMask

/-- Selectors on `dst` spell the conversion out; without them every buffer has its own space. -/
def taskSpaces (buffers : TaskBuffers) : TaskSpaces :=
  let mode := buffers.dst.colorSpaceMode
  if selectsConversion mode then
    { source := y2rSpace (mode &&& imYuvToRgbMask)
      between := imRgbFull
      target := r2ySpace (mode &&& imRgbToYuvMask) }
  else
    { source := imageSpace buffers.src
      between := if rgaIsBufferValid buffers.pat then imageSpace buffers.pat
        else imColorSpaceDefault
      target := imageSpace buffers.dst }

/-- The edges a pixel crosses. A palette reads indices, and paints with the colours of its
table. -/
def colourEdges (path : TaskPath) (spaces : TaskSpaces) : List (Int32 × Int32) :=
  match path with
  | .fill => []
  | .palette => [(spaces.between, spaces.target)]
  | .blend => [(spaces.source, spaces.between), (spaces.between, spaces.target)]
  | .blit => [(spaces.source, spaces.target)]

def Changes (edge : Int32 × Int32) : Prop :=
  edge.1 ∈ colorSpaces ∧ edge.2 ∈ colorSpaces ∧ edge.1 ≠ edge.2

/-! The encodings of a conversion -/

/-- The full conversion that `rga.h` names for an edge. -/
def fullCscEdge (edge : Int32 × Int32) : Option Int32 :=
  [((imRgbFull, imYuvBt601FullRange), rgb2yuv601Full),
    ((imRgbFull, imYuvBt709LimitRange), rgb2yuv709Limit),
    ((imRgbFull, imYuvBt709FullRange), rgb2yuv709Full),
    ((imYuvBt601LimitRange, imYuvBt601FullRange), yuv2yuv601Limit2601Full),
    ((imYuvBt601LimitRange, imYuvBt709LimitRange), yuv2yuv601Limit2709Limit),
    ((imYuvBt601LimitRange, imYuvBt709FullRange), yuv2yuv601Limit2709Full),
    ((imYuvBt601FullRange, imYuvBt601LimitRange), yuv2yuv601Full2601Limit),
    ((imYuvBt601FullRange, imYuvBt709LimitRange), yuv2yuv601Full2709Limit),
    ((imYuvBt601FullRange, imYuvBt709FullRange), yuv2yuv601Full2709Full),
    ((imYuvBt709LimitRange, imYuvBt601LimitRange), yuv2yuv709Limit2601Limit),
    ((imYuvBt709LimitRange, imYuvBt601FullRange), yuv2yuv709Limit2601Full),
    ((imYuvBt709LimitRange, imYuvBt709FullRange), yuv2yuv709Limit2709Full),
    ((imYuvBt709FullRange, imRgbFull), yuv2rgb709Full),
    ((imYuvBt709FullRange, imYuvBt601LimitRange), yuv2yuv709Full2601Limit),
    ((imYuvBt709FullRange, imYuvBt601FullRange), yuv2yuv709Full2601Full),
    ((imYuvBt709FullRange, imYuvBt709LimitRange), yuv2yuv709Full2709Limit)].lookup edge

def edgeTable (edge : Int32 × Int32) : Option FullCsc :=
  (fullCscEdge edge).bind fun mode => (fullCscTable mode).map Prod.fst

/-- The bits of `yuv2rgb_mode` for an edge and their mask, where a selector has it. -/
def edgeSelector (edge : Int32 × Int32) : Option (UInt8 × UInt8) :=
  [((imYuvBt601LimitRange, imRgbFull), (toU8 imYuvToRgbMask, toU8 imYuvToRgbBt601Limit)),
    ((imYuvBt601FullRange, imRgbFull), (toU8 imYuvToRgbMask, toU8 imYuvToRgbBt601Full)),
    ((imYuvBt709LimitRange, imRgbFull), (toU8 imYuvToRgbMask, toU8 imYuvToRgbBt709Limit)),
    ((imRgbFull, imYuvBt601LimitRange), (toU8 imRgbToYuvMask, toU8 imRgbToYuvBt601Limit)),
    ((imRgbFull, imYuvBt601FullRange), (toU8 imRgbToYuvMask, toU8 imRgbToYuvBt601Full)),
    ((imRgbFull, imYuvBt709LimitRange), (toU8 imRgbToYuvMask, toU8 imRgbToYuvBt709Limit))].lookup
    edge

def Converts (req : RgaReq) (edge : Int32 × Int32) : Prop :=
  edgeTable edge = some req.fullCsc ∨
    ∃ selector ∈ edgeSelector edge, req.yuv2rgbMode &&& selector.1 = selector.2

/-- The conversion of an edge stands in the request: in the table, in the selector, or as two
conversions through RGB. -/
def Programs (req : RgaReq) (edge : Int32 × Int32) : Prop :=
  Converts req edge ∨ Converts req (edge.1, imRgbFull) ∧ Converts req (imRgbFull, edge.2)

def Encoded (edge : Int32 × Int32) : Prop :=
  (edgeTable edge).isSome = true ∨ (edgeSelector edge).isSome = true

def HasEncoding (edge : Int32 × Int32) : Prop :=
  Encoded edge ∨ Encoded (edge.1, imRgbFull) ∧ Encoded (imRgbFull, edge.2)

theorem Converts.encoded {req : RgaReq} {edge : Int32 × Int32} (carries : Converts req edge) :
    Encoded edge := by
  obtain table | ⟨selector, found, _⟩ := carries
  · exact .inl (by rw [table]; rfl)
  · exact .inr (by rw [found]; rfl)

theorem Programs.hasEncoding {req : RgaReq} {edge : Int32 × Int32}
    (programs : Programs req edge) : HasEncoding edge := by
  obtain direct | ⟨first, second⟩ := programs
  · exact .inl direct.encoded
  · exact .inr ⟨first.encoded, second.encoded⟩

/-! The words of a request -/

def fullCscModes : List Int32 :=
  [rgb2yuv601Full, rgb2yuv709Limit, rgb2yuv709Full, yuv2yuv709Limit2601Limit,
    yuv2yuv601Full2709Limit, yuv2yuv709Full2601Limit, yuv2yuv709Full2601Full]

theorem fullCscTable_mem {mode : Int32} {row : FullCsc × RgaCscClip}
    (found : fullCscTable mode = some row) : mode ∈ fullCscModes := by
  unfold fullCscTable at found
  split_ifs at found with first second third fourth fifth sixth seventh
  all_goals simp only [fullCscModes, List.mem_cons, *, true_or, or_true]

theorem fullCscTable_distinct : ∀ mode ∈ fullCscModes, ∀ other ∈ fullCscModes,
    (fullCscTable mode).map Prod.fst = (fullCscTable other).map Prod.fst → mode = other := by
  decide +kernel

theorem fullCscTable_nonempty : ∀ mode ∈ fullCscModes,
    (fullCscTable mode).map Prod.fst ≠ some {} := by
  decide +kernel

def modeTable (mode : Int32) : FullCsc :=
  ((fullCscTable (mode &&& fullCscMask)).map Prod.fst).getD {}

def TableFound (mode : Int32) : Prop :=
  has mode fullCscMask = true → (fullCscTable (mode &&& fullCscMask)).isSome = true

instance (mode : Int32) : Decidable (TableFound mode) :=
  inferInstanceAs (Decidable (_ → _))

def WordsCarry (word full : Int32) (edge : Int32 × Int32) : Prop :=
  (fullCscEdge edge = some full ∧ (fullCscTable full).isSome = true) ∨
    ∃ selector ∈ edgeSelector edge, toU8 word &&& selector.1 = selector.2

theorem edgeTable_eq_modeTable {mode : Int32} {edge : Int32 × Int32} :
    edgeTable edge = some (modeTable mode) ↔
      fullCscEdge edge = some (mode &&& fullCscMask) ∧
        (fullCscTable (mode &&& fullCscMask)).isSome = true := by
  unfold edgeTable modeTable
  constructor
  · intro same
    obtain ⟨named, edgeMode, row, found, table⟩ : ∃ named, fullCscEdge edge = some named ∧
        ∃ row, fullCscTable named = some row ∧
          row.1 = ((fullCscTable (mode &&& fullCscMask)).map Prod.fst).getD {} := by
      simpa only [Option.bind_eq_some_iff, Option.map_eq_some_iff] using same
    have listed := fullCscTable_mem found
    cases other : fullCscTable (mode &&& fullCscMask) with
    | none =>
        rw [other] at table
        exact absurd (by rw [found]; exact congrArg some table) (fullCscTable_nonempty _ listed)
    | some pair =>
        rw [other] at table
        have equal := fullCscTable_distinct _ listed _ (fullCscTable_mem other) (by
          rw [found, other]
          exact congrArg some table)
        rw [← equal]
        exact ⟨edgeMode, rfl⟩
  · rintro ⟨edgeMode, present⟩
    obtain ⟨row, found⟩ := Option.isSome_iff_exists.mp present
    rw [edgeMode, Option.bind_some, found]
    rfl

theorem carries_iff {req : RgaReq} {mode word : Int32} (table : req.fullCsc = modeTable mode)
    (selectors : req.yuv2rgbMode = toU8 word) (edge : Int32 × Int32) :
    Converts req edge ↔ WordsCarry word (mode &&& fullCscMask) edge := by
  unfold Converts WordsCarry
  rw [table, selectors, edgeTable_eq_modeTable]

theorem setBlitActive_fullCsc (req : RgaReq) (plan : BlitPlan) (turn : Turn) :
    (setBlitActive req plan turn).fullCsc = req.fullCsc := by
  unfold setBlitActive
  dsimp only
  split <;> split_ifs <;> rfl

theorem blitReqBase_fullCsc (session : RgaSession) (plan : BlitPlan) :
    (blitReqBase session plan).fullCsc = {} := by
  unfold blitReqBase
  dsimp only
  rw [setBlitActive_fullCsc, (setBlitChannels_frame _ plan _ _).fullCsc]
  exact (setBlend_keeps _ _).fullCsc

theorem setFullCsc_ok {req after : RgaReq} {mode : Int32} (empty : req.fullCsc = {})
    (converted : setFullCsc req mode = .ok after) :
    after.fullCsc = modeTable mode ∧ TableFound mode := by
  unfold setFullCsc normalRgaFullColorSpaceConvert at converted
  unfold modeTable TableFound
  split_ifs at converted with full
  · cases found : fullCscTable (mode &&& fullCscMask) with
    | none => simp [found] at converted
    | some row =>
        simp only [found, Except.ok.injEq] at converted
        rw [← converted]
        exact ⟨rfl, fun _ => rfl⟩
  · cases converted
    have zero : mode &&& fullCscMask = 0 := by simpa [has] using full
    rw [zero, empty]
    exact ⟨rfl, fun flagged => absurd flagged full⟩

def blitWords (src dst : RgaInfo) (src1 : Option RgaInfo) : CscWords :=
  blitCscWords (defaultCsc (relRect src.rect).format (relRect dst.rect).format
    (src1.map fun info => (relRect info.rect).format)) dst.colorSpaceMode

open Result in
theorem generateBlitReq_words {session : RgaSession} {src dst : RgaInfo}
    {src1 : Option RgaInfo} {req : RgaReq}
    (built : generateBlitReq session src dst src1 = .ok req) :
    (req.fullCsc = modeTable dst.colorSpaceMode ∧ TableFound dst.colorSpaceMode) ∧
      req.yuv2rgbMode = toU8 ((blitWords src dst src1).r2y ||| (blitWords src dst src1).y2r) := by
  simp only [generateBlitReq, blitReq, bind_eq_ok] at built
  obtain ⟨plan, planned, converted, conversion, filled⟩ := built
  have plans := planBlit_planned planned
  obtain ⟨srcRect, dstRect, src1Rect⟩ := plans.rects_eq
  have formats : (plan.src1.map fun channel => channel.rect.format) =
      src1.map fun info => (relRect info.rect).format := by
    simpa only [Option.map_map, Function.comp_def] using
      congrArg (Option.map RgaRect.format) src1Rect
  simp only [srcRect, dstRect, formats, (openChannel_ok plans.dst).1] at conversion filled
  cases filled
  have rest := blitReqRest_frame converted plan (addressMode session)
    ((blitWords src dst src1).r2y ||| (blitWords src dst src1).y2r)
  have last := (rest.trans (setGauss_keeps _ plan.src.info.gaussConfig
    (blendAfter plan.src.info.blend))).retagged (blitReqTail_retagged _ plan)
  have table := setFullCsc_ok (blitReqBase_fullCsc session plan) conversion
  exact ⟨⟨last.fullCsc.trans table.1, table.2⟩, last.yuv2rgbMode⟩

/-! The mode word of a task -/

instance (edge : Int32 × Int32) : Decidable (Changes edge) :=
  inferInstanceAs (Decidable (_ ∧ _))

instance (word full : Int32) (edge : Int32 × Int32) : Decidable (WordsCarry word full edge) :=
  have : Decidable (∃ selector ∈ edgeSelector edge, toU8 word &&& selector.1 = selector.2) :=
    decidable_of_iff ((edgeSelector edge).any fun selector =>
      toU8 word &&& selector.1 == selector.2) (by simp [Option.any_eq_true])
  inferInstanceAs (Decidable (_ ∨ _))

def WordsProgram (base : CscWords) (mode : Int32) (edge : Int32 × Int32) : Prop :=
  let csc := blitCscWords base mode
  let carry := WordsCarry (csc.r2y ||| csc.y2r) (mode &&& fullCscMask)
  carry edge ∨ carry (edge.1, imRgbFull) ∧ carry (imRgbFull, edge.2)

instance (base : CscWords) (mode : Int32) (edge : Int32 × Int32) :
    Decidable (WordsProgram base mode edge) :=
  inferInstanceAs (Decidable (_ ∨ _))

def formatWords : List CscWords :=
  [{}, { y2r := imYuvToRgbBt601Limit }, { r2y := imRgbToYuvBt601Limit },
    { y2r := imYuvToRgbBt601Limit, r2y := imRgbToYuvBt601Limit }]

theorem defaultCsc_mem (srcFormat dstFormat : Int32) (src1Format : Option Int32) :
    defaultCsc srcFormat dstFormat src1Format ∈ formatWords := by
  unfold defaultCsc
  cases src1Format <;> dsimp only <;> split_ifs <;> simp [formatWords]

def droppedEdge : Int32 × Int32 :=
  (imYuvBt709FullRange, imYuvBt709LimitRange)

/-- An edge that takes the one table of a request. -/
def TableEdge (edge : Int32 × Int32) : Prop :=
  Changes edge ∧
    ((edgeSelector edge).isNone = true ∨ edge = (imRgbFull, imYuvBt709LimitRange))

instance (edge : Int32 × Int32) : Decidable (TableEdge edge) :=
  inferInstanceAs (Decidable (_ ∧ _))

/-- The spaces along a task for which its conversions come out. -/
def SpacesFit (path : TaskPath) (spaces : TaskSpaces) : Prop :=
  let first := (spaces.source, spaces.between)
  let second := (spaces.between, spaces.target)
  match path with
  | .fill => True
  | .palette => ¬ Changes second
  | .blend => first ≠ droppedEdge ∧ second ≠ droppedEdge ∧ ¬(TableEdge first ∧ TableEdge second) ∧
      (Changes first → spaces.target ∈ colorSpaces) ∧
      (Changes second → spaces.source ∈ colorSpaces)
  | .blit => Changes (spaces.source, spaces.target) →
      (spaces.source, spaces.target) ≠ droppedEdge ∧
        (spaces.between ∈ yuvSpaces →
          spaces.between = spaces.source ∨ spaces.between = spaces.target)

instance (path : TaskPath) (spaces : TaskSpaces) : Decidable (SpacesFit path spaces) :=
  match path with
  | .fill => inferInstanceAs (Decidable True)
  | .palette => inferInstanceAs (Decidable (¬ _))
  | .blend => inferInstanceAs (Decidable (_ ∧ _ ∧ _ ∧ _ ∧ _))
  | .blit => inferInstanceAs (Decidable (_ → _))

def EdgesProgram (path : TaskPath) (spaces : TaskSpaces) (base : CscWords) (mode : Int32) : Prop :=
  ∀ edge ∈ colourEdges path spaces, Changes edge → WordsProgram base mode edge

instance (path : TaskPath) (spaces : TaskSpaces) (base : CscWords) (mode : Int32) :
    Decidable (EdgesProgram path spaces base mode) :=
  inferInstanceAs (Decidable (∀ edge ∈ _, _))

def mainSpaces : List Int32 :=
  imRgbFull :: yuvSpaces

def fullCscEntry : RgaInfoTableEntry :=
  { feature := imRgaSupportFeatureDstFullCsc }

theorem blit_words_direct : ∀ entry ∈ [fullCscEntry, {}], ∀ base ∈ formatWords,
    ∀ source ∈ mainSpaces, ∀ target ∈ mainSpaces,
      let mode := rgaGetCscMode entry source target
      let spaces : TaskSpaces := ⟨source, imColorSpaceDefault, target⟩
      TableFound mode → (EdgesProgram .blit spaces base mode ↔ SpacesFit .blit spaces) := by
  decide +kernel

example : SpacesFit .blit ⟨imYuvBt601LimitRange, imColorSpaceDefault, imRgbFull⟩ := by
  decide +kernel

theorem blit_words_between : ∀ entry ∈ [fullCscEntry, {}], ∀ base ∈ formatWords,
    ∀ source ∈ mainSpaces, ∀ between ∈ mainSpaces, ∀ target ∈ mainSpaces,
      let mode := rgaGetCscMode entry source between ||| rgaGetCscMode entry between target
      let spaces : TaskSpaces := ⟨source, between, target⟩
      TableFound mode → (EdgesProgram .blit spaces base mode ↔ SpacesFit .blit spaces) := by
  decide +kernel

example : SpacesFit .blit ⟨imYuvBt601LimitRange, imRgbFull, imYuvBt601LimitRange⟩ := by
  decide +kernel

theorem blend_words_between : ∀ base ∈ formatWords,
    ∀ source ∈ mainSpaces, ∀ between ∈ mainSpaces, ∀ target ∈ mainSpaces,
      let mode := rgaGetCscMode fullCscEntry source between |||
        rgaGetCscMode fullCscEntry between target
      let spaces : TaskSpaces := ⟨source, between, target⟩
      TableFound mode → (EdgesProgram .blend spaces base mode ↔ SpacesFit .blend spaces) := by
  decide +kernel

example : SpacesFit .blend ⟨imYuvBt601LimitRange, imRgbFull, imYuvBt601LimitRange⟩ := by
  decide +kernel

theorem selector_words : ∀ mode ∈ colorSpaceModes,
    selectsConversion mode = true → ∀ base ∈ formatWords,
      ∀ path ∈ [TaskPath.blit, TaskPath.blend], ∀ word : Int32,
      (word = mode ∨ mode &&& imRgbToYuvMask = imRgbToYuvBt709Limit ∧
        word = (mode &&& imYuvToRgbMask) ||| rgb2yuv709Limit) →
      let spaces : TaskSpaces := ⟨y2rSpace (mode &&& imYuvToRgbMask), imRgbFull,
        r2ySpace (mode &&& imRgbToYuvMask)⟩
      EdgesProgram path spaces base word ∧ SpacesFit path spaces := by
  intro mode listed selected base default path blits word chosen
  have words : ∀ mode ∈ colorSpaceModes,
      selectsConversion mode = true → ∀ base ∈ formatWords,
      ∀ path ∈ [TaskPath.blit, TaskPath.blend],
        let spaces : TaskSpaces := ⟨y2rSpace (mode &&& imYuvToRgbMask), imRgbFull,
          r2ySpace (mode &&& imRgbToYuvMask)⟩
        SpacesFit path spaces ∧ EdgesProgram path spaces base mode ∧
          (mode &&& imRgbToYuvMask = imRgbToYuvBt709Limit →
            EdgesProgram path spaces base ((mode &&& imYuvToRgbMask) ||| rgb2yuv709Limit)) := by
    decide +kernel
  obtain ⟨fit, plain, preferred⟩ := words mode listed selected base default path blits
  obtain rfl | ⟨limited, rfl⟩ := chosen
  · exact ⟨plain, fit⟩
  · exact ⟨preferred limited, fit⟩

theorem rgaGetCscMode_unsupported {entry : RgaInfoTableEntry} {input output : Int32}
    (other : input ∉ mainSpaces ∨ output ∉ mainSpaces) :
    rgaGetCscMode entry input output = -1 := by
  simp only [mainSpaces, yuvSpaces, List.mem_cons, List.not_mem_nil, or_false, not_or] at other
  unfold rgaGetCscMode
  obtain ⟨rgb, first, second, third, fourth⟩ | ⟨rgb, first, second, third, fourth⟩ := other
  · simp only [rgb, first, second, third, fourth, if_false]
    rfl
  · simp only [rgb, first, second, third, fourth, if_false]
    split_ifs <;> rfl

theorem rgaGetCscMode_congr {entry other : RgaInfoTableEntry}
    (same : hasBit entry.feature imRgaSupportFeatureDstFullCsc =
      hasBit other.feature imRgaSupportFeatureDstFullCsc) (input output : Int32) :
    rgaGetCscMode entry input output = rgaGetCscMode other input output := by
  unfold rgaGetCscMode
  simp only [same]

theorem rgaGetCscMode_entry (entry : RgaInfoTableEntry) :
    ∃ other ∈ [fullCscEntry, {}], ∀ input output,
      rgaGetCscMode entry input output = rgaGetCscMode other input output := by
  by_cases full : hasBit entry.feature imRgaSupportFeatureDstFullCsc = true
  · refine ⟨fullCscEntry, by simp, rgaGetCscMode_congr ?_⟩
    rw [full]
    decide
  · refine ⟨{}, by simp, rgaGetCscMode_congr ?_⟩
    rw [Bool.not_eq_true] at full
    rw [full]
    decide

theorem tableFound_unsupported : ¬ TableFound (-1) := by
  decide +kernel

theorem mainSpaces_of_tableFound {entry : RgaInfoTableEntry} {source between target : Int32}
    (found : TableFound
      (rgaGetCscMode entry source between ||| rgaGetCscMode entry between target)) :
    source ∈ mainSpaces ∧ between ∈ mainSpaces ∧ target ∈ mainSpaces := by
  by_contra other
  rw [not_and_or, not_and_or] at other
  refine tableFound_unsupported ?_
  obtain left | middle | right := other
  · rwa [rgaGetCscMode_unsupported (.inl left), Int32.neg_one_or] at found
  · rwa [rgaGetCscMode_unsupported (.inr middle), Int32.neg_one_or] at found
  · rwa [rgaGetCscMode_unsupported (.inr right), Int32.or_neg_one] at found

theorem direct_words (entry : RgaInfoTableEntry) {base : CscWords} {source target : Int32}
    (default : base ∈ formatWords) (found : TableFound (rgaGetCscMode entry source target)) :
    (source ∈ mainSpaces ∧ target ∈ mainSpaces) ∧
      (EdgesProgram .blit ⟨source, imColorSpaceDefault, target⟩ base
          (rgaGetCscMode entry source target) ↔
        SpacesFit .blit ⟨source, imColorSpaceDefault, target⟩) := by
  have listed : source ∈ mainSpaces ∧ target ∈ mainSpaces := by
    by_contra other
    rw [rgaGetCscMode_unsupported (not_and_or.mp other)] at found
    exact tableFound_unsupported found
  obtain ⟨other, represents, same⟩ := rgaGetCscMode_entry entry
  rw [same] at found ⊢
  exact ⟨listed, blit_words_direct other represents base default source listed.1 target listed.2
    found⟩

theorem between_words (entry : RgaInfoTableEntry) {path : TaskPath} {base : CscWords}
    {source between target : Int32} (default : base ∈ formatWords)
    (blits : path = .blit ∨ path = .blend ∧
      hasBit entry.feature imRgaSupportFeatureDstFullCsc = true)
    (found : TableFound
      (rgaGetCscMode entry source between ||| rgaGetCscMode entry between target)) :
    EdgesProgram path ⟨source, between, target⟩ base
        (rgaGetCscMode entry source between ||| rgaGetCscMode entry between target) ↔
      SpacesFit path ⟨source, between, target⟩ := by
  obtain ⟨first, second, third⟩ := mainSpaces_of_tableFound found
  obtain rfl | ⟨rfl, full⟩ := blits
  · obtain ⟨other, represents, same⟩ := rgaGetCscMode_entry entry
    rw [same, same] at found ⊢
    exact blit_words_between other represents base default source first between second target
      third found
  · have same := @rgaGetCscMode_congr entry fullCscEntry (by rw [full]; decide)
    rw [same, same] at found ⊢
    exact blend_words_between base default source first between second target third found

/-! Conversions left to the formats -/

theorem rgbFormat_not_yuv : ∀ format, isRgbFormat format = true → isYuvFormat format = false := by
  simp only [isRgbFormat, List.contains_iff_mem]
  decide +kernel

theorem format_kind (format : Int32) :
    isRgbFormat format = true ∧ isYuvFormat format = false ∨
      isRgbFormat format = false ∧ isYuvFormat format = true ∨
      isRgbFormat format = false ∧ isYuvFormat format = false := by
  have apart := rgbFormat_not_yuv format
  cases rgb : isRgbFormat format <;> cases yuv : isYuvFormat format <;> simp_all

def DriverFormat (format : Int32) : Prop :=
  rkRgaGetRgaFormat (rkRgaCompatibleFormat format) = format

theorem rgaCheckImage_driverFormat {info : RgaBuffer} {rect : ImRect}
    {resolution : RgaInfoResolution} {formatUsage byteStride : UInt32} {modeUsage : Int32}
    {isRead : Bool} (checked : rgaCheckImage info rect resolution formatUsage byteStride modeUsage
      isRead = .noError) : DriverFormat info.format := by
  have listed : ∀ family ∈ formatFamilies, ∀ format ∈ family.formats,
      rkRgaGetRgaFormat (rkRgaCompatibleFormat format) = format := by
    decide +kernel
  unfold rgaCheckImage at checked
  obtain ⟨_, checked, _⟩ := by simpa only [andThen_eq_noError] using checked
  obtain ⟨family, found, member⟩ := rgaCheckFormat_family checked
  exact listed family found info.format member

theorem default_blit_words {src dst between : Int32} (srcFormat : DriverFormat src)
    (dstFormat : DriverFormat dst)
    (plain : between ∈ [imColorSpaceDefault, imRgbFull, imYuvBt601LimitRange]) :
    let spaces : TaskSpaces := ⟨rgaGetDefaultCscMode src, between, rgaGetDefaultCscMode dst⟩
    EdgesProgram .blit spaces
        (defaultCsc (rkRgaCompatibleFormat src) (rkRgaCompatibleFormat dst) none) 0 ∧
      SpacesFit .blit spaces := by
  revert between
  unfold defaultCsc rgaGetDefaultCscMode
  dsimp only
  rw [srcFormat, dstFormat]
  obtain ⟨srcRgb, srcYuv⟩ | ⟨srcRgb, srcYuv⟩ | ⟨srcRgb, srcYuv⟩ := format_kind src <;>
  obtain ⟨dstRgb, dstYuv⟩ | ⟨dstRgb, dstYuv⟩ | ⟨dstRgb, dstYuv⟩ := format_kind dst <;>
  · rw [srcRgb, srcYuv, dstRgb, dstYuv]
    decide +kernel

theorem default_blend_words {src dst pat : Int32} (srcFormat : DriverFormat src)
    (dstFormat : DriverFormat dst) (patFormat : DriverFormat pat)
    (patRgb : isRgbFormat pat = true) :
    let spaces : TaskSpaces := ⟨rgaGetDefaultCscMode src, rgaGetDefaultCscMode pat,
      rgaGetDefaultCscMode dst⟩
    EdgesProgram .blend spaces
        (defaultCsc (rkRgaCompatibleFormat src) (rkRgaCompatibleFormat dst)
          (some (rkRgaCompatibleFormat pat))) 0 ↔
      SpacesFit .blend spaces := by
  unfold defaultCsc rgaGetDefaultCscMode
  dsimp only
  rw [srcFormat, dstFormat, patFormat, patRgb, rgbFormat_not_yuv pat patRgb]
  obtain ⟨srcRgb, srcYuv⟩ | ⟨srcRgb, srcYuv⟩ | ⟨srcRgb, srcYuv⟩ := format_kind src <;>
  obtain ⟨dstRgb, dstYuv⟩ | ⟨dstRgb, dstYuv⟩ | ⟨dstRgb, dstYuv⟩ := format_kind dst <;>
  · rw [srcRgb, srcYuv, dstRgb, dstYuv]
    decide +kernel

end LibRga
