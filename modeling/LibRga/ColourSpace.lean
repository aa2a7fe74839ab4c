import LibRga.ColourWords

/-!
Colour-space conversions of a submission: programmed in its request, or refused.
-/

namespace LibRga

/-! From the buffers to the words -/

theorem fullCsc_supported {wanted : Bool} {feature : UInt32} (asked : wanted = true)
    (checked : rgaCheckSupport wanted feature imRgaSupportFeatureDstFullCsc = .noError) :
    hasBit feature imRgaSupportFeatureDstFullCsc = true := by
  unfold rgaCheckSupport at checked
  split_ifs at checked with missing
  simp only [asked, true_and, Bool.not_eq_true] at missing
  by_contra clear
  simp only [hasBit, Bool.not_eq_true, bne_eq_false_iff_eq] at missing clear
  have joined : imRgaSupportFeatureDstFullCsc =
      (feature &&& imRgaSupportFeatureDstFullCsc) |||
        (~~~feature &&& imRgaSupportFeatureDstFullCsc) := by
    apply UInt32.toBitVec_inj.mp
    rw [UInt32.toBitVec_or, UInt32.toBitVec_and, UInt32.toBitVec_and,
      ← BitVec.and_or_distrib_right, UInt32.toBitVec_not, BitVec.or_not_self,
      BitVec.allOnes_and]
  rw [missing, clear] at joined
  exact absurd joined (by decide)

theorem bufferColorSpace_main {image : RgaBuffer} (main : bufferColorSpace image ∈ mainSpaces) :
    imageSpace image = bufferColorSpace image := by
  have known : ∀ space ∈ mainSpaces, space ∈ colorSpaces := by
    decide
  have unset : imColorSpaceDefault ∉ colorSpaces := by
    decide
  unfold bufferColorSpace at main ⊢
  unfold imageSpace
  by_cases zero : image.colorSpaceMode = imColorSpaceDefault
  · rw [if_pos zero, if_neg (zero ▸ unset)]
  · rw [if_neg zero] at main ⊢
    rw [if_pos (known _ main)]

theorem imageSpace_undeclared {image : RgaBuffer}
    (plain : has image.colorSpaceMode imFullCscMask = false) :
    imageSpace image = rgaGetDefaultCscMode image.format := by
  have flagged : ∀ space ∈ colorSpaces, has space imFullCscMask = true := by
    decide
  refine if_neg fun declared => ?_
  rw [flagged _ declared] at plain
  cases plain

def declaresSpace (src dst pat : RgaBuffer) : Bool :=
  has src.colorSpaceMode imFullCscMask || has pat.colorSpaceMode imFullCscMask ||
    has dst.colorSpaceMode imFullCscMask

theorem taskColorSpaceMode_ok {entry : RgaInfoTableEntry} {src dst pat : RgaBuffer}
    {mode : Int32} (colour : taskColorSpaceMode entry src dst pat = .ok mode) :
    (selectsConversion dst.colorSpaceMode = true ∧
      (mode = dst.colorSpaceMode ∨
        dst.colorSpaceMode &&& imRgbToYuvMask = imRgbToYuvBt709Limit ∧
          mode = (dst.colorSpaceMode &&& imYuvToRgbMask) ||| rgb2yuv709Limit)) ∨
    selectsConversion dst.colorSpaceMode = false ∧
      ((declaresSpace src dst pat = true ∧
          mode = if rgaIsBufferValid pat then
            rgaGetCscMode entry (bufferColorSpace src) (bufferColorSpace pat) |||
              rgaGetCscMode entry (bufferColorSpace pat) (bufferColorSpace dst)
          else rgaGetCscMode entry (bufferColorSpace src) (bufferColorSpace dst)) ∨
        declaresSpace src dst pat = false ∧ mode = 0) := by
  unfold taskColorSpaceMode at colour
  dsimp only at colour
  by_cases y2r : dst.colorSpaceMode &&& imYuvToRgbMask = 0
  · by_cases r2y : dst.colorSpaceMode &&& imRgbToYuvMask = 0
    · have plain : selectsConversion dst.colorSpaceMode = false := by
        simp [selectsConversion, has, y2r, r2y]
      simp only [y2r, r2y, ne_eq, not_true_eq_false, false_and, if_false] at colour
      refine .inr ⟨plain, ?_⟩
      by_cases declared : declaresSpace src dst pat = true
      · refine .inl ⟨declared, ?_⟩
        rw [declaresSpace] at declared
        rw [if_pos declared] at colour
        split_ifs at colour ⊢
        · exact (Except.ok.inj colour).symm
        · exact (Except.ok.inj colour).symm
      · rw [Bool.not_eq_true] at declared
        refine .inr ⟨declared, ?_⟩
        rw [declaresSpace] at declared
        rw [declared] at colour
        exact (Except.ok.inj colour).symm
    · have selects : selectsConversion dst.colorSpaceMode = true := by
        simp [selectsConversion, has, r2y]
      simp only [y2r, r2y, ne_eq, not_true_eq_false, false_and, not_false_eq_true, if_false,
        if_true] at colour
      refine .inl ⟨selects, ?_⟩
      split_ifs at colour with pattern kinds preferred
      · exact .inl (Except.ok.inj colour).symm
      · refine .inr ⟨preferred.1, ?_⟩
        rw [y2r, Int32.zero_or]
        exact (Except.ok.inj colour).symm
      · exact .inl (Except.ok.inj colour).symm
  · have selects : selectsConversion dst.colorSpaceMode = true := by
      simp [selectsConversion, has, y2r]
    refine .inl ⟨selects, ?_⟩
    by_cases r2y : dst.colorSpaceMode &&& imRgbToYuvMask = 0
    · simp only [y2r, r2y, ne_eq, not_true_eq_false, and_false, not_false_eq_true, if_false,
        if_true] at colour
      split_ifs at colour
      exact .inl (Except.ok.inj colour).symm
    · simp only [y2r, r2y, ne_eq, not_false_eq_true, true_and, if_true] at colour
      split_ifs at colour with kinds preferred
      · exact .inr ⟨preferred.1, (Except.ok.inj colour).symm⟩
      · exact .inl (Except.ok.inj colour).symm

theorem settledImage_colorSpaceMode (image : RgaBuffer) (rect : ImRect) :
    (settledImage image rect).colorSpaceMode = image.colorSpaceMode := by
  unfold settledImage rgaApplyRect
  split_ifs <;> rfl

section Task

variable {session : RgaSession} {env : TaskEnv} {manager : JobManager RgaReq} {args : TaskArgs}
  {buffers : TaskBuffers} {mode : Int32}

theorem blend_pattern (accepted : Accepted session args buffers mode)
    (path : taskPath args = .blend) :
    (has args.usage imAlphaBlendMask = true ∧ rgaIsBufferValid buffers.pat = true) ∧
      isRgbFormat buffers.pat.format = true := by
  obtain ⟨_, _, _, rfl⟩ := settleBuffers_ok_iff.mp accepted.settled
  obtain ⟨blends, valid⟩ := Bool.and_eq_true_iff.mp (taskPath_blend_usage path)
  have usable : rgaIsBufferValid (settledBuffers args).pat = true := by
    unfold settledBuffers
    dsimp only
    rw [if_pos (taskPath_blend path), settledImage_valid, valid]
  refine ⟨⟨blends, usable⟩, ?_⟩
  have checked := accepted.checked
  unfold rgaCheck at checked
  simp only [andThen_eq_noError, blends, if_true] at checked
  obtain ⟨_, _, _, _, _, pattern, _⟩ := checked
  unfold rgaCheckBlend at pattern
  by_contra other
  rw [Bool.not_eq_true] at other
  rw [if_pos ⟨usable, other⟩] at pattern
  cases pattern

theorem blend_fullCsc (accepted : Accepted session args buffers mode)
    (path : taskPath args = .blend)
    (declared : declaresSpace buffers.src buffers.dst buffers.pat = true) :
    hasBit session.hardwareInfo.feature imRgaSupportFeatureDstFullCsc = true := by
  obtain ⟨⟨blends, valid⟩, _⟩ := blend_pattern accepted path
  have checked := accepted.checked
  unfold rgaCheck rgaCheckFeature at checked
  simp only [andThen_eq_noError, blends, valid, Bool.true_and] at checked
  obtain ⟨⟨_, _, _, _, _, full, _⟩, _⟩ := checked
  refine fullCsc_supported ?_ full
  unfold declaresSpace at declared
  rw [← declared, Bool.or_right_comm]

def formatCsc (args : TaskArgs) (buffers : TaskBuffers) : CscWords :=
  defaultCsc (rkRgaCompatibleFormat buffers.src.format) (rkRgaCompatibleFormat buffers.dst.format)
    (if taskPath args = .blend then some (rkRgaCompatibleFormat buffers.pat.format) else none)

theorem declared_words (accepted : Accepted session args buffers mode)
    (blits : taskPath args = .blit ∨ taskPath args = .blend) (found : TableFound mode)
    (plain : selectsConversion buffers.dst.colorSpaceMode = false)
    (declared : declaresSpace buffers.src buffers.dst buffers.pat = true)
    (word : mode = if rgaIsBufferValid buffers.pat then
        rgaGetCscMode session.hardwareInfo (bufferColorSpace buffers.src)
            (bufferColorSpace buffers.pat) |||
          rgaGetCscMode session.hardwareInfo (bufferColorSpace buffers.pat)
            (bufferColorSpace buffers.dst)
      else rgaGetCscMode session.hardwareInfo (bufferColorSpace buffers.src)
        (bufferColorSpace buffers.dst)) :
    EdgesProgram (taskPath args) (taskSpaces buffers) (formatCsc args buffers) mode ↔
      SpacesFit (taskPath args) (taskSpaces buffers) := by
  have default : formatCsc args buffers ∈ formatWords := defaultCsc_mem _ _ _
  by_cases valid : rgaIsBufferValid buffers.pat = true
  · rw [if_pos valid] at word
    rw [word] at found ⊢
    obtain ⟨source, between, target⟩ := mainSpaces_of_tableFound found
    have spaces : taskSpaces buffers = ⟨bufferColorSpace buffers.src,
        bufferColorSpace buffers.pat, bufferColorSpace buffers.dst⟩ := by
      simp only [taskSpaces, plain, valid, Bool.false_eq_true, if_false, if_true,
        bufferColorSpace_main, source, between, target]
    rw [spaces]
    refine between_words _ default ?_ found
    exact blits.imp_right fun path => ⟨path, blend_fullCsc accepted path declared⟩
  · have path : taskPath args = .blit :=
      blits.resolve_right fun path => valid (blend_pattern accepted path).1.2
    rw [if_neg valid] at word
    rw [word] at found ⊢
    obtain ⟨⟨source, target⟩, words⟩ := direct_words _ default found
    have spaces : taskSpaces buffers = ⟨bufferColorSpace buffers.src, imColorSpaceDefault,
        bufferColorSpace buffers.dst⟩ := by
      simp only [taskSpaces, plain, valid, Bool.false_eq_true, if_false, bufferColorSpace_main,
        source, target]
    rw [spaces, path]
    exact words

theorem undeclared_words (accepted : Accepted session args buffers mode)
    (blits : taskPath args = .blit ∨ taskPath args = .blend)
    (plain : selectsConversion buffers.dst.colorSpaceMode = false)
    (undeclared : declaresSpace buffers.src buffers.dst buffers.pat = false) :
    EdgesProgram (taskPath args) (taskSpaces buffers) (formatCsc args buffers) 0 ↔
      SpacesFit (taskPath args) (taskSpaces buffers) := by
  obtain ⟨srcOk, dstOk, patOk⟩ := rgaCheck_images accepted.checked
  have notFill : has args.usage imColorFill = false := by
    obtain path | path := blits
    · exact notFill_of_path path (by decide)
    · exact notFill_of_path path (by decide)
  have srcFormat := rgaCheckImage_driverFormat (srcOk notFill)
  have dstFormat := rgaCheckImage_driverFormat dstOk
  simp only [declaresSpace, Bool.or_eq_false_iff] at undeclared
  obtain ⟨⟨srcPlain, patPlain⟩, dstPlain⟩ := undeclared
  have spaces : taskSpaces buffers = ⟨rgaGetDefaultCscMode buffers.src.format,
      if rgaIsBufferValid buffers.pat then rgaGetDefaultCscMode buffers.pat.format
      else imColorSpaceDefault, rgaGetDefaultCscMode buffers.dst.format⟩ := by
    simp only [taskSpaces, plain, Bool.false_eq_true, if_false, imageSpace_undeclared srcPlain,
      imageSpace_undeclared patPlain, imageSpace_undeclared dstPlain]
  rw [spaces, formatCsc]
  obtain path | path := blits
  · have between : (if rgaIsBufferValid buffers.pat then rgaGetDefaultCscMode buffers.pat.format
        else imColorSpaceDefault) ∈ [imColorSpaceDefault, imRgbFull, imYuvBt601LimitRange] := by
      unfold rgaGetDefaultCscMode
      split_ifs <;> decide
    have words := default_blit_words srcFormat dstFormat between
    rw [path]
    exact iff_of_true words.1 words.2
  · obtain ⟨⟨blends, valid⟩, rgb⟩ := blend_pattern accepted path
    have patFormat := rgaCheckImage_driverFormat (patOk (by rw [blends, valid]; rfl))
    rw [path, if_pos rfl, if_pos valid]
    exact default_blend_words srcFormat dstFormat patFormat rgb

theorem task_words (accepted : Accepted session args buffers mode)
    (blits : taskPath args = .blit ∨ taskPath args = .blend)
    (named : args.dst.colorSpaceMode ∈ colorSpaceModes) (found : TableFound mode) :
    EdgesProgram (taskPath args) (taskSpaces buffers) (formatCsc args buffers) mode ↔
      SpacesFit (taskPath args) (taskSpaces buffers) := by
  obtain ⟨selects, chosen⟩ | ⟨plain, ⟨declared, word⟩ | ⟨undeclared, rfl⟩⟩ :=
    taskColorSpaceMode_ok accepted.colour
  · have listed : buffers.dst.colorSpaceMode ∈ colorSpaceModes := by
      obtain ⟨_, _, _, rfl⟩ := settleBuffers_ok_iff.mp accepted.settled
      rw [show (settledBuffers args).dst = settledImage args.dst args.drect from rfl,
        settledImage_colorSpaceMode]
      exact named
    have words := selector_words _ listed selects (formatCsc args buffers) (defaultCsc_mem _ _ _)
      (taskPath args) (by simpa using blits) mode chosen
    have spaces : taskSpaces buffers = ⟨y2rSpace (buffers.dst.colorSpaceMode &&& imYuvToRgbMask),
        imRgbFull, r2ySpace (buffers.dst.colorSpaceMode &&& imRgbToYuvMask)⟩ :=
      if_pos selects
    rw [spaces]
    exact iff_of_true words.1 words.2
  · exact declared_words accepted blits found plain declared word
  · exact undeclared_words accepted blits plain undeclared

/-! The requests -/

def RequestProgrammed (args : TaskArgs) (buffers : TaskBuffers) (req : RgaReq) : Prop :=
  ∀ edge ∈ colourEdges (taskPath args) (taskSpaces buffers), Changes edge → Programs req edge

theorem task_fields {req : RgaReq} (accepted : Accepted session args buffers mode)
    (blits : taskPath args = .blit ∨ taskPath args = .blend)
    (built : (taskBuilt session env args buffers mode).2 = .ok req) :
    let csc := blitCscWords (formatCsc args buffers) mode
    (req.fullCsc = modeTable mode ∧ TableFound mode) ∧
      req.yuv2rgbMode = toU8 (csc.r2y ||| csc.y2r) := by
  obtain path | path := blits
  · simp only [taskBuilt, path, buildTask, taskSetup] at built
    have words := generateBlitReq_words built
    rw [formatCsc, path]
    exact words
  · simp only [taskBuilt, path, buildTask, taskSetup] at built
    have words := generateBlitReq_words built
    have taken := settleBuffers_patTaken accepted.settled
    rw [taskPath_blend path] at taken
    rw [blitWords, Option.map_some, taskPatInfo_rect taken] at words
    rw [formatCsc, path]
    exact words

theorem blit_programmed_iff {req : RgaReq} (accepted : Accepted session args buffers mode)
    (blits : taskPath args = .blit ∨ taskPath args = .blend)
    (named : args.dst.colorSpaceMode ∈ colorSpaceModes)
    (built : (taskBuilt session env args buffers mode).2 = .ok req) :
    RequestProgrammed args buffers req ↔ SpacesFit (taskPath args) (taskSpaces buffers) := by
  obtain ⟨⟨table, found⟩, selectors⟩ := task_fields accepted blits built
  rw [← task_words accepted blits named found]
  simp only [RequestProgrammed, EdgesProgram, Programs, WordsProgram, carries_iff table selectors]

theorem edgeSelector_nonzero {edge : Int32 × Int32} {selector : UInt8 × UInt8}
    (found : edgeSelector edge = some selector) : selector.2 ≠ 0 := by
  unfold edgeSelector at found
  simp only [List.lookup_cons, List.lookup_nil] at found
  repeat' split at found
  all_goals cases found
  all_goals decide

theorem blank_carries {req : RgaReq} (table : req.fullCsc = {}) (selectors : req.yuv2rgbMode = 0)
    (edge : Int32 × Int32) : ¬ Converts req edge := by
  have blank : modeTable 0 = {} := by decide +kernel
  rw [carries_iff (table.trans blank.symm) (selectors.trans rfl : _ = toU8 0)]
  rintro (⟨_, row⟩ | ⟨selector, found, bits⟩)
  · exact absurd row (by decide)
  · have zero : toU8 0 = 0 := rfl
    rw [zero, UInt8.zero_and] at bits
    exact edgeSelector_nonzero found bits.symm

theorem blank_programmed_iff {req : RgaReq} (table : req.fullCsc = {})
    (selectors : req.yuv2rgbMode = 0) :
    RequestProgrammed args buffers req ↔
      ∀ edge ∈ colourEdges (taskPath args) (taskSpaces buffers), ¬ Changes edge := by
  refine forall₂_congr fun edge _ => imp_congr_right fun _ => iff_of_false ?_ id
  rintro (direct | ⟨first, _⟩)
  · exact blank_carries table selectors edge direct
  · exact blank_carries table selectors _ first

theorem built_programmed_iff {req : RgaReq} (accepted : Accepted session args buffers mode)
    (named : args.dst.colorSpaceMode ∈ colorSpaceModes)
    (built : (taskBuilt session env args buffers mode).2 = .ok req) :
    RequestProgrammed args buffers req ↔ SpacesFit (taskPath args) (taskSpaces buffers) := by
  cases path : taskPath args with
  | blit => exact path ▸ blit_programmed_iff accepted (.inl path) named built
  | blend => exact path ▸ blit_programmed_iff accepted (.inr path) named built
  | fill => simp [RequestProgrammed, path, colourEdges, SpacesFit]
  | palette =>
      simp only [taskBuilt, path, buildTask] at built
      obtain ⟨_, _, finished, _⟩ := generateColorPaletteReq_finished built
      rw [blank_programmed_iff finished.fullCsc finished.yuv2rgbMode]
      simp [path, colourEdges, SpacesFit]

/-! Submissions -/

/-- The requests that paint; the one that loads a palette's table does not. -/
def drawn (result : SubmitResult) : List RgaReq :=
  (handedOver result).filter fun req => req.renderMode != updatePaletteTableMode

theorem built_draws {req : RgaReq}
    (builds : builtReq (taskBuilt session env args buffers mode).2 = some req) :
    (req.renderMode != updatePaletteTableMode) = true := by
  obtain built | ⟨_, _, _, rfl⟩ := builtReq_eq_some builds
  · cases path : taskPath args with
    | blit | blend =>
        simp only [taskBuilt, path, buildTask] at built
        obtain ⟨_, _, finished⟩ := generateBlitReq_finished built
        rw [finished.renderMode]
        decide
    | fill =>
        simp only [taskBuilt, path, buildTask] at built
        obtain ⟨_, _, finished⟩ := fillReq_finished built
        rw [finished.renderMode]
        decide
    | palette =>
        simp only [taskBuilt, path, buildTask] at built
        obtain ⟨_, _, _, render⟩ := generateColorPaletteReq_finished built
        rw [render]
        decide
  · decide

theorem mem_drawn_iff (env : TaskEnv) (manager : JobManager RgaReq)
    (accepted : Accepted session args buffers mode) (fence : lacksFence args = false)
    (req : RgaReq) :
    req ∈ drawn (rgaTaskSubmit session env manager args) ↔
      builtReq (taskBuilt session env args buffers mode).2 = some req ∧
        Delivers session manager args := by
  unfold drawn
  rw [List.mem_filter, handedOver_accepted env manager accepted fence]
  constructor
  · rintro ⟨update | delivered, draws⟩
    · obtain ⟨_, plan, _, issued⟩ := taskBuilt_update update
      rw [(paletteLutReq_finished issued).2] at draws
      exact absurd draws (by decide)
    · exact delivered
  · rintro ⟨builds, delivers⟩
    exact ⟨.inr ⟨builds, delivers⟩, built_draws builds⟩

theorem submitReq_delivers {req : RgaReq}
    (succeeds : (submitReq session env manager args req).status.ok = true) :
    Delivers session manager args := by
  obtain ⟨status, _⟩ := submitReq_branch session env manager args req
  rw [status] at succeeds
  unfold Delivers
  split at succeeds
  · rename_i job
    obtain ⟨room, _⟩ | ⟨_, same⟩ := submitJob_cases manager args req
    · exact .inr ⟨job, room⟩
    · rw [same] at succeeds
      cases succeeds
  · rename_i none
    refine .inl ⟨eq_zero_of_not_pos none, fun driver => ?_⟩
    rw [submitDirect_unknown driver] at succeeds
    cases succeeds

theorem accepted_of_drawn {req : RgaReq}
    (painted : req ∈ drawn (rgaTaskSubmit session env manager args)) :
    ∃ buffers mode, Accepted session args buffers mode ∧ lacksFence args = false := by
  by_contra refused
  have none := handedOver_unaccepted env manager fun buffers mode accepted => by
    by_contra present
    exact refused ⟨buffers, mode, accepted, by simpa using present⟩
  simp [drawn, none] at painted

theorem delivered_of_ok (succeeds : (rgaTaskSubmit session env manager args).status.ok = true) :
    ∃ buffers mode req, Accepted session args buffers mode ∧ lacksFence args = false ∧
      builtReq (taskBuilt session env args buffers mode).2 = some req ∧
      Delivers session manager args := by
  obtain ⟨buffers, mode, req, accepted, fence, builds, same⟩ := built_of_ok succeeds
  rw [← same] at succeeds
  exact ⟨buffers, mode, req, accepted, fence, builds, submitReq_delivers succeeds⟩

theorem spacesFit_of_unchanged {path : TaskPath} {spaces : TaskSpaces}
    (unchanged : ∀ edge ∈ colourEdges path spaces, ¬ Changes edge) : SpacesFit path spaces := by
  cases path with
  | fill => trivial
  | palette => exact unchanged _ (by simp [colourEdges])
  | blit =>
      intro changes
      exact absurd changes (unchanged _ (by simp [colourEdges]))
  | blend =>
      have changes : Changes droppedEdge := by decide
      have first := unchanged (spaces.source, spaces.between) (by simp [colourEdges])
      have second := unchanged (spaces.between, spaces.target) (by simp [colourEdges])
      refine ⟨?_, ?_, ?_, ?_, ?_⟩
      · intro same
        exact first (same ▸ changes)
      · intro same
        exact second (same ▸ changes)
      · exact fun both => first both.1.1
      · exact fun changed => absurd changed first
      · exact fun changed => absurd changed second

end Task

structure Paints (session : RgaSession) (env : TaskEnv) (manager : JobManager RgaReq)
    (args : TaskArgs) (buffers : TaskBuffers) (mode : Int32) : Prop where
  accepted : Accepted session args buffers mode
  fence : lacksFence args = false
  accepts : ¬ BuilderRefuses session (taskPath args) (taskSetup env args buffers mode)
  table : taskPath args = .palette → env.lutRet = 0
  delivers : Delivers session manager args

/-- Conversions are programmed, or the call fails. -/
structure ConversionsSettled (session : RgaSession) (env : TaskEnv) (manager : JobManager RgaReq)
    (args : TaskArgs) : Prop where
  programmed : ∀ req ∈ drawn (rgaTaskSubmit session env manager args),
    RequestProgrammed args (settledBuffers args) req
  refused : (∃ edge ∈ colourEdges (taskPath args) (taskSpaces (settledBuffers args)),
      Changes edge ∧ ¬ HasEncoding edge) →
    (rgaTaskSubmit session env manager args).status.ok = false ∧
      drawn (rgaTaskSubmit session env manager args) = []

section Task

variable {session : RgaSession} {env : TaskEnv} {manager : JobManager RgaReq} {args : TaskArgs}
  {buffers : TaskBuffers} {mode : Int32}

theorem Accepted.buffers_eq (accepted : Accepted session args buffers mode) :
    buffers = settledBuffers args :=
  (settleBuffers_ok_iff.mp accepted.settled).2.2.2

theorem Paints.built (paints : Paints session env manager args buffers mode) :
    ∃ req, builtReq (taskBuilt session env args buffers mode).2 = some req := by
  by_cases path : taskPath args = .palette
  · obtain ⟨plan, planned⟩ := palette_planned (path ▸ paints.accepts)
    have built := (palette_updates session env.lutRet planned).2
    rw [paints.table path] at built
    rw [← Option.isSome_iff_exists]
    simpa only [taskBuilt, path, buildTask, paints.table path, decide_true] using built
  · rw [← Option.isSome_iff_exists, Option.isSome_iff_ne_none]
    exact fun none => paints.accepts ((built_refused_iff path).mp none)

theorem paints_of_built {req : RgaReq} (accepted : Accepted session args buffers mode)
    (fence : lacksFence args = false)
    (builds : builtReq (taskBuilt session env args buffers mode).2 = some req)
    (delivers : Delivers session manager args) : Paints session env manager args buffers mode := by
  have accepts := accepts_of_builtReq builds
  refine ⟨accepted, fence, accepts, fun path => ?_, delivers⟩
  obtain ⟨plan, planned⟩ := palette_planned (path ▸ accepts)
  have built := (palette_updates session env.lutRet planned).2
  simp only [taskBuilt, path, buildTask] at builds
  rw [builds] at built
  simpa using built.symm

theorem paints_programmed_iff {req : RgaReq} (accepted : Accepted session args buffers mode)
    (fence : lacksFence args = false) (named : args.dst.colorSpaceMode ∈ colorSpaceModes)
    (builds : builtReq (taskBuilt session env args buffers mode).2 = some req) :
    RequestProgrammed args buffers req ↔
      SpacesFit (taskPath args) (taskSpaces buffers) ∧
        (StaleReturn session args →
          ∀ edge ∈ colourEdges (taskPath args) (taskSpaces buffers), ¬ Changes edge) := by
  obtain built | ⟨exit, exits, stale, rfl⟩ := builtReq_eq_some builds
  · rw [built_programmed_iff accepted named built, iff_self_and]
    intro _ returns
    exact absurd returns (fresh_of_built accepted built)
  · have returns : StaleReturn session args := by
      by_contra fresh
      exact stale (fillsRequest_iff.mpr fresh buffers mode exit accepted fence exits)
    rw [blank_programmed_iff rfl rfl]
    exact ⟨fun unchanged => ⟨spacesFit_of_unchanged unchanged, fun _ => unchanged⟩,
      fun fits => fits.2 returns⟩

/-- A property of what is drawn, from its meaning for one built request. -/
theorem drawn_forall_iff (env : TaskEnv) (manager : JobManager RgaReq) {P : RgaReq → Prop}
    {Q : TaskBuffers → Prop}
    (each : ∀ buffers mode req, Accepted session args buffers mode → lacksFence args = false →
      builtReq (taskBuilt session env args buffers mode).2 = some req → (P req ↔ Q buffers)) :
    (∀ req ∈ drawn (rgaTaskSubmit session env manager args), P req) ↔
      ∀ buffers mode, Paints session env manager args buffers mode → Q buffers := by
  constructor
  · intro all buffers mode paints
    obtain ⟨req, builds⟩ := paints.built
    have painted := (mem_drawn_iff env manager paints.accepted paints.fence req).mpr
      ⟨builds, paints.delivers⟩
    exact (each buffers mode req paints.accepted paints.fence builds).mp (all req painted)
  · intro all req painted
    obtain ⟨buffers, mode, accepted, fence⟩ := accepted_of_drawn painted
    obtain ⟨builds, delivers⟩ := (mem_drawn_iff env manager accepted fence req).mp painted
    exact (each buffers mode req accepted fence builds).mpr
      (all buffers mode (paints_of_built accepted fence builds delivers))

theorem not_ok_of_undrawn (undrawn : ∀ req, req ∉ drawn (rgaTaskSubmit session env manager args)) :
    (rgaTaskSubmit session env manager args).status.ok = false := by
  by_contra succeeds
  rw [Bool.not_eq_false] at succeeds
  obtain ⟨buffers, mode, req, accepted, fence, builds, delivers⟩ := delivered_of_ok succeeds
  exact undrawn req ((mem_drawn_iff env manager accepted fence req).mpr ⟨builds, delivers⟩)

end Task

def spaceCopy (srcFormat dstFormat srcSpace dstSpace : Int32) : TaskArgs :=
  { src := { importedBuffer 1 with format := srcFormat, colorSpaceMode := srcSpace }
    dst := { importedBuffer 2 with format := dstFormat, colorSpaceMode := dstSpace }
    opt := some {}
    usage := imSync }

end LibRga
