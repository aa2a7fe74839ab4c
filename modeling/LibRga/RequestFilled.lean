import LibRga.Submission

/-!
When a builder that returns a non-negative value has filled the request, and
what a submission without an address comes to.
-/

namespace LibRga

theorem ret_negative_iff (exit : BuildExit) : exit.ret < 0 ↔ exit ≠ .noAddress := by
  cases exit <;> decide

theorem requireAddr_resolveAddr_error {info : RgaInfo} {exit : BuildExit}
    (refused : requireAddr (resolveAddr info) = .error exit) : exit = .noAddress := by
  have nonzero : ¬((resolveAddr info).fd = 0 ∧ (resolveAddr info).buf = 0) := by
    unfold resolveAddr
    split_ifs with handle phy fd vir
    · simp [handle]
    · simp
    · simp [(ne_of_positive fd).1]
    · simp
    · simp
  unfold requireAddr at refused
  rw [if_neg nonzero] at refused
  split at refused
  · cases refused
    rfl
  · cases refused

def Unresolved (info : RgaInfo) : Prop :=
  requireAddr (resolveAddr info) = .error .noAddress

theorem openChannel_error_iff {info : RgaInfo} {exit : BuildExit} :
    openChannel info = .error exit ↔ Unresolved info ∧ exit = .noAddress := by
  unfold openChannel Unresolved
  cases resolved : requireAddr (resolveAddr info) with
  | ok addr => simp [bind, Except.bind]
  | error other =>
      rw [requireAddr_resolveAddr_error resolved]
      simp [bind, Except.bind, eq_comm]

theorem openSrc1_error_iff {src1 : Option RgaInfo} {exit : BuildExit} :
    openSrc1 src1 = .error exit ↔ (∃ info ∈ src1, Unresolved info) ∧ exit = .noAddress := by
  cases src1 with
  | none => simp [openSrc1]
  | some info =>
      unfold openSrc1 Unresolved
      cases resolved : requireAddr (resolveAddr info) with
      | ok addr => simp [bind, Except.bind, resolved]
      | error other =>
          rw [requireAddr_resolveAddr_error resolved] at resolved
          cases requireAddr_resolveAddr_error resolved
          simp [bind, Except.bind, eq_comm, resolved]

theorem checkBlitRects_error {src dst : Channel} {src1 : Option Channel}
    (refused : checkBlitRects src dst src1 = .error .noAddress) : False := by
  unfold checkBlitRects at refused
  split_ifs at refused <;> cases refused

theorem handleMode_error {handles : List Int32} {exit : BuildExit}
    (refused : handleMode handles = .error exit) : exit = .mixedHandles := by
  unfold handleMode at refused
  split_ifs at refused
  cases refused
  rfl

open Result in
theorem planBlit_noAddress_iff {session : RgaSession} {src dst : RgaInfo}
    {src1 : Option RgaInfo} :
    planBlit session src dst src1 = .error .noAddress ↔
      (∃ flag, handleMode (src.handle :: dst.handle :: (src1.map RgaInfo.handle).toList) =
        .ok flag) ∧ ∃ info ∈ src :: dst :: src1.toList, Unresolved info := by
  unfold planBlit
  cases mode : handleMode (src.handle :: dst.handle :: (src1.map RgaInfo.handle).toList) with
  | error exit =>
      rw [handleMode_error mode]
      simp [bind, Except.bind]
  | ok flag =>
      simp only [bind_eq_error, openChannel_error_iff, openSrc1_error_iff]
      constructor
      · rintro (impossible | ⟨_, _, unresolved | ⟨_, _, unresolved | ⟨_, _, unresolved |
          ⟨dstChannel, _, impossible | ⟨_, _, impossible⟩⟩⟩⟩⟩)
        · cases impossible
        · exact ⟨⟨flag, rfl⟩, src, by simp, unresolved.1⟩
        · obtain ⟨⟨info, third, unresolved⟩, _⟩ := unresolved
          exact ⟨⟨flag, rfl⟩, info, by simp_all, unresolved⟩
        · exact ⟨⟨flag, rfl⟩, dst, by simp, unresolved.1⟩
        · exact (checkBlitRects_error impossible).elim
        · split_ifs at impossible <;> cases impossible
      · rintro ⟨_, info, used, unresolved⟩
        refine .inr ⟨flag, rfl, ?_⟩
        cases opened : openChannel src with
        | error exit => exact .inl (by simpa using (openChannel_error_iff.mp opened).1)
        | ok srcChannel =>
            refine .inr ⟨srcChannel, rfl, ?_⟩
            cases third : openSrc1 src1 with
            | error exit => exact .inl (by simpa using (openSrc1_error_iff.mp third).1)
            | ok src1Channel =>
                refine .inr ⟨src1Channel, rfl, .inl ?_⟩
                have resolved : ¬ Unresolved src := by
                  intro missing
                  have refused := openChannel_error_iff.mpr ⟨missing, rfl⟩
                  rw [opened] at refused
                  cases refused
                have resolvedThird : ∀ info ∈ src1, ¬ Unresolved info := by
                  intro info three missing
                  have refused := openSrc1_error_iff.mpr ⟨⟨info, three, missing⟩, rfl⟩
                  rw [third] at refused
                  cases refused
                simp only [List.mem_cons, Option.mem_toList] at used
                obtain rfl | rfl | three := used
                · exact absurd unresolved resolved
                · exact ⟨unresolved, trivial⟩
                · exact absurd unresolved (resolvedThird info three)

theorem generateBlitReq_stale_iff {session : RgaSession} {src dst : RgaInfo}
    {src1 : Option RgaInfo} :
    (∃ exit, generateBlitReq session src dst src1 = .error exit ∧ ¬ exit.ret < 0) ↔
      planBlit session src dst src1 = .error .noAddress := by
  simp only [ret_negative_iff, not_not, exists_eq_right]
  exact generateBlitReq_exit_iff (by decide)

theorem fillReq_error {mode : AddressMode} {dst : RgaInfo} {exit : BuildExit}
    (refused : fillReq mode dst = .error exit) :
    requireAddr (fillAddr dst) = .error exit := by
  unfold fillReq at refused
  cases resolved : requireAddr (fillAddr dst) with
  | error other => simpa [resolved, bind, Except.bind] using refused
  | ok addr => simp [resolved, bind, Except.bind] at refused

/-! The infos of a submission -/

variable {session : RgaSession} {env : TaskEnv} {manager : JobManager RgaReq} {args : TaskArgs}
  {buffers : TaskBuffers} {mode : Int32}

theorem taskSrcInfo_resolved (notFill : has args.usage imColorFill = false) :
    resolveAddr (taskSrcInfo env args buffers) = resolveAddr (addressInfo args.src) ∧
      (taskSrcInfo env args buffers).handle = args.src.handle.toInt32 := by
  rw [← addressInfo_handle]
  simp only [taskSrcInfo, notFill, Bool.false_eq_true, if_false]
  exact ⟨rfl, rfl⟩

theorem taskDstInfo_resolved :
    resolveAddr (taskDstInfo env args buffers mode) = resolveAddr (addressInfo args.dst) ∧
      (taskDstInfo env args buffers mode).handle = args.dst.handle.toInt32 := by
  rw [← addressInfo_handle]
  exact ⟨rfl, rfl⟩

theorem taskPatInfo_resolved (taken : buffers.patTaken = true) :
    resolveAddr (taskPatInfo args buffers) = resolveAddr (addressInfo args.pat) ∧
      (taskPatInfo args buffers).handle = args.pat.handle.toInt32 := by
  rw [← addressInfo_handle]
  unfold taskPatInfo
  rw [if_pos taken]
  split_ifs <;> exact ⟨rfl, rfl⟩

def Describes (info : RgaInfo) (image : RgaBuffer) : Prop :=
  resolveAddr info = resolveAddr (addressInfo image) ∧ info.handle = image.handle.toInt32

theorem Describes.unresolved_iff {info : RgaInfo} {image : RgaBuffer}
    (described : Describes info image) : Unresolved info ↔ Unaddressed image := by
  rw [Unresolved, described.1, requireAddr_addressInfo]
  split_ifs with unaddressed <;> simp [unaddressed]

theorem Unaddressed.handle_le {image : RgaBuffer} (unaddressed : Unaddressed image) :
    image.handle.toInt32 ≤ 0 := by
  obtain invalid | negative := unaddressed
  · simp only [rgaIsBufferValid, Bool.or_eq_false_iff, decide_eq_false_iff_not, UInt32.not_lt,
      UInt32.le_zero_iff] at invalid
    rw [invalid.2]
    decide
  · rw [negative]
    decide

theorem handleMode_ok_iff {handles : List Int32} :
    (∃ flag, handleMode handles = .ok flag) ↔
      (∀ handle ∈ handles, 0 < handle) ∨ ∀ handle ∈ handles, handle ≤ 0 := by
  unfold handleMode
  by_cases all : ∀ handle ∈ handles, 0 < handle
  · have every : handles.all (fun handle => decide (0 < handle)) = true := by simpa using all
    exact iff_of_true ⟨true, if_pos every⟩ (.inl all)
  · have notEvery : ¬ handles.all (fun handle => decide (0 < handle)) = true := by simpa using all
    have low : handles.any (fun handle => decide (handle ≤ 0)) = true := by
      simpa [Int32.not_lt] using all
    rw [if_neg notEvery, low, Bool.and_true]
    by_cases none : ∀ handle ∈ handles, handle ≤ 0
    · have no : ¬ handles.any (fun handle => decide (0 < handle)) = true := by
        simpa [Int32.not_lt] using none
      exact iff_of_true ⟨false, if_neg no⟩ (.inr none)
    · have high : handles.any (fun handle => decide (0 < handle)) = true := by
        simpa [Int32.not_le] using none
      rw [if_pos high]
      simp [all, none]

theorem describes_handles {infos : List RgaInfo} {images : List RgaBuffer}
    (paired : List.Forall₂ Describes infos images) :
    infos.map RgaInfo.handle = images.map fun image => image.handle.toInt32 := by
  induction paired with
  | nil => rfl
  | cons described _ ih => rw [List.map_cons, List.map_cons, described.2, ih]

theorem describes_unresolved {infos : List RgaInfo} {images : List RgaBuffer}
    (paired : List.Forall₂ Describes infos images) :
    (∃ info ∈ infos, Unresolved info) ↔ ∃ image ∈ images, Unaddressed image := by
  induction paired with
  | nil => simp
  | cons described _ ih =>
      simp only [List.mem_cons, exists_eq_or_imp, described.unresolved_iff, ih]

theorem planBlit_stale_iff {src dst : RgaInfo} {src1 : Option RgaInfo} {images : List RgaBuffer}
    (paired : List.Forall₂ Describes (src :: dst :: src1.toList) images) :
    planBlit session src dst src1 = .error .noAddress ↔
      (∀ image ∈ images, image.handle.toInt32 ≤ 0) ∧ ∃ image ∈ images, Unaddressed image := by
  have handles : src.handle :: dst.handle :: (src1.map RgaInfo.handle).toList =
      images.map fun image => image.handle.toInt32 := by
    rw [← describes_handles paired]
    cases src1 <;> rfl
  rw [planBlit_noAddress_iff, describes_unresolved paired, handles]
  refine and_congr_left ?_
  rintro ⟨image, member, unaddressed⟩
  rw [handleMode_ok_iff, or_iff_right]
  · simp only [List.mem_map, forall_exists_index, and_imp, forall_apply_eq_imp_iff₂]
  · intro positive
    exact absurd unaddressed.handle_le (Int32.not_le.mpr (positive _ (List.mem_map_of_mem member)))

/-! The submission as a whole -/

/-- The buffers a submission needs, by what its usage asks for. -/
def requiredBuffers (args : TaskArgs) : List RgaBuffer :=
  match taskPath args with
  | .fill => [args.dst]
  | .palette | .blend => [args.src, args.dst, args.pat]
  | .blit => [args.src, args.dst]

/-- A builder that does not return a negative value has filled the request. -/
def FillsRequest (session : RgaSession) (env : TaskEnv) (args : TaskArgs) : Prop :=
  ∀ buffers mode exit, Accepted session args buffers mode → lacksFence args = false →
    (taskBuilt session env args buffers mode).2 = .error exit → exit.ret < 0

/-- Without an address for a buffer it needs, a submission fails and leaves no trace. -/
def RefusesMissing (session : RgaSession) (env : TaskEnv) (manager : JobManager RgaReq)
    (args : TaskArgs) : Prop :=
  (∃ image ∈ requiredBuffers args, rgaIsBufferValid image = false) →
    let result := rgaTaskSubmit session env manager args
    result.status.ok = false ∧ blitRequests result.events = [] ∧
      queuedRequests result.events = [] ∧ result.manager = manager

/-- A blit that reaches its builder with a buffer that has no address there, and no handle
beside it that would show the mix. -/
structure StaleReturn (session : RgaSession) (args : TaskArgs) : Prop where
  accepted : ∃ buffers mode, Accepted session args buffers mode
  fence : lacksFence args = false
  blits : taskPath args = .blit ∨ taskPath args = .blend
  handles : ∀ image ∈ requiredBuffers args, image.handle.toInt32 ≤ 0
  unaddressed : ∃ image ∈ requiredBuffers args, Unaddressed image

theorem taskPath_fill_iff : taskPath args = .fill ↔ has args.usage imColorFill = true := by
  unfold taskPath
  split_ifs <;> simp_all

theorem taskPath_blend (path : taskPath args = .blend) : takesPattern args = true := by
  unfold taskPath at path
  split_ifs at path with fill palette blend
  simp only [Bool.and_eq_true] at blend
  simp [takesPattern, blend]

theorem notFill_of_path {path : TaskPath} (taken : taskPath args = path) (other : path ≠ .fill) :
    has args.usage imColorFill = false := by
  rw [← Bool.not_eq_true, ← taskPath_fill_iff, taken]
  exact other

open Result in
theorem settleBuffers_patTaken (settled : settleBuffers args = .ok buffers) :
    buffers.patTaken = takesPattern args := by
  simp only [settleBuffers, bind_eq_ok] at settled
  obtain ⟨src, _, dst, _, settled⟩ := settled
  split at settled
  · rename_i taken
    simp only [ite_error_eq_ok, bind_eq_ok] at settled
    obtain ⟨_, pat, _, same⟩ := settled
    cases same
    exact taken.symm
  · rename_i left
    cases settled
    simpa using left

theorem blit_described (env : TaskEnv) (accepted : Accepted session args buffers mode)
    (blits : taskPath args = .blit ∨ taskPath args = .blend) :
    ∃ src1, (taskBuilt session env args buffers mode).2 =
        generateBlitReq session (taskSrcInfo env args buffers) (taskDstInfo env args buffers mode)
          src1 ∧
      List.Forall₂ Describes (taskSrcInfo env args buffers ::
        taskDstInfo env args buffers mode :: src1.toList) (requiredBuffers args) := by
  obtain path | path := blits
  · have notFill := notFill_of_path path (by decide)
    refine ⟨none, by simp only [taskBuilt, path, buildTask, taskSetup], ?_⟩
    simp only [requiredBuffers, path]
    exact .cons (taskSrcInfo_resolved notFill) (.cons taskDstInfo_resolved .nil)
  · have notFill := notFill_of_path path (by decide)
    have taken := (settleBuffers_patTaken accepted.settled).trans (taskPath_blend path)
    refine ⟨some (taskPatInfo args buffers),
      by simp only [taskBuilt, path, buildTask, taskSetup], ?_⟩
    simp only [requiredBuffers, path]
    exact .cons (taskSrcInfo_resolved notFill)
      (.cons taskDstInfo_resolved (.cons (taskPatInfo_resolved taken) .nil))

theorem blit_stale_iff (env : TaskEnv) (accepted : Accepted session args buffers mode)
    (blits : taskPath args = .blit ∨ taskPath args = .blend) :
    (∃ exit, (taskBuilt session env args buffers mode).2 = .error exit ∧ ¬ exit.ret < 0) ↔
      (∀ image ∈ requiredBuffers args, image.handle.toInt32 ≤ 0) ∧
        ∃ image ∈ requiredBuffers args, Unaddressed image := by
  obtain ⟨src1, builds, described⟩ := blit_described env accepted blits
  rw [builds, generateBlitReq_stale_iff]
  exact planBlit_stale_iff described

theorem fill_exit_negative {exit : BuildExit}
    (refused : generateFillReq session (taskDstInfo env args buffers mode) = .error exit) :
    exit.ret < 0 := by
  have resolved := fillReq_error refused
  have set : (fillAddr (taskDstInfo env args buffers mode)).fd ≠ -1 := by
    show (if 0 < (addressInfo args.dst).handle then (addressInfo args.dst).handle
      else (addressInfo args.dst).fd) ≠ -1
    split_ifs with positive
    · exact (ne_of_positive positive).2
    · unfold addressInfo rgaSetBufferInfo
      split_ifs with handle phy fd vir
      · simp
      · simp
      · exact (ne_of_positive fd).2
      · simp
      · simp
  rw [ret_negative_iff]
  rintro rfl
  simp only [requireAddr, set, false_and, if_false] at resolved
  split at resolved <;> cases resolved

open Result in
theorem planPalette_noAddress {src dst lut : RgaInfo}
    (refused : planPalette src dst lut = .error .noAddress) : False := by
  have positive : ∀ {info : RgaInfo}, 0 < info.handle → ¬ Unresolved info := by
    intro info handle unresolved
    obtain ⟨nonzero, set⟩ := ne_of_positive handle
    simp [Unresolved, resolveAddr, nonzero, requireAddr, set] at unresolved
  unfold planPalette at refused
  split at refused
  · cases refused
  · rename_i handles
    simp only [not_or, Int32.not_le] at handles
    simp only [bind_eq_error, openChannel_error_iff] at refused
    obtain unresolved | ⟨_, _, unresolved | ⟨_, _, refused⟩⟩ := refused
    · exact positive handles.1 unresolved.1
    · exact positive handles.2.1 unresolved.1
    · split_ifs at refused <;> cases refused

theorem palette_exit_negative {src dst lut : RgaInfo} {lutRet : Int32} {exit : BuildExit}
    (refused : (generateColorPaletteReq session src dst lut lutRet).2 = .error exit) :
    exit.ret < 0 := by
  rw [ret_negative_iff]
  rintro rfl
  unfold generateColorPaletteReq at refused
  split at refused
  · rename_i planned
    cases refused
    exact planPalette_noAddress planned
  · split at refused
    · cases refused
    · split at refused <;> cases refused

theorem fillsRequest_iff : FillsRequest session env args ↔ ¬ StaleReturn session args := by
  constructor
  · rintro fills ⟨⟨buffers, mode, accepted⟩, fence, blits, handles, unaddressed⟩
    obtain ⟨exit, refused, stale⟩ :=
      (blit_stale_iff env accepted blits).mpr ⟨handles, unaddressed⟩
    exact stale (fills buffers mode exit accepted fence refused)
  · intro fresh buffers mode exit accepted fence refused
    by_contra stale
    have blits : ∀ path, taskPath args = path → (path = .blit ∨ path = .blend) → False := by
      rintro path taken kinds
      subst taken
      obtain ⟨handles, unaddressed⟩ := (blit_stale_iff env accepted kinds).mp ⟨exit, refused, stale⟩
      exact fresh ⟨⟨buffers, mode, accepted⟩, fence, kinds, handles, unaddressed⟩
    cases path : taskPath args with
    | fill =>
        simp only [taskBuilt, path, buildTask] at refused
        exact stale (fill_exit_negative refused)
    | palette =>
        simp only [taskBuilt, path, buildTask] at refused
        exact stale (palette_exit_negative refused)
    | blend => exact blits _ path (.inr rfl)
    | blit => exact blits _ path (.inl rfl)

theorem valid_of_handle {image : RgaBuffer} (positive : 0 < image.handle.toInt32) :
    rgaIsBufferValid image = true := by
  by_contra invalid
  have low := Unaddressed.handle_le (.inl (by simpa using invalid) : Unaddressed image)
  exact absurd low (Int32.not_le.mpr positive)

theorem Describes.valid {info : RgaInfo} {image : RgaBuffer} (described : Describes info image)
    (positive : 0 < info.handle) : rgaIsBufferValid image = true :=
  valid_of_handle (described.2 ▸ positive)

theorem patTaken_of_handle (handle : 0 < (taskPatInfo args buffers).handle) :
    buffers.patTaken = true := by
  by_contra left
  have zero : (taskPatInfo args buffers).handle = 0 := by
    unfold taskPatInfo
    rw [if_neg left]
    split_ifs <;> rfl
  exact (ne_of_positive handle).1 zero

theorem palette_valid {plan : PalettePlan} (accepted : Accepted session args buffers mode)
    (path : taskPath args = .palette)
    (planned : planPalette (taskSrcInfo env args buffers) (taskDstInfo env args buffers mode)
      (taskPatInfo args buffers) = .ok plan) :
    ∀ image ∈ requiredBuffers args, rgaIsBufferValid image = true := by
  obtain ⟨⟨src, dst, lut⟩, _⟩ := planPalette_ok planned
  have taken := patTaken_of_handle lut
  simp only [requiredBuffers, path, List.mem_cons, List.not_mem_nil, or_false]
  rintro image (rfl | rfl | rfl)
  · exact Describes.valid (taskSrcInfo_resolved (notFill_of_path path (by decide))) src
  · exact accepted.dst
  · exact Describes.valid (taskPatInfo_resolved taken) lut

theorem generateColorPaletteReq_quiet (session : RgaSession) (src dst lut : RgaInfo)
    (lutRet : Int32) (unplanned : ∀ plan, planPalette src dst lut ≠ .ok plan) :
    (generateColorPaletteReq session src dst lut lutRet).1 = none ∧
      ∀ req, (generateColorPaletteReq session src dst lut lutRet).2 ≠ .ok req := by
  unfold generateColorPaletteReq
  cases planned : planPalette src dst lut with
  | error exit => simp
  | ok plan => exact absurd planned (unplanned plan)

theorem Planned.resolved {src dst : RgaInfo} {src1 : Option RgaInfo} {plan : BlitPlan}
    (planned : Planned src dst src1 plan) :
    ∀ info ∈ src :: dst :: src1.toList, ¬ Unresolved info := by
  simp only [List.mem_cons, Option.mem_toList]
  rintro info (rfl | rfl | third) unresolved
  · have refused := openChannel_error_iff.mpr ⟨unresolved, rfl⟩
    rw [planned.src] at refused
    cases refused
  · have refused := openChannel_error_iff.mpr ⟨unresolved, rfl⟩
    rw [planned.dst] at refused
    cases refused
  · have refused := openSrc1_error_iff.mpr ⟨⟨info, third, unresolved⟩, rfl⟩
    rw [planned.src1] at refused
    cases refused

theorem missing_unbuilt (env : TaskEnv) (accepted : Accepted session args buffers mode)
    (missing : ∃ image ∈ requiredBuffers args, rgaIsBufferValid image = false) :
    (taskBuilt session env args buffers mode).1 = none ∧
      ∀ req, (taskBuilt session env args buffers mode).2 ≠ .ok req := by
  obtain ⟨image, required, invalid⟩ := missing
  have blits : ∀ path, taskPath args = path → (path = .blit ∨ path = .blend) →
      ∀ req, (taskBuilt session env args buffers mode).2 ≠ .ok req := by
    rintro path taken kinds req built
    subst taken
    obtain ⟨src1, builds, described⟩ := blit_described env accepted kinds
    obtain ⟨plan, planned, _⟩ := generateBlitReq_finished (builds ▸ built)
    obtain ⟨info, used, unresolved⟩ :=
      (describes_unresolved described).mpr ⟨image, required, .inl invalid⟩
    exact (planBlit_planned planned).resolved info used unresolved
  cases path : taskPath args with
  | blend => exact ⟨by simp only [taskBuilt, path, buildTask], blits _ path (.inr rfl)⟩
  | blit => exact ⟨by simp only [taskBuilt, path, buildTask], blits _ path (.inl rfl)⟩
  | fill =>
      simp only [requiredBuffers, path, List.mem_singleton] at required
      rw [required, accepted.dst] at invalid
      cases invalid
  | palette =>
      simp only [taskBuilt, path, buildTask, taskSetup]
      refine generateColorPaletteReq_quiet _ _ _ _ _ fun plan planned => ?_
      have valid := palette_valid accepted path planned image required
      rw [invalid] at valid
      cases valid

theorem gaussEvents_quiet (env : TaskEnv) (args : TaskArgs) :
    blitRequests (gaussEvents env args) = [] ∧ queuedRequests (gaussEvents env args) = [] := by
  unfold gaussEvents
  split_ifs <;> exact ⟨rfl, rfl⟩

theorem refusesMissing_of_fills (fills : FillsRequest session env args) :
    RefusesMissing session env manager args := by
  intro missing
  obtain ⟨allocates, queues⟩ := gaussEvents_quiet env args
  cases rgaTaskSubmit_submitted session env manager args with
  | invalid status refused same =>
      rw [same]
      exact ⟨refuses_not_ok (validateTask_error refused), rfl, rfl, rfl⟩
  | noFence buffers mode accepted fence same =>
      rw [same]
      exact ⟨rfl, allocates, queues, rfl⟩
  | refused buffers mode accepted fence exits same =>
      rw [same, (missing_unbuilt env accepted missing).1]
      simp only [lutEvents, Option.map_none, Option.toList_none, List.append_nil]
      exact ⟨rfl, allocates, queues, trivial⟩
  | built buffers mode accepted fence req builds same =>
      obtain built | ⟨exit, exits, stale, _⟩ := builtReq_eq_some builds
      · exact absurd built ((missing_unbuilt env accepted missing).2 req)
      · exact absurd (fills buffers mode exit accepted fence exits) stale

/-- A copy from a buffer that was never given an address. -/
def missingSource : TaskArgs :=
  { src := { width := 64, height := 64, wstride := 64, hstride := 64 }
    dst := { virAddr := 0x1000, width := 64, height := 64, wstride := 64, hstride := 64 }
    opt := some {}
    usage := imSync }

end LibRga
