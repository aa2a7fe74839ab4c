import LibRga.Bounds
import LibRga.FenceArray
import LibRga.TaskEquivalence

/-!
The array and rectangle calls when one element does not pass validation.

Every element is validated right before it is submitted, behind the elements that
have already gone to the driver or into the job.
-/

namespace LibRga

/-! When one submission succeeds -/

/-- The element is handed over, where `ahead` elements are queued before it. -/
def Takes (session : RgaSession) (env : TaskEnv) (manager : JobManager RgaReq) (ahead : Nat)
    (args : TaskArgs) : Prop :=
  ∃ buffers mode, Accepted session args buffers mode ∧ lacksFence args = false ∧
    ¬ BuilderRefuses session (taskPath args) (taskSetup env args buffers mode) ∧
    if 0 < args.jobHandle then JobRoom manager args.jobHandle (ahead + 1)
    else session.driverType ≠ .unknown ∧ env.reply.ret = 0

section Submission

variable {session : RgaSession} {env : TaskEnv} {manager : JobManager RgaReq} {args : TaskArgs}

theorem rgaTaskSubmit_success_iff (path : taskPath args ≠ .palette) :
    (rgaTaskSubmit session env manager args).status = .success ↔
      Takes session env manager 0 args := by
  constructor
  · intro succeeds
    obtain ⟨buffers, mode, req, accepted, fence, builds, same⟩ :=
      @built_of_ok session env manager args (by rw [succeeds]; rfl)
    exact ⟨buffers, mode, accepted, fence, accepts_of_builtReq builds,
      (submitReq_success_iff req).mp (same.trans succeeds)⟩
  · rintro ⟨buffers, mode, accepted, fence, accepts, room⟩
    have prepared := prepareTask_accepted env accepted fence
    dsimp only [rgaTaskSubmit]
    cases builds : builtReq (taskBuilt session env args buffers mode).2 with
    | none => exact absurd ((built_refused_iff path).mp builds) accepts
    | some req =>
        rw [prepared, builds]
        exact (submitReq_success_iff req).mpr room

theorem appended_room {after : JobManager RgaReq} {handle : UInt32} {req : RgaReq} {ptr : JobPtr}
    (appended : manager.appendTask handle req = .appended ptr after) (count : Nat) :
    JobRoom after handle count ↔ JobRoom manager handle (count + 1) := by
  obtain ⟨found, _, rfl⟩ := JobManager.appendTask_eq_appended.mp appended
  simp only [JobRoom, JobManager.setRecord, JobManager.appendReq, found, Option.some.injEq,
    exists_eq_left', if_true]
  omega

theorem Takes.effect (path : taskPath args ≠ .palette)
    (taken : Takes session env manager 0 args) :
    let result := rgaTaskSubmit session env manager args
    handedOver result ≠ [] ∧
      ∀ env ahead later, later.jobHandle = args.jobHandle →
        (Takes session env result.manager ahead later ↔
          Takes session env manager (ahead + 1) later) := by
  have succeeds := (rgaTaskSubmit_success_iff path).mpr taken
  obtain ⟨buffers, mode, accepted, fence, accepts, kind⟩ := taken
  dsimp only [handedOver]
  by_cases job : 0 < args.jobHandle
  · have waits : ¬ Immediate session env args := by
      rintro ⟨_, _, _, _, _, palette | ⟨zero, _⟩⟩
      · exact path palette
      · rw [zero] at job
        exact absurd job (by decide)
    obtain ⟨_, ⟨_, ptr, req, appended, queued, _⟩ | ⟨fails, _⟩⟩ :=
      deferred_of_not_immediate waits manager
    · refine ⟨by simp [queued], fun other ahead later same => ?_⟩
      simp only [Takes, same, job, if_true, appended_room appended]
    · rw [succeeds] at fails
      cases fails
  · rw [if_neg job] at kind
    have zero : args.jobHandle = 0 := eq_zero_of_not_pos job
    have runs : Immediate session env args :=
      ⟨buffers, mode, accepted, fence, accepts, .inr ⟨zero, kind.1⟩⟩
    have blits := blits_of_immediate runs manager
    refine ⟨by simp [blits], fun other ahead later same => ?_⟩
    simp only [Takes, same, job, if_false]

end Submission

/-! The loop -/

/-- What the elements of one array call have in common. -/
structure Element (jobHandle : UInt32) (args : TaskArgs) : Prop where
  handle : args.jobHandle = jobHandle
  path : taskPath args ≠ .palette

section Loop

variable {session : RgaSession} {jobHandle : UInt32} {calls : List TaskArgs}

theorem submitAll_success_iff (elements : ∀ args ∈ calls, Element jobHandle args)
    (env : Nat → TaskEnv) (manager : JobManager RgaReq) :
    (submitAll session env manager calls).status = .success ↔
      ∀ index args, calls[index]? = some args → Takes session (env index) manager index args := by
  induction calls generalizing env manager with
  | nil => simp [submitAll]
  | cons first rest ih =>
      obtain ⟨element, others⟩ := List.forall_mem_cons.mp elements
      have single := @rgaTaskSubmit_success_iff session (env 0) manager first element.path
      dsimp only [submitAll]
      by_cases succeeds : (rgaTaskSubmit session (env 0) manager first).status = .success
      · have taken := single.mp succeeds
        have room := (taken.effect element.path).2
        rw [if_pos succeeds]
        refine (ih others (fun n => env (n + 1)) _).trans ?_
        constructor
        · intro later index args found
          cases index with
          | zero =>
              cases found
              exact taken
          | succ index =>
              have member : args ∈ rest := List.mem_of_getElem? found
              have same := (others args member).handle.trans element.handle.symm
              exact (room (env (index + 1)) index args same).mp (later index args found)
        · intro all index args found
          have member : args ∈ rest := List.mem_of_getElem? found
          have same := (others args member).handle.trans element.handle.symm
          exact (room (env (index + 1)) index args same).mpr (all (index + 1) args found)
      · rw [if_neg succeeds]
        refine iff_of_false succeeds fun all => ?_
        exact succeeds (single.mpr (all 0 first rfl))

theorem submitAll_append (env : Nat → TaskEnv) (manager : JobManager RgaReq)
    (done rest : List TaskArgs)
    (succeeds : (submitAll session env manager done).status = .success) :
    let first := submitAll session env manager done
    let later := submitAll session (fun n => env (n + done.length)) first.manager rest
    submitAll session env manager (done ++ rest) =
      { later with events := first.events ++ later.events } := by
  induction done generalizing env manager with
  | nil => rfl
  | cons args others ih =>
      dsimp only [submitAll, List.cons_append] at succeeds ⊢
      by_cases taken : (rgaTaskSubmit session (env 0) manager args).status = .success
      · rw [if_pos taken] at succeeds
        have later := ih (fun n => env (n + 1)) _ succeeds
        dsimp only at later
        simp only [if_pos taken, later, List.append_assoc]
        rfl
      · rw [if_neg taken] at succeeds
        exact absurd succeeds taken

theorem submitAll_effect (env : Nat → TaskEnv) (manager : JobManager RgaReq) {first : TaskArgs}
    (rest : List TaskArgs) (element : Element jobHandle first)
    (taken : Takes session (env 0) manager 0 first) :
    handedOver (submitAll session env manager (first :: rest)) ≠ [] := by
  have succeeds := (rgaTaskSubmit_success_iff element.path).mpr taken
  have effect := (taken.effect element.path).1
  dsimp only [submitAll]
  rw [if_pos succeeds]
  simp only [handedOver, blitRequests_append, queuedRequests_append, ne_eq,
    List.append_eq_nil_iff] at effect ⊢
  tauto

/-- The call comes to `args` behind `done`, and returns because its validation refuses it. -/
structure StoppedAt (session : RgaSession) (env : Nat → TaskEnv) (manager : JobManager RgaReq)
    (calls done : List TaskArgs) (args : TaskArgs) (status : ImStatus) : Prop where
  reached : done ++ [args] <+: calls
  taken : (submitAll session env manager done).status = .success
  refused : validateTask session args = .error status

theorem StoppedAt.result {env : Nat → TaskEnv} {manager : JobManager RgaReq}
    {done : List TaskArgs} {args : TaskArgs} {status : ImStatus}
    (stopped : StoppedAt session env manager calls done args status) :
    let result := submitAll session env manager calls
    let before := submitAll session env manager done
    result.status = status ∧ result.events = before.events ∧ result.manager = before.manager := by
  obtain ⟨⟨rest, rfl⟩, taken, refused⟩ := stopped
  have failed : status ≠ .success := by
    rintro rfl
    cases refuses_not_ok (validateTask_error refused)
  rw [List.append_assoc, submitAll_append env manager done _ taken]
  have ended (env : TaskEnv) (manager : JobManager RgaReq) :
      rgaTaskSubmit session env manager args = { status := status, manager := manager } := by
    simp only [rgaTaskSubmit, prepareTask, refused]
  simp only [List.cons_append, List.nil_append, submitAll, ended, failed, if_false,
    List.append_nil, and_self]

end Loop

/-! The calls -/

/-- As a single call, with or without a place for a fence, or for a job. -/
inductive ArrayForm where
  | single (sync : Int32) (releaseFence : Bool)
  | task (jobHandle : UInt32)
deriving DecidableEq, Repr

def ArrayForm.jobHandle : ArrayForm → UInt32
  | single _ _ => 0
  | task jobHandle => jobHandle

def arrayPlan (call : Fenced.ArrayCall) : ArrayForm → ApiPlan
  | .single sync releaseFence => call.plan sync releaseFence
  | .task jobHandle =>
      match call with
      | .imfillArray dst rects color => imfillTaskArray jobHandle dst rects color
      | .immosaicArray dst rects mosaicMode => immosaicTaskArray jobHandle dst rects mosaicMode
      | .imrectangle dst rect color thickness => imrectangleTask jobHandle dst rect color thickness
      | .imrectangleArray dst rects color thickness =>
          imrectangleTaskArray jobHandle dst rects color thickness

/-- When an element fails its validation, nothing has been submitted and no job has changed. -/
def ValidationAtomic (session : RgaSession) (env : Nat → TaskEnv) (manager : JobManager RgaReq)
    (plan : ApiPlan) : Prop :=
  ∀ calls done args status, plan = .ok calls →
    StoppedAt session env manager calls done args status →
    let result := runApi session env manager plan
    blitRequests result.events = [] ∧ queuedRequests result.events = [] ∧
      result.manager = manager

/-- An element that fails its validation is the first, or one before it is turned away. -/
def FailsFirst (session : RgaSession) (env : Nat → TaskEnv) (manager : JobManager RgaReq)
    (plan : ApiPlan) : Prop :=
  ∀ calls index args status, plan = .ok calls → calls[index]? = some args →
    validateTask session args = .error status →
    index = 0 ∨ ∃ earlier before, earlier < index ∧ calls[earlier]? = some before ∧
      ¬ Takes session (env earlier) manager earlier before

theorem imfill_elements (dst : RgaBuffer) (color sync : Int32) (placed : Bool) (rect : ImRect) :
    ∃ calls, imfill dst rect color sync placed = .ok calls ∧ ∀ args ∈ calls, Element 0 args := by
  have fills : has (imColorFill ||| syncUsage sync) imColorFill = true := by
    unfold syncUsage
    split_ifs <;> decide
  refine ⟨_, rfl, ?_⟩
  simp only [List.mem_singleton]
  rintro args rfl
  exact ⟨rfl, by simp [taskPath, fills]⟩

theorem immosaic_elements (image : RgaBuffer) (mosaicMode sync : Int32) (placed : Bool)
    (rect : ImRect) :
    ∃ calls, immosaic image rect mosaicMode sync placed = .ok calls ∧
      ∀ args ∈ calls, Element 0 args := by
  have plain : has (imMosaic ||| syncUsage sync) imColorPalette = false := by
    unfold syncUsage
    split_ifs <;> decide
  refine ⟨_, rfl, ?_⟩
  simp only [List.mem_singleton]
  rintro args rfl
  refine ⟨rfl, ?_⟩
  simp only [taskPath, plain, Bool.false_eq_true, if_false]
  split_ifs <;> decide

theorem tasks_elements {jobHandle : UInt32} {plan : ApiPlan}
    (tasks : ∃ calls, plan = .ok calls ∧ ∀ args ∈ calls, PlainTask jobHandle args) :
    ∃ calls, plan = .ok calls ∧ ∀ args ∈ calls, Element jobHandle args := by
  obtain ⟨calls, made, plain⟩ := tasks
  exact ⟨calls, made, fun args member => ⟨(plain args member).handle, (plain args member).path⟩⟩

theorem imrectangle_elements (dst : RgaBuffer) (color : UInt32) (thickness sync : Int32)
    (placed : Bool) (rect : ImRect) :
    ∃ calls, imrectangle dst rect color thickness sync placed = .ok calls ∧
      ∀ args ∈ calls, Element 0 args := by
  unfold imrectangle
  split
  · exact imfill_elements dst _ sync placed rect
  · exact forRects_ok _ (imfill_elements dst _ sync placed)

theorem imrectangleTask_elements (jobHandle : UInt32) (dst : RgaBuffer) (color : UInt32)
    (thickness : Int32) (rect : ImRect) :
    ∃ calls, imrectangleTask jobHandle dst rect color thickness = .ok calls ∧
      ∀ args ∈ calls, Element jobHandle args := by
  have fills := fun rect => tasks_elements (imfillTask_calls jobHandle dst color rect)
  unfold imrectangleTask
  split
  · exact fills rect
  · exact forRects_ok _ fills

theorem arrayPlan_elements (call : Fenced.ArrayCall) (form : ArrayForm) :
    ∃ calls, arrayPlan call form = .ok calls ∧ ∀ args ∈ calls, Element form.jobHandle args := by
  cases form with
  | single sync placed =>
      cases call with
      | imfillArray dst rects color => exact forRects_ok rects (imfill_elements dst _ sync placed)
      | immosaicArray dst rects mosaicMode =>
          exact forRects_ok rects (immosaic_elements dst mosaicMode sync placed)
      | imrectangle dst rect color thickness =>
          exact imrectangle_elements dst color thickness sync placed rect
      | imrectangleArray dst rects color thickness =>
          exact forRects_ok rects (imrectangle_elements dst color thickness sync placed)
  | task jobHandle =>
      cases call with
      | imfillArray dst rects color =>
          exact forRects_ok rects fun rect => tasks_elements (imfillTask_calls _ dst color rect)
      | immosaicArray dst rects mosaicMode =>
          exact forRects_ok rects fun rect =>
            tasks_elements (immosaicTask_calls _ dst mosaicMode rect)
      | imrectangle dst rect color thickness =>
          exact imrectangleTask_elements jobHandle dst color thickness rect
      | imrectangleArray dst rects color thickness =>
          exact forRects_ok rects (imrectangleTask_elements jobHandle dst color thickness)

theorem stoppedAt_take {session : RgaSession} {env : Nat → TaskEnv} {manager : JobManager RgaReq}
    {jobHandle : UInt32} {calls : List TaskArgs} (elements : ∀ args ∈ calls, Element jobHandle args)
    {index : Nat} {args : TaskArgs} {status : ImStatus} (found : calls[index]? = some args)
    (refused : validateTask session args = .error status)
    (taken : ∀ earlier before, earlier < index → calls[earlier]? = some before →
      Takes session (env earlier) manager earlier before) :
    StoppedAt session env manager calls (calls.take index) args status := by
  refine ⟨?_, ?_, refused⟩
  · have split : calls.take (index + 1) = calls.take index ++ [args] := by
      rw [List.take_add_one, found, Option.toList_some]
    rw [← split]
    exact List.take_prefix _ _
  · have each : ∀ before ∈ calls.take index, Element jobHandle before :=
      fun before member => elements before (List.mem_of_mem_take member)
    apply (submitAll_success_iff each env manager).mpr
    intro earlier before placed
    rw [List.getElem?_take] at placed
    split at placed
    · rename_i below
      exact taken earlier before below placed
    · cases placed

/-- A call is atomic exactly where the element that fails its validation is the first one, or some
element before it is turned away for another reason. -/
theorem arrayCall_atomic_iff (session : RgaSession) (env : Nat → TaskEnv)
    (manager : JobManager RgaReq) (call : Fenced.ArrayCall) (form : ArrayForm) :
    ValidationAtomic session env manager (arrayPlan call form) ↔
      FailsFirst session env manager (arrayPlan call form) := by
  obtain ⟨calls, made, elements⟩ := arrayPlan_elements call form
  rw [made]
  constructor
  · intro atomic _ index args status same found refused
    cases same
    by_contra neither
    push Not at neither
    obtain ⟨later, taken⟩ := neither
    have stopped := stoppedAt_take elements found refused taken
    obtain ⟨_, events, _⟩ := stopped.result
    obtain ⟨blits, queued, _⟩ := atomic calls _ args status rfl stopped
    cases calls with
    | nil => cases found
    | cons first rest =>
        obtain ⟨before, rfl⟩ := Nat.exists_eq_succ_of_ne_zero later
        have effect := submitAll_effect env manager (rest.take before) (elements first (by simp))
          (taken 0 first (by omega) rfl)
        apply effect
        simp only [handedOver, runApi, events, List.take_succ_cons] at blits queued ⊢
        rw [blits, queued]
        rfl
  · intro failsFirst _ done args status same stopped
    cases same
    obtain ⟨_, events, managed⟩ := stopped.result
    obtain ⟨⟨rest, rfl⟩, taken, refused⟩ := stopped
    have all := (submitAll_success_iff (fun before member => elements before (by simp [member]))
      env manager).mp taken
    have found : (done ++ [args] ++ rest)[done.length]? = some args := by simp
    obtain first | ⟨earlier, before, below, placed, turned⟩ :=
      failsFirst _ done.length args status rfl found refused
    · rw [List.length_eq_zero_iff] at first
      subst first
      exact ⟨by rw [runApi, events]; rfl, by rw [runApi, events]; rfl, managed⟩
    · rw [List.append_assoc, List.getElem?_append_left below] at placed
      exact absurd (all earlier before placed) turned

/-- The second rectangle reaches over the edge, after the first has gone to the driver, or into
job 7. -/
theorem arrayCall_half_done :
    let call := Fenced.ArrayCall.imfillArray (importedBuffer 1) [⟨0, 0, 8, 8⟩, ⟨60, 0, 8, 8⟩] 0xff
    let run form := runApi rga2ProSession (fun _ => {}) openJobManager (arrayPlan call form)
    (run (.single 1 false)).status = .invalidParam ∧
      blitRequests (run (.single 1 false)).events ≠ [] ∧
      (run (.task 7)).status = .invalidParam ∧ queuedRequests (run (.task 7)).events ≠ [] ∧
      ∀ form ∈ [ArrayForm.single 1 false, .task 7],
        ¬ ValidationAtomic rga2ProSession (fun _ => {}) openJobManager (arrayPlan call form) := by
  intro call run
  have blits : blitRequests (run (.single 1 false)).events ≠ [] := by decide +kernel
  have queued : queuedRequests (run (.task 7)).events ≠ [] := by decide +kernel
  refine ⟨by decide +kernel, blits, by decide +kernel, queued, ?_⟩
  simp only [List.forall_mem_cons, List.not_mem_nil, false_implies, implies_true, and_true]
  constructor
  · intro atomic
    refine blits (atomic _ [_] _ .invalidParam rfl ⟨⟨[], rfl⟩, ?_, ?_⟩).1
    · decide +kernel
    · decide +kernel
  · intro atomic
    refine queued (atomic _ [_] _ .invalidParam rfl ⟨⟨[], rfl⟩, ?_, ?_⟩).2.1
    · decide +kernel
    · decide +kernel

end LibRga
