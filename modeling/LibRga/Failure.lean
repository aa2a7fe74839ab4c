import LibRga.ColourSpace

/-!
What a failed submission leaves behind.

The checks, the builder, the job lookup and the driver each have exits of their
own. Only the palette builder talks to the driver before the last of them.
-/

namespace LibRga

/-- The ioctls of the operation itself; the one that loads a palette's table is not among them. -/
def finalBlits (result : SubmitResult) : List RgaReq :=
  (blitRequests result.events).filter fun req => req.renderMode != updatePaletteTableMode

/-- An error that the final ioctl did not report: nothing was sent, and every job is as before. -/
def FailsWithoutEffect (session : RgaSession) (env : TaskEnv) (manager : JobManager RgaReq)
    (args : TaskArgs) : Prop :=
  (rgaTaskSubmit session env manager args).status.ok = false →
    finalBlits (rgaTaskSubmit session env manager args) = [] →
    blitRequests (rgaTaskSubmit session env manager args).events = [] ∧
      (rgaTaskSubmit session env manager args).manager = manager

/-- A palette that the builder accepts, so that its table goes to the driver, although the table
is refused there or the request has nowhere to go. -/
structure TableStranded (session : RgaSession) (env : TaskEnv) (manager : JobManager RgaReq)
    (args : TaskArgs) (buffers : TaskBuffers) (mode : Int32) : Prop where
  accepted : Accepted session args buffers mode
  fence : lacksFence args = false
  path : taskPath args = .palette
  accepts : ¬ BuilderRefuses session .palette (taskSetup env args buffers mode)
  stranded : env.lutRet ≠ 0 ∨ ¬ Delivers session manager args

variable {session : RgaSession} {env : TaskEnv} {manager : JobManager RgaReq} {args : TaskArgs}
  {buffers : TaskBuffers} {mode : Int32}

theorem submitReq_failed {req : RgaReq}
    (failed : (submitReq session env manager args req).status.ok = false)
    (quiet : req ∉ blitRequests (submitReq session env manager args req).events) :
    ¬ Delivers session manager args ∧
      blitRequests (submitReq session env manager args req).events = [] ∧
      (submitReq session env manager args req).manager = manager := by
  obtain ⟨status, managed, _, blits, queues⟩ := submitReq_branch session env manager args req
  have handed := submitReq_handed session env manager args req req
  rw [blits] at quiet
  simp only [handedOver, blits, queues, List.mem_append, quiet, false_or, true_and] at handed
  rw [blits, managed, ← handed]
  rw [status] at failed
  by_cases job : 0 < args.jobHandle
  · rw [if_pos job] at failed ⊢
    obtain ⟨silent, ⟨ptr, _, _, _, succeeded⟩ | ⟨_, unqueued, same⟩⟩ :=
      submitJob_deferred manager args req
    · rw [succeeded] at failed
      cases failed
    · rw [unqueued]
      exact ⟨List.not_mem_nil, silent, same⟩
  · rw [if_neg job] at quiet ⊢
    have driver : session.driverType = .unknown := by
      by_contra known
      rw [submitDirect_blits known] at quiet
      exact quiet (List.mem_singleton_self req)
    rw [submitDirect_unknown driver]
    exact ⟨List.not_mem_nil, rfl, rfl⟩

theorem TableStranded.unbuilt {req : RgaReq} (table : TableStranded session env manager args
    buffers mode) (builds : builtReq (taskBuilt session env args buffers mode).2 = some req) :
    ¬ Delivers session manager args := by
  intro delivers
  have paints := paints_of_built table.accepted table.fence builds delivers
  obtain refused | nowhere := table.stranded
  · exact refused (paints.table table.path)
  · exact nowhere delivers

theorem Accepted.unique {buffers' : TaskBuffers} {mode' : Int32}
    (accepted : Accepted session args buffers mode)
    (other : Accepted session args buffers' mode') : buffers = buffers' ∧ mode = mode' := by
  have first := validateTask_ok_iff.mpr accepted
  rw [validateTask_ok_iff.mpr other] at first
  cases first
  exact ⟨rfl, rfl⟩

theorem TableStranded.loads (table : TableStranded session env manager args buffers mode) :
    (rgaTaskSubmit session env manager args).status.ok = false ∧
      finalBlits (rgaTaskSubmit session env manager args) = [] ∧
      blitRequests (rgaTaskSubmit session env manager args).events ≠ [] := by
  refine ⟨?_, ?_, ?_⟩
  · by_contra succeeds
    rw [Bool.not_eq_false] at succeeds
    obtain ⟨_, _, req, accepted, _, builds, delivers⟩ := delivered_of_ok succeeds
    obtain ⟨rfl, rfl⟩ := table.accepted.unique accepted
    exact table.unbuilt builds delivers
  · rw [List.eq_nil_iff_forall_not_mem]
    intro req final
    have painted : req ∈ drawn (rgaTaskSubmit session env manager args) := by
      obtain ⟨issued, draws⟩ := List.mem_filter.mp final
      exact List.mem_filter.mpr ⟨List.mem_append_left _ issued, draws⟩
    obtain ⟨builds, delivers⟩ := (mem_drawn_iff env manager table.accepted table.fence req).mp
      painted
    exact table.unbuilt builds delivers
  · refine blits_of_immediate ⟨buffers, mode, table.accepted, table.fence, ?_, .inl table.path⟩
      manager
    rw [table.path]
    exact table.accepts

theorem update_delivers (safe : ¬ TableStranded session env manager args buffers mode)
    (accepted : Accepted session args buffers mode) (fence : lacksFence args = false)
    (update : (taskBuilt session env args buffers mode).1 ≠ none) :
    (builtReq (taskBuilt session env args buffers mode).2).isSome = true ∧
      Delivers session manager args := by
  obtain ⟨req, update⟩ := Option.ne_none_iff_exists'.mp update
  obtain ⟨path, plan, planned, _⟩ := taskBuilt_update update
  have accepts : ¬ BuilderRefuses session .palette (taskSetup env args buffers mode) := by
    rintro ⟨exit, refused⟩
    simp only [taskSetup, planned] at refused
    cases refused
  have settled : ¬(env.lutRet ≠ 0 ∨ ¬ Delivers session manager args) :=
    fun stranded => safe ⟨accepted, fence, path, accepts, stranded⟩
  rw [not_or, not_not, not_not] at settled
  obtain ⟨loaded, delivers⟩ := settled
  have built := (palette_updates session env.lutRet planned).2
  refine ⟨?_, delivers⟩
  simpa only [taskBuilt, path, buildTask, taskSetup, loaded, decide_true] using built

theorem failed_withoutEffect_iff (session : RgaSession) (env : TaskEnv)
    (manager : JobManager RgaReq) (args : TaskArgs) :
    FailsWithoutEffect session env manager args ↔
      ∀ buffers mode, ¬ TableStranded session env manager args buffers mode := by
  constructor
  · intro clean buffers mode table
    obtain ⟨failed, quiet, loads⟩ := table.loads
    exact loads (clean failed quiet).1
  · intro safe
    have gauss := gaussEvents_quiet env args
    intro failed quiet
    unfold finalBlits at quiet
    cases rgaTaskSubmit_submitted session env manager args with
    | invalid status refused same =>
        rw [same]
        exact ⟨rfl, rfl⟩
    | noFence buffers mode accepted fence same =>
        rw [same]
        exact ⟨gauss.1, rfl⟩
    | refused buffers mode accepted fence exits same =>
        have unloaded : (taskBuilt session env args buffers mode).1 = none := by
          by_contra update
          have built := (update_delivers (safe buffers mode) accepted fence update).1
          rw [exits] at built
          cases built
        simp only [same, unloaded, blitRequests_append, gauss.1, blitRequests_lutEvents]
        exact ⟨rfl, trivial⟩
    | built buffers mode accepted fence req builds same =>
        rw [same] at failed quiet ⊢
        have unsent : req ∉ blitRequests (submitReq session env manager args req).events := by
          intro sent
          have final : req ∈ (blitRequests (gaussEvents env args ++
              lutEvents (taskBuilt session env args buffers mode).1 ++
              (submitReq session env manager args req).events)).filter
                fun req => req.renderMode != updatePaletteTableMode := by
            rw [List.mem_filter, blitRequests_append]
            exact ⟨List.mem_append_right _ sent, built_draws builds⟩
          rw [quiet] at final
          cases final
        obtain ⟨nowhere, silent, unchanged⟩ := submitReq_failed failed unsent
        have unloaded : (taskBuilt session env args buffers mode).1 = none := by
          by_contra update
          exact nowhere (update_delivers (safe buffers mode) accepted fence update).2
        simp only [unloaded, blitRequests_append, gauss.1, blitRequests_lutEvents, silent]
        exact ⟨rfl, unchanged⟩

/-- A palette task on a handle that names no job. -/
def strandedPalette : TaskArgs :=
  { jobHandle := 7, src := importedBuffer 1, dst := importedBuffer 2, pat := importedBuffer 3
    opt := some {}, usage := imColorPalette }

theorem failed_palette_loads_table :
    ¬ FailsWithoutEffect rga2ProSession {} emptyManager strandedPalette := by
  intro clean
  have failed : (rgaTaskSubmit rga2ProSession {} emptyManager strandedPalette).status.ok = false ∧
      finalBlits (rgaTaskSubmit rga2ProSession {} emptyManager strandedPalette) = [] ∧
      blitRequests (rgaTaskSubmit rga2ProSession {} emptyManager strandedPalette).events ≠ [] := by
    decide +kernel
  exact failed.2.2 (clean failed.1 failed.2.1).1

end LibRga
