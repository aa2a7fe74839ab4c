import LibRga.Deferral
import LibRga.Session
import LibRga.Spared

/-!
The release fence that an asynchronous call reports.

An older driver works on a converted copy of the request, so the fence field of
the request itself stays as the builder left it. `RgaBlit` reports -1 there; the
other two calls report the field.
-/

namespace LibRga

inductive ReleaseCall where
  | task (session : RgaSession) (env : TaskEnv) (manager : JobManager RgaReq) (args : TaskArgs)
  | blit (ctx : RgaContext) (src dst : RgaInfo) (src1 : Option RgaInfo) (reply : IoctlReply)
  | collorFill (ctx : RgaContext) (dst : RgaInfo) (reply : IoctlReply)

namespace ReleaseCall

def driver : ReleaseCall → RgaDriverIocType
  | task session .. => session.driverType
  | blit ctx .. | collorFill ctx .. => ctx.driver

def reply : ReleaseCall → IoctlReply
  | task _ env .. => env.reply
  | blit _ _ _ _ reply | collorFill _ _ reply => reply

def events : ReleaseCall → List DriverEvent
  | task session env manager args => (rgaTaskSubmit session env manager args).events
  | blit ctx src dst src1 reply => (rgaBlit ctx src dst src1 reply).events
  | collorFill ctx dst reply => (rgaCollorFill ctx dst reply).events

/-- The fence that the caller finds afterwards. -/
def reported : ReleaseCall → Option Int32
  | task session env manager args => (rgaTaskSubmit session env manager args).releaseFence
  | blit ctx src dst src1 reply => (rgaBlit ctx src dst src1 reply).outFenceFd
  | collorFill ctx dst reply => (rgaCollorFill ctx dst reply).outFenceFd

/-- The driver has been given a request with `RGA_BLIT_ASYNC` and has taken it. -/
def Taken (call : ReleaseCall) : Prop :=
  (∃ req arg, .blit rgaBlitAsync req arg ∈ call.events) ∧ call.reply.ret = 0

/-- The driver's fence, or none from a driver without fences. -/
def driverFence (call : ReleaseCall) : Int32 :=
  if call.driver = .multiRga then call.reply.outFenceFd else -1

def isRgaBlit : ReleaseCall → Bool
  | blit .. => true
  | _ => false

end ReleaseCall

section Task

variable {session : RgaSession} {env : TaskEnv} {manager : JobManager RgaReq} {args : TaskArgs}
  {buffers : TaskBuffers} {mode : Int32} {req other : RgaReq} {arg : BlitArg}

theorem built_outFence (built : (taskBuilt session env args buffers mode).2 = .ok req) :
    req.outFenceFd = 0 := by
  cases path : taskPath args with
  | fill =>
      simp only [taskBuilt, path, buildTask] at built
      exact fillReq_outFence built
  | palette =>
      simp only [taskBuilt, path, buildTask] at built
      obtain ⟨plan, _, rfl⟩ := generateColorPaletteReq_ok built
      exact paletteReq_outFence session plan
  | blend =>
      simp only [taskBuilt, path, buildTask] at built
      exact generateBlitReq_outFence built
  | blit =>
      simp only [taskBuilt, path, buildTask] at built
      exact generateBlitReq_outFence built

theorem builtReq_outFence
    (builds : builtReq (taskBuilt session env args buffers mode).2 = some req) :
    req.outFenceFd = 0 := by
  obtain built | ⟨_, _, _, rfl⟩ := builtReq_eq_some builds
  · exact built_outFence built
  · rfl

/-- Neither the coefficients nor the palette table go out asynchronously. -/
theorem async_not_prepared (update : Option RgaReq) :
    .blit rgaBlitAsync other arg ∉ gaussEvents env args ++ lutEvents update := by
  intro member
  rcases List.mem_append.mp member with gauss | loads
  · unfold gaussEvents at gauss
    split at gauss <;> simp at gauss
  · have apart : rgaBlitAsync ≠ rgaBlitSync := by decide
    cases update <;> simp [lutEvents, apart] at loads

theorem submitDirect_async
    (issued : .blit rgaBlitAsync other arg ∈ (submitDirect session env manager args req).events)
    (taken : env.reply.ret = 0) :
    (submitDirect session env manager args req).releaseFence =
      some (replyFence session req env.reply) := by
  have apart : rgaBlitAsync ≠ rgaBlitSync := by decide
  unfold submitDirect at issued ⊢
  split at issued
  · cases issued
  · rename_i known
    by_cases async : has args.usage imAsync = true
    · simp [taken, async]
    · simp [taken, async, taskSyncMode, apart] at issued

theorem submitReq_async
    (issued : .blit rgaBlitAsync other arg ∈ (submitReq session env manager args req).events)
    (taken : env.reply.ret = 0) :
    (submitReq session env manager args req).releaseFence =
      some (replyFence session req env.reply) := by
  obtain ⟨_, _, fence, _⟩ := submitReq_branch session env manager args req
  have branch : .blit rgaBlitAsync other arg ∈ (if 0 < args.jobHandle then
      submitJob manager args req else submitDirect session env manager args req).events := by
    unfold submitReq at issued
    dsimp only at issued
    split at issued
    · simpa using issued
    · exact issued
  rw [fence]
  split
  · rename_i job
    rw [if_pos job] at branch
    unfold submitJob at branch
    split at branch <;> simp at branch
  · rename_i direct
    rw [if_neg direct] at branch
    exact submitDirect_async branch taken

theorem task_reported (call : (ReleaseCall.task session env manager args).Taken) :
    (ReleaseCall.task session env manager args).reported =
      some (if session.driverType = .multiRga then env.reply.outFenceFd else 0) := by
  obtain ⟨⟨other, arg, issued⟩, taken⟩ := call
  simp only [ReleaseCall.events, ReleaseCall.reported, ReleaseCall.reply] at issued taken ⊢
  cases rgaTaskSubmit_submitted session env manager args with
  | invalid status refused same =>
      rw [same] at issued
      cases issued
  | noFence buffers mode accepted fence same =>
      rw [same] at issued
      have prepared : .blit rgaBlitAsync other arg ∈ gaussEvents env args ++ lutEvents none := by
        simpa [lutEvents] using issued
      exact absurd prepared (async_not_prepared none)
  | refused buffers mode accepted fence exits same =>
      rw [same] at issued
      exact absurd issued (async_not_prepared _)
  | built buffers mode accepted fence req builds same =>
      rw [same] at issued ⊢
      have last := (List.mem_append.mp issued).resolve_left (async_not_prepared _)
      dsimp only
      rw [submitReq_async last taken, replyFence, builtReq_outFence builds]

end Task

section Legacy

variable {ctx : RgaContext} {dst : RgaInfo} {req other : RgaReq} {arg : BlitArg}
  {reply : IoctlReply}

theorem legacyIoctl_async {syncMode outFence : Int32}
    (issued : .blit rgaBlitAsync other arg ∈
      (legacyIoctl ctx dst syncMode req reply outFence).events) (taken : reply.ret = 0) :
    (legacyIoctl ctx dst syncMode req reply outFence).outFenceFd = some outFence := by
  unfold legacyIoctl at issued ⊢
  split at issued
  · cases issued
  · dsimp only
    rw [if_neg (not_not.mpr taken)]
    split <;> rfl

theorem blit_reported {src : RgaInfo} {src1 : Option RgaInfo}
    (call : (ReleaseCall.blit ctx src dst src1 reply).Taken) :
    (ReleaseCall.blit ctx src dst src1 reply).reported =
      some (if ctx.driver = .multiRga then reply.outFenceFd else -1) := by
  obtain ⟨⟨other, arg, issued⟩, taken⟩ := call
  simp only [ReleaseCall.events, ReleaseCall.reported, rgaBlit] at issued ⊢
  cases built : rgaBlitReq ctx src dst src1 with
  | error exit => simp [built] at issued
  | ok req =>
      rw [built] at issued
      exact legacyIoctl_async issued taken

theorem collorFill_reported (call : (ReleaseCall.collorFill ctx dst reply).Taken) :
    (ReleaseCall.collorFill ctx dst reply).reported =
      some (if ctx.driver = .multiRga then reply.outFenceFd else 0) := by
  obtain ⟨⟨other, arg, issued⟩, taken⟩ := call
  simp only [ReleaseCall.events, ReleaseCall.reported, rgaCollorFill] at issued ⊢
  cases built : rgaCollorFillReq ctx dst with
  | error exit => simp [built] at issued
  | ok req =>
      rw [built] at issued
      dsimp only at issued ⊢
      rw [legacyIoctl_async issued taken, fillReq_outFence built]

end Legacy

theorem releaseFence_reported_iff (call : ReleaseCall) (taken : call.Taken) :
    call.reported = some call.driverFence ↔
      call.driver = .multiRga ∨ call.isRgaBlit = true := by
  have unfenced : (0 : Int32) ≠ -1 := by decide
  cases call with
  | task session env manager args =>
      rw [task_reported taken]
      by_cases multi : session.driverType = .multiRga <;>
        simp [ReleaseCall.driverFence, ReleaseCall.driver, ReleaseCall.reply,
          ReleaseCall.isRgaBlit, multi, unfenced]
  | blit ctx src dst src1 reply =>
      rw [blit_reported taken]
      exact iff_of_true rfl (.inr rfl)
  | collorFill ctx dst reply =>
      rw [collorFill_reported taken]
      by_cases multi : ctx.driver = .multiRga <;>
        simp [ReleaseCall.driverFence, ReleaseCall.driver, ReleaseCall.reply,
          ReleaseCall.isRgaBlit, multi, unfenced]

/-- A driver that answers `RGA2_GET_VERSION` with the text "2.00". -/
def rga200Session : RgaSession :=
  (SessionData.rgaSessionInit {} { fd := 3, rga2Version := some [50, 46, 48, 48] }).2.1.rgaSession

def sharedBuffer (fd : Int32) : RgaBuffer :=
  { fd := fd, width := 64, height := 64, wstride := 64, hstride := 64 }

def asyncCopy (session : RgaSession) : ReleaseCall :=
  .task session { reply := { outFenceFd := 9 } } emptyManager
    { src := sharedBuffer 5, dst := sharedBuffer 6, releaseFence := true, opt := some {}
      usage := imAsync }

def asyncFill : ReleaseCall :=
  .collorFill { mVersion := 2, driver := .rga2 }
    { fd := 5, syncMode := rgaBlitAsync
      rect := { width := 64, height := 64, wstride := 64, hstride := 64 } }
    { outFenceFd := 9 }

theorem taken_of_events {call : ReleaseCall}
    (issued : (call.events.any fun
      | .blit cmd _ _ => cmd == rgaBlitAsync
      | _ => false) = true) (accepted : call.reply.ret = 0) : call.Taken := by
  refine ⟨?_, accepted⟩
  obtain ⟨event, member, async⟩ := List.any_eq_true.mp issued
  cases event with
  | blit cmd req arg =>
      obtain rfl := eq_of_beq async
      exact ⟨req, arg, member⟩
  | queueTask handle req => cases async
  | closeFence fd => cases async
  | gaussAlloc ptr => cases async
  | gaussFree ptr => cases async

theorem releaseFence_reported_copy :
    (asyncCopy rga2ProSession).reported = some (asyncCopy rga2ProSession).driverFence :=
  (releaseFence_reported_iff (asyncCopy rga2ProSession)
    (taken_of_events (by decide +kernel) rfl)).mpr (.inl rfl)

/-- The fd 0 is reported for a copy and for a fill, where there is no fence. -/
theorem stale_releaseFence_reported :
    ((asyncCopy rga200Session).Taken ∧ (asyncCopy rga200Session).reported = some 0 ∧
      (asyncCopy rga200Session).driverFence = -1) ∧
    (asyncFill.Taken ∧ asyncFill.reported = some 0 ∧ asyncFill.driverFence = -1) :=
  ⟨⟨taken_of_events (by decide +kernel) rfl, by decide +kernel, by decide⟩,
    ⟨taken_of_events (by decide +kernel) rfl, by decide +kernel, by decide⟩⟩

end LibRga
