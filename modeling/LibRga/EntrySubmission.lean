import LibRga.EntryPoints
import LibRga.Submission

/-!
The entry points against the models under them: `get_rga_session` takes the steps
of `Session`, and with a session that stays `rga_task_submit` is that of `Submit`.
-/

namespace LibRga.Entry

open Interaction

@[simp]
theorem call_value (answer : (request : SysCall) → SysCall.Reply request) (request : SysCall) :
    (call request).value answer = answer request :=
  rfl

/-- What a thread gets at the end of its step. -/
def sessionPtr (after : SessionState) : SessionEvent → SessionPtr
  | .refused _ _ _ _ => .errPtr .noSession
  | _ => .object after.session.rgaSession

theorem getRgaSession_step {answer : (request : SysCall) → SysCall.Reply request} (asker : Asker)
    {state after : SessionState} {thread : Thread} {reply : SessionReply} {event : SessionEvent}
    (missed : ¬ 0 < (answer .readSession).rgaDevFd) (locked : answer .lockSession = state.session)
    (init : answer (.initSession asker state.session) = reply)
    (step : state.step (.writeLock thread reply) = some (after, event)) :
    (getRgaSession asker).value answer = sessionPtr after event := by
  unfold getRgaSession
  rw [Prog.value_bind, call_value, if_neg missed, Prog.value_bind, call_value, locked]
  unfold SessionState.step at step
  dsimp only at step
  split at step
  · cases step
  by_cases opened : 0 < state.session.rgaDevFd
  · rw [if_pos opened] at step ⊢
    cases step
    rfl
  rw [if_neg opened] at step ⊢
  split at step
  · cases step
  rw [Prog.value_bind, call_value, init, Prog.value_bind]
  split at step
  · rename_i failed
    rw [if_pos failed]
    cases step
    rfl
  · rename_i succeeded
    rw [if_neg succeeded]
    cases step
    rfl

/-- The session has been opened, and every blit is answered alike. -/
structure Steady (answer : (request : SysCall) → SysCall.Reply request) (session : SessionData)
    (env : TaskEnv) (manager : JobManager RgaReq) : Prop where
  opened : 0 < session.rgaDevFd
  session : answer .readSession = session
  context : answer .loadContext = env.context
  malloc : answer .malloc = some env.coePtr
  jobs : answer .lockJobs = manager
  blit : ∀ cmd req arg, answer (.blit cmd req arg) = env.reply
  table : env.lutRet = env.reply.ret

section Steady

variable {answer : (request : SysCall) → SysCall.Reply request} {session : SessionData}
  {env : TaskEnv} {manager : JobManager RgaReq} {args : TaskArgs}

theorem getRgaSession_value (steady : Steady answer session env manager) (asker : Asker) :
    (getRgaSession asker).value answer = .object session.rgaSession := by
  unfold getRgaSession
  rw [Prog.value_bind, call_value, steady.session, if_pos steady.opened]
  rfl

theorem withSession_value (steady : Steady answer session env manager) {α : Type}
    {asker : Asker} {failed : ImStatus → α} {body : RgaSession → Program α} :
    (withSession asker failed body).value answer = (body session.rgaSession).value answer := by
  unfold withSession
  rw [Prog.value_bind, getRgaSession_value steady]
  rfl

theorem rgaCheck_value (steady : Steady answer session env manager) (src dst pat : RgaBuffer)
    (srcRect dstRect patRect : ImRect) (modeUsage : Int32) :
    (rgaCheck src dst pat srcRect dstRect patRect modeUsage).value answer =
      LibRga.rgaCheck session.hardwareInfo src dst pat srcRect dstRect patRect modeUsage := by
  unfold rgaCheck
  rw [withSession_value steady]
  dsimp only
  split
  · rw [Prog.value_bind]
    rfl
  · rfl

theorem buildTask_table {session : RgaSession} {path : TaskPath} {setup : TaskSetup}
    (quiet : (buildTask session path setup 0).1 = none) (lutRet : Int32) :
    buildTask session path setup lutRet = buildTask session path setup 0 := by
  cases path with
  | palette =>
      unfold buildTask generateColorPaletteReq at quiet ⊢
      dsimp only at quiet ⊢
      cases planned : planPalette setup.src setup.dst setup.pat with
      | error exit => rfl
      | ok plan =>
          rw [planned] at quiet
          dsimp only at quiet ⊢
          cases table : paletteLutReq session plan with
          | none => rfl
          | some update =>
              rw [table] at quiet
              cases quiet
  | _ => rfl

theorem generateReq_value (steady : Steady answer session env manager) (setup : TaskSetup) :
    (generateReq args setup).value answer =
      builtReq (buildTask session.rgaSession (taskPath args) setup env.lutRet).2 := by
  unfold generateReq
  rw [withSession_value steady]
  split
  · rename_i quiet
    rw [buildTask_table quiet env.lutRet, Prog.value_pure]
  · rw [Prog.value_bind, call_value, steady.blit, Prog.value_pure, steady.table]

def fenceReply (result : SubmitResult) : FenceReply :=
  { status := result.status, fence := result.releaseFence.getD (-1) }

theorem queueTask_value (steady : Steady answer session env manager) (req : RgaReq) :
    (queueTask args req).value answer = fenceReply (submitJob manager args req) := by
  unfold queueTask submitJob
  rw [Prog.value_bind, call_value, steady.jobs]
  cases manager.appendTask args.jobHandle req <;> rfl

theorem blitTask_value (steady : Steady answer session env manager) (req : RgaReq) :
    (blitTask session.rgaSession args req).value answer =
      fenceReply (submitDirect session.rgaSession env manager args req) := by
  unfold blitTask submitDirect
  cases blitArg session.rgaSession req with
  | none => rfl
  | some arg =>
      dsimp only
      rw [Prog.value_bind, call_value, steady.blit]
      split
      · rfl
      split
      · split <;> rfl
      · rfl

theorem submitReq_value (steady : Steady answer session env manager) (req : RgaReq) :
    (submitReq session.rgaSession args req).value answer =
      fenceReply (LibRga.submitReq session.rgaSession env manager args req) := by
  have freed (reply : FenceReply) : (do
      if has args.usage imGauss ∧ req.gaussConfig.coePtr ≠ 0 then
        call (.free req.gaussConfig.coePtr)
      return reply : Program FenceReply).value answer = reply := by
    split <;> rfl
  have same : fenceReply (LibRga.submitReq session.rgaSession env manager args req) =
      fenceReply (if 0 < args.jobHandle then submitJob manager args req
        else submitDirect session.rgaSession env manager args req) := by
    unfold LibRga.submitReq
    dsimp only
    generalize (if 0 < args.jobHandle then submitJob manager args req
      else submitDirect session.rgaSession env manager args req) = result
    split <;> rfl
  rw [same]
  unfold submitReq
  dsimp only
  by_cases queued : 0 < args.jobHandle
  · rw [if_pos queued, if_pos queued, Prog.value_bind, queueTask_value steady]
    exact freed _
  · rw [if_neg queued, if_neg queued, Prog.value_bind, blitTask_value steady]
    exact freed _

/-- The block is read only for a Gaussian blur. -/
theorem taskSetup_block (buffers : TaskBuffers) (mode : Int32) (coePtr : UInt64)
    (same : has args.usage imGauss = true → coePtr = env.coePtr) :
    taskSetup { context := env.context, coePtr := coePtr } args buffers mode =
      taskSetup env args buffers mode := by
  unfold taskSetup
  congr 1
  unfold taskSrcInfo
  cases gauss : has args.usage imGauss with
  | true => rw [same gauss]
  | false => simp only [gauss, Bool.false_eq_true, if_false]

theorem buildAndSubmit_value (steady : Steady answer session env manager) (buffers : TaskBuffers)
    (mode : Int32) :
    (buildAndSubmit session.rgaSession args buffers mode).value answer =
      if lacksFence args then { status := .illegalParam }
      else
        match builtReq (taskBuilt session.rgaSession env args buffers mode).2 with
        | none => { status := .failed }
        | some req =>
            fenceReply (LibRga.submitReq session.rgaSession env manager args req) := by
  have rest (block : Option UInt64)
      (given : has args.usage imGauss = true → block = some env.coePtr) : (do
      if lacksFence args then return { status := .illegalParam }
      let context : ImContext ← call .loadContext
      let env : TaskEnv := { context := context, coePtr := block.getD 0 }
      let built ← generateReq args (taskSetup env args buffers mode)
      match built with
      | none => return { status := .failed }
      | some req => submitReq session.rgaSession args req : Program FenceReply).value answer =
        if lacksFence args then { status := .illegalParam }
        else
          match builtReq (taskBuilt session.rgaSession env args buffers mode).2 with
          | none => { status := .failed }
          | some req =>
              fenceReply (LibRga.submitReq session.rgaSession env manager args req) := by
    dsimp only
    split
    · rfl
    rw [Prog.value_bind, call_value, steady.context, Prog.value_bind,
      generateReq_value steady, taskSetup_block buffers mode (block.getD 0)
        fun gauss => by rw [given gauss]; rfl]
    unfold taskBuilt
    cases builtReq (buildTask session.rgaSession (taskPath args)
      (taskSetup env args buffers mode) env.lutRet).2 with
    | none => rfl
    | some req => exact submitReq_value steady req
  unfold buildAndSubmit
  dsimp only
  by_cases gauss : has args.usage imGauss = true
  · rw [if_pos gauss, Prog.value_bind, call_value, steady.malloc]
    exact rest _ fun _ => rfl
  · rw [if_neg gauss]
    exact rest none fun gaussian => absurd gaussian gauss

theorem rgaTaskSubmit_value (steady : Steady answer session env manager) (args : TaskArgs) :
    (rgaTaskSubmit args).value answer =
      fenceReply (LibRga.rgaTaskSubmit session.rgaSession env manager args) := by
  unfold rgaTaskSubmit
  rw [withSession_value steady, Prog.value_bind, Prog.value_bind]
  unfold LibRga.rgaTaskSubmit prepareTask validateTask
  by_cases unset : (bufferInfoStatus args).ok = false
  · rw [if_pos unset, if_pos unset]
    rfl
  rw [if_neg unset, if_neg unset]
  cases settled : settleBuffers args with
  | error status => rfl
  | ok buffers =>
      rw [Result.ok_bind]
      dsimp only
      rw [Prog.value_bind, rgaCheck_value steady]
      have table : session.rgaSession.hardwareInfo = session.hardwareInfo := rfl
      rw [table]
      generalize LibRga.rgaCheck session.hardwareInfo buffers.src buffers.dst buffers.pat
        args.srect args.drect args.prect args.usage = status
      by_cases unchecked : status ≠ .noError
      · rw [if_pos unchecked, if_pos unchecked]
        rfl
      rw [if_neg unchecked, if_neg unchecked]
      cases coloured : taskColorSpaceMode session.hardwareInfo buffers.src buffers.dst
          buffers.pat with
      | error status => rfl
      | ok mode =>
          rw [Result.ok_bind]
          dsimp only
          generalize gaussStatus buffers (rgaGetOpt args.opt) args.usage = gauss
          by_cases blurs : has args.usage imGauss = true ∧ gauss ≠ .success
          · rw [if_pos blurs, if_pos blurs]
            rfl
          rw [if_neg blurs, if_neg blurs, buildAndSubmit_value steady]
          dsimp only
          unfold taskBuilt
          split
          · rfl
          cases builtReq (buildTask session.rgaSession (taskPath args)
            (taskSetup env args buffers mode) env.lutRet).2 <;> rfl

end Steady

end LibRga.Entry
