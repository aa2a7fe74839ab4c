import LibRga.Border

/-!
The jobs and fences of `immakeBorder`, over every outcome of its calls.

A job is ended by a submission, whether or not that succeeds, or by a cancel. A
fence is spent by a wait, by being handed on, or by being given to the caller.
-/

namespace LibRga

open Interaction

/-- What has been obtained and not been ended or spent; `fault` records an end or a use of
something that is not there. -/
structure BorderLedger where
  jobs : List UInt32 := []
  fences : List Int32 := []
  fault : Bool := false
deriving DecidableEq, Repr

namespace BorderLedger

/-- A negative number is not a fence. -/
def gain (ledger : BorderLedger) (fence : Int32) : BorderLedger :=
  if 0 ≤ fence then { ledger with fences := fence :: ledger.fences } else ledger

def spend (ledger : BorderLedger) (fence : Int32) : BorderLedger :=
  if fence ∈ ledger.fences then { ledger with fences := ledger.fences.erase fence }
  else { ledger with fault := true }

def endJob (ledger : BorderLedger) (handle : UInt32) : BorderLedger :=
  if handle ∈ ledger.jobs then { ledger with jobs := ledger.jobs.erase handle }
  else { ledger with fault := true }

def observe (ledger : BorderLedger) : Sigma BorderCall.Reply → BorderLedger
  | ⟨.improcess _ _, (reply : FenceReply)⟩ =>
      if reply.status = .success then ledger.gain reply.fence else ledger
  | ⟨.imbeginJob, (handle : UInt32)⟩ =>
      if handle = 0 then ledger else { ledger with jobs := handle :: ledger.jobs }
  | ⟨.imendJob handle _ fence release, (reply : FenceReply)⟩ =>
      let ended := ledger.endJob handle
      let ended := if 0 < fence then ended.spend fence else ended
      if release ≠ .null ∧ reply.status = .success then ended.gain reply.fence else ended
  | ⟨.imcancelJob handle, _⟩ => ledger.endJob handle
  | ⟨.imsync fence, _⟩ => ledger.spend fence
  | ⟨.task _ _, _⟩ => ledger

structure Linear (ledger : BorderLedger) (result : BorderResult) : Prop where
  sound : ledger.fault = false
  jobs : ledger.jobs = []
  fences : ledger.fences = (result.releaseFence.filter (0 ≤ ·)).toList

end BorderLedger

namespace BorderArgs

variable (args : BorderArgs)

/-- The outcomes that leave nothing behind. Without borders a job that is begun comes to a second
wait for the fence, unless the kind of border is unknown. -/
def Permits : Sigma BorderCall.Reply → Prop
  | ⟨.improcess _ _, (reply : FenceReply)⟩ => reply.status = .success → reply.fence ≠ 0
  | ⟨.imbeginJob, (handle : UInt32)⟩ =>
      if args.borderless then handle = 0 ∨ ¬args.Known else handle ≠ 0 ∧ args.Known
  | ⟨.task _ _, (ret : ImStatus)⟩ => ret = .success
  | ⟨.imendJob _ _ _ release, (reply : FenceReply)⟩ =>
      release = .tmp → reply.status = .success ∧ 0 < reply.fence
  | ⟨.imcancelJob _, _⟩ | ⟨.imsync _, _⟩ => True

end BorderArgs

section Runs

variable {args : BorderArgs} {handle : UInt32} {fence : Int32} {permitted : Prop}

/-- The ledger beside the question whether every outcome so far is permitted. -/
def watch (args : BorderArgs) (state : BorderLedger × Prop) (exchange : Sigma BorderCall.Reply) :
    BorderLedger × Prop :=
  (state.1.observe exchange, state.2 ∧ args.Permits exchange)

theorem foldl_watch (args : BorderArgs) (trace : List (Sigma BorderCall.Reply))
    (ledger : BorderLedger) (permitted : Prop) :
    (trace.foldl (watch args) (ledger, permitted)).1 = trace.foldl BorderLedger.observe ledger ∧
      ((trace.foldl (watch args) (ledger, permitted)).2 ↔
        permitted ∧ ∀ exchange ∈ trace, args.Permits exchange) := by
  induction trace generalizing ledger permitted with
  | nil => simp
  | cons exchange rest ih =>
      obtain ⟨same, iff⟩ := ih (ledger.observe exchange) (permitted ∧ args.Permits exchange)
      refine ⟨same, ?_⟩
      rw [List.forall_mem_cons, ← and_assoc]
      exact iff

def Decides (args : BorderArgs) (prog : BorderProg) (ledger : BorderLedger) (permitted : Prop) :
    Prop :=
  prog.wp (watch args) (fun _ => True) (fun state result => state.1.Linear result ↔ state.2)
    (ledger, permitted)

theorem Decides.call {request : BorderCall} {next : request.Reply → BorderProg}
    {ledger : BorderLedger}
    (decides : ∀ answer, Decides args (next answer) (ledger.observe ⟨request, answer⟩)
      (permitted ∧ args.Permits ⟨request, answer⟩)) :
    Decides args (.call request next) ledger permitted :=
  fun answer _ => decides answer

theorem Decides.done {ledger : BorderLedger} {result : BorderResult}
    (linear : ledger.Linear result ↔ permitted) :
    Decides args (.done result) ledger permitted :=
  linear

/-- The ledger while a job is open and a fence is to be waited for. -/
def heldLedger (handle : UInt32) (fence : Int32) : BorderLedger :=
  { jobs := [handle], fences := [fence] }

theorem endJob_only (fences : List Int32) (fault : Bool) :
    BorderLedger.endJob ⟨[handle], fences, fault⟩ handle = ⟨[], fences, fault⟩ := by
  simp [BorderLedger.endJob]

theorem spend_only (jobs : List UInt32) (fault : Bool) :
    BorderLedger.spend ⟨jobs, [fence], fault⟩ fence = ⟨jobs, [], fault⟩ := by
  simp [BorderLedger.spend]

theorem linear_empty (status : ImStatus) : BorderLedger.Linear {} { status := status } :=
  ⟨rfl, rfl, rfl⟩

theorem not_linear_left {jobs : List UInt32} {fault : Bool} {status : ImStatus} :
    ¬BorderLedger.Linear ⟨jobs, [fence], fault⟩ { status := status } := by
  intro linear
  cases linear.fences

theorem not_linear_fault {jobs : List UInt32} {fences : List Int32} {result : BorderResult} :
    ¬BorderLedger.Linear ⟨jobs, fences, true⟩ result := by
  intro linear
  cases linear.sound

theorem cancel_decides (ret : ImStatus) (forbidden : ¬permitted) :
    Decides args (BorderArgs.cancel handle ret) (heldLedger handle fence) permitted := by
  refine Decides.call fun answer => Decides.done (iff_of_false ?_ fun both => forbidden both.1)
  simp only [BorderLedger.observe, heldLedger, endJob_only]
  exact not_linear_left

theorem linear_submitted (positive : 0 < fence) (reply : FenceReply) :
    ((heldLedger handle fence).observe ⟨.imendJob handle imAsync fence .caller, reply⟩).Linear {
      status := reply.status
      releaseFence := if reply.status = .success then some reply.fence else none
    } := by
  have placed : ReleaseSlot.caller ≠ .null := by decide
  simp only [BorderLedger.observe, heldLedger, endJob_only, if_pos positive, spend_only]
  by_cases success : reply.status = .success
  · rw [if_pos ⟨placed, success⟩, if_pos success]
    unfold BorderLedger.gain
    by_cases fenced : 0 ≤ reply.fence
    · rw [if_pos fenced]
      exact ⟨rfl, rfl, by simp [Option.filter, fenced]⟩
    · rw [if_neg fenced]
      exact ⟨rfl, rfl, by simp [Option.filter, Int32.not_le.mp fenced]⟩
  · rw [if_neg fun both => success both.2, if_neg success]
    exact ⟨rfl, rfl, rfl⟩

/-- Behind the wait of a synchronous call nothing is left to go wrong, or to put right. -/
theorem waited_decides {fault : Bool} (sound : fault = false ↔ permitted) :
    Decides args (.call (.imsync fence) fun (ret : ImStatus) =>
        if ret ≠ .success then BorderArgs.cancel handle ret
        else .call (.imendJob handle imSync 0 .null) fun (reply : FenceReply) =>
          .done { status := reply.status })
      { jobs := [handle], fences := if fault then [] else [fence] } permitted := by
  have waited (ret : ImStatus) :
      BorderLedger.observe { jobs := [handle], fences := if fault then [] else [fence] }
        ⟨.imsync fence, ret⟩ = ⟨[handle], [], fault⟩ := by
    cases fault <;> simp [BorderLedger.observe, BorderLedger.spend]
  have settled (status : ImStatus) :
      BorderLedger.Linear ⟨[], [], fault⟩ { status := status } ↔ permitted :=
    ⟨fun linear => sound.mp linear.sound, fun holds => ⟨sound.mpr holds, rfl, rfl⟩⟩
  refine Decides.call fun (ret : ImStatus) => ?_
  rw [waited]
  by_cases failed : ret ≠ .success
  · rw [if_pos failed]
    refine Decides.call fun answer => Decides.done ?_
    simp only [BorderLedger.observe, endJob_only, BorderArgs.Permits, and_true]
    exact settled ret
  · rw [if_neg failed]
    refine Decides.call fun (reply : FenceReply) => Decides.done ?_
    have unfenced : ¬(0 : Int32) < 0 := by decide
    have unplaced : args.Permits ⟨.imendJob handle imSync 0 .null, reply⟩ := fun tmp => by
      cases tmp
    have kept : args.Permits ⟨.imsync fence, ret⟩ := trivial
    simp only [BorderLedger.observe, endJob_only, if_neg unfenced, ne_eq, not_true_eq_false,
      false_and, if_false, unplaced, kept, and_true]
    exact settled reply.status

theorem finish_decides (positive : 0 < fence) (holds : permitted) :
    Decides args (args.finish handle fence) (heldLedger handle fence) permitted := by
  unfold BorderArgs.finish
  by_cases sync : args.sync = 1
  · rw [if_pos sync]
    exact @waited_decides args handle fence permitted false (iff_of_true rfl holds)
  · rw [if_neg sync]
    exact Decides.call fun (reply : FenceReply) => Decides.done (iff_of_true
      (linear_submitted positive reply) ⟨holds, fun tmp => by cases tmp⟩)

theorem addTasks_decides {next : BorderProg} {tasks : List BorderTask} (holds : permitted)
    (decides : ∀ permitted, permitted → Decides args next (heldLedger handle fence) permitted) :
    Decides args (BorderArgs.addTasks handle next tasks) (heldLedger handle fence) permitted := by
  induction tasks generalizing permitted with
  | nil => exact decides permitted holds
  | cons task rest ih =>
      refine Decides.call fun (ret : ImStatus) => ?_
      by_cases failed : ret ≠ .success
      · rw [if_pos failed]
        exact cancel_decides ret fun both => failed both.2
      · rw [if_neg failed]
        exact ih ⟨holds, not_not.mp failed⟩

theorem columnJob_decides {source : BorderArgs.SourceRects} (positive : 0 < fence)
    (holds : permitted) :
    Decides args (args.columnJob source handle fence) (heldLedger handle fence) permitted :=
  addTasks_decides holds fun _ holds => finish_decides positive holds

theorem permits_begin (next : UInt32) :
    args.Permits ⟨.imbeginJob, next⟩ ↔
      if args.borderless then next = 0 ∨ ¬args.Known else next ≠ 0 ∧ args.Known :=
  Iff.rfl

theorem begin_decides {next : UInt32 → BorderProg} (bordered : args.borderless = false)
    (holds : permitted)
    (decides : ∀ handle permitted, handle ≠ 0 → (permitted ↔ args.Known) →
      Decides args (next handle) (heldLedger handle fence) permitted) :
    Decides args (.call .imbeginJob fun (handle : UInt32) =>
      if handle = 0 then .done { status := .failed } else next handle)
      { fences := [fence] } permitted := by
  refine Decides.call fun (handle : UInt32) => ?_
  rw [permits_begin, bordered, if_neg Bool.false_ne_true]
  by_cases zero : handle = 0
  · rw [if_pos zero]
    refine Decides.done (iff_of_false ?_ fun both => both.2.1 zero)
    simp only [BorderLedger.observe, if_pos zero]
    exact not_linear_left
  · have begun : BorderLedger.observe { fences := [fence] } ⟨.imbeginJob, handle⟩ =
        heldLedger handle fence := if_neg zero
    rw [if_neg zero, begun]
    exact decides handle _ zero ⟨fun both => both.2.2, fun known => ⟨holds, zero, known⟩⟩

theorem rowJob_decides {source : BorderArgs.SourceRects} (positive : 0 < fence)
    (holds : permitted) (bordered : args.borderless = false) (known : args.Known) :
    Decides args (args.rowJob source handle fence) (heldLedger handle fence) permitted := by
  refine addTasks_decides holds fun permitted holds => ?_
  refine Decides.call fun (reply : FenceReply) => ?_
  have placed : ReleaseSlot.tmp ≠ .null := by decide
  by_cases failed : reply.status ≠ .success ∨ reply.fence ≤ 0
  · -- the job has been submitted, and is cancelled all the same
    rw [if_pos failed]
    refine Decides.call fun answer => Decides.done (iff_of_false ?_ ?_)
    · have ended {fences : List Int32} : BorderLedger.endJob { fences := fences } handle =
          ⟨[], fences, true⟩ := by simp [BorderLedger.endJob]
      simp only [BorderLedger.observe, heldLedger, endJob_only, if_pos positive, spend_only,
        BorderLedger.gain]
      split
      · split <;> rw [ended] <;> exact not_linear_fault
      · rw [ended]
        exact not_linear_fault
    · rintro ⟨⟨_, submitted⟩, _⟩
      obtain ⟨success, fenced⟩ := submitted rfl
      exact failed.elim (fun other => other success) (Int32.not_le.mpr fenced)
  · obtain ⟨success, fenced⟩ := not_or.mp failed
    have succeeded := not_not.mp success
    have present := Int32.not_le.mp fenced
    have handed : (heldLedger handle fence).observe ⟨.imendJob handle imAsync fence .tmp, reply⟩ =
        { fences := [reply.fence] } := by
      simp only [BorderLedger.observe, heldLedger, endJob_only, if_pos positive, spend_only]
      rw [if_pos ⟨placed, succeeded⟩, BorderLedger.gain, if_pos (Int32.le_of_lt present)]
    rw [if_neg failed, handed]
    exact begin_decides bordered ⟨holds, fun _ => ⟨succeeded, present⟩⟩
      fun next permitted _ same => columnJob_decides present (same.mpr known)

theorem known_of_source {source : BorderArgs.SourceRects} (taken : args.sourceRects = some source) :
    args.Known :=
  known_iff.mpr (.inr (by rw [taken]; rfl))

theorem unknown_of_neither (constant : args.borderType ≠ imBorderConstant)
    (taken : args.sourceRects = none) : ¬args.Known := by
  rw [known_iff, taken]
  exact not_or.mpr ⟨constant, by simp⟩

theorem borderJobs_decides (positive : 0 < fence) (holds : permitted)
    (bordered : args.borderless = false) :
    Decides args (args.borderJobs fence) { fences := [fence] } permitted := by
  refine begin_decides bordered holds fun handle permitted _ same => ?_
  by_cases constant : args.borderType = imBorderConstant
  · rw [if_pos constant]
    have known := same.mpr (known_iff.mpr (.inl constant))
    exact addTasks_decides known fun _ holds => finish_decides positive holds
  · rw [if_neg constant]
    cases taken : args.sourceRects with
    | none =>
        have unknown := unknown_of_neither constant taken
        refine Decides.call fun (ret : ImStatus) =>
          Decides.done (iff_of_false ?_ fun both => unknown (same.mp both.1))
        simp only [BorderLedger.observe, heldLedger, endJob_only]
        exact not_linear_left
    | some source =>
        have known := known_of_source taken
        dsimp only
        split
        · exact rowJob_decides positive (same.mpr known) bordered known
        · exact columnJob_decides positive (same.mpr known)

/-- A second wait for a fence that is gone is a fault whatever it returns. -/
theorem staleFinish_decides (sync : args.sync = 1) (forbidden : ¬permitted) :
    Decides args (args.finish handle fence) { jobs := [handle] } permitted := by
  unfold BorderArgs.finish
  rw [if_pos sync]
  exact @waited_decides args handle fence permitted true (iff_of_false (by decide) forbidden)

/-- Without borders the fence has been waited for before the empty job is begun. -/
theorem staleJobs_decides (holds : permitted) (borderless : args.borderless = true)
    (sync : args.sync = 1) : Decides args (args.borderJobs fence) {} permitted := by
  refine Decides.call fun (handle : UInt32) => ?_
  rw [permits_begin, if_pos borderless]
  by_cases zero : handle = 0
  · rw [if_pos zero]
    refine Decides.done (iff_of_true ?_ ⟨holds, .inl zero⟩)
    simp only [BorderLedger.observe, if_pos zero]
    exact linear_empty .failed
  · have begun : BorderLedger.observe {} ⟨.imbeginJob, handle⟩ = { jobs := [handle] } := if_neg zero
    rw [if_neg zero, begun]
    by_cases constant : args.borderType = imBorderConstant
    · rw [if_pos constant, fillTasks_borderless borderless]
      exact staleFinish_decides sync fun both =>
        both.2.elim zero fun unknown => unknown (known_iff.mpr (.inl constant))
    · rw [if_neg constant]
      cases taken : args.sourceRects with
      | none =>
          have unknown := unknown_of_neither constant taken
          refine Decides.call fun (ret : ImStatus) =>
            Decides.done (iff_of_true ?_ ⟨⟨holds, .inr unknown⟩, trivial⟩)
          simp only [BorderLedger.observe, endJob_only]
          exact linear_empty ret
      | some source =>
          have known := known_of_source taken
          obtain ⟨top, bottom, _, _⟩ := borderless_zero borderless
          dsimp only
          rw [if_neg (not_or.mpr ⟨not_not.mpr top, not_not.mpr bottom⟩)]
          unfold BorderArgs.columnJob
          rw [columnTasks_borderless borderless]
          exact staleFinish_decides sync fun both =>
            both.2.elim zero fun unknown => unknown known

theorem immakeBorder_decides : Decides args (immakeBorder args) {} True := by
  unfold immakeBorder
  by_cases slotless : args.sync ≠ 1 ∧ args.releaseFence = false
  · rw [if_pos slotless]
    exact Decides.done (iff_of_true (linear_empty _) trivial)
  rw [if_neg slotless]
  split
  · exact Decides.done (iff_of_true (linear_empty _) trivial)
  refine Decides.call fun (copy : FenceReply) => ?_
  by_cases failed : copy.status ≠ .success ∨ copy.fence ≤ 0
  · rw [if_pos failed]
    refine Decides.done ?_
    simp only [BorderLedger.observe, BorderArgs.Permits, true_and]
    by_cases success : copy.status = .success
    · have bounded := failed.resolve_left (not_not.mpr success)
      rw [if_pos success, BorderLedger.gain]
      by_cases zero : copy.fence = 0
      · rw [if_pos (Int32.le_of_eq zero.symm)]
        exact iff_of_false not_linear_left fun other => other success zero
      · have negative : ¬0 ≤ copy.fence := fun above =>
          zero (Int32.le_antisymm bounded above)
        rw [if_neg negative]
        exact iff_of_true (linear_empty _) fun _ => zero
    · rw [if_neg success]
      exact iff_of_true (linear_empty _) fun other => absurd other success
  · obtain ⟨success, fenced⟩ := not_or.mp failed
    have succeeded := not_not.mp success
    have positive := Int32.not_le.mp fenced
    have permits : True ∧ args.Permits ⟨.improcess args.copyRect args.acquireFenceFd, copy⟩ :=
      ⟨trivial, fun _ zero => fenced (Int32.le_of_eq zero)⟩
    have copied : BorderLedger.observe {} ⟨.improcess args.copyRect args.acquireFenceFd, copy⟩ =
        { fences := [copy.fence] } := by
      simp only [BorderLedger.observe]
      rw [if_pos succeeded, BorderLedger.gain, if_pos (Int32.le_of_lt positive)]
    rw [if_neg failed, copied]
    by_cases borderless : args.borderless = true
    · rw [if_pos borderless]
      by_cases sync : args.sync = 1
      · rw [if_pos sync]
        refine Decides.call fun (ret : ImStatus) => ?_
        have waited : BorderLedger.observe { fences := [copy.fence] } ⟨.imsync copy.fence, ret⟩ =
            {} := spend_only [] false
        rw [waited]
        by_cases lost : ret ≠ .success
        · rw [if_pos lost]
          exact Decides.done (iff_of_true (linear_empty ret) ⟨permits, trivial⟩)
        · rw [if_neg lost]
          exact staleJobs_decides ⟨permits, trivial⟩ borderless sync
      · rw [if_neg sync]
        refine Decides.done (iff_of_true ⟨rfl, rfl, ?_⟩ permits)
        simp [Option.filter, Int32.le_of_lt positive]
    · rw [if_neg borderless]
      exact borderJobs_decides positive permits (Bool.eq_false_iff.mpr borderless)

end Runs

/-- What is obtained is ended or spent once in exactly the runs whose outcomes are permitted. -/
theorem immakeBorder_linear_iff (args : BorderArgs) {trace : List (Sigma BorderCall.Reply)}
    {result : BorderResult} (run : (immakeBorder args).Run trace result) :
    (trace.foldl BorderLedger.observe {}).Linear result ↔
      ∀ exchange ∈ trace, args.Permits exchange := by
  have decided := Prog.wp_run immakeBorder_decides run fun _ _ => trivial
  obtain ⟨ledger, permitted⟩ := foldl_watch args trace {} True
  rw [ledger, permitted, true_and] at decided
  exact decided

/-- Every call succeeds, with fence 7 and handle 2. -/
def smoothReplies : ∀ call : BorderCall, call.Reply
  | .improcess _ _ | .imendJob _ _ _ _ => ({ status := .success, fence := 7 } : FenceReply)
  | .imbeginJob => (2 : UInt32)
  | .task _ _ | .imcancelJob _ | .imsync _ => ImStatus.success

def wrapArgs : BorderArgs :=
  { srcWidth := 16, srcHeight := 16, dstWidth := 20, dstHeight := 20
    top := 2, bottom := 2, left := 2, right := 2, borderType := imBorderWrap
    sync := 0, releaseFence := true }

theorem smoothReplies_permitted (call : BorderCall) :
    wrapArgs.Permits ⟨call, smoothReplies call⟩ := by
  have known : wrapArgs.Known := by decide
  have fenced : (0 : Int32) < 7 := by decide
  cases call with
  | improcess drect fence =>
      intro _ zero
      exact absurd (show (7 : Int32) = 0 from zero) (by decide)
  | imendJob handle syncMode fence release => exact fun _ => ⟨rfl, fenced⟩
  | imbeginJob => exact permits_begin 2 |>.mpr ⟨by decide, known⟩
  | task handle task => rfl
  | imcancelJob handle => trivial
  | imsync fence => trivial

theorem immakeBorder_linear_wrap :
    ∃ trace result, (immakeBorder wrapArgs).Run trace result ∧ trace.length = 9 ∧
      (trace.foldl BorderLedger.observe {}).Linear result := by
  have run := Prog.answered_run smoothReplies (immakeBorder wrapArgs)
  exact ⟨_, _, run, by decide +kernel, (immakeBorder_linear_iff wrapArgs run).mpr
    (Prog.answered_allowed smoothReplies_permitted _)⟩

/-- A copy into a buffer of the same size. -/
def sameSizeArgs : BorderArgs :=
  { srcWidth := 16, srcHeight := 16, dstWidth := 16, dstHeight := 16
    top := 0, bottom := 0, left := 0, right := 0, borderType := imBorderConstant }

def sameSizeTrace : List (Sigma BorderCall.Reply) :=
  [⟨.improcess sameSizeArgs.copyRect (-1), ({ status := .success, fence := 7 } : FenceReply)⟩,
    ⟨.imsync 7, ImStatus.success⟩,
    ⟨.imbeginJob, (2 : UInt32)⟩,
    ⟨.imsync 7, ImStatus.failed⟩,
    ⟨.imcancelJob 2, ImStatus.success⟩]

/-- The fence is closed by the first wait; the second one finds nothing and fails the call. -/
theorem immakeBorder_waits_twice :
    (immakeBorder sameSizeArgs).Run sameSizeTrace { status := .failed } ∧
      ¬(sameSizeTrace.foldl BorderLedger.observe {}).Linear { status := .failed } := by
  refine ⟨.call (.call (.call (.call (.call (.done _))))), ?_⟩
  exact fun linear => Bool.noConfusion linear.sound

end LibRga
