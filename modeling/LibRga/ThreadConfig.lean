import LibRga.Bounds
import LibRga.Library.Run

/-!
`imconfig` and the submissions that take their core and priority from the context of the thread.
-/

namespace LibRga

/-! The context -/

/-- `g_im2d_context`, zero when its thread starts. -/
structure ThreadContext extends ImContext where
  checkMode : Int32 := 0
deriving DecidableEq, Repr, Inhabited

def imSchedulerMask : Int32 := 0xf
def imSchedulerDefault : UInt64 := 0

/-! `IM_CONFIG_NAME` -/

def imConfigSchedulerCore : Int32 := 0
def imConfigPriority : Int32 := 1
def imConfigCheck : Int32 := 2

def imconfig (context : ThreadContext) (name : Int32) (value : UInt64) :
    ImStatus × ThreadContext :=
  if name = imConfigSchedulerCore then
    if value = imSchedulerDefault ∨ value &&& (0xf : UInt64) ≠ 0 then
      (.success, { context with core := value.toUInt32.toInt32 })
    else (.illegalParam, context)
  else if name = imConfigPriority then
    if value ≤ 6 then (.success, { context with priority := value.toUInt32.toInt32 })
    else (.illegalParam, context)
  else if name = imConfigCheck then
    if value = 0 ∨ value = 1 then
      (.success, { context with checkMode := if value = 0 then 0 else 1 })
    else (.illegalParam, context)
  else (.notSupported, context)

structure ThreadContext.Legal (context : ThreadContext) : Prop where
  core : context.core &&& ~~~imSchedulerMask = 0
  priority : 0 ≤ context.priority.toInt ∧ context.priority.toInt ≤ 6
  checkMode : context.checkMode = 0 ∨ context.checkMode = 1

/-- No bit above the mask reaches the context. The test of the code asks for a bit inside. -/
def ConfigFits (name : Int32) (value : UInt64) : Prop :=
  name = imConfigSchedulerCore → value &&& (0xf : UInt64) ≠ 0 → value &&& (0xfffffff0 : UInt64) = 0

theorem imconfig_rejected {context : ThreadContext} {name : Int32} {value : UInt64}
    (rejected : (imconfig context name value).1 ≠ .success) :
    (imconfig context name value).2 = context := by
  unfold imconfig at rejected ⊢
  split_ifs at rejected ⊢ <;> first | rfl | exact absurd rfl rejected

theorem and_eq_zero_iff {w : Nat} (word mask : BitVec w) :
    word &&& mask = 0#w ↔ ∀ i, mask.getLsbD i = true → word.getLsbD i = false := by
  constructor
  · intro none i set
    have bit := congrArg (fun bits => BitVec.getLsbD bits i) none
    simpa [set] using bit
  · intro clear
    apply BitVec.eq_of_getLsbD_eq
    intro i _
    cases set : mask.getLsbD i with
    | false => simp [set]
    | true => simp [clear i set]

/-- The cast into the context keeps the lower half of the value. -/
theorem narrowed_core_iff (value : UInt64) :
    value.toUInt32.toInt32 &&& ~~~imSchedulerMask = 0 ↔ value &&& (0xfffffff0 : UInt64) = 0 := by
  have narrow : (value.toUInt32.toInt32).toBitVec = value.toBitVec.setWidth 32 := rfl
  have low : ∀ i, (~~~imSchedulerMask).toBitVec.getLsbD i = decide (4 ≤ i ∧ i < 32) := by
    intro i
    by_cases inside : i < 32
    · revert i
      decide
    · simp [inside, BitVec.getLsbD_of_ge _ _ (Nat.not_lt.mp inside)]
  have wide : ∀ i, (0xfffffff0 : UInt64).toBitVec.getLsbD i = decide (4 ≤ i ∧ i < 32) := by
    intro i
    by_cases inside : i < 64
    · revert i
      decide
    · rw [BitVec.getLsbD_of_ge _ _ (Nat.not_lt.mp inside)]
      simp
      omega
  rw [← Int32.toBitVec_inj, Int32.toBitVec_and, narrow, ← UInt64.toBitVec_inj, UInt64.toBitVec_and]
  refine (and_eq_zero_iff _ _).trans (Iff.trans ?_ (and_eq_zero_iff _ _).symm)
  simp only [low, wide, decide_eq_true_eq, BitVec.getLsbD_setWidth]
  refine forall_congr' fun i => ?_
  constructor
  · intro clear inside
    simpa [inside.2] using clear inside
  · intro clear inside
    simp [clear inside]

theorem narrowed_priority {value : UInt64} (small : value ≤ 6) :
    0 ≤ value.toUInt32.toInt32.toInt ∧ value.toUInt32.toInt32.toInt ≤ 6 := by
  have bound : value.toNat ≤ 6 := UInt64.le_iff_toNat_le.mp small
  have word : value.toUInt32.toInt32.toBitVec.toNat = value.toNat % 2 ^ 32 :=
    UInt64.toNat_toUInt32 value
  have signed : value.toUInt32.toInt32.toInt = value.toUInt32.toInt32.toBitVec.toInt := rfl
  rw [BitVec.toInt_eq_toNat_cond] at signed
  split at signed <;> omega

theorem imconfig_legal_iff {context : ThreadContext} (legal : context.Legal) (name : Int32)
    (value : UInt64) : (imconfig context name value).2.Legal ↔ ConfigFits name value := by
  unfold imconfig ConfigFits
  by_cases core : name = imConfigSchedulerCore
  · rw [if_pos core]
    by_cases inside : value &&& (0xf : UInt64) ≠ 0
    · rw [if_pos (.inr inside)]
      constructor
      · intro after _ _
        exact (narrowed_core_iff value).mp after.core
      · intro fits
        exact { core := (narrowed_core_iff value).mpr (fits core inside)
                priority := legal.priority, checkMode := legal.checkMode }
    · refine iff_of_true ?_ fun _ set => absurd set inside
      split
      · rename_i accepted
        have zero : value = 0 := accepted.resolve_right inside
        subst value
        exact { core := (narrowed_core_iff 0).mpr (by decide)
                priority := legal.priority, checkMode := legal.checkMode }
      · exact legal
  · rw [if_neg core]
    refine iff_of_true ?_ fun same => absurd same core
    split
    · split
      · rename_i small
        exact { core := legal.core, priority := narrowed_priority small
                checkMode := legal.checkMode }
      · exact legal
    · split
      · split
        · refine { core := legal.core, priority := legal.priority, checkMode := ?_ }
          by_cases zero : value = 0 <;> simp [zero]
        · exact legal
      · exact legal

/-! Submissions -/

def DefaultSchedule (args : TaskArgs) : Prop :=
  (rgaGetOpt args.opt).core = 0 ∧ (rgaGetOpt args.opt).priority = 0

/-- The eight bits of the request stand for the integers of the context. -/
def CarriesContext (context : ThreadContext) (req : RgaReq) : Prop :=
  (req.core.toNat : Int) = context.core.toInt ∧
    (req.priority.toNat : Int) = context.priority.toInt

theorem toU8_emod (value : Int32) : ((toU8 value).toNat : Int) = value.toInt % 256 := by
  have bits : value.toInt = value.toBitVec.toInt := rfl
  rw [BitVec.toInt_eq_toNat_cond] at bits
  have word : (toU8 value).toNat = value.toBitVec.toNat % 256 := rfl
  have bound := value.toBitVec.isLt
  split at bits <;> omega

theorem core_bounds {context : ThreadContext} (legal : context.Legal) :
    0 ≤ context.core.toInt ∧ context.core.toInt < 16 := by
  have clear := (and_eq_zero_iff _ _).mp (congrArg Int32.toBitVec legal.core)
  have mask : ∀ i < 32, imSchedulerMask.toBitVec.getLsbD i = false →
      (~~~imSchedulerMask).toBitVec.getLsbD i = true := by
    decide
  have inside : context.core.toBitVec = context.core.toBitVec &&& imSchedulerMask.toBitVec := by
    apply BitVec.eq_of_getLsbD_eq
    intro i below
    rw [BitVec.getLsbD_and]
    cases set : imSchedulerMask.toBitVec.getLsbD i with
    | false => simp [clear i (mask i below set)]
    | true => simp
  have small : context.core.toBitVec.toNat < 16 := by
    rw [inside, BitVec.toNat_and]
    exact Nat.lt_of_le_of_lt Nat.and_le_right (by decide)
  have signed : context.core.toInt = context.core.toBitVec.toInt := rfl
  rw [BitVec.toInt_eq_toNat_cond] at signed
  split at signed <;> omega

section Submission

variable {session : RgaSession} {env : TaskEnv} {args : TaskArgs} {buffers : TaskBuffers}
  {mode : Int32} {req : RgaReq}

theorem paletteReqBase_schedule (session : RgaSession) (plan : PalettePlan) :
    (paletteReqBase session plan).core = toU8 plan.dst.info.core ∧
      (paletteReqBase session plan).priority = toU8 plan.dst.info.priority :=
  ⟨rfl, rfl⟩

theorem paletteLutReq_schedule {plan : PalettePlan}
    (update : paletteLutReq session plan = some req) :
    req.core = toU8 plan.dst.info.core ∧ req.priority = toU8 plan.dst.info.priority := by
  unfold paletteLutReq at update
  split at update
  · cases update
  · cases update
    exact paletteReqBase_schedule session plan

theorem paletteReq_schedule (plan : PalettePlan) :
    (paletteReq session plan).core = toU8 plan.dst.info.core ∧
      (paletteReq session plan).priority = toU8 plan.dst.info.priority := by
  unfold paletteReq
  cases update : paletteLutReq session plan with
  | none => exact paletteReqBase_schedule session plan
  | some table =>
      have issued := paletteLutReq_schedule update
      exact issued

theorem generateBlitReq_schedule {src dst : RgaInfo} {src1 : Option RgaInfo}
    (built : generateBlitReq session src dst src1 = .ok req) :
    req.core = toU8 dst.core ∧ req.priority = toU8 dst.priority := by
  obtain ⟨plan, planned, finished⟩ := Result.bind_eq_ok.mp built
  have same := (openChannel_ok (planBlit_planned planned).dst).1
  obtain ⟨converted, _, result⟩ := Result.bind_eq_ok.mp finished
  cases result
  rw [← same]
  exact ⟨rfl, rfl⟩

theorem generateFillReq_schedule {dst : RgaInfo} (built : generateFillReq session dst = .ok req) :
    req.core = toU8 dst.core ∧ req.priority = toU8 dst.priority := by
  obtain ⟨addr, _, result⟩ := Result.bind_eq_ok.mp built
  cases result
  exact ⟨rfl, rfl⟩

/-- Each builder writes the schedule last, the table update of a palette included. -/
theorem built_schedule (made : (taskBuilt session env args buffers mode).1 = some req ∨
      (taskBuilt session env args buffers mode).2 = .ok req) :
    req.core = toU8 (taskDstInfo env args buffers mode).core ∧
      req.priority = toU8 (taskDstInfo env args buffers mode).priority := by
  rcases made with update | built
  · obtain ⟨_, plan, planned, issued⟩ := taskBuilt_update update
    rw [← (openChannel_ok (planPalette_ok planned).2.2.1).1]
    exact paletteLutReq_schedule issued
  · cases path : taskPath args with
    | fill =>
        simp only [taskBuilt, path, buildTask] at built
        exact generateFillReq_schedule built
    | blend =>
        simp only [taskBuilt, path, buildTask] at built
        exact generateBlitReq_schedule built
    | blit =>
        simp only [taskBuilt, path, buildTask] at built
        exact generateBlitReq_schedule built
    | palette =>
        simp only [taskBuilt, path, buildTask] at built
        obtain ⟨plan, planned, rfl⟩ := generateColorPaletteReq_ok built
        have opened := (openChannel_ok (planPalette_ok planned).2.2.1).1
        have schedule := @paletteReq_schedule session plan
        rw [opened] at schedule
        exact schedule

/-- A submission hands over what its builders made, and a zero request where a builder returned
before it had made one. -/
theorem handedOver_all_iff (env : TaskEnv) (manager : JobManager RgaReq) {P : RgaReq → Prop}
    (made : ∀ buffers mode req, (taskBuilt session env args buffers mode).1 = some req ∨
      (taskBuilt session env args buffers mode).2 = .ok req → P req) :
    (∀ req ∈ handedOver (rgaTaskSubmit session env manager args), P req) ↔
      (StaleReturn session args → Delivers session manager args → P {}) := by
  by_cases reaches : ∃ buffers mode, Accepted session args buffers mode ∧ lacksFence args = false
  · obtain ⟨buffers, mode, accepted, fence⟩ := reaches
    have handed := handedOver_accepted env manager accepted fence
    constructor
    · intro all stale delivers
      obtain ⟨exit, refused, nonnegative⟩ :=
        (blit_stale_iff env accepted stale.blits).mpr ⟨stale.handles, stale.unaddressed⟩
      have zero : builtReq (taskBuilt session env args buffers mode).2 = some {} := by
        rw [refused]
        exact if_neg nonnegative
      exact all {} ((handed {}).mpr (.inr ⟨zero, delivers⟩))
    · intro blank req member
      obtain update | ⟨builds, delivers⟩ := (handed req).mp member
      · exact made buffers mode req (.inl update)
      · obtain built | ⟨exit, exits, nonnegative, rfl⟩ := builtReq_eq_some builds
        · exact made buffers mode req (.inr built)
        · apply blank _ delivers
          by_contra fresh
          exact nonnegative (fillsRequest_iff.mpr fresh buffers mode exit accepted fence exits)
  · have none := handedOver_unaccepted env manager fun buffers mode accepted => by
      by_contra present
      exact reaches ⟨buffers, mode, accepted, by simpa using present⟩
    rw [none]
    refine iff_of_true (fun _ member => by cases member) ?_
    intro stale
    obtain ⟨buffers, mode, accepted⟩ := stale.accepted
    exact absurd ⟨buffers, mode, accepted, stale.fence⟩ reaches

end Submission

/-! Runs of a thread -/

inductive ThreadAction where
  | config (name : Int32) (value : UInt64)
  | submit (session : RgaSession) (env : TaskEnv) (manager : JobManager RgaReq) (args : TaskArgs)

/-- An action and the context in which the thread came to it. -/
structure ThreadEvent where
  context : ThreadContext
  action : ThreadAction

/-- Submissions only read the context. -/
def ThreadContext.after (context : ThreadContext) : ThreadAction → ThreadContext
  | .config name value => (imconfig context name value).2
  | .submit _ _ _ _ => context

def threadStep (context : ThreadContext) (action : ThreadAction) :
    Option (ThreadContext × ThreadEvent) :=
  some (context.after action, ⟨context, action⟩)

theorem threadStep_eq (context : ThreadContext) (action : ThreadAction) :
    threadStep context action = some (context.after action, ⟨context, action⟩) :=
  rfl

def ThreadContext.requests (context : ThreadContext) (session : RgaSession) (env : TaskEnv)
    (manager : JobManager RgaReq) (args : TaskArgs) : List RgaReq :=
  handedOver (rgaTaskSubmit session { env with context := context.toImContext } manager args)

def ThreadEvent.Kept (event : ThreadEvent) : Prop :=
  event.context.Legal ∧
    match event.action with
    | .config name value =>
        (imconfig event.context name value).1 ≠ .success →
          (imconfig event.context name value).2 = event.context
    | .submit session env manager args =>
        DefaultSchedule args → ∀ req ∈ event.context.requests session env manager args,
          CarriesContext event.context req

/-- A configuration fits by its value. A submission fits unless its builder returns before there is
a request and a zero one goes out, which stands for the context at its start alone. -/
def ThreadEvent.Fits (event : ThreadEvent) : Prop :=
  match event.action with
  | .config name value => ConfigFits name value
  | .submit session _ manager args =>
      DefaultSchedule args → StaleReturn session args → Delivers session manager args →
        event.context.core = 0 ∧ event.context.priority = 0

theorem carriesContext_toU8 {context : ThreadContext} (legal : context.Legal) {req : RgaReq}
    (core : req.core = toU8 context.core) (priority : req.priority = toU8 context.priority) :
    CarriesContext context req := by
  have bounds := core_bounds legal
  have range := legal.priority
  unfold CarriesContext
  rw [core, priority, toU8_emod, toU8_emod]
  constructor <;> omega

theorem carriesContext_zero_iff (context : ThreadContext) :
    CarriesContext context {} ↔ context.core = 0 ∧ context.priority = 0 := by
  unfold CarriesContext
  rw [← Int32.toInt_inj, ← Int32.toInt_inj, eq_comm, @eq_comm _ _ context.priority.toInt]
  rfl

theorem event_kept_iff {event : ThreadEvent} (legal : event.context.Legal) :
    (event.context.after event.action).Legal ∧ event.Kept ↔ event.Fits := by
  obtain ⟨context, action⟩ := event
  cases action with
  | config name value =>
      simp only [ThreadEvent.Kept, ThreadEvent.Fits, ThreadContext.after,
        imconfig_legal_iff legal]
      exact and_iff_left ⟨legal, imconfig_rejected⟩
  | submit session env manager args =>
      simp only [ThreadEvent.Kept, ThreadEvent.Fits, ThreadContext.after, legal, true_and]
      refine forall_congr' fun default => ?_
      have made : ∀ buffers mode req,
          (taskBuilt session { env with context := context.toImContext } args buffers mode).1 =
              some req ∨
            (taskBuilt session { env with context := context.toImContext } args buffers mode).2 =
              .ok req → CarriesContext context req := by
        intro buffers mode req made
        obtain ⟨core, priority⟩ := built_schedule made
        simp only [taskDstInfo, default.1, default.2, ne_eq, not_true_eq_false, if_false]
          at core priority
        exact carriesContext_toU8 legal core priority
      unfold ThreadContext.requests
      rw [handedOver_all_iff _ manager made, carriesContext_zero_iff]

theorem initial_legal : ({} : ThreadContext).Legal where
  core := by decide
  priority := by decide
  checkMode := by decide

/-- Every context that the thread comes to is legal, rejected calls change nothing and every
default submission hands over the core and priority of its context, in the runs whose steps fit. -/
theorem threadRun_legal_iff {trace : List ThreadEvent} {state : ThreadContext}
    (run : Machine.Run threadStep {} trace state) :
    (state.Legal ∧ ∀ event ∈ trace, event.Kept) ↔ ∀ event ∈ trace, event.Fits := by
  induction run with
  | init => simpa using initial_legal
  | @next past state after action event before taken ih =>
      cases taken
      simp only [List.forall_mem_cons]
      constructor
      · rintro ⟨legalAfter, kept, pastKept⟩
        exact ⟨(event_kept_iff kept.1).mp ⟨legalAfter, kept⟩, ih.mp ⟨kept.1, pastKept⟩⟩
      · rintro ⟨fits, pastFits⟩
        obtain ⟨legal, pastKept⟩ := ih.mpr pastFits
        obtain ⟨legalAfter, kept⟩ := (event_kept_iff legal).mpr fits
        exact ⟨legalAfter, kept, pastKept⟩

def importedCopy : TaskArgs :=
  { src := importedBuffer 1, dst := importedBuffer 2, opt := some {}, usage := imSync }

theorem threadRun_legal_copy :
    (⟨{}, .config imConfigSchedulerCore 4⟩ : ThreadEvent).Kept ∧
      (⟨(imconfig {} imConfigSchedulerCore 4).2,
        .submit rga2ProSession {} emptyManager importedCopy⟩ : ThreadEvent).Kept := by
  have configured := Machine.Run.init.next (threadStep_eq {} (.config imConfigSchedulerCore 4))
  have run := configured.next
    (threadStep_eq _ (.submit rga2ProSession {} emptyManager importedCopy))
  have kept := (threadRun_legal_iff run).mpr (by
    simp only [List.forall_mem_cons]
    refine ⟨?_, ?_, by simp⟩
    · intro _ stale
      exact absurd (stale.handles (importedBuffer 1) (by decide +kernel)) (by decide)
    · intro _ _
      decide)
  obtain ⟨submitted, configuredKept, -⟩ := List.forall_mem_cons.mp kept.2 |>.imp_right
    List.forall_mem_cons.mp
  exact ⟨configuredKept, submitted⟩

/-- One bit inside the mask is enough for the test, and the request of a copy then carries another
core than the context. -/
theorem imconfig_overlap_illegal :
    let overlap := (imconfig {} imConfigSchedulerCore 0x101).2
    (imconfig {} imConfigSchedulerCore 0x101).1 = .success ∧ overlap.core = 0x101 ∧
      Machine.Run threadStep {} [⟨{}, .config imConfigSchedulerCore 0x101⟩] overlap ∧
      ¬overlap.Legal ∧
      (overlap.requests rga2ProSession {} emptyManager importedCopy).map RgaReq.core = [1] := by
  refine ⟨by decide, by decide,
    Machine.Run.init.next (threadStep_eq {} (.config imConfigSchedulerCore 0x101)), ?_,
    by decide +kernel⟩
  intro legal
  exact absurd legal.core (by decide)

end LibRga
