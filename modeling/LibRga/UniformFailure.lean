import LibRga.Deferral
import LibRga.EntryReports
import LibRga.SessionAccounting

/-!
How the entry points report failures.

All of them pass a missing session and a failed ioctl on as they should, but for a
pointer that is not tested, a status returned as a handle, and results that are
dropped on the way.
-/

namespace LibRga.Entry

open Interaction

/-! Wrappers -/

/-- The plan is refused for its arguments. -/
def Refuses (plan : ApiPlan) : Prop :=
  ∀ status, plan = .error status → status.refuses = true

theorem refuses_ok (calls : List TaskArgs) : Refuses (.ok calls) := by
  intro status refused
  cases refused

theorem refuses_ite {condition : Prop} [Decidable condition] {status : ImStatus}
    {plan : ApiPlan} (argument : status.refuses = true) (rest : Refuses plan) :
    Refuses (if condition then .error status else plan) := by
  split
  · intro other refused
    cases refused
    exact argument
  · exact rest

theorem task_refuses (jobHandle : UInt32) (op : ImOp)
    (scaled : ∀ src dst fx fy interpolation, op ≠ .resize src dst fx fy interpolation) :
    Refuses (op.task {} jobHandle) := by
  have made {plan : ApiPlan} (planned : ∃ calls, plan = .ok calls ∧
      ∀ args ∈ calls, PlainTask jobHandle args) : Refuses plan := by
    obtain ⟨calls, rfl, _⟩ := planned
    exact refuses_ok calls
  have fills (dst : RgaBuffer) (color : UInt32) (rects : List ImRect) :=
    forRects_ok rects (imfillTask_calls jobHandle dst color)
  cases op with
  | resize src dst fx fy interpolation => exact absurd rfl (scaled src dst fx fy interpolation)
  | copy | translate | palette => exact refuses_ite rfl (refuses_ok _)
  | fillArray dst rects color => exact made (fills dst color rects)
  | mosaicArray dst rects mosaicMode =>
      exact made (forRects_ok rects (immosaicTask_calls jobHandle dst mosaicMode))
  | rectangle dst rect color thickness =>
      dsimp only [ImOp.task, imrectangleTask]
      split
      · exact refuses_ok _
      · exact made (fills dst color _)
  | rectangleArray dst rects color thickness =>
      refine made (forRects_ok rects fun rect => ?_)
      unfold imrectangleTask
      split
      · exact imfillTask_calls jobHandle dst color rect
      · exact fills dst color _
  | _ => exact refuses_ok _

structure Ended (status : ImStatus) (notes : List Incident) : Prop where
  honest : Honest Incident.plain status notes
  verdict : status = .success ∨ status.ok = false

theorem submitAll_reports (calls : List TaskArgs) :
    (submitAll calls).Reports note fun notes status => Ended status notes := by
  induction calls with
  | nil => exact .done ⟨.nil (by simp), .inl rfl⟩
  | cons args rest ih =>
      refine (rgaTaskSubmit_reports args).bind fun notes reply submitted => ?_
      refine .ite (fun _ => .done ?_) fun succeeded => ?_
      · rw [List.append_nil]
        exact ⟨submitted.honest, submitted.verdict.imp And.left id⟩
      · refine ih.mono fun later status ended => ⟨submitted.honest.andThen ?_ ended.honest,
          ended.verdict⟩
        rw [not_not.mp succeeded]
        rfl

theorem runApi_reports {plan : ApiPlan} (refuses : Refuses plan) :
    (runApi plan).Reports note fun notes status => Ended status notes := by
  cases plan with
  | ok calls => exact submitAll_reports calls
  | error status =>
      have refused := refuses status rfl
      refine .done ⟨.nil ?_, .inr (refuses_not_ok refused)⟩
      rintro rfl
      cases refused

theorem resizeBuffer_reports (src dst : RgaBuffer) (fx fy : ℚ) :
    (resizeBuffer src dst fx fy).Reports note fun notes resized =>
      match resized with
      | .error status => Honest Incident.asks status notes
      | .ok _ => Honest Incident.asks .success notes := by
  refine .ite (fun _ => ?_) fun _ => .done (.nil (by simp))
  refine .ite (fun _ => .done (.nil (by simp))) fun _ => ?_
  refine .ite (fun _ => ?_) fun _ => .done (.nil (by simp))
  refine (rgaCheckExternal_reports _ _ _ _ _ _ _).bind fun notes status vetted => ?_
  refine .ite (fun _ => .done ?_) fun passed => .done ?_
  · rw [List.append_nil]
    exact vetted.honest
  · rw [List.append_nil]
    refine vetted.honest.change ?_ (by simp) fun _ => ?_
    all_goals
      rw [not_not.mp passed]
      simp [ImStatus.ok]

theorem resizeTo_reports (src dst : RgaBuffer) (fx fy : ℚ) {submit : RgaBuffer → ApiPlan}
    (refuses : ∀ dst, Refuses (submit dst)) :
    (resizeTo src dst fx fy submit).Reports note fun notes status =>
      Honest Incident.plain status notes := by
  refine (resizeBuffer_reports src dst fx fy).bind fun notes resized honest => ?_
  cases resized with
  | error status =>
      refine .done ?_
      rw [List.append_nil]
      exact honest.mono asks_plain
  | ok dst =>
      exact (runApi_reports (refuses dst)).mono fun later status ended =>
        (honest.mono asks_plain).andThen rfl ended.honest

/-! Array calls -/

/-- So many operations on the device, all of them if the call succeeds. -/
structure Carried (count : Nat) (status : ImStatus) (notes : List Incident) : Prop where
  honest : Honest (fun _ => true) status notes
  verdict : status = .success ∧ notes.count .blitted = count ∨
    status.ok = false ∧ notes.count .blitted < count

/-- A merge can only lose its own failure. -/
def Merged (notes : List Incident) : Prop :=
  ∀ incident ∈ notes, incident = .lost

theorem Merged.append {notes rest : List Incident} (first : Merged notes) (second : Merged rest) :
    Merged (notes ++ rest) := by
  intro incident member
  rcases List.mem_append.mp member with early | late
  · exact first incident early
  · exact second incident late

theorem Carried.merged {count : Nat} {status : ImStatus} {notes rest : List Incident}
    (merged : Merged notes) (carried : Carried count status rest) :
    Carried count status (notes ++ rest) := by
  have quiet : Honest (fun _ => true) .success notes := by
    refine ⟨fun _ _ => rfl, ?_, ?_, ?_⟩
    · constructor
      · intro wild
        cases merged _ wild
      · intro crashes
        obtain ⟨incident, member, crash⟩ := List.any_eq_true.mp crashes
        rw [merged _ member] at crash
        cases crash
    · refine iff_of_false (by simp) ?_
      intro refuses
      obtain ⟨incident, member, refused⟩ := List.any_eq_true.mp refuses
      rw [merged _ member] at refused
      cases refused
    · intro failed
      cases merged _ failed
  have none : notes.count .blitted = 0 := by
    rw [List.count_eq_zero]
    intro member
    cases merged _ member
  refine ⟨quiet.andThen rfl carried.honest, ?_⟩
  rw [List.count_append, none, Nat.zero_add]
  exact carried.verdict

theorem rgaSyncMerge_reports (name : String) (fd1 fd2 : Int32) :
    ((Fenced.rgaSyncMerge name fd1 fd2).interpret answerFenced).Reports note
      fun notes _ => Merged notes := by
  have quiet : Merged [] := fun incident member => absurd member List.not_mem_nil
  have lost (condition : Prop) [Decidable condition] :
      Merged (if condition then [.lost] else []) := by
    split
    · intro incident member
      exact List.mem_singleton.mp member
    · exact quiet
  have stored (uapi version : Fenced.UapiVersion) (fence : Int32) :
      ((Fenced.storeUapi uapi version fence).interpret answerFenced).Reports note
        fun notes _ => Merged notes := by
    unfold Fenced.storeUapi
    split
    · exact silent_reports (fun _ => rfl) fun _ => .done quiet
    · exact .done quiet
  have legacy (uapi : Fenced.UapiVersion) :
      ((Fenced.legacyMerge uapi name fd1 fd2).interpret answerFenced).Reports note
        fun notes _ => Merged notes := by
    refine (call_reports _).bind ?_
    rintro _ reply rfl
    exact (stored uapi .legacy _).mono fun _ _ merged => (lost _).append merged
  refine silent_reports (fun _ => rfl) fun uapi => ?_
  beta_reduce
  by_cases old : uapi = Fenced.UapiVersion.legacy
  · rw [if_pos old]
    exact legacy uapi
  rw [if_neg old]
  refine (call_reports _).bind ?_
  rintro _ reply rfl
  beta_reduce
  split
  · exact (stored uapi .modern _).mono fun _ _ merged => (lost _).append merged
  · exact (legacy uapi).mono fun _ _ merged => (lost _).append merged

theorem Carried.andThen {first later : ℕ} {status : ImStatus} {notes rest : List Incident}
    (done : Carried first .success notes) (carried : Carried later status rest) :
    Carried (first + later) status (notes ++ rest) := by
  have counted : notes.count .blitted = first := by
    rcases done.verdict with ⟨_, counted⟩ | ⟨failed, _⟩
    · exact counted
    · cases failed
  refine ⟨done.honest.andThen rfl carried.honest, ?_⟩
  rw [List.count_append, counted]
  rcases carried.verdict with ⟨succeeded, all⟩ | ⟨failed, some⟩
  · exact .inl ⟨succeeded, by rw [all]⟩
  · exact .inr ⟨failed, Nat.add_lt_add_left some first⟩

theorem Carried.stop {first : ℕ} (later : ℕ) {status : ImStatus} {notes : List Incident}
    (carried : Carried first status notes) (failed : status ≠ .success) :
    Carried (first + later) status notes := by
  refine ⟨carried.honest, .inr ?_⟩
  rcases carried.verdict with ⟨succeeded, _⟩ | ⟨unsettled, some⟩
  · exact absurd succeeded failed
  · exact ⟨unsettled, Nat.lt_add_right later some⟩

def CarriedOut (count : ℕ) (prog : Fenced.Program Fenced.ArrayResult) : Prop :=
  (prog.interpret answerFenced).Reports note fun notes result =>
    Carried count result.status notes

theorem foldRects_reports (name : String) (sync : Int32) (count : ℕ)
    {op : ImRect → Option Int32 → Fenced.Program Fenced.ArrayResult}
    (each : ∀ rect slot, CarriedOut count (op rect slot)) (rects : List ImRect) (tmp : Int32)
    (slot : Option Int32) :
    CarriedOut (rects.length * count) (Fenced.foldRects name sync op rects tmp slot) := by
  induction rects generalizing tmp slot with
  | nil =>
      refine .done ⟨.nil (by simp), .inl ⟨rfl, ?_⟩⟩
      simp
  | cons rect rest ih =>
      unfold CarriedOut Fenced.foldRects
      rw [Prog.interpret_bind, List.length_cons, Nat.succ_mul, Nat.add_comm]
      refine (each rect slot).bind fun notes done carried => ?_
      by_cases failed : done.status ≠ .success
      · rw [if_pos failed]
        refine .done ?_
        rw [List.append_nil]
        exact carried.stop _ failed
      rw [if_neg failed]
      rw [not_not.mp failed] at carried
      dsimp only
      split
      · rw [Prog.interpret_bind]
        refine (rgaSyncMerge_reports name tmp _).bind fun middle merged merge => ?_
        refine (ih merged done.slot).mono fun later result rest => ?_
        exact carried.andThen (rest.merged merge)
      split
      · exact (ih _ done.slot).mono fun later result rest => carried.andThen rest
      · exact (ih tmp done.slot).mono fun later result rest => carried.andThen rest

theorem rgaSingleTaskSubmit_reports (args : TaskArgs) :
    (rgaSingleTaskSubmit args).Reports note fun notes reply =>
      TaskSubmitted { args with jobHandle := 0 } reply.status notes :=
  rgaTaskSubmit_reports _

theorem TaskSubmitted.once {args : TaskArgs} {status : ImStatus} {notes : List Incident}
    (submitted : TaskSubmitted args status notes) (direct : args.jobHandle = 0)
    (path : taskPath args ≠ .palette) : Carried 1 status notes := by
  refine ⟨submitted.honest.mono fun _ _ => rfl, ?_⟩
  rw [submitted.carried direct path]
  rcases submitted.verdict with ⟨succeeded, _⟩ | failed
  · exact .inl ⟨succeeded, if_pos succeeded⟩
  · refine .inr ⟨failed, ?_⟩
    rw [if_neg]
    · exact Nat.one_pos
    · rintro rfl
      cases failed

theorem submit_carriedOut {args : TaskArgs} (path : taskPath args ≠ .palette)
    (slot : Option Int32) : CarriedOut 1 (Fenced.submit args slot) := by
  refine (rgaSingleTaskSubmit_reports args).bind fun notes reply submitted => ?_
  have carried := submitted.once rfl path
  rw [← List.append_nil notes] at carried
  beta_reduce
  by_cases lacks : lacksFence args = true
  · rw [if_pos lacks]
    -- without a place for the fence the submission has been refused already
    have refused : Fenced.refused reply.status = reply.status := by
      refine if_neg ?_
      intro succeeded
      rw [show lacksFence args = false from submitted.placed succeeded] at lacks
      cases lacks
    rw [refused]
    exact .done carried
  rw [if_neg lacks]
  split
  · exact .done carried
  · exact .done carried

theorem ne_palette {args : TaskArgs} (clear : has args.usage imColorPalette = false) :
    taskPath args ≠ .palette := by
  unfold taskPath
  rw [clear]
  split
  · simp
  rw [if_neg Bool.false_ne_true]
  split <;> simp

theorem syncUsage_palette (usage sync : Int32)
    (clear : ∀ mode ∈ [imAsync, imSync, 0], has (usage ||| mode) imColorPalette = false) :
    has (usage ||| syncUsage sync) imColorPalette = false := by
  refine clear _ ?_
  unfold syncUsage
  split
  · exact List.mem_cons_self
  split
  · simp
  · simp

theorem imfill_carriedOut (dst : RgaBuffer) (rect : ImRect) (color sync : Int32)
    (slot : Option Int32) : CarriedOut 1 (Fenced.imfill dst rect color sync slot) := by
  have clear := syncUsage_palette imColorFill sync (by decide)
  apply submit_carriedOut
  exact ne_palette clear

theorem immosaic_carriedOut (image : RgaBuffer) (rect : ImRect) (mosaicMode sync : Int32)
    (slot : Option Int32) :
    CarriedOut 1 (Fenced.immosaic image rect mosaicMode sync slot) := by
  have clear := syncUsage_palette imMosaic sync (by decide)
  apply submit_carriedOut
  exact ne_palette clear

def operations : ImOp → ℕ
  | .fillArray _ rects _ | .mosaicArray _ rects _ => rects.length
  | .rectangle _ _ _ thickness => if thickness < 0 then 1 else 4
  | .rectangleArray _ rects _ thickness => rects.length * if thickness < 0 then 1 else 4
  | _ => 1

theorem imrectangle_carriedOut (dst : RgaBuffer) (rect : ImRect) (color : UInt32)
    (thickness sync : Int32) (slot : Option Int32) :
    CarriedOut (if thickness < 0 then 1 else 4)
      (Fenced.imrectangle dst rect color thickness sync slot) := by
  unfold Fenced.imrectangle
  split
  · exact imfill_carriedOut _ _ _ _ _
  · exact foldRects_reports _ _ 1 (fun _ _ => imfill_carriedOut _ _ _ _ _) _ _ _

/-- `spent` says when a call whose failure was lost still succeeds. -/
structure StatusReport (spent : List Incident → Prop) (status : ImStatus)
    (notes : List Incident) : Prop where
  honest : Honest (fun _ => true) status notes
  lost : .lost ∈ notes → (status.ok = true ↔ spent notes)

section StatusReport

variable {spent : List Incident → Prop} {status : ImStatus} {notes : List Incident}

theorem StatusReport.of_reported (honest : Honest Incident.reported status notes) :
    StatusReport spent status notes := by
  refine ⟨honest.mono fun _ _ => rfl, fun lost => ?_⟩
  cases honest.only _ lost

theorem plain_reported (incident : Incident) (plain : incident.plain = true) :
    incident.reported = true := by
  cases incident <;> first | rfl | cases plain

theorem StatusReport.of_plain (honest : Honest Incident.plain status notes) :
    StatusReport spent status notes :=
  .of_reported (honest.mono plain_reported)

theorem StatusReport.of_carried {count : ℕ} (carried : Carried count status notes) :
    StatusReport (fun notes => notes.count .blitted = count) status notes := by
  refine ⟨carried.honest, fun _ => ?_⟩
  rcases carried.verdict with ⟨succeeded, all⟩ | ⟨failed, some⟩
  · rw [succeeded]
    exact iff_of_true rfl all
  · exact iff_of_false (by simp [failed]) (Nat.ne_of_lt some)

end StatusReport

theorem runFenced_reports {count : ℕ} {prog : Fenced.Program Fenced.ArrayResult}
    (carries : CarriedOut count prog) :
    (runFenced prog).Reports note fun notes status =>
      StatusReport (fun notes => notes.count .blitted = count) status notes :=
  .map (carries.mono fun _ _ carried => .of_carried carried)

theorem direct_reports (sync acquireFenceFd : Int32) (slot : Option Int32) (op : ImOp) :
    (direct sync acquireFenceFd slot op).Reports note fun notes status =>
      StatusReport (fun notes => notes.count .blitted = operations op) status notes := by
  have single {plan : ApiPlan} (refuses : Refuses plan) :
      (runApi plan).Reports note fun notes status =>
        StatusReport (fun notes => notes.count .blitted = operations op) status notes :=
    (runApi_reports refuses).mono fun _ _ ended => .of_plain ended.honest
  cases op with
  | copy | translate | palette => exact single (refuses_ite rfl (refuses_ok _))
  | resize src dst fx fy interpolation =>
      refine (resizeTo_reports src dst fx fy fun dst => ?_).mono fun _ _ honest => .of_plain honest
      exact refuses_ok [{
        src := src, dst := dst, releaseFence := slot.isSome
        opt := some { version := rgaCurrentApiVersion, interp := interpolation }
        usage := syncUsage sync }]
  | fill dst rect color => exact runFenced_reports (imfill_carriedOut _ _ _ _ _)
  | mosaic image rect mosaicMode => exact runFenced_reports (immosaic_carriedOut _ _ _ _ _)
  | fillArray dst rects color =>
      refine runFenced_reports ?_
      rw [operations, ← Nat.mul_one rects.length]
      exact foldRects_reports _ _ 1 (fun _ _ => imfill_carriedOut _ _ _ _ _) _ _ _
  | mosaicArray dst rects mosaicMode =>
      refine runFenced_reports ?_
      rw [operations, ← Nat.mul_one rects.length]
      exact foldRects_reports _ _ 1 (fun _ _ => immosaic_carriedOut _ _ _ _ _) _ _ _
  | rectangle dst rect color thickness =>
      exact runFenced_reports (imrectangle_carriedOut _ _ _ _ _ _)
  | rectangleArray dst rects color thickness =>
      refine runFenced_reports ?_
      exact foldRects_reports _ _ _ (fun _ _ => imrectangle_carriedOut _ _ _ _ _ _) _ _ _
  | _ => exact single (refuses_ok _)

theorem task_reports (jobHandle : UInt32) (op : ImOp) :
    (task jobHandle op).Reports note fun notes status => Honest Incident.plain status notes := by
  unfold task
  split
  · refine resizeTo_reports _ _ _ _ fun dst => ?_
    exact refuses_ok [{
      jobHandle := jobHandle, src := _, dst := dst
      opt := some { version := rgaCurrentApiVersion, interp := _ } }]
  · rename_i other
    refine (runApi_reports (task_refuses jobHandle op ?_)).mono fun _ _ ended => ended.honest
    intro src dst fx fy interpolation resize
    exact other src dst fx fy interpolation resize

theorem improcessCtx_reports (args : TaskArgs) (acquireFenceFd : Int32) (releaseFence : Bool)
    (ctxId : UInt32) :
    (improcessCtx args acquireFenceFd releaseFence ctxId).Reports note fun notes status =>
      Honest Incident.plain status notes := by
  refine (rgaTaskSubmit_reports _).bind fun notes reply submitted => ?_
  refine .ite (fun _ => .done ?_) fun succeeded => ?_
  · rw [List.append_nil]
    exact submitted.honest
  · refine (rgaJobConfig_reports _ _ _ _).bind fun later config honest => .done ?_
    rw [List.append_nil]
    refine submitted.honest.andThen ?_ honest
    rw [not_not.mp succeeded]
    rfl

theorem imsync_reports (fenceFd : Int32) :
    (imsync fenceFd).Reports note fun notes status =>
      notes = [] ∧ (status = .success ∨ status ≠ .noSession ∧ status.ok = false) := by
  refine .ite (fun _ => .done ⟨rfl, .inr ⟨by simp, rfl⟩⟩) fun _ => ?_
  refine silent_reports (fun _ => rfl) fun signalled => ?_
  refine silent_reports (fun _ => rfl) fun _ => .done ⟨rfl, ?_⟩
  cases signalled with
  | false => exact .inr ⟨by simp, rfl⟩
  | true => exact .inl rfl

/-! `immakeBorder` -/

/-- A step of `immakeBorder` after which it goes on. -/
structure Passing (notes : List Incident) : Prop where
  honest : Honest (fun _ => true) .success notes
  lost : .lost ∉ notes
  unfenced : .unfenced ∉ notes

abbrev Bordered (result : BorderResult) (notes : List Incident) : Prop :=
  StatusReport (fun notes => .unfenced ∈ notes) result.status notes

section Border

variable {status : ImStatus} {notes rest : List Incident}

theorem Passing.of_plain (honest : Honest Incident.plain status notes)
    (passed : status.ok = true) : Passing notes := by
  refine ⟨(honest.change ?_ (by simp) fun _ => passed).mono fun _ _ => rfl, ?_, ?_⟩
  · rintro rfl
    cases passed
  · intro lost
    cases honest.only _ lost
  · intro unfenced
    cases honest.only _ unfenced

theorem Passing.andThen {result : BorderResult} (passing : Passing notes)
    (bordered : Bordered result rest) : Bordered result (notes ++ rest) := by
  refine ⟨passing.honest.andThen rfl bordered.honest, fun lost => ?_⟩
  have later := (List.mem_append.mp lost).resolve_left passing.lost
  rw [bordered.lost later, List.mem_append, or_iff_right passing.unfenced]

theorem cancel_bordered (honest : Honest Incident.reported status notes)
    (open' : status.ok = true ↔ .unfenced ∈ notes) (dropped : Dropped rest) :
    Bordered { status := status } (notes ++ rest) := by
  have quiet : .unfenced ∉ rest := by
    rcases dropped with rfl | rfl | rfl <;> simp
  refine ⟨(honest.mono fun _ _ => rfl).keep (dropped.honest fun _ => rfl) rfl, fun _ => ?_⟩
  rw [open', List.mem_append, or_iff_left quiet]

variable {kind : JobMapKind} {src dst : RgaBuffer} {handle : UInt32}

theorem cancel_reports (honest : Honest Incident.reported status notes)
    (open' : status.ok = true ↔ .unfenced ∈ notes) :
    ((BorderArgs.cancel handle status).interpret (answerBorder kind src dst true)).Reports note
      fun rest result => Bordered result (notes ++ rest) := by
  refine (rgaJobCancel_dropped handle).bind fun rest _ dropped => .done ?_
  rw [List.append_nil]
  exact cancel_bordered honest open' dropped

theorem borderTask_reports (task : BorderTask) :
    (borderTask src dst handle task).Reports note fun notes status => Ended status notes := by
  cases task with
  | imfillTask rect color => exact runApi_reports (refuses_ok _)
  | improcessTask fromDst srect drect usage => exact runApi_reports (refuses_ok _)

/-- The rest of `immakeBorder`, for a known border type. -/
def Borders (kind : JobMapKind) (src dst : RgaBuffer) (known : Bool) (prog : BorderProg) : Prop :=
  (prog.interpret (answerBorder kind src dst known)).Reports note fun notes result =>
    Bordered result notes

theorem addTasks_borders {next : BorderProg} (goesOn : Borders kind src dst true next)
    (tasks : List BorderTask) :
    Borders kind src dst true (BorderArgs.addTasks handle next tasks) := by
  induction tasks with
  | nil => exact goesOn
  | cons task rest ih =>
      refine (borderTask_reports task).bind fun notes status ended => ?_
      beta_reduce
      by_cases failed : status ≠ .success
      · rw [if_pos failed]
        refine cancel_reports (ended.honest.mono plain_reported) (iff_of_false ?_ ?_)
        · simp [ended.verdict.resolve_left failed]
        · intro unfenced
          cases ended.honest.only _ unfenced
      · rw [if_neg failed]
        refine ih.mono fun later result bordered => ?_
        refine (Passing.of_plain ended.honest ?_).andThen bordered
        rw [not_not.mp failed]
        rfl

theorem imendJob_reports (syncMode acquireFenceFd : Int32) (release : ReleaseSlot) :
    (answerBorder kind src dst true (.imendJob handle syncMode acquireFenceFd release)).Reports note
      fun notes reply => JobSubmitted syncMode (release ≠ .null) reply notes :=
  rgaJobSubmit_reports handle syncMode acquireFenceFd _

theorem finish_borders (args : BorderArgs) (fence : Int32) :
    Borders kind src dst true (args.finish handle fence) := by
  unfold BorderArgs.finish
  split
  · refine (imsync_reports fence).bind ?_
    rintro _ status ⟨rfl, outcome⟩
    beta_reduce
    by_cases failed : status ≠ .success
    · rw [if_pos failed]
      have refused := outcome.resolve_left failed
      refine cancel_reports (.nil refused.1) (iff_of_false ?_ List.not_mem_nil)
      simp [refused.2]
    · rw [if_neg failed]
      refine (imendJob_reports imSync 0 .null).bind fun notes reply submitted => .done ?_
      rw [List.nil_append, List.append_nil]
      exact .of_reported submitted.honest
  · refine (imendJob_reports imAsync fence .caller).bind fun notes reply submitted => .done ?_
    rw [List.append_nil]
    exact .of_reported submitted.honest

/-- A job that could not be made ends the call, whatever its cancel came to. -/
theorem imbeginJob_borders {known : Bool} {next : UInt32 → BorderProg}
    (goesOn : ∀ handle, Borders kind src dst known (next handle)) :
    Borders kind src dst known (.call .imbeginJob fun (handle : UInt32) =>
      if handle = 0 then .done { status := .failed } else next handle) := by
  refine (rgaJobCreate_reports kind 0).bind fun notes handle created => ?_
  beta_reduce
  by_cases none : handle = 0
  · rw [if_pos none]
    refine .done ?_
    rw [List.append_nil]
    cases created with
    | missed => exact absurd none (by decide)
    | failed => exact .of_reported (failed_honest rfl (by simp) rfl)
    | cancelled granted dropped =>
        have failed : ImStatus.ok .failed = true ↔ Incident.unfenced ∈ [.granted granted] :=
          iff_of_false (by simp [ImStatus.ok]) (by simp)
        exact cancel_bordered (passed_honest rfl rfl (by simp) (by simp)) failed dropped
    | granted => exact .of_reported (passed_honest rfl rfl (by simp) (by simp))
  · rw [if_neg none]
    refine (goesOn handle).mono fun later result bordered => ?_
    refine Passing.andThen ?_ bordered
    cases created with
    | missed =>
        exact ⟨(misreported_honest rfl rfl).mono fun _ _ => rfl, by simp, by simp⟩
    | failed => exact absurd rfl none
    | cancelled granted dropped => exact absurd rfl none
    | granted => exact ⟨passed_honest rfl rfl (by simp) (by simp), by simp, by simp⟩

theorem rowJob_borders (args : BorderArgs) (source : BorderArgs.SourceRects) (fence : Int32) :
    Borders kind src dst true (args.rowJob source handle fence) := by
  refine addTasks_borders ?_ _
  refine (imendJob_reports imAsync fence .tmp).bind fun notes reply submitted => ?_
  have unfenced := submitted.unfenced fun _ => rfl
  beta_reduce
  by_cases stops : reply.status ≠ .success ∨ reply.fence ≤ 0
  · rw [if_pos stops]
    refine cancel_reports submitted.honest ?_
    rw [unfenced]
    rcases submitted.verdict with succeeded | failed
    · have open' := stops.resolve_left (not_not.mpr succeeded)
      simp [succeeded, open', ImStatus.ok]
    · refine iff_of_false (by simp [failed]) fun succeeded => ?_
      rw [succeeded.1] at failed
      cases failed
  · rw [if_neg stops]
    obtain ⟨succeeded, fenced⟩ := not_or.mp stops
    refine (imbeginJob_borders fun next => ?_).mono fun later result bordered => ?_
    · exact addTasks_borders (finish_borders args _) _
    · refine Passing.andThen ⟨?_, ?_, ?_⟩ bordered
      · have honest := submitted.honest
        rw [not_not.mp succeeded] at honest
        exact honest.mono fun _ _ => rfl
      · intro lost
        cases submitted.honest.only _ lost
      · rw [unfenced]
        rintro ⟨_, _, open'⟩
        exact fenced open'

theorem borderJobs_borders (args : BorderArgs) (fence : Int32) :
    Borders kind src dst args.Known (args.borderJobs fence) := by
  refine imbeginJob_borders fun handle => ?_
  split
  · rename_i constant
    have known : args.Known := known_iff.mpr (.inl constant)
    rw [decide_eq_true known]
    exact addTasks_borders (finish_borders args fence) _
  rename_i varied
  split
  · rename_i unknown
    have strange : ¬args.Known := by
      rw [known_iff, unknown]
      rintro (constant | found)
      · exact varied constant
      · cases found
    rw [decide_eq_false strange]
    refine (rgaJobCancel_reports false handle).bind fun notes status cancelled => .done ?_
    rw [List.append_nil]
    exact .of_plain (cancel_honest (fun _ plain => plain) cancelled)
  · rename_i source found
    have known : args.Known := known_iff.mpr (.inr (by rw [found]; rfl))
    rw [decide_eq_true known]
    split
    · exact rowJob_borders args source fence
    · exact addTasks_borders (finish_borders args fence) _

theorem immakeBorder_reports (args : BorderArgs) :
    (immakeBorder kind src dst args).Reports note fun notes status =>
      StatusReport (fun notes => .unfenced ∈ notes) status notes := by
  refine .map ?_
  generalize { args with
    srcWidth := src.width, srcHeight := src.height
    dstWidth := dst.width, dstHeight := dst.height } = args
  have refused {status : ImStatus} (answers : status ≠ .noSession) :
      StatusReport (fun notes => .unfenced ∈ notes) status [] :=
    .of_reported (.nil answers)
  unfold LibRga.immakeBorder
  split
  · exact .done (refused (by simp))
  split
  · exact .done (refused (by simp))
  refine (rgaSingleTaskSubmit_reports _).bind fun notes copy submitted => ?_
  beta_reduce
  by_cases stops : copy.status ≠ .success ∨ copy.fence ≤ 0
  · rw [if_pos stops]
    refine .done ?_
    rw [List.append_nil]
    exact .of_plain submitted.honest
  rw [if_neg stops]
  obtain ⟨succeeded, _⟩ := not_or.mp stops
  have passing : Passing notes := by
    refine .of_plain submitted.honest ?_
    rw [not_not.mp succeeded]
    rfl
  have jobs : (BorderArgs.borderJobs args copy.fence |>.interpret
      (answerBorder kind src dst args.Known)).Reports note fun later result =>
        Bordered result (notes ++ later) :=
    (borderJobs_borders args copy.fence).mono fun later result bordered =>
      passing.andThen bordered
  split
  · split
    · refine (imsync_reports copy.fence).bind ?_
      rintro _ status ⟨rfl, outcome⟩
      beta_reduce
      by_cases failed : status ≠ .success
      · rw [if_pos failed]
        exact .done (passing.andThen (refused (outcome.resolve_left failed).1))
      · rw [if_neg failed]
        exact jobs
    · exact .done (passing.andThen (refused (by simp)))
  · exact jobs

end Border

/-! What every entry point owes its caller -/

def Failing (notes : List Incident) : Prop :=
  notes.any Incident.missing = true ∨ .failed ∈ notes ∨ .lost ∈ notes

/-- A handle that is not 0 is one the driver has made in this call. -/
def Uniform (notes : List Incident) : Returned → Prop
  | .handle value =>
      .wild ∉ notes ∧ (value ≠ 0 → .granted value ∈ notes) ∧ (Failing notes → value = 0)
  | .status value =>
      .wild ∉ notes ∧ (notes.any Incident.missing = true → value = .noSession) ∧
        (Failing notes → value.ok = false)
  | .text value => .wild ∉ notes ∧ (notes.any Incident.missing = true → value = .noSession)
  | .flag _ => .wild ∉ notes

/-- The call succeeds although it has lost a failure. -/
def StatusEntry.spent (notes : List Incident) : StatusEntry → Prop
  | direct _ _ _ op => notes.count .blitted = operations op
  | immakeBorder _ _ _ => .unfenced ∈ notes
  | _ => False

def EntryPoint.Clean (notes : List Incident) : EntryPoint → Prop
  | handle (.rgaImportBuffer _ _ _) => True
  | handle (.rgaImportBufferParam _ _ param) =>
      convertToRgaFormat param.format.toInt32 ≠ rkFormatUnknown
  | handle _ => .missed .rgaJobCreate ∉ notes
  | status entry =>
      notes.any Incident.crashes = false ∧
        (notes.any Incident.misreported = true → notes.any Incident.refuses = true) ∧
        ¬(.lost ∈ notes ∧ entry.spent notes)
  | querystring _ | getDebugState | isDebugEn => notes.any Incident.missing = false

theorem missing_iff {notes : List Incident} :
    notes.any Incident.missing = true ↔ notes.any Incident.crashes = true ∨
      notes.any Incident.misreported = true ∨ notes.any Incident.refuses = true := by
  have each (incident : Incident) : incident.missing =
      (incident.crashes || incident.misreported || incident.refuses) := by
    cases incident with
    | missed asker =>
        cases asker with
        | rgaJobCancel dropped => cases dropped <;> rfl
        | _ => rfl
    | _ => rfl
  simp only [List.any_eq_true, each, Bool.or_eq_true]
  grind

theorem statusReport_uniform_iff {notes : List Incident} {status : ImStatus}
    {entry : StatusEntry} (report : StatusReport entry.spent status notes) :
    Uniform notes (.status status) ↔ (EntryPoint.status entry).Clean notes := by
  constructor
  · rintro ⟨tame, absent, failing⟩
    refine ⟨?_, ?_, ?_⟩
    · rw [← Bool.not_eq_true, ← report.honest.wild]
      exact tame
    · intro misreported
      rw [← report.honest.refused]
      exact absent (missing_iff.mpr (.inr (.inl misreported)))
    · rintro ⟨lost, spent⟩
      have failed := failing (.inr (.inr lost))
      rw [(report.lost lost).mpr spent] at failed
      cases failed
  · rintro ⟨sane, misreports, kept⟩
    have absent : notes.any Incident.missing = true → status = .noSession := by
      intro missing
      rw [report.honest.refused]
      rcases missing_iff.mp missing with crashes | misreported | refused
      · rw [sane] at crashes
        cases crashes
      · exact misreports misreported
      · exact refused
    refine ⟨?_, absent, ?_⟩
    · rw [report.honest.wild, sane]
      exact Bool.false_ne_true
    · rintro (missing | failed | lost)
      · rw [absent missing]
        rfl
      · exact report.honest.failed failed
      · rw [← Bool.not_eq_true, report.lost lost]
        exact fun spent => kept ⟨lost, spent⟩

theorem status_reports (kind : JobMapKind) (entry : StatusEntry) :
    (entry.program kind).Reports note fun notes status =>
      StatusReport entry.spent status notes := by
  have plain {prog : Program ImStatus} (reports : prog.Reports note fun notes status =>
      Honest Incident.plain status notes) {spent : List Incident → Prop} :
      prog.Reports note fun notes status => StatusReport spent status notes :=
    reports.mono fun _ _ honest => .of_plain honest
  cases entry with
  | direct sync acquireFenceFd slot op => exact direct_reports sync acquireFenceFd slot op
  | task jobHandle op => exact plain (task_reports jobHandle op)
  | improcessCtx args acquireFenceFd releaseFence ctxId =>
      exact plain (improcessCtx_reports args acquireFenceFd releaseFence ctxId)
  | immakeBorder src dst args => exact immakeBorder_reports args
  | rgaTaskSubmit args =>
      exact plain (.map ((rgaTaskSubmit_reports args).mono fun _ _ submitted => submitted.honest))
  | rgaSingleTaskSubmit args =>
      exact plain (.map ((rgaSingleTaskSubmit_reports args).mono
        fun _ _ submitted => submitted.honest))
  | imcheck src dst pat srcRect dstRect patRect modeUsage =>
      exact plain ((rgaCheckExternal_reports _ _ _ _ _ _ _).mono
        fun _ _ vetted => vetted.honest.mono asks_plain)
  | imsync fenceFd =>
      refine plain ((imsync_reports fenceFd).mono ?_)
      rintro _ status ⟨rfl, outcome⟩
      refine .nil ?_
      rintro rfl
      rcases outcome with other | ⟨other, _⟩
      · cases other
      · exact other rfl
  | rgaImportBuffers pool =>
      exact plain (.map ((rgaImportBuffers_reports pool).mono fun _ _ imported => imported.honest))
  | rgaReleaseBuffers pool => exact plain (rgaReleaseBuffers_reports pool)
  | rgaReleaseBuffer handle => exact plain (rgaReleaseBuffers_reports (some [{ handle := handle }]))
  | rgaJobCancel handle =>
      exact plain ((rgaJobCancel_reports false handle).mono
        fun _ _ cancelled => cancel_honest (fun _ plain => plain) cancelled)
  | rgaJobSubmit handle syncMode acquireFenceFd releaseFence =>
      refine .map ((rgaJobSubmit_reports _ _ _ _).mono fun _ _ submitted => ?_)
      exact .of_reported submitted.honest
  | rgaJobConfig handle syncMode acquireFenceFd releaseFence =>
      exact plain (.map (rgaJobConfig_reports _ _ _ _))

theorem created_uniform_iff {handle : UInt32} {notes : List Incident}
    (created : Created handle notes) :
    Uniform notes (.handle handle) ↔ .missed .rgaJobCreate ∉ notes := by
  cases created with
  | missed =>
      refine iff_of_false ?_ (by simp)
      rintro ⟨_, _, failing⟩
      exact absurd (failing (.inl rfl)) (by decide)
  | failed => exact iff_of_true ⟨by simp, by simp, by simp⟩ (by simp)
  | cancelled granted dropped =>
      rcases dropped with rfl | rfl | rfl
      all_goals exact iff_of_true ⟨by simp, by simp, by simp⟩ (by simp)
  | granted => exact iff_of_true ⟨by simp, by simp, by simp [Failing, Incident.missing]⟩ (by simp)

theorem importOne_reports (buffer : RgaExternalBuffer) :
    (importOne buffer).Reports note fun notes value => Uniform notes (.handle value) := by
  refine (rgaImportBuffers_reports (some [buffer])).bind fun notes result imported => ?_
  cases imported with
  | missed => exact .done ⟨by simp, by simp, by simp⟩
  | nullPool => exact .done ⟨by simp, by simp, by simp⟩
  | failed => exact .done ⟨by simp, by simp, by simp⟩
  | granted handles =>
      refine .done ⟨by simp, fun _ => by simp, ?_⟩
      simp [Failing, Incident.missing]

theorem handle_reports (kind : JobMapKind) (entry : HandleEntry) :
    (entry.program kind).Reports note fun notes value =>
      Uniform notes (.handle value) ↔ (EntryPoint.handle entry).Clean notes := by
  have creates (flags : UInt32) := (rgaJobCreate_reports kind flags).mono
    fun notes handle created => created_uniform_iff created
  cases entry with
  | rgaJobCreate flags => exact creates flags
  | imbegin flags => exact creates flags
  | imbeginJob flags => exact creates flags.toUInt32
  | rgaImportBuffer memory type size =>
      exact (importOne_reports _).mono fun _ _ uniform => iff_of_true uniform trivial
  | rgaImportBufferParam memory type param =>
      refine .ite (fun unknown => .done (iff_of_false ?_ (not_not.mpr unknown))) fun known => ?_
      · rintro ⟨_, granted, _⟩
        have stray := granted (by decide)
        simp at stray
      · exact (importOne_reports _).mono fun _ _ uniform => iff_of_true uniform known

/-- A process that has not opened the device yet, over a driver that goes along. -/
def freshProcess (init : SessionReply) : (request : SysCall) → SysCall.Reply request
  | .readSession | .lockSession => {}
  | .initSession _ _ => init
  | .strayRead _ _ => {}
  | .logEnabled | .updateLog | .loadIsDebug => false
  | .loadContext => {}
  | .lockJobs => emptyManager
  | .malloc => some 4096
  | .importBuffer buffers => some (buffers.map fun _ => 7)
  | .releaseBuffer _ | .requestCancel _ _ | .poll _ => true
  | .requestCreate _ => some 7
  | .requestSubmit _ _ | .requestConfig _ _ | .blit _ _ _ => {}
  | .loadUapiVersion => .unknown
  | .modernSyncMerge _ _ _ | .legacySyncMerge _ _ _ => { fence := 7 }
  | .unlockSession _ | .unlockJobs _ | .free _ | .close _ | .storeUapiVersion _ => ()

end LibRga.Entry
