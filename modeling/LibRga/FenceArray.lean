import LibRga.Api
import LibRga.Border

/-!
The array calls with the release fences of their operations.

The operations are those of the plans in `Api`; here each is a call with any
outcome, and so are the steps of merging two fences.
-/

namespace LibRga.Fenced

open Interaction

inductive UapiVersion where
  | unknown
  | modern
  | legacy
deriving DecidableEq, Repr

inductive Call where
  | rgaSingleTaskSubmit (args : TaskArgs)
  /-- `g_uapi_version`, which other threads write as well. -/
  | loadUapiVersion
  | storeUapiVersion (version : UapiVersion)
  | modernSyncMerge (name : String) (fd1 fd2 : Int32)
  | legacySyncMerge (name : String) (fd1 fd2 : Int32)
  | close (fd : Int32)
deriving DecidableEq, Repr

/-- The new fence, or what `ioctl` returned below zero, with whether `errno` is `ENOTTY`. -/
structure MergeReply where
  fence : Int32
  enotty : Bool := false
deriving DecidableEq, Repr, Inhabited

@[reducible]
def Call.Reply : Call → Type
  | rgaSingleTaskSubmit _ => FenceReply
  | loadUapiVersion => UapiVersion
  | modernSyncMerge _ _ _ | legacySyncMerge _ _ _ => MergeReply
  | storeUapiVersion _ | close _ => Unit

abbrev Program (α : Type) := Prog Call Call.Reply α

def storeUapi (uapi version : UapiVersion) (fence : Int32) : Program Int32 :=
  if 0 ≤ fence ∧ uapi = .unknown then .call (.storeUapiVersion version) fun _ => .done fence
  else .done fence

def legacyMerge (uapi : UapiVersion) (name : String) (fd1 fd2 : Int32) : Program Int32 :=
  .call (.legacySyncMerge name fd1 fd2) fun (reply : MergeReply) =>
    storeUapi uapi .legacy reply.fence

def rgaSyncMerge (name : String) (fd1 fd2 : Int32) : Program Int32 :=
  .call .loadUapiVersion fun (uapi : UapiVersion) =>
    if uapi = .legacy then legacyMerge uapi name fd1 fd2
    else
      .call (.modernSyncMerge name fd1 fd2) fun (reply : MergeReply) =>
        if 0 ≤ reply.fence ∨ reply.enotty = false then storeUapi uapi .modern reply.fence
        else legacyMerge uapi name fd1 fd2

/-- `slot` is what stands in `*release_fence_fd`, if that points somewhere. -/
structure ArrayResult where
  status : ImStatus
  slot : Option Int32
deriving DecidableEq, Repr, Inhabited

/-- `rga_task_submit` comes to no submission when there is no place for its fence. -/
def refused (status : ImStatus) : ImStatus :=
  if status = .success then .illegalParam else status

def submit (args : TaskArgs) (slot : Option Int32) : Program ArrayResult :=
  .call (.rgaSingleTaskSubmit args) fun (reply : FenceReply) =>
    if lacksFence args then .done ⟨refused reply.status, slot⟩
    else if has args.usage imAsync ∧ reply.status = .success then
      .done ⟨reply.status, some reply.fence⟩
    else .done ⟨reply.status, slot⟩

def fillArgs (dst : RgaBuffer) (rect : ImRect) (color sync : Int32) (releaseFence : Bool) :
    TaskArgs :=
  { dst := dst, drect := rect, releaseFence := releaseFence, opt := some { color := color }
    usage := imColorFill ||| syncUsage sync }

def mosaicArgs (image : RgaBuffer) (rect : ImRect) (mosaicMode sync : Int32)
    (releaseFence : Bool) : TaskArgs :=
  { src := image, dst := image, srect := rect, drect := rect, releaseFence := releaseFence
    opt := some { version := rgaCurrentApiVersion, mosaicMode := mosaicMode }
    usage := imMosaic ||| syncUsage sync }

def imfill (dst : RgaBuffer) (rect : ImRect) (color sync : Int32) (slot : Option Int32) :
    Program ArrayResult :=
  submit (fillArgs dst rect color sync slot.isSome) slot

def immosaic (image : RgaBuffer) (rect : ImRect) (mosaicMode sync : Int32)
    (slot : Option Int32) : Program ArrayResult :=
  submit (mosaicArgs image rect mosaicMode sync slot.isSome) slot

/-- The loop of the array calls; `tmp` is `tmp_fence_fd`. -/
def foldRects (name : String) (sync : Int32) (op : ImRect → Option Int32 → Program ArrayResult) :
    List ImRect → Int32 → Option Int32 → Program ArrayResult
  | [], tmp, slot => .done ⟨.success, slot.map fun _ => tmp⟩
  | rect :: rest, tmp, slot =>
      (op rect slot).bind fun done =>
        if done.status ≠ .success then .done done
        else
          let fence := done.slot.getD (-1)
          if sync = 0 ∧ 0 ≤ fence ∧ 0 ≤ tmp then
            (rgaSyncMerge name tmp fence).bind fun merged =>
              foldRects name sync op rest merged done.slot
          else if sync = 0 ∧ 0 ≤ fence then foldRects name sync op rest fence done.slot
          else foldRects name sync op rest tmp done.slot

def immosaicArray (dst : RgaBuffer) (rects : List ImRect) (mosaicMode sync : Int32)
    (slot : Option Int32) : Program ArrayResult :=
  foldRects "mosaic_array" sync (fun rect slot => immosaic dst rect mosaicMode sync slot)
    rects (-1) slot

def imfillArray (dst : RgaBuffer) (rects : List ImRect) (color : UInt32) (sync : Int32)
    (slot : Option Int32) : Program ArrayResult :=
  foldRects "fill_array" sync (fun rect slot => imfill dst rect color.toInt32 sync slot)
    rects (-1) slot

def imrectangle (dst : RgaBuffer) (rect : ImRect) (color : UInt32) (thickness sync : Int32)
    (slot : Option Int32) : Program ArrayResult :=
  if thickness < 0 then imfill dst rect color.toInt32 sync slot
  else imfillArray dst (rectangleSides rect thickness) color sync slot

def imrectangleArray (dst : RgaBuffer) (rects : List ImRect) (color : UInt32)
    (thickness sync : Int32) (slot : Option Int32) : Program ArrayResult :=
  foldRects "rectangle_array" sync
    (fun rect slot => imrectangle dst rect color thickness sync slot) rects (-1) slot

/-- The functions that aggregate fences. -/
inductive ArrayCall where
  | imfillArray (dst : RgaBuffer) (rects : List ImRect) (color : UInt32)
  | immosaicArray (dst : RgaBuffer) (rects : List ImRect) (mosaicMode : Int32)
  | imrectangle (dst : RgaBuffer) (rect : ImRect) (color : UInt32) (thickness : Int32)
  | imrectangleArray (dst : RgaBuffer) (rects : List ImRect) (color : UInt32) (thickness : Int32)

def ArrayCall.program (sync : Int32) (slot : Option Int32) : ArrayCall → Program ArrayResult
  | imfillArray dst rects color => Fenced.imfillArray dst rects color sync slot
  | immosaicArray dst rects mosaicMode => Fenced.immosaicArray dst rects mosaicMode sync slot
  | imrectangle dst rect color thickness => Fenced.imrectangle dst rect color thickness sync slot
  | imrectangleArray dst rects color thickness =>
      Fenced.imrectangleArray dst rects color thickness sync slot

/-! Merges -/

def Call.merging : Call → Bool
  | rgaSingleTaskSubmit _ | close _ => false
  | _ => true

section Merges

variable {σ : Type} {observe : σ → Sigma Call.Reply → σ} {keeps : σ → Prop}
  {post : σ → Int32 → Prop} {state : σ}

theorem rgaSyncMerge_wp (name : String) (fd1 fd2 : Int32)
    (quiet : ∀ state request answer, request.merging = true → keeps state →
      keeps (observe state ⟨request, answer⟩))
    (holds : ∀ after merged, keeps after → post after merged) (start : keeps state) :
    (rgaSyncMerge name fd1 fd2).wp observe (fun _ => True) post state := by
  have stored {state : σ} (uapi version : UapiVersion) (fence : Int32) (kept : keeps state) :
      (storeUapi uapi version fence).wp observe (fun _ => True) post state := by
    unfold storeUapi
    split
    · exact fun _ _ => holds _ _ (quiet _ _ _ rfl kept)
    · exact holds _ _ kept
  have legacy {state : σ} (uapi : UapiVersion) (kept : keeps state) :
      (legacyMerge uapi name fd1 fd2).wp observe (fun _ => True) post state :=
    fun _ _ => stored uapi .legacy _ (quiet _ _ _ rfl kept)
  intro uapi _
  have loaded := quiet state .loadUapiVersion uapi rfl start
  beta_reduce
  by_cases old : uapi = UapiVersion.legacy
  · rw [if_pos old]
    exact legacy uapi loaded
  · rw [if_neg old]
    intro reply _
    have tried := quiet _ (.modernSyncMerge name fd1 fd2) reply rfl loaded
    beta_reduce
    split
    · exact stored uapi .modern _ tried
    · -- the other interface is tried on top of whatever the first one did
      exact legacy uapi tried

end Merges

/-! The submissions of a run, against the plan of the call -/

def ArrayCall.plan (sync : Int32) (placed : Bool) : ArrayCall → ApiPlan
  | imfillArray dst rects color => LibRga.imfillArray dst rects color sync placed
  | immosaicArray dst rects mosaicMode => LibRga.immosaicArray dst rects mosaicMode sync placed
  | imrectangle dst rect color thickness => LibRga.imrectangle dst rect color thickness sync placed
  | imrectangleArray dst rects color thickness =>
      LibRga.imrectangleArray dst rects color thickness sync placed

def submission : Sigma Call.Reply → List TaskArgs
  | ⟨.rgaSingleTaskSubmit args, _⟩ => [args]
  | _ => []

def submissions (trace : List (Sigma Call.Reply)) : List TaskArgs :=
  trace.flatMap submission

def record (done : List TaskArgs) (exchange : Sigma Call.Reply) : List TaskArgs :=
  done ++ submission exchange

theorem foldl_record (trace : List (Sigma Call.Reply)) (done : List TaskArgs) :
    trace.foldl record done = done ++ submissions trace := by
  induction trace generalizing done with
  | nil => exact (List.append_nil done).symm
  | cons exchange rest ih =>
      rw [List.foldl_cons, ih, record, List.append_assoc]
      rfl

/-- The submissions follow the plan, to its end when the call succeeds. -/
def Follows (placed : Bool) (plan : List TaskArgs) (op : Option Int32 → Program ArrayResult) :
    Prop :=
  ∀ slot, slot.isSome = placed → ∀ done, (op slot).wp record (fun _ => True)
    (fun after result => result.slot.isSome = placed ∧
      ∃ made, after = done ++ made ∧ made <+: plan ∧ (result.status = .success → made = plan)) done

section Plans

variable {placed : Bool} {sync : Int32}

theorem submit_follows {args : Option Int32 → TaskArgs} {planned : TaskArgs}
    (same : ∀ slot, slot.isSome = placed → args slot = planned)
    (place : planned.releaseFence = placed) :
    Follows placed [planned] fun slot => submit (args slot) slot := by
  intro slot present done reply _
  have after : record done ⟨.rgaSingleTaskSubmit (args slot), reply⟩ = done ++ [planned] := by
    rw [record, submission, same slot present]
  beta_reduce
  rw [after, same slot present]
  by_cases lacking : lacksFence planned = true
  · rw [if_pos lacking]
    exact ⟨present, [planned], rfl, List.prefix_refl _, fun _ => rfl⟩
  · rw [if_neg lacking]
    by_cases fenced : has planned.usage imAsync = true ∧ reply.status = .success
    · have there : placed = true := by
        by_contra absent
        refine lacking ?_
        rw [lacksFence, fenced.1, place, Bool.eq_false_of_not_eq_true absent]
        rfl
      rw [if_pos fenced]
      exact ⟨there.symm, [planned], rfl, List.prefix_refl _, fun _ => rfl⟩
    · rw [if_neg fenced]
      exact ⟨present, [planned], rfl, List.prefix_refl _, fun _ => rfl⟩

theorem foldRects_follows {name : String} {plan : ImRect → List TaskArgs}
    {op : ImRect → Option Int32 → Program ArrayResult}
    (follows : ∀ rect, Follows placed (plan rect) (op rect)) (rects : List ImRect) (tmp : Int32) :
    Follows placed (rects.flatMap plan) fun slot => foldRects name sync op rects tmp slot := by
  intro slot present done
  induction rects generalizing tmp slot done with
  | nil =>
      refine ⟨?_, [], (List.append_nil done).symm, List.prefix_refl _, fun _ => rfl⟩
      rw [Option.isSome_map]
      exact present
  | cons rect rest ih =>
      refine Prog.wp_bind.mpr (Prog.wp_mono (follows rect slot present done) ?_)
      rintro _ ⟨status, after⟩ ⟨placed', made, rfl, part, whole⟩
      by_cases failed : status ≠ .success
      · rw [if_pos failed]
        exact ⟨placed', made, rfl, part.trans (List.prefix_append _ _),
          fun success => absurd success failed⟩
      · have same := whole (not_not.mp failed)
        have next (tmp : Int32) : (foldRects name sync op rest tmp after).wp record
            (fun _ => True) (fun final result => result.slot.isSome = placed ∧
              ∃ made, final = done ++ made ∧ made <+: (rect :: rest).flatMap plan ∧
                (result.status = .success → made = (rect :: rest).flatMap plan))
            (done ++ made) := by
          refine Prog.wp_mono (ih tmp after placed' (done ++ made)) ?_
          rintro _ result ⟨still, more, rfl, part, whole⟩
          refine ⟨still, made ++ more, List.append_assoc _ _ _, ?_, fun success => ?_⟩
          · rw [same, List.flatMap_cons]
            exact List.prefix_append_right_inj _ |>.mpr part
          · rw [same, whole success, List.flatMap_cons]
        rw [if_neg failed]
        dsimp only
        split
        · refine Prog.wp_bind.mpr (@rgaSyncMerge_wp _ record (· = done ++ made) _ _ name _ _ ?_ ?_
            rfl)
          · rintro _ request answer merging rfl
            cases request <;> first
              | exact Bool.noConfusion merging
              | exact List.append_nil _
          · rintro _ merged rfl
            exact next merged
        · split
          · exact next _
          · exact next tmp

theorem imfill_follows (dst : RgaBuffer) (rect : ImRect) (color : Int32) :
    Follows placed [fillArgs dst rect color sync placed] (imfill dst rect color sync) :=
  @submit_follows placed (fun slot => fillArgs dst rect color sync slot.isSome) _
    (fun _ present => by rw [present]) rfl

theorem immosaic_follows (image : RgaBuffer) (rect : ImRect) (mosaicMode : Int32) :
    Follows placed [mosaicArgs image rect mosaicMode sync placed]
      (immosaic image rect mosaicMode sync) :=
  @submit_follows placed (fun slot => mosaicArgs image rect mosaicMode sync slot.isSome) _
    (fun _ present => by rw [present]) rfl

theorem forRects_ok {call : ImRect → ApiPlan} {plan : ImRect → List TaskArgs}
    (planned : ∀ rect, call rect = .ok (plan rect)) (rects : List ImRect) :
    forRects rects call = .ok (rects.flatMap plan) := by
  have collected : rects.mapM call = .ok (rects.map plan) := by
    induction rects with
    | nil => rfl
    | cons rect rest ih =>
        rw [List.mapM_cons, planned, ih]
        rfl
  rw [forRects, collected]
  rfl

theorem imrectangle_follows (dst : RgaBuffer) (rect : ImRect) (color : UInt32)
    (thickness : Int32) :
    ∃ plan, LibRga.imrectangle dst rect color thickness sync placed = .ok plan ∧
      Follows placed plan (imrectangle dst rect color thickness sync) := by
  unfold LibRga.imrectangle imrectangle
  by_cases filled : thickness < 0
  · simp only [filled, if_true]
    exact ⟨_, rfl, imfill_follows dst rect color.toInt32⟩
  · simp only [filled, if_false]
    exact ⟨_, forRects_ok (fun _ => rfl) _,
      foldRects_follows (fun side => imfill_follows dst side color.toInt32) _ (-1)⟩

theorem program_follows (call : ArrayCall) (sync : Int32) (placed : Bool) :
    ∃ plan, call.plan sync placed = .ok plan ∧
      Follows placed plan fun slot => call.program sync slot := by
  cases call with
  | imfillArray dst rects color =>
      exact ⟨_, forRects_ok (fun _ => rfl) rects,
        foldRects_follows (fun rect => imfill_follows dst rect color.toInt32) rects (-1)⟩
  | immosaicArray dst rects mosaicMode =>
      exact ⟨_, forRects_ok (fun _ => rfl) rects,
        foldRects_follows (fun rect => immosaic_follows dst rect mosaicMode) rects (-1)⟩
  | imrectangle dst rect color thickness => exact imrectangle_follows dst rect color thickness
  | imrectangleArray dst rects color thickness =>
      choose plan planned follows using fun rect =>
        @imrectangle_follows placed sync dst rect color thickness
      exact ⟨_, forRects_ok planned rects, foldRects_follows follows rects (-1)⟩

/-- The submissions of a call are those of its plan, up to the first that fails. -/
theorem submissions_plan (call : ArrayCall) (sync : Int32) (slot : Option Int32)
    {trace : List (Sigma Call.Reply)} {result : ArrayResult}
    (run : (call.program sync slot).Run trace result) :
    ∃ plan, call.plan sync slot.isSome = .ok plan ∧ submissions trace <+: plan ∧
      (result.status = .success → submissions trace = plan) := by
  obtain ⟨plan, planned, follows⟩ := program_follows call sync slot.isSome
  obtain ⟨_, made, submitted, part, whole⟩ :=
    Prog.wp_run (follows slot rfl []) run fun _ _ => trivial
  rw [foldl_record, List.nil_append, List.nil_append] at submitted
  cases submitted
  exact ⟨plan, planned, part, whole⟩

end Plans

end LibRga.Fenced
