import LibRga.BorderResources

/-!
`immakeBorder` over the sizes of its borders, each of which may be zero.

Which sides are empty decides what goes into the jobs: a constant border leaves
an empty side out, the others make both columns as soon as one of them is wanted,
and a job that was begun is always ended by a submission.
-/

namespace LibRga

open Interaction

/-- To the functions below a rectangle with an empty side means the whole image. -/
def ImRect.isEmpty (rect : ImRect) : Bool :=
  ¬(0 < rect.width ∧ 0 < rect.height)

def BorderTask.isEmpty : BorderTask → Bool
  | imfillTask rect _ => rect.isEmpty
  | improcessTask _ srect drect _ => srect.isEmpty || drect.isEmpty

/-- What is in the job that was begun last, and what has gone wrong with the jobs. -/
structure JobWatch where
  queued : List BorderTask := []
  emptyTask : Bool := false
  emptyJob : Bool := false
deriving DecidableEq, Repr

namespace JobWatch

def observe (watch : JobWatch) : Sigma BorderCall.Reply → JobWatch
  | ⟨.imbeginJob, _⟩ => { watch with queued := [] }
  | ⟨.task _ task, (ret : ImStatus)⟩ =>
      if ret = .success then
        { watch with
          queued := watch.queued ++ [task], emptyTask := watch.emptyTask || task.isEmpty }
      else watch
  | ⟨.imendJob _ _ _ _, _⟩ => { watch with emptyJob := watch.emptyJob || watch.queued.isEmpty }
  | ⟨.improcess _ _, _⟩ | ⟨.imcancelJob _, _⟩ | ⟨.imsync _, _⟩ => watch

/-- An empty task has been queued, or a job without tasks submitted. -/
def faulty (watch : JobWatch) : Prop :=
  watch.emptyTask = true ∨ watch.emptyJob = true

end JobWatch

namespace BorderArgs

variable (args : BorderArgs)

/-- The images and the borders have sizes. -/
structure Sized : Prop where
  srcWidth : 0 < args.srcWidth
  srcHeight : 0 < args.srcHeight
  dstWidth : 0 < args.dstWidth
  dstHeight : 0 < args.dstHeight
  top : 0 ≤ args.top
  bottom : 0 ≤ args.bottom
  left : 0 ≤ args.left
  right : 0 ≤ args.right

/-- The driver succeeds, with positive fences, and every task that is not empty is acceptable. What
becomes of an empty one is left open, and so is a second wait for a fence, which a call without
borders comes to. -/
def Driven : Sigma BorderCall.Reply → Prop
  | ⟨.improcess _ _, (reply : FenceReply)⟩ => reply.status = .success ∧ 0 < reply.fence
  | ⟨.imbeginJob, (handle : UInt32)⟩ => handle ≠ 0
  | ⟨.task _ task, (ret : ImStatus)⟩ => task.isEmpty = false → ret = .success
  | ⟨.imendJob _ _ _ release, (reply : FenceReply)⟩ =>
      reply.status = .success ∧ (release ≠ .null → 0 < reply.fence)
  | ⟨.imcancelJob _, (ret : ImStatus)⟩ => ret = .success
  | ⟨.imsync _, (ret : ImStatus)⟩ => args.borderless = true ∧ args.Known ∨ ret = .success

/-- The known kinds of border succeed and the others do not, and nothing empty is queued or
submitted. -/
structure Total (watch : JobWatch) (result : BorderResult) : Prop where
  status : if args.Known then result.status = .success else result.status.ok = false
  sound : ¬ watch.faulty

/-- The call comes to its copy. -/
def Begins : Prop :=
  (args.sync = 1 ∨ args.releaseFence = true) ∧
    args.srcWidth + args.left + args.right = args.dstWidth ∧
    args.srcHeight + args.top + args.bottom = args.dstHeight

/-- A constant border may leave any side out, but not all four when it is waited for; the others
have both columns, or no border at all. -/
def Drawable : Prop :=
  if args.borderless then args.sync ≠ 1
  else args.borderType = imBorderConstant ∨ (args.left ≠ 0 ∧ args.right ≠ 0)

def Complete : Prop :=
  if args.Known then args.Begins ∧ args.Drawable else ¬ args.Begins

end BorderArgs

section Runs

variable {args : BorderArgs} {handle : UInt32} {fence : Int32} {watch : JobWatch}

/-- At the end of every driven run `post` holds. -/
def Ends (args : BorderArgs) (post : JobWatch → BorderResult → Prop) (prog : BorderProg)
    (watch : JobWatch) : Prop :=
  prog.wp JobWatch.observe args.Driven post watch

variable {post : JobWatch → BorderResult → Prop}

theorem Ends.call {request : BorderCall} {next : request.Reply → BorderProg}
    (ends : ∀ answer, args.Driven ⟨request, answer⟩ →
      Ends args post (next answer) (watch.observe ⟨request, answer⟩)) :
    Ends args post (.call request next) watch :=
  ends

theorem Ends.done {result : BorderResult} (holds : post watch result) :
    Ends args post (.done result) watch :=
  holds

/-! Runs that go wrong -/

/-- The runs of a call in which something is missing. -/
def Fails (args : BorderArgs) (prog : BorderProg) (watch : JobWatch) : Prop :=
  Ends args (fun after result => ¬ args.Total after result) prog watch

theorem faulty_observe (watch : JobWatch) (exchange : Sigma BorderCall.Reply)
    (faulty : watch.faulty) : (watch.observe exchange).faulty := by
  obtain ⟨request, answer⟩ := exchange
  cases request with
  | task handle task =>
      simp only [JobWatch.observe]
      split
      · exact faulty.imp (fun queued => by simp [queued]) id
      · exact faulty
  | imendJob handle syncMode fence release =>
      exact faulty.imp id fun submitted => by simp [JobWatch.observe, submitted]
  | _ => exact faulty

theorem fails_of_faulty {prog : BorderProg} (faulty : watch.faulty) : Fails args prog watch := by
  have stays : Ends args (fun after _ => after.faulty) prog watch :=
    Prog.wp_invariant faulty_observe faulty
  exact Prog.wp_mono stays fun after result broken total => total.sound broken

theorem not_total_of_failed {result : BorderResult} (known : args.Known)
    (failed : result.status ≠ .success) : ¬ args.Total watch result := by
  intro total
  have status := total.status
  rw [if_pos known] at status
  exact failed status

theorem cancel_fails {ret : ImStatus} (known : args.Known) (failed : ret ≠ .success) :
    Fails args (BorderArgs.cancel handle ret) watch :=
  .call fun _ _ => .done (not_total_of_failed known failed)

theorem addTasks_fails {next : BorderProg} {tasks : List BorderTask} (known : args.Known)
    (empty : ∃ task ∈ tasks, task.isEmpty = true) :
    Fails args (BorderArgs.addTasks handle next tasks) watch := by
  induction tasks generalizing watch with
  | nil =>
      obtain ⟨task, member, _⟩ := empty
      cases member
  | cons first rest ih =>
      refine .call fun (ret : ImStatus) _ => ?_
      by_cases failed : ret ≠ .success
      · rw [if_pos failed]
        exact cancel_fails known failed
      · rw [if_neg failed]
        have queued := not_not.mp failed
        by_cases missing : first.isEmpty = true
        · apply fails_of_faulty
          refine Or.inl ?_
          simp only [JobWatch.observe]
          rw [if_pos queued]
          simp [missing]
        · obtain ⟨task, member, isEmpty⟩ := empty
          obtain rfl | later := List.mem_cons.mp member
          · exact absurd isEmpty missing
          · exact ih ⟨task, later, isEmpty⟩

theorem finish_fails (known : args.Known) (empty : watch.queued = []) :
    Fails args (args.finish handle fence) watch := by
  have submitted {syncMode fence : Int32} {release : ReleaseSlot} (reply : FenceReply) :
      (watch.observe ⟨.imendJob handle syncMode fence release, reply⟩).faulty := by
    exact Or.inr (by simp [JobWatch.observe, empty])
  unfold BorderArgs.finish
  split
  · refine .call fun (ret : ImStatus) _ => ?_
    by_cases failed : ret ≠ .success
    · rw [if_pos failed]
      exact cancel_fails known failed
    · rw [if_neg failed]
      exact .call fun (reply : FenceReply) _ => fails_of_faulty (submitted reply)
  · exact .call fun (reply : FenceReply) _ => fails_of_faulty (submitted reply)

/-! Runs that go through -/

def holding (tasks : List BorderTask) : JobWatch :=
  { queued := tasks }

theorem addTasks_ends {next : BorderProg} {tasks queued : List BorderTask}
    (filled : ∀ task ∈ tasks, task.isEmpty = false)
    (ends : Ends args post next (holding (queued ++ tasks))) :
    Ends args post (BorderArgs.addTasks handle next tasks) (holding queued) := by
  induction tasks generalizing queued with
  | nil =>
      rw [List.append_nil] at ends
      exact ends
  | cons first rest ih =>
      obtain ⟨firstFilled, restFilled⟩ := List.forall_mem_cons.mp filled
      refine .call fun (ret : ImStatus) driven => ?_
      have success : ret = .success := driven firstFilled
      have added : (holding queued).observe ⟨.task handle first, ret⟩ =
          holding (queued ++ [first]) := by
        simp only [JobWatch.observe, holding]
        rw [if_pos success, firstFilled]
        rfl
      rw [if_neg (not_not.mpr success), added]
      apply ih restFilled
      rwa [List.append_assoc]

theorem holding_sound (tasks : List BorderTask) : ¬ (holding tasks).faulty := by
  rintro (impossible | impossible)
  · cases impossible
  · cases impossible

theorem holding_imendJob {tasks : List BorderTask} {syncMode : Int32} {release : ReleaseSlot}
    {reply : FenceReply} (present : tasks ≠ []) :
    (holding tasks).observe ⟨.imendJob handle syncMode fence release, reply⟩ = holding tasks := by
  cases tasks with
  | nil => exact absurd rfl present
  | cons first rest => rfl

theorem total_of_success {tasks : List BorderTask} {result : BorderResult} (known : args.Known)
    (success : result.status = .success) : args.Total (holding tasks) result :=
  ⟨by rw [if_pos known]; exact success, holding_sound tasks⟩

theorem finish_ends {tasks : List BorderTask} (known : args.Known)
    (bordered : args.borderless = false) (present : tasks ≠ []) :
    Ends args args.Total (args.finish handle fence) (holding tasks) := by
  unfold BorderArgs.finish
  split
  · refine .call fun (ret : ImStatus) driven => ?_
    have success : ret = .success := by
      refine driven.resolve_left fun both => ?_
      rw [bordered] at both
      cases both.1
    rw [if_neg (not_not.mpr success)]
    refine .call fun (reply : FenceReply) driven => ?_
    have kept : (holding tasks).observe ⟨.imsync fence, ret⟩ = holding tasks := rfl
    rw [kept, holding_imendJob present]
    exact .done (total_of_success known driven.1)
  · refine .call fun (reply : FenceReply) driven => ?_
    rw [holding_imendJob present]
    exact .done (total_of_success known driven.1)

/-! Which tasks are empty -/

theorem filled_of_positive {rect : ImRect} (width : 0 < rect.width) (height : 0 < rect.height) :
    rect.isEmpty = false := by
  simp [ImRect.isEmpty, width, height]

theorem empty_of_zero {rect : ImRect} (width : rect.width = 0) : rect.isEmpty = true := by
  simp [ImRect.isEmpty, width]

theorem wanted_filled {size : Int32} {task : BorderTask} (low : 0 ≤ size)
    (filled : 0 < size → task.isEmpty = false) :
    ∀ wanted ∈ BorderArgs.wanted size task, wanted.isEmpty = false := by
  intro wanted member
  unfold BorderArgs.wanted at member
  split at member
  · rename_i nonzero
    rw [List.mem_singleton] at member
    rw [member]
    exact filled (Int32.lt_of_le_of_ne low nonzero.symm)
  · cases member

section Sizes

variable (sized : args.Sized) (begins : args.Begins)
include sized

theorem topRect_filled (top : 0 < args.top) : args.topRect.isEmpty = false :=
  filled_of_positive sized.srcWidth top

theorem bottomRect_filled (bottom : 0 < args.bottom) : args.bottomRect.isEmpty = false :=
  filled_of_positive sized.srcWidth bottom

include begins

theorem leftRect_filled (left : 0 < args.left) : args.leftRect.isEmpty = false := by
  refine filled_of_positive left ?_
  have height : args.leftRect.height = args.dstHeight := begins.2.2
  rw [height]
  exact sized.dstHeight

theorem rightRect_filled (right : 0 < args.right) : args.rightRect.isEmpty = false := by
  refine filled_of_positive right ?_
  have height : args.rightRect.height = args.dstHeight := begins.2.2
  rw [height]
  exact sized.dstHeight

theorem fillTasks_filled : ∀ task ∈ args.fillTasks, task.isEmpty = false := by
  unfold BorderArgs.fillTasks
  simp only [List.forall_mem_append]
  exact ⟨⟨⟨wanted_filled sized.top (topRect_filled sized),
    wanted_filled sized.bottom (bottomRect_filled sized)⟩,
    wanted_filled sized.left (leftRect_filled sized begins)⟩,
    wanted_filled sized.right (rightRect_filled sized begins)⟩

end Sizes

structure SameSizes (args : BorderArgs) (source : BorderArgs.SourceRects) : Prop where
  top : source.top.width = args.srcWidth ∧ source.top.height = args.top
  bottom : source.bottom.width = args.srcWidth ∧ source.bottom.height = args.bottom
  left : source.left.width = args.left ∧ source.left.height = args.leftRect.height
  right : source.right.width = args.right ∧ source.right.height = args.leftRect.height

theorem sourceRects_sizes {source : BorderArgs.SourceRects}
    (taken : args.sourceRects = some source) : SameSizes args source := by
  unfold BorderArgs.sourceRects at taken
  split at taken
  · cases taken
    exact ⟨⟨rfl, rfl⟩, ⟨rfl, rfl⟩, ⟨rfl, rfl⟩, ⟨rfl, rfl⟩⟩
  · split at taken
    · cases taken
      exact ⟨⟨rfl, rfl⟩, ⟨rfl, rfl⟩, ⟨rfl, rfl⟩, ⟨rfl, rfl⟩⟩
    · cases taken

section Sources

variable {source : BorderArgs.SourceRects} (sizes : SameSizes args source)
include sizes

theorem rowTasks_filled (sized : args.Sized) :
    ∀ task ∈ args.rowTasks source, task.isEmpty = false := by
  unfold BorderArgs.rowTasks
  rw [List.forall_mem_append]
  constructor
  · apply wanted_filled sized.top
    intro top
    have read : source.top.isEmpty = false :=
      filled_of_positive (sizes.top.1 ▸ sized.srcWidth) (sizes.top.2 ▸ top)
    simp only [BorderTask.isEmpty, read, topRect_filled sized top, Bool.or_self]
  · apply wanted_filled sized.bottom
    intro bottom
    have read : source.bottom.isEmpty = false :=
      filled_of_positive (sizes.bottom.1 ▸ sized.srcWidth) (sizes.bottom.2 ▸ bottom)
    simp only [BorderTask.isEmpty, read, bottomRect_filled sized bottom, Bool.or_self]

theorem columnTasks_filled (sized : args.Sized) (begins : args.Begins) (left : args.left ≠ 0)
    (right : args.right ≠ 0) : ∀ task ∈ args.columnTasks source, task.isEmpty = false := by
  have leftSize := Int32.lt_of_le_of_ne sized.left left.symm
  have rightSize := Int32.lt_of_le_of_ne sized.right right.symm
  have height : 0 < args.leftRect.height := by
    have same : args.leftRect.height = args.dstHeight := begins.2.2
    rw [same]
    exact sized.dstHeight
  have readLeft : source.left.isEmpty = false :=
    filled_of_positive (sizes.left.1 ▸ leftSize) (sizes.left.2 ▸ height)
  have readRight : source.right.isEmpty = false :=
    filled_of_positive (sizes.right.1 ▸ rightSize) (sizes.right.2 ▸ height)
  unfold BorderArgs.columnTasks
  rw [if_pos (Or.inl left)]
  simp only [List.forall_mem_cons, List.not_mem_nil, false_implies, implies_true,
    BorderTask.isEmpty, readLeft, readRight, leftRect_filled sized begins leftSize,
    rightRect_filled sized begins rightSize, Bool.or_self, and_self]

end Sources

theorem columnTasks_empty (source : BorderArgs.SourceRects)
    (wanted : args.left ≠ 0 ∨ args.right ≠ 0) (missing : args.left = 0 ∨ args.right = 0) :
    ∃ task ∈ args.columnTasks source, task.isEmpty = true := by
  unfold BorderArgs.columnTasks
  rw [if_pos wanted]
  obtain left | right := missing
  · refine ⟨.improcessTask true source.left args.leftRect (BorderArgs.flipH source), by simp, ?_⟩
    have drawn : args.leftRect.isEmpty = true := empty_of_zero left
    simp only [BorderTask.isEmpty, drawn, Bool.or_true]
  · refine ⟨.improcessTask true source.right args.rightRect (BorderArgs.flipH source), by simp, ?_⟩
    have drawn : args.rightRect.isEmpty = true := empty_of_zero right
    simp only [BorderTask.isEmpty, drawn, Bool.or_true]

/-! Jobs -/

theorem columnJob_fails {source : BorderArgs.SourceRects} (known : args.Known)
    (missing : args.left = 0 ∨ args.right = 0) :
    Fails args (args.columnJob source handle fence) (holding []) := by
  unfold BorderArgs.columnJob
  by_cases wanted : args.left ≠ 0 ∨ args.right ≠ 0
  · exact addTasks_fails known (columnTasks_empty source wanted missing)
  · have none : args.columnTasks source = [] := if_neg wanted
    rw [none]
    exact finish_fails known rfl

theorem columnJob_ends {source : BorderArgs.SourceRects} (known : args.Known)
    (sizes : SameSizes args source) (sized : args.Sized) (begins : args.Begins)
    (left : args.left ≠ 0) (right : args.right ≠ 0) :
    Ends args args.Total (args.columnJob source handle fence) (holding []) := by
  have bordered : args.borderless = false := by simp [BorderArgs.borderless, left]
  apply addTasks_ends (columnTasks_filled sizes sized begins left right)
  refine finish_ends known bordered ?_
  simp [BorderArgs.columnTasks, left]

theorem rowJob_ends {source : BorderArgs.SourceRects} (sizes : SameSizes args source)
    (sized : args.Sized) (rows : args.top ≠ 0 ∨ args.bottom ≠ 0)
    (columns : ∀ handle fence, Ends args post (args.columnJob source handle fence) (holding [])) :
    Ends args post (args.rowJob source handle fence) (holding []) := by
  have present : args.rowTasks source ≠ [] := by
    unfold BorderArgs.rowTasks BorderArgs.wanted
    obtain top | bottom := rows
    · simp [top]
    · simp [bottom]
  apply addTasks_ends (rowTasks_filled sizes sized)
  rw [List.nil_append]
  refine .call fun (reply : FenceReply) driven => ?_
  obtain ⟨success, fenced⟩ := driven
  have goesOn : ¬(reply.status ≠ .success ∨ reply.fence ≤ 0) :=
    not_or.mpr ⟨not_not.mpr success, Int32.not_le.mpr (fenced (by decide))⟩
  rw [if_neg goesOn, holding_imendJob present]
  refine .call fun (next : UInt32) begun => ?_
  rw [if_neg begun]
  exact columns next reply.fence

theorem begin_ends {next : UInt32 → BorderProg} {tasks : List BorderTask}
    (ends : ∀ handle, Ends args post (next handle) (holding [])) :
    Ends args post (.call .imbeginJob fun (handle : UInt32) =>
      if handle = 0 then .done { status := .failed } else next handle) (holding tasks) := by
  refine .call fun (handle : UInt32) begun => ?_
  rw [if_neg begun]
  exact ends handle

theorem sourceJobs_ends {source : BorderArgs.SourceRects} (sizes : SameSizes args source)
    (sized : args.Sized)
    (columns : ∀ handle fence, Ends args post (args.columnJob source handle fence) (holding [])) :
    Ends args post
      (if args.top ≠ 0 ∨ args.bottom ≠ 0 then args.rowJob source handle fence
        else args.columnJob source handle fence) (holding []) := by
  split
  · rename_i rows
    exact rowJob_ends sizes sized rows columns
  · exact columns handle fence

theorem borderJobs_unknown (unknown : ¬ args.Known) :
    Fails args (args.borderJobs fence) (holding []) := by
  unfold BorderArgs.borderJobs
  refine begin_ends fun handle => ?_
  obtain ⟨constant, neither⟩ := not_or.mp (known_iff.not.mp unknown)
  have none : args.sourceRects = none := Option.not_isSome_iff_eq_none.mp neither
  rw [if_neg constant, none]
  -- the unknown kind is reported with the status of the cancel
  refine .call fun (ret : ImStatus) driven => .done ?_
  intro total
  have failed := total.status
  rw [if_neg unknown] at failed
  have success : ret = .success := driven
  rw [success] at failed
  cases failed

theorem borderJobs_fails (known : args.Known) (sized : args.Sized)
    (missing : args.borderless = true ∨
      args.borderType ≠ imBorderConstant ∧ (args.left = 0 ∨ args.right = 0)) :
    Fails args (args.borderJobs fence) (holding []) := by
  unfold BorderArgs.borderJobs
  refine begin_ends fun handle => ?_
  by_cases constant : args.borderType = imBorderConstant
  · have borderless := missing.resolve_right fun both => both.1 constant
    rw [if_pos constant, fillTasks_borderless borderless]
    exact finish_fails known rfl
  · have source := (known_iff.mp known).resolve_left constant
    obtain ⟨source, taken⟩ := Option.isSome_iff_exists.mp source
    have column : args.left = 0 ∨ args.right = 0 := by
      obtain borderless | both := missing
      · exact .inl (borderless_zero borderless).2.2.1
      · exact both.2
    rw [if_neg constant, taken]
    exact sourceJobs_ends (sourceRects_sizes taken) sized fun _ _ => columnJob_fails known column

theorem fillTasks_present (bordered : args.borderless = false) : args.fillTasks ≠ [] := by
  intro empty
  simp only [BorderArgs.fillTasks, BorderArgs.wanted, List.append_eq_nil_iff] at empty
  obtain ⟨⟨⟨top, bottom⟩, left⟩, right⟩ := empty
  have zero {size : Int32} {task : BorderTask} (none : (if size ≠ 0 then [task] else []) = []) :
      size = 0 := by
    by_contra nonzero
    rw [if_pos nonzero] at none
    cases none
  have all : args.borderless = true :=
    decide_eq_true ⟨zero top, zero bottom, zero left, zero right⟩
  rw [bordered] at all
  cases all

theorem borderJobs_ends (known : args.Known) (sized : args.Sized) (begins : args.Begins)
    (bordered : args.borderless = false)
    (columns : args.borderType = imBorderConstant ∨ (args.left ≠ 0 ∧ args.right ≠ 0)) :
    Ends args args.Total (args.borderJobs fence) (holding []) := by
  unfold BorderArgs.borderJobs
  refine begin_ends fun handle => ?_
  by_cases constant : args.borderType = imBorderConstant
  · rw [if_pos constant]
    apply addTasks_ends (fillTasks_filled sized begins)
    exact finish_ends known bordered (fillTasks_present bordered)
  · have source := (known_iff.mp known).resolve_left constant
    obtain ⟨source, taken⟩ := Option.isSome_iff_exists.mp source
    obtain ⟨left, right⟩ := columns.resolve_left constant
    have sizes := sourceRects_sizes taken
    rw [if_neg constant, taken]
    exact sourceJobs_ends sizes sized
      fun _ _ => columnJob_ends known sizes sized begins left right

def Settles (args : BorderArgs) (prog : BorderProg) : Prop :=
  Ends args (fun after result => args.Total after result ↔ args.Complete) prog (holding [])

theorem settles_of_total {prog : BorderProg} (ends : Ends args args.Total prog (holding []))
    (complete : args.Complete) : Settles args prog :=
  Prog.wp_mono ends fun _ _ total => iff_of_true total complete

theorem settles_of_fails {prog : BorderProg} (fails : Fails args prog (holding []))
    (incomplete : ¬ args.Complete) : Settles args prog :=
  Prog.wp_mono fails fun _ _ total => iff_of_false total incomplete

theorem refused_settles {status : ImStatus} (refused : ¬ args.Begins)
    (failed : status.ok = false) : Settles args (.done { status := status }) := by
  by_cases known : args.Known
  · refine settles_of_fails (.done (not_total_of_failed known ?_)) ?_
    · rintro rfl
      cases failed
    · intro complete
      rw [BorderArgs.Complete, if_pos known] at complete
      exact refused complete.1
  · refine settles_of_total (.done ⟨?_, holding_sound []⟩) ?_
    · rw [if_neg known]
      exact failed
    · rw [BorderArgs.Complete, if_neg known]
      exact refused

theorem unknown_incomplete (begins : args.Begins) (unknown : ¬ args.Known) :
    ¬ args.Complete := by
  rw [BorderArgs.Complete, if_neg unknown]
  exact not_not.mpr begins

theorem complete_iff (begins : args.Begins) (known : args.Known) :
    args.Complete ↔ args.Drawable := by
  rw [BorderArgs.Complete, if_pos known]
  exact and_iff_right begins

theorem borderJobs_settles (sized : args.Sized) (begins : args.Begins)
    (waited : args.borderless = true → args.sync = 1) :
    Settles args (args.borderJobs fence) := by
  by_cases known : args.Known
  · cases bordered : args.borderless with
    | true =>
        refine settles_of_fails (borderJobs_fails known sized (.inl bordered)) ?_
        rw [complete_iff begins known, BorderArgs.Drawable, if_pos bordered]
        exact not_not.mpr (waited bordered)
    | false =>
        have drawable : args.Drawable ↔
            args.borderType = imBorderConstant ∨ (args.left ≠ 0 ∧ args.right ≠ 0) := by
          rw [BorderArgs.Drawable, if_neg (by simp [bordered])]
        by_cases columns : args.borderType = imBorderConstant ∨ (args.left ≠ 0 ∧ args.right ≠ 0)
        · exact settles_of_total (borderJobs_ends known sized begins bordered columns)
            ((complete_iff begins known).mpr (drawable.mpr columns))
        · obtain ⟨constant, both⟩ := not_or.mp columns
          have missing : args.left = 0 ∨ args.right = 0 := by
            by_contra neither
            exact both (not_or.mp neither)
          refine settles_of_fails (borderJobs_fails known sized (.inr ⟨constant, missing⟩)) ?_
          rw [complete_iff begins known, drawable]
          exact columns
  · exact settles_of_fails (borderJobs_unknown known) (unknown_incomplete begins known)

theorem immakeBorder_settles (sized : args.Sized) : Settles args (immakeBorder args) := by
  unfold immakeBorder
  by_cases slotless : args.sync ≠ 1 ∧ args.releaseFence = false
  · rw [if_pos slotless]
    refine refused_settles (fun begins => ?_) rfl
    obtain sync | placed := begins.1
    · exact slotless.1 sync
    · rw [slotless.2] at placed
      cases placed
  rw [if_neg slotless]
  split
  · rename_i different
    refine refused_settles (fun begins => ?_) rfl
    exact different.elim (fun width => width begins.2.1) fun height => height begins.2.2
  rename_i same
  have begins : args.Begins := by
    refine ⟨?_, ?_⟩
    · by_contra neither
      obtain ⟨sync, placed⟩ := not_or.mp neither
      exact slotless ⟨sync, Bool.eq_false_iff.mpr placed⟩
    · obtain ⟨width, height⟩ := not_or.mp same
      exact ⟨not_not.mp width, not_not.mp height⟩
  refine Ends.call fun (copy : FenceReply) driven => ?_
  obtain ⟨success, fenced⟩ := driven
  have goesOn : ¬(copy.status ≠ .success ∨ copy.fence ≤ 0) :=
    not_or.mpr ⟨not_not.mpr success, Int32.not_le.mpr fenced⟩
  rw [if_neg goesOn]
  show Settles args _
  by_cases borderless : args.borderless = true
  · rw [if_pos borderless]
    by_cases sync : args.sync = 1
    · rw [if_pos sync]
      refine Ends.call fun (ret : ImStatus) waited => ?_
      show Settles args _
      by_cases failed : ret ≠ .success
      · rw [if_pos failed]
        have known : args.Known := (waited.resolve_right failed).2
        refine settles_of_fails (.done (not_total_of_failed known failed)) ?_
        rw [complete_iff begins known, BorderArgs.Drawable, if_pos borderless]
        exact not_not.mpr sync
      · rw [if_neg failed]
        exact borderJobs_settles sized begins fun _ => sync
    · rw [if_neg sync]
      by_cases known : args.Known
      · refine settles_of_total (.done (total_of_success known rfl)) ?_
        rw [complete_iff begins known, BorderArgs.Drawable, if_pos borderless]
        exact sync
      · refine settles_of_fails (.done fun total => ?_) (unknown_incomplete begins known)
        have failed := total.status
        rw [if_neg known] at failed
        cases failed
  · rw [if_neg borderless]
    exact borderJobs_settles sized begins fun all => absurd all borderless

end Runs

/-- A driven run comes out well exactly for the arguments that are complete. -/
theorem immakeBorder_total_iff (args : BorderArgs) (sized : args.Sized)
    {trace : List (Sigma BorderCall.Reply)} {result : BorderResult}
    (run : (immakeBorder args).Run trace result)
    (driven : ∀ exchange ∈ trace, args.Driven exchange) :
    args.Total (trace.foldl JobWatch.observe {}) result ↔ args.Complete :=
  Prog.wp_run (immakeBorder_settles sized) run driven

theorem smoothReplies_driven (args : BorderArgs) (call : BorderCall) :
    args.Driven ⟨call, smoothReplies call⟩ := by
  have fenced : (0 : Int32) < 7 := by decide
  cases call with
  | improcess drect fence => exact ⟨rfl, fenced⟩
  | imendJob handle syncMode fence release => exact ⟨rfl, fun _ => fenced⟩
  | imbeginJob => exact (by decide : (2 : UInt32) ≠ 0)
  | task handle task => exact fun _ => rfl
  | imcancelJob handle => rfl
  | imsync fence => exact Or.inr rfl

theorem immakeBorder_total_wrap :
    ∃ trace result, (immakeBorder wrapArgs).Run trace result ∧
      wrapArgs.Total (trace.foldl JobWatch.observe {}) result := by
  have run := Prog.answered_run smoothReplies (immakeBorder wrapArgs)
  refine ⟨_, _, run, ?_⟩
  refine (immakeBorder_total_iff wrapArgs ?_ run
    (Prog.answered_allowed (smoothReplies_driven wrapArgs) _)).mpr ?_
  · constructor <;> decide
  · have known : wrapArgs.Known := by decide
    rw [BorderArgs.Complete, if_pos known]
    exact ⟨⟨.inr rfl, rfl, rfl⟩, .inr ⟨by decide, by decide⟩⟩

/-- A left border only, rows only, and a kind of border there is none of. -/
theorem immakeBorder_not_total :
    let left : BorderArgs :=
      { srcWidth := 16, srcHeight := 16, dstWidth := 18, dstHeight := 16
        top := 0, bottom := 0, left := 2, right := 0, borderType := imBorderReflect }
    let rows : BorderArgs :=
      { srcWidth := 16, srcHeight := 16, dstWidth := 16, dstHeight := 20
        top := 2, bottom := 2, left := 0, right := 0, borderType := imBorderWrap }
    let unknown : BorderArgs := { wrapArgs with borderType := 7 }
    ∀ args ∈ [left, rows, unknown], args.Sized ∧ args.Begins ∧
      ∃ trace result, (immakeBorder args).Run trace result ∧
        (∀ exchange ∈ trace, args.Driven exchange) ∧ result.status = .success ∧
        ¬ args.Total (trace.foldl JobWatch.observe {}) result := by
  have ran (args : BorderArgs)
      (bad : let run := (immakeBorder args).answered smoothReplies
        run.2.status = .success ∧ ((run.1.foldl JobWatch.observe {}).emptyTask ||
          (run.1.foldl JobWatch.observe {}).emptyJob || !decide args.Known) = true) :
      ∃ trace result, (immakeBorder args).Run trace result ∧
        (∀ exchange ∈ trace, args.Driven exchange) ∧ result.status = .success ∧
        ¬ args.Total (trace.foldl JobWatch.observe {}) result := by
    obtain ⟨success, faulty⟩ := bad
    refine ⟨_, _, Prog.answered_run smoothReplies (immakeBorder args),
      Prog.answered_allowed (smoothReplies_driven args) _, success, fun total => ?_⟩
    simp only [Bool.or_eq_true, Bool.not_eq_true', decide_eq_false_iff_not] at faulty
    obtain (task | job) | unknown := faulty
    · exact total.sound (.inl task)
    · exact total.sound (.inr job)
    · have failed := total.status
      rw [if_neg unknown, success] at failed
      cases failed
  intro left rows unknown
  simp only [List.forall_mem_cons, List.not_mem_nil, false_implies, implies_true, and_true]
  refine ⟨⟨?_, ?_, ran left (by decide +kernel)⟩, ⟨?_, ?_, ran rows (by decide +kernel)⟩,
    ?_, ?_, ran unknown (by decide +kernel)⟩
  · constructor <;> decide
  · exact ⟨.inl rfl, rfl, rfl⟩
  · constructor <;> decide
  · exact ⟨.inl rfl, rfl, rfl⟩
  · constructor <;> decide
  · exact ⟨.inr rfl, rfl, rfl⟩

end LibRga
