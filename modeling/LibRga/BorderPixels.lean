import LibRga.Border
import LibRga.Bounds

/-!
The picture `immakeBorder` leaves in `dst`.

The tasks of a job wait until the job is submitted and are then carried out; no
task of a job touches what another one writes, so their order does not matter.
The columns are taken from rows that have their borders already, which is why
the corners come out right.
-/

namespace LibRga

open Interaction

abbrev Picture (P : Type) := Int → Int → P

def ImRect.Holds (rect : ImRect) (x y : Int) : Prop :=
  rect.x.toInt ≤ x ∧ x < rect.x.toInt + rect.width.toInt ∧
    rect.y.toInt ≤ y ∧ y < rect.y.toInt + rect.height.toInt

instance (rect : ImRect) (x y : Int) : Decidable (rect.Holds x y) :=
  inferInstanceAs (Decidable (_ ∧ _))

/-! The meaning of a task -/

/-- The pixel that lands at `offset`, of `length` pixels from `start` on. -/
def mirrored (flip : Bool) (start length offset : Int) : Int :=
  if flip then start + (length - 1 - offset) else start + offset

namespace BorderTask

variable {P : Type}

def target : BorderTask → ImRect
  | imfillTask rect _ => rect
  | improcessTask _ _ drect _ => drect

def Writes (task : BorderTask) (x y : Int) : Prop :=
  task.target.Holds x y

def Reads : BorderTask → Int → Int → Prop
  | imfillTask _ _, _, _ => False
  | improcessTask fromDst srect _ _, x, y => fromDst = true ∧ srect.Holds x y

def Unscaled : BorderTask → Prop
  | imfillTask _ _ => True
  | improcessTask _ srect drect _ => srect.width = drect.width ∧ srect.height = drect.height

def paint (colour : UInt32 → P) (src dst : Picture P) (task : BorderTask) : Picture P :=
  match task with
  | imfillTask rect color => fun x y => if rect.Holds x y then colour color else dst x y
  | improcessTask fromDst srect drect usage => fun x y =>
      if drect.Holds x y then
        (if fromDst then dst else src)
          (mirrored (has usage imHalTransformFlipH) srect.x.toInt srect.width.toInt
            (x - drect.x.toInt))
          (mirrored (has usage imHalTransformFlipV) srect.y.toInt srect.height.toInt
            (y - drect.y.toInt))
      else dst x y

def Apart (first second : BorderTask) : Prop :=
  ∀ x y, (first.Writes x y → ¬second.Writes x y ∧ ¬second.Reads x y) ∧
    (second.Writes x y → ¬first.Reads x y)

end BorderTask

/-- `dst`, the tasks that wait for their job, and the jobs that were carried out. -/
structure Canvas (P : Type) where
  dst : Picture P
  queued : List (UInt32 × BorderTask) := []
  jobs : List (List BorderTask) := []

section Meaning

variable {P : Type} (colour : UInt32 → P) (args : BorderArgs) (src : Picture P)

def paintJob (dst : Picture P) (tasks : List BorderTask) : Picture P :=
  tasks.foldl (BorderTask.paint colour src) dst

def BorderArgs.copyTask : BorderTask :=
  .improcessTask false ⟨0, 0, args.srcWidth, args.srcHeight⟩ args.copyRect 0

def Canvas.observe (canvas : Canvas P) : Sigma BorderCall.Reply → Canvas P
  | ⟨.improcess drect _, (reply : FenceReply)⟩ =>
      if reply.status = .success then
        { canvas with
          dst := BorderTask.paint colour src canvas.dst
            (.improcessTask false ⟨0, 0, args.srcWidth, args.srcHeight⟩ drect 0) }
      else canvas
  | ⟨.task handle task, (ret : ImStatus)⟩ =>
      if ret = .success then { canvas with queued := canvas.queued ++ [(handle, task)] }
      else canvas
  | ⟨.imendJob handle _ _ _, (reply : FenceReply)⟩ =>
      if reply.status = .success then
        let tasks := (canvas.queued.filter (·.1 = handle)).map Prod.snd
        { dst := paintJob colour src canvas.dst tasks
          queued := canvas.queued.filter (·.1 ≠ handle)
          jobs := canvas.jobs ++ [tasks] }
      else canvas
  | ⟨.imcancelJob handle, _⟩ =>
      { canvas with queued := canvas.queued.filter (·.1 ≠ handle) }
  | ⟨.imbeginJob, _⟩ | ⟨.imsync _, _⟩ => canvas

/-- Every step goes through, and with a fence where there is to be one. -/
def GoesThrough : Sigma BorderCall.Reply → Prop
  | ⟨.improcess _ _, (reply : FenceReply)⟩ => reply.status = .success ∧ 0 < reply.fence
  | ⟨.imendJob _ syncMode _ _, (reply : FenceReply)⟩ =>
      reply.status = .success ∧ (syncMode = imAsync → 0 < reply.fence)
  | ⟨.imbeginJob, (handle : UInt32)⟩ => handle ≠ 0
  | ⟨.task _ _, (ret : ImStatus)⟩ | ⟨.imcancelJob _, (ret : ImStatus)⟩
  | ⟨.imsync _, (ret : ImStatus)⟩ => ret = .success

/-! What is to come out -/

/-- `fedcba|abcdefgh|hgfedcb` -/
def reflectIndex (size index : Int) : Int :=
  if index < 0 then -1 - index else if size ≤ index then 2 * size - 1 - index else index

/-- `cdefgh|abcdefgh|abcdefg` -/
def wrapIndex (size index : Int) : Int :=
  index % size

example : ((List.range 21).map fun place => reflectIndex 8 (place - 6)) =
    [5, 4, 3, 2, 1, 0, 0, 1, 2, 3, 4, 5, 6, 7, 7, 6, 5, 4, 3, 2, 1] := by
  decide

example : ((List.range 21).map fun place => wrapIndex 8 (place - 6)) =
    [2, 3, 4, 5, 6, 7, 0, 1, 2, 3, 4, 5, 6, 7, 0, 1, 2, 3, 4, 5, 6] := by
  decide

def BorderArgs.bordered (x y : Int) : P :=
  let column := x - args.left.toInt
  let row := y - args.top.toInt
  if args.borderType = imBorderConstant then
    if args.copyRect.Holds x y then src column row else colour args.value.toUInt32
  else if args.borderType = imBorderReflect then
    src (reflectIndex args.srcWidth.toInt column) (reflectIndex args.srcHeight.toInt row)
  else src (wrapIndex args.srcWidth.toInt column) (wrapIndex args.srcHeight.toInt row)

end Meaning

/-! The jobs of a run -/

def BorderArgs.jobs (args : BorderArgs) : List (List BorderTask) :=
  if args.borderType = imBorderConstant then [args.fillTasks]
  else
    match args.sourceRects with
    | none => []
    | some source =>
        (if args.top ≠ 0 ∨ args.bottom ≠ 0 then [args.rowTasks source] else []) ++
          [args.columnTasks source]

section Runs

variable {P : Type} {colour : UInt32 → P} {args : BorderArgs} {src : Picture P}
  {canvas : Canvas P} {handle : UInt32} {fence : Int32}

theorem observe_imendJob {tasks : List BorderTask} {syncMode : Int32} {release : ReleaseSlot}
    {reply : FenceReply}
    (ready : canvas.queued = tasks.map (Prod.mk handle)) (success : reply.status = .success) :
    canvas.observe colour args src ⟨.imendJob handle syncMode fence release, reply⟩ =
      ⟨paintJob colour src canvas.dst tasks, [], canvas.jobs ++ [tasks]⟩ := by
  have own : (tasks.map (Prod.mk handle)).filter (fun entry => decide (entry.1 = handle)) =
      tasks.map (Prod.mk handle) := by
    rw [List.filter_eq_self]
    simp
  have others : (tasks.map (Prod.mk handle)).filter (fun entry => decide (entry.1 ≠ handle)) =
      [] := by
    rw [List.filter_eq_nil_iff]
    simp
  have named : ((tasks.map (Prod.mk handle)).map Prod.snd) = tasks := by
    rw [List.map_map]
    exact List.map_id tasks
  simp only [Canvas.observe, success, if_true, ready, own, others, named]

theorem addTasks_wp {post : Canvas P → BorderResult → Prop} {next : BorderProg}
    {tasks done : List BorderTask} (ready : canvas.queued = done.map (Prod.mk handle))
    (holds : next.wp (Canvas.observe colour args src) GoesThrough post
      { canvas with queued := (done ++ tasks).map (Prod.mk handle) }) :
    (BorderArgs.addTasks handle next tasks).wp (Canvas.observe colour args src) GoesThrough post
      canvas := by
  induction tasks generalizing canvas done with
  | nil =>
      rw [List.append_nil, ← ready] at holds
      exact holds
  | cons task rest ih =>
      intro ret success
      obtain rfl : ret = ImStatus.success := success
      refine @ih { canvas with queued := canvas.queued ++ [(handle, task)] } (done ++ [task]) ?_ ?_
      · rw [ready, List.map_append]
        rfl
      · rw [List.append_assoc]
        exact holds

theorem finish_wp {tasks : List BorderTask}
    (ready : canvas.queued = tasks.map (Prod.mk handle)) :
    (args.finish handle fence).wp (Canvas.observe colour args src) GoesThrough
      (fun after _ => after.dst = paintJob colour src canvas.dst tasks ∧
        after.jobs = canvas.jobs ++ [tasks]) canvas := by
  unfold BorderArgs.finish
  split_ifs with sync
  · intro ret success
    obtain rfl : ret = ImStatus.success := success
    intro reply through
    rw [show Canvas.observe colour args src canvas ⟨.imsync fence, ImStatus.success⟩ = canvas from
      rfl, observe_imendJob ready through.1]
    exact ⟨rfl, rfl⟩
  · intro reply through
    rw [observe_imendJob ready through.1]
    exact ⟨rfl, rfl⟩

theorem lastJob_wp (tasks : List BorderTask) (empty : canvas.queued = []) :
    (BorderArgs.addTasks handle (args.finish handle fence) tasks).wp
      (Canvas.observe colour args src) GoesThrough
      (fun after _ => after.dst = paintJob colour src canvas.dst tasks ∧
        after.jobs = canvas.jobs ++ [tasks]) canvas :=
  @addTasks_wp _ _ _ _ canvas handle _ _ tasks [] empty
    (@finish_wp _ _ _ _ { canvas with queued := tasks.map (Prod.mk handle) } handle fence tasks rfl)

theorem rowJob_wp {source : BorderArgs.SourceRects} (empty : canvas.queued = []) :
    (args.rowJob source handle fence).wp (Canvas.observe colour args src) GoesThrough
      (fun after _ => after.dst = paintJob colour src
          (paintJob colour src canvas.dst (args.rowTasks source)) (args.columnTasks source) ∧
        after.jobs = canvas.jobs ++ [args.rowTasks source] ++ [args.columnTasks source])
      canvas := by
  refine @addTasks_wp _ _ _ _ canvas handle _ _ (args.rowTasks source) [] empty ?_
  intro reply through
  beta_reduce
  rw [observe_imendJob rfl through.1, if_neg]
  · intro next positive
    beta_reduce
    rw [if_neg positive]
    exact @lastJob_wp _ _ _ _
      ⟨paintJob colour src canvas.dst (args.rowTasks source), [],
        canvas.jobs ++ [args.rowTasks source]⟩ next _ (args.columnTasks source) rfl
  · rintro (failed | missing)
    · exact failed through.1
    · exact absurd (through.2 rfl) (Int32.not_lt.mpr missing)

theorem borderJobs_wp (known : args.borderType = imBorderConstant ∨ args.sourceRects.isSome)
    (empty : canvas.queued = []) :
    (args.borderJobs fence).wp (Canvas.observe colour args src) GoesThrough
      (fun after _ => after.dst = args.jobs.foldl (paintJob colour src) canvas.dst ∧
        after.jobs = canvas.jobs ++ args.jobs) canvas := by
  intro handle positive
  beta_reduce
  rw [if_neg positive]
  unfold BorderArgs.jobs
  by_cases constant : args.borderType = imBorderConstant
  · rw [if_pos constant, if_pos constant]
    exact lastJob_wp args.fillTasks empty
  · rw [if_neg constant, if_neg constant]
    obtain ⟨source, same⟩ := Option.isSome_iff_exists.mp (known.resolve_left constant)
    rw [same]
    dsimp only
    by_cases rows : args.top ≠ 0 ∨ args.bottom ≠ 0
    · rw [if_pos rows, if_pos rows]
      refine Prog.wp_mono (rowJob_wp empty) ?_
      rintro after _ ⟨painted, carried⟩
      exact ⟨painted, carried.trans (List.append_assoc canvas.jobs _ _)⟩
    · rw [if_neg rows, if_neg rows]
      exact lastJob_wp (args.columnTasks source) empty

theorem immakeBorder_jobs (known : args.borderType = imBorderConstant ∨ args.sourceRects.isSome)
    {before : Picture P} {trace : List (Sigma BorderCall.Reply)} {result : BorderResult}
    (run : (immakeBorder args).Run trace result)
    (through : ∀ exchange ∈ trace, GoesThrough exchange) (success : result.status = .success) :
    let canvas := trace.foldl (Canvas.observe colour args src) { dst := before }
    ∃ jobs, (jobs = args.jobs ∨ args.borderless = true ∧ jobs = []) ∧ canvas.jobs = jobs ∧
      canvas.dst = jobs.foldl (paintJob colour src)
        (BorderTask.paint colour src before args.copyTask) := by
  have holds : (immakeBorder args).wp (Canvas.observe colour args src) GoesThrough
      (fun after result => result.status = .success → ∃ jobs,
        (jobs = args.jobs ∨ args.borderless = true ∧ jobs = []) ∧ after.jobs = jobs ∧
          after.dst = jobs.foldl (paintJob colour src)
            (BorderTask.paint colour src before args.copyTask)) { dst := before } := by
    unfold immakeBorder
    by_cases placeless : args.sync ≠ 1 ∧ args.releaseFence = false
    · rw [if_pos placeless]
      intro refused
      cases refused
    by_cases misfit : args.srcWidth + args.left + args.right ≠ args.dstWidth ∨
        args.srcHeight + args.top + args.bottom ≠ args.dstHeight
    · rw [if_neg placeless, if_pos misfit]
      intro refused
      cases refused
    rw [if_neg placeless, if_neg misfit]
    intro copy copied
    have drawn : Canvas.observe colour args src { dst := before }
        ⟨.improcess args.copyRect args.acquireFenceFd, copy⟩ =
        { dst := BorderTask.paint colour src before args.copyTask } := by
      simp only [Canvas.observe, copied.1, if_true]
      rfl
    have jobs : (args.borderJobs copy.fence).wp (Canvas.observe colour args src) GoesThrough
        (fun after result => result.status = .success → ∃ jobs,
          (jobs = args.jobs ∨ args.borderless = true ∧ jobs = []) ∧ after.jobs = jobs ∧
            after.dst = jobs.foldl (paintJob colour src)
              (BorderTask.paint colour src before args.copyTask))
        { dst := BorderTask.paint colour src before args.copyTask } := by
      refine Prog.wp_mono (borderJobs_wp known rfl) ?_
      rintro after _ ⟨painted, carried⟩ _
      exact ⟨_, .inl rfl, carried, painted⟩
    beta_reduce
    rw [drawn, if_neg]
    · by_cases empty : args.borderless = true
      · rw [if_pos empty]
        by_cases sync : args.sync = 1
        · rw [if_pos sync]
          intro ret waited
          obtain rfl : ret = ImStatus.success := waited
          exact jobs
        · rw [if_neg sync]
          exact fun _ => ⟨[], .inr ⟨empty, rfl⟩, rfl, rfl⟩
      · rw [if_neg empty]
        exact jobs
    · rintro (failed | missing)
      · exact failed copied.1
      · exact absurd copied.2 (Int32.not_lt.mpr missing)
  exact Prog.wp_run holds run through success

end Runs

/-! The rectangles -/

/-- `dst` is as large as `src` with its borders. -/
structure BorderArgs.Fits (args : BorderArgs) : Prop where
  width : args.srcWidth.toInt + args.left.toInt + args.right.toInt = args.dstWidth.toInt
  height : args.srcHeight.toInt + args.top.toInt + args.bottom.toInt = args.dstHeight.toInt
  srcWidth : 0 ≤ args.srcWidth.toInt
  srcHeight : 0 ≤ args.srcHeight.toInt
  top : 0 ≤ args.top.toInt
  bottom : 0 ≤ args.bottom.toInt
  left : 0 ≤ args.left.toInt
  right : 0 ≤ args.right.toInt

/-- A border taken from the picture is no larger than the picture. -/
structure BorderArgs.Covered (args : BorderArgs) : Prop where
  top : args.top.toInt ≤ args.srcHeight.toInt
  bottom : args.bottom.toInt ≤ args.srcHeight.toInt
  left : args.left.toInt ≤ args.srcWidth.toInt
  right : args.right.toInt ≤ args.srcWidth.toInt

def BorderArgs.dstRect (args : BorderArgs) : ImRect :=
  ⟨0, 0, args.dstWidth, args.dstHeight⟩

theorem toInt_sub_nonneg {left right : Int32} (low : 0 ≤ left.toInt) (other : 0 ≤ right.toInt) :
    (left - right).toInt = left.toInt - right.toInt := by
  have first := left.toInt_lt
  have second := right.toInt_lt
  rw [Int32.toInt_sub, Int.bmod_eq_of_le (by omega) (by omega)]

section Rectangles

variable {args : BorderArgs} (fits : args.Fits) {x y : Int}
include fits

theorem rightRect_x : args.rightRect.x.toInt = args.srcWidth.toInt + args.left.toInt := by
  have total := fits.width
  have low := fits.srcWidth
  have right := fits.right
  have small := Int32.toInt_lt args.dstWidth
  exact toInt_add_small low fits.left (by omega)

theorem bottomRect_y : args.bottomRect.y.toInt = args.srcHeight.toInt + args.top.toInt := by
  have total := fits.height
  have low := fits.srcHeight
  have bottom := fits.bottom
  have small := Int32.toInt_lt args.dstHeight
  exact toInt_add_small low fits.top (by omega)

theorem leftRect_height : args.leftRect.height.toInt = args.dstHeight.toInt := by
  have total := fits.height
  have inner : (args.srcHeight + args.top).toInt = args.srcHeight.toInt + args.top.toInt :=
    bottomRect_y fits
  have low := fits.srcHeight
  have top := fits.top
  have small := Int32.toInt_lt args.dstHeight
  have outer : (args.srcHeight + args.top + args.bottom).toInt =
      (args.srcHeight + args.top).toInt + args.bottom.toInt :=
    toInt_add_small (by omega) fits.bottom (by omega)
  exact outer.trans (by omega)

omit fits in
theorem copyRect_holds : args.copyRect.Holds x y ↔
    args.left.toInt ≤ x ∧ x < args.left.toInt + args.srcWidth.toInt ∧
      args.top.toInt ≤ y ∧ y < args.top.toInt + args.srcHeight.toInt :=
  Iff.rfl

omit fits in
theorem topRect_holds : args.topRect.Holds x y ↔
    args.left.toInt ≤ x ∧ x < args.left.toInt + args.srcWidth.toInt ∧
      0 ≤ y ∧ y < args.top.toInt := by
  rw [ImRect.Holds, BorderArgs.topRect, Int32.toInt_zero, Int.zero_add]

theorem bottomRect_holds : args.bottomRect.Holds x y ↔
    args.left.toInt ≤ x ∧ x < args.left.toInt + args.srcWidth.toInt ∧
      args.srcHeight.toInt + args.top.toInt ≤ y ∧ y < args.dstHeight.toInt := by
  have total := fits.height
  rw [ImRect.Holds, bottomRect_y fits]
  simp only [BorderArgs.bottomRect, BorderArgs.topRect]
  omega

theorem leftRect_holds : args.leftRect.Holds x y ↔
    0 ≤ x ∧ x < args.left.toInt ∧ 0 ≤ y ∧ y < args.dstHeight.toInt := by
  rw [ImRect.Holds, leftRect_height fits]
  simp only [BorderArgs.leftRect, Int32.toInt_zero, Int.zero_add]

theorem rightRect_holds : args.rightRect.Holds x y ↔
    args.srcWidth.toInt + args.left.toInt ≤ x ∧ x < args.dstWidth.toInt ∧
      0 ≤ y ∧ y < args.dstHeight.toInt := by
  have total := fits.width
  have height : args.rightRect.height.toInt = args.dstHeight.toInt := leftRect_height fits
  rw [ImRect.Holds, rightRect_x fits, height]
  simp only [BorderArgs.rightRect, Int32.toInt_zero]
  omega

omit fits in
theorem dstRect_holds : args.dstRect.Holds x y ↔
    0 ≤ x ∧ x < args.dstWidth.toInt ∧ 0 ≤ y ∧ y < args.dstHeight.toInt := by
  simp only [ImRect.Holds, BorderArgs.dstRect, Int32.toInt_zero, Int.zero_add]

end Rectangles

/-- The copy and the four borders share no pixel and leave none out. -/
structure BorderArgs.Partition (args : BorderArgs) : Prop where
  disjoint : [args.copyRect, args.topRect, args.bottomRect, args.leftRect,
    args.rightRect].Pairwise fun first second => ∀ x y, ¬(first.Holds x y ∧ second.Holds x y)
  cover : ∀ x y, args.dstRect.Holds x y ↔
    ∃ rect ∈ [args.copyRect, args.topRect, args.bottomRect, args.leftRect, args.rightRect],
      rect.Holds x y

theorem BorderArgs.Fits.partition {args : BorderArgs} (fits : args.Fits) : args.Partition := by
  have width := fits.width
  have height := fits.height
  have low := fits.srcWidth
  have low' := fits.srcHeight
  have top := fits.top
  have bottom := fits.bottom
  have left := fits.left
  have right := fits.right
  constructor
  · simp only [List.pairwise_cons, List.mem_cons, List.not_mem_nil, or_false, forall_eq_or_imp,
      forall_eq, IsEmpty.forall_iff, implies_true, List.Pairwise.nil, and_true, copyRect_holds,
      topRect_holds, bottomRect_holds fits, leftRect_holds fits, rightRect_holds fits]
    refine ⟨⟨?_, ?_, ?_, ?_⟩, ⟨?_, ?_, ?_⟩, ⟨?_, ?_⟩, ?_⟩ <;> intro x y <;> omega
  · intro x y
    simp only [List.mem_cons, List.not_mem_nil, or_false, exists_eq_or_imp, exists_eq_left,
      copyRect_holds, topRect_holds, bottomRect_holds fits, leftRect_holds fits,
      rightRect_holds fits, dstRect_holds]
    omega

/-! One job -/

/-- The tasks may be carried out in any order or at once, and none of them scales. -/
structure Independent (tasks : List BorderTask) : Prop where
  apart : tasks.Pairwise BorderTask.Apart
  unscaled : ∀ task ∈ tasks, task.Unscaled

theorem Independent.sublist {tasks more : List BorderTask} (independent : Independent more)
    (part : tasks.Sublist more) : Independent tasks :=
  ⟨independent.apart.sublist part,
    fun task member => independent.unscaled task (part.subset member)⟩

theorem independent_nil : Independent [] :=
  ⟨.nil, by simp⟩

theorem wanted_sublist (size : Int32) (task : BorderTask) :
    (BorderArgs.wanted size task).Sublist [task] := by
  unfold BorderArgs.wanted
  split_ifs
  · exact List.Sublist.refl [task]
  · exact List.nil_sublist [task]

theorem apart_of_writes {first second : BorderTask}
    (writes : ∀ x y, ¬(first.Writes x y ∧ second.Writes x y))
    (blind : ∀ x y, ¬first.Reads x y) (blind' : ∀ x y, ¬second.Reads x y) :
    first.Apart second :=
  fun x y => ⟨fun one => ⟨fun two => writes x y ⟨one, two⟩, blind' x y⟩, fun _ => blind x y⟩

section Jobs

variable {args : BorderArgs} (fits : args.Fits)
include fits

theorem fillTasks_independent : Independent args.fillTasks := by
  have parts : args.fillTasks.Sublist
      ([args.topRect, args.bottomRect, args.leftRect, args.rightRect].map fun rect =>
        .imfillTask rect args.value.toUInt32) :=
    (((wanted_sublist _ _).append (wanted_sublist _ _)).append (wanted_sublist _ _)).append
      (wanted_sublist _ _)
  refine Independent.sublist ⟨?_, ?_⟩ parts
  · rw [List.pairwise_map]
    refine (List.Pairwise.of_cons fits.partition.disjoint).imp ?_
    intro first second disjoint
    exact apart_of_writes disjoint (fun _ _ => id) (fun _ _ => id)
  · simp [BorderTask.Unscaled]

theorem rowTasks_independent {source : BorderArgs.SourceRects}
    (taken : args.sourceRects = some source) : Independent (args.rowTasks source) := by
  have parts : (args.rowTasks source).Sublist
      [.improcessTask false source.top args.topRect (BorderArgs.flipV source),
        .improcessTask false source.bottom args.bottomRect (BorderArgs.flipV source)] :=
    (wanted_sublist _ _).append (wanted_sublist _ _)
  refine Independent.sublist ⟨?_, ?_⟩ parts
  · have disjoint := (List.pairwise_cons.mp (List.Pairwise.of_cons fits.partition.disjoint)).1
    refine List.pairwise_pair.mpr (apart_of_writes (disjoint args.bottomRect (by simp)) ?_ ?_) <;>
      simp [BorderTask.Reads]
  · unfold BorderArgs.sourceRects at taken
    split_ifs at taken <;> cases taken <;> simp [BorderTask.Unscaled, BorderArgs.topRect,
      BorderArgs.bottomRect]

theorem rightRect_sub {size : Int32} (low : 0 ≤ size.toInt)
    (small : size.toInt ≤ args.srcWidth.toInt + args.left.toInt) :
    (args.rightRect.x - size).toInt = args.srcWidth.toInt + args.left.toInt - size.toInt := by
  have start := rightRect_x fits
  rw [toInt_sub_nonneg (by omega) low, start]

/-- Where the columns of a border begin that are taken from the right edge of `src`. -/
theorem column_starts (covered : args.Covered) :
    (args.rightRect.x - args.right).toInt =
        args.srcWidth.toInt + args.left.toInt - args.right.toInt ∧
      (args.rightRect.x - args.left).toInt =
        args.srcWidth.toInt + args.left.toInt - args.left.toInt := by
  have left := fits.left
  have leftCovered := covered.left
  have rightCovered := covered.right
  exact ⟨rightRect_sub fits fits.right (by omega), rightRect_sub fits left (by omega)⟩

theorem columnTasks_independent (covered : args.Covered) {source : BorderArgs.SourceRects}
    (taken : args.sourceRects = some source) : Independent (args.columnTasks source) := by
  have width := fits.width
  have low := fits.srcWidth
  have left := fits.left
  have right := fits.right
  have leftCovered := covered.left
  have rightCovered := covered.right
  obtain ⟨near, far⟩ := column_starts fits covered
  unfold BorderArgs.columnTasks
  split_ifs
  · constructor
    · refine List.pairwise_pair.mpr fun x y => ?_
      unfold BorderArgs.sourceRects at taken
      split_ifs at taken <;> cases taken <;>
        simp only [BorderTask.Writes, BorderTask.Reads, BorderTask.target, leftRect_holds fits,
          rightRect_holds fits, true_and] <;>
        simp only [ImRect.Holds, near, far] <;> omega
    · unfold BorderArgs.sourceRects at taken
      split_ifs at taken <;> cases taken <;>
        simp [BorderTask.Unscaled, BorderArgs.leftRect, BorderArgs.rightRect]
  · exact independent_nil

theorem jobs_independent (covered : args.borderType ≠ imBorderConstant → args.Covered) :
    ∀ tasks ∈ args.jobs, Independent tasks := by
  unfold BorderArgs.jobs
  by_cases constant : args.borderType = imBorderConstant
  · rw [if_pos constant]
    simpa using fillTasks_independent fits
  · rw [if_neg constant]
    split
    · simp
    · rename_i source taken
      have columns := columnTasks_independent fits (covered constant) taken
      split_ifs
      · simpa using ⟨rowTasks_independent fits taken, columns⟩
      · simpa using columns

end Jobs

/-! The pixels -/

section Pixels

variable {P : Type} {colour : UInt32 → P} {args : BorderArgs} {src dst : Picture P} {x y : Int}

theorem paint_idle {task : BorderTask} (idle : ∀ x y, ¬task.target.Holds x y) :
    task.paint colour src dst = dst := by
  funext x y
  cases task with
  | imfillTask rect color => exact if_neg (idle x y)
  | improcessTask fromDst srect drect usage => exact if_neg (idle x y)

theorem paintJob_wanted (size : Int32) (task : BorderTask)
    (idle : size = 0 → ∀ x y, ¬task.target.Holds x y) (dst : Picture P) :
    paintJob colour src dst (BorderArgs.wanted size task) = task.paint colour src dst := by
  unfold BorderArgs.wanted
  split_ifs with taken
  · rfl
  · exact (paint_idle (idle (not_not.mp taken))).symm

theorem paintJob_append (first second : List BorderTask) :
    paintJob colour src dst (first ++ second) =
      paintJob colour src (paintJob colour src dst first) second :=
  List.foldl_append

section Idle

variable (fits : args.Fits)
include fits

omit fits in
theorem topRect_idle (zero : args.top = 0) (x y : Int) : ¬args.topRect.Holds x y := by
  rw [topRect_holds, zero, Int32.toInt_zero]
  omega

theorem bottomRect_idle (zero : args.bottom = 0) (x y : Int) : ¬args.bottomRect.Holds x y := by
  have height := fits.height
  rw [zero, Int32.toInt_zero] at height
  rw [bottomRect_holds fits]
  omega

theorem leftRect_idle (zero : args.left = 0) (x y : Int) : ¬args.leftRect.Holds x y := by
  rw [leftRect_holds fits, zero, Int32.toInt_zero]
  omega

theorem rightRect_idle (zero : args.right = 0) (x y : Int) : ¬args.rightRect.Holds x y := by
  have width := fits.width
  rw [zero, Int32.toInt_zero] at width
  rw [rightRect_holds fits]
  omega

theorem paintJob_fillTasks : paintJob colour src dst args.fillTasks =
    (BorderTask.imfillTask args.rightRect args.value.toUInt32).paint colour src
      ((BorderTask.imfillTask args.leftRect args.value.toUInt32).paint colour src
        ((BorderTask.imfillTask args.bottomRect args.value.toUInt32).paint colour src
          ((BorderTask.imfillTask args.topRect args.value.toUInt32).paint colour src dst))) := by
  unfold BorderArgs.fillTasks
  rw [paintJob_append, paintJob_append, paintJob_append,
    paintJob_wanted args.top (.imfillTask args.topRect args.value.toUInt32) topRect_idle,
    paintJob_wanted args.bottom (.imfillTask args.bottomRect args.value.toUInt32)
      (bottomRect_idle fits),
    paintJob_wanted args.left (.imfillTask args.leftRect args.value.toUInt32) (leftRect_idle fits),
    paintJob_wanted args.right (.imfillTask args.rightRect args.value.toUInt32)
      (rightRect_idle fits)]

theorem paintJob_rowTasks (source : BorderArgs.SourceRects) :
    paintJob colour src dst (args.rowTasks source) =
      (BorderTask.improcessTask false source.bottom args.bottomRect
        (BorderArgs.flipV source)).paint colour src
        ((BorderTask.improcessTask false source.top args.topRect
          (BorderArgs.flipV source)).paint colour src dst) := by
  unfold BorderArgs.rowTasks
  rw [paintJob_append,
    paintJob_wanted args.top (.improcessTask false source.top args.topRect _) topRect_idle,
    paintJob_wanted args.bottom (.improcessTask false source.bottom args.bottomRect _)
      (bottomRect_idle fits)]

theorem paintJob_columnTasks (source : BorderArgs.SourceRects) :
    paintJob colour src dst (args.columnTasks source) =
      (BorderTask.improcessTask true source.right args.rightRect
        (BorderArgs.flipH source)).paint colour src
        ((BorderTask.improcessTask true source.left args.leftRect
          (BorderArgs.flipH source)).paint colour src dst) := by
  unfold BorderArgs.columnTasks
  split_ifs with wanted
  · rfl
  · obtain ⟨left, right⟩ := not_or.mp wanted
    have still (task : BorderTask) (same : task.target = args.leftRect) :
        task.paint colour src dst = dst := by
      refine paint_idle ?_
      rw [same]
      exact leftRect_idle fits (not_not.mp left)
    have still' (task : BorderTask) (same : task.target = args.rightRect) :
        task.paint colour src dst = dst := by
      refine paint_idle ?_
      rw [same]
      exact rightRect_idle fits (not_not.mp right)
    rw [still _ rfl, still' _ rfl]
    rfl

end Idle

theorem copied (inside : args.copyRect.Holds x y) :
    args.copyTask.paint colour src dst x y = src (x - args.left.toInt) (y - args.top.toInt) := by
  have plain : mirrored (has 0 imHalTransformFlipH) = mirrored false := rfl
  have plain' : mirrored (has 0 imHalTransformFlipV) = mirrored false := rfl
  unfold BorderArgs.copyTask BorderTask.paint
  dsimp only
  rw [if_pos inside, plain, plain']
  simp [mirrored, BorderArgs.copyRect]

theorem paint_outside {fromDst : Bool} {srect drect : ImRect} {usage : Int32}
    (outside : ¬drect.Holds x y) :
    (BorderTask.improcessTask fromDst srect drect usage).paint colour src dst x y = dst x y :=
  if_neg outside

theorem paint_inside {fromDst : Bool} {srect drect : ImRect} {usage : Int32}
    (inside : drect.Holds x y) :
    (BorderTask.improcessTask fromDst srect drect usage).paint colour src dst x y =
      (if fromDst then dst else src)
        (mirrored (has usage imHalTransformFlipH) srect.x.toInt srect.width.toInt
          (x - drect.x.toInt))
        (mirrored (has usage imHalTransformFlipV) srect.y.toInt srect.height.toInt
          (y - drect.y.toInt)) :=
  if_pos inside

theorem constant_pixel (fits : args.Fits) (constant : args.borderType = imBorderConstant)
    (inside : args.dstRect.Holds x y) :
    paintJob colour src (args.copyTask.paint colour src dst) args.fillTasks x y =
      args.bordered colour src x y := by
  have apart := fits.partition.disjoint
  have covered := (fits.partition.cover x y).mp inside
  simp only [List.pairwise_cons, List.mem_cons, List.not_mem_nil, or_false, forall_eq_or_imp,
    forall_eq] at apart
  simp only [List.mem_cons, List.not_mem_nil, or_false, exists_eq_or_imp, exists_eq_left]
    at covered
  rw [paintJob_fillTasks fits, BorderArgs.bordered, if_pos constant]
  simp only [BorderTask.paint]
  by_cases copy : args.copyRect.Holds x y
  · obtain ⟨⟨top, bottom, left, right⟩, _⟩ := apart
    have free (rect : ImRect) (disjoint : ∀ x y, ¬(args.copyRect.Holds x y ∧ rect.Holds x y)) :
        ¬rect.Holds x y := fun holds => disjoint x y ⟨copy, holds⟩
    rw [if_neg (free _ right), if_neg (free _ left), if_neg (free _ bottom), if_neg (free _ top),
      if_pos copy]
    exact @copied P colour args src dst x y copy
  · rw [if_neg copy]
    split_ifs with right left bottom top
    · rfl
    · rfl
    · rfl
    · rfl
    · rcases covered with holds | holds | holds | holds | holds <;> contradiction

theorem wrapIndex_eq {size index value : Int} (low : 0 ≤ value) (high : value < size)
    (shift : index = value - size ∨ index = value ∨ index = value + size) :
    wrapIndex size index = value := by
  unfold wrapIndex
  rcases shift with rfl | rfl | rfl
  · rw [Int.sub_emod_right, Int.emod_eq_of_lt low high]
  · exact Int.emod_eq_of_lt low high
  · rw [Int.add_emod_right, Int.emod_eq_of_lt low high]

/-- `borderType` tells the two apart. -/
def BorderArgs.index (args : BorderArgs) : Int → Int → Int :=
  if args.borderType = imBorderReflect then reflectIndex else wrapIndex

theorem index_border (size near far offset : Int) (low : 0 ≤ offset) :
    (offset < near → near ≤ size →
      reflectIndex size (offset - near) = mirrored true 0 near offset ∧
      wrapIndex size (offset - near) = mirrored false (size - near) near offset) ∧
    (offset < far → far ≤ size →
      reflectIndex size (size + offset) = mirrored true (size - far) far offset ∧
      wrapIndex size (size + offset) = mirrored false 0 far offset) := by
  refine ⟨fun before covered => ⟨?_, ?_⟩, fun behind covered => ⟨?_, ?_⟩⟩
  · simp only [reflectIndex, mirrored, if_true]
    split_ifs <;> omega
  · simp only [mirrored, Bool.false_eq_true, if_false]
    exact wrapIndex_eq (by omega) (by omega) (.inl (by omega))
  · simp only [reflectIndex, mirrored, if_true]
    split_ifs <;> omega
  · simp only [mirrored, Bool.false_eq_true, if_false]
    exact wrapIndex_eq (by omega) (by omega) (.inr (.inr (by omega)))

theorem index_inside {size index : Int} (low : 0 ≤ index) (high : index < size) :
    args.index size index = index := by
  unfold BorderArgs.index
  split_ifs
  · unfold reflectIndex
    split_ifs <;> omega
  · exact wrapIndex_eq low high (.inr (.inl rfl))

theorem mirrored_plain (length offset : Int) : mirrored false 0 length offset = offset :=
  Int.zero_add offset

theorem flips (source : BorderArgs.SourceRects) :
    has (BorderArgs.flipV source) imHalTransformFlipH = false ∧
      has (BorderArgs.flipV source) imHalTransformFlipV = source.reflect ∧
      has (BorderArgs.flipH source) imHalTransformFlipH = source.reflect ∧
      has (BorderArgs.flipH source) imHalTransformFlipV = false := by
  unfold BorderArgs.flipV BorderArgs.flipH
  cases source.reflect <;> decide

theorem source_rows (covered : args.Covered) (fits : args.Fits)
    {source : BorderArgs.SourceRects} (taken : args.sourceRects = some source) (offset : Int)
    (low : 0 ≤ offset) :
    (offset < args.top.toInt → mirrored source.reflect source.top.y.toInt
        source.top.height.toInt offset =
      args.index args.srcHeight.toInt (offset - args.top.toInt)) ∧
    (offset < args.bottom.toInt → mirrored source.reflect source.bottom.y.toInt
        source.bottom.height.toInt offset =
      args.index args.srcHeight.toInt (args.srcHeight.toInt + offset)) := by
  obtain ⟨near, far⟩ :=
    index_border args.srcHeight.toInt args.top.toInt args.bottom.toInt offset low
  unfold BorderArgs.sourceRects at taken
  unfold BorderArgs.index
  split_ifs at taken with reflect wrap <;> cases taken
  · rw [if_pos reflect]
    refine ⟨fun before => (near before covered.top).1.symm, fun behind => ?_⟩
    dsimp only
    rw [toInt_sub_nonneg (Int.le_trans fits.bottom covered.bottom) fits.bottom]
    exact (far behind covered.bottom).1.symm
  · rw [if_neg reflect]
    refine ⟨fun before => ?_, fun behind => (far behind covered.bottom).2.symm⟩
    dsimp only
    rw [toInt_sub_nonneg (Int.le_trans fits.top covered.top) fits.top]
    exact (near before covered.top).2.symm

theorem source_row_columns {source : BorderArgs.SourceRects}
    (taken : args.sourceRects = some source) :
    source.top.x = 0 ∧ source.bottom.x = 0 := by
  unfold BorderArgs.sourceRects at taken
  split_ifs at taken <;> cases taken <;> exact ⟨rfl, rfl⟩

theorem row_pixel (fits : args.Fits) (covered : args.Covered) {source : BorderArgs.SourceRects}
    (taken : args.sourceRects = some source) (first : args.left.toInt ≤ x)
    (last : x < args.left.toInt + args.srcWidth.toInt) (above : 0 ≤ y)
    (below : y < args.dstHeight.toInt) :
    paintJob colour src (args.copyTask.paint colour src dst) (args.rowTasks source) x y =
      src (x - args.left.toInt) (args.index args.srcHeight.toInt (y - args.top.toInt)) := by
  have height := fits.height
  obtain ⟨plain, flipped, _⟩ := flips source
  obtain ⟨topColumn, bottomColumn⟩ := source_row_columns taken
  rw [paintJob_rowTasks fits]
  by_cases bottom : args.bottomRect.Holds x y
  · rw [paint_inside bottom, bottomRect_y fits, plain, flipped, bottomColumn, Int32.toInt_zero,
      mirrored_plain]
    rw [bottomRect_holds fits] at bottom
    have rows := (source_rows covered fits taken (y - (args.srcHeight.toInt + args.top.toInt))
      (by omega)).2 (by omega)
    rw [rows]
    have shifted : args.srcHeight.toInt + (y - (args.srcHeight.toInt + args.top.toInt)) =
        y - args.top.toInt := by omega
    rw [shifted]
    rfl
  rw [paint_outside bottom]
  by_cases top : args.topRect.Holds x y
  · rw [paint_inside top, plain, flipped, topColumn, Int32.toInt_zero, mirrored_plain]
    rw [topRect_holds] at top
    have start : args.topRect.y.toInt = 0 := Int32.toInt_zero
    rw [start, Int.sub_zero, (source_rows covered fits taken y above).1 top.2.2.2]
    rfl
  rw [paint_outside top]
  have copy : args.copyRect.Holds x y := by
    rw [bottomRect_holds fits] at bottom
    rw [topRect_holds] at top
    rw [copyRect_holds]
    omega
  rw [copied copy, index_inside]
  · rw [copyRect_holds] at copy
    omega
  · rw [copyRect_holds] at copy
    omega

theorem source_columns (covered : args.Covered) (fits : args.Fits)
    {source : BorderArgs.SourceRects} (taken : args.sourceRects = some source) (offset : Int)
    (low : 0 ≤ offset) :
    (offset < args.left.toInt → mirrored source.reflect source.left.x.toInt
        source.left.width.toInt offset - args.left.toInt =
      args.index args.srcWidth.toInt (offset - args.left.toInt)) ∧
    (offset < args.right.toInt → mirrored source.reflect source.right.x.toInt
        source.right.width.toInt offset - args.left.toInt =
      args.index args.srcWidth.toInt (args.srcWidth.toInt + offset)) := by
  have left := fits.left
  have right := fits.right
  have leftCovered := covered.left
  have rightCovered := covered.right
  obtain ⟨near, far⟩ := column_starts fits covered
  obtain ⟨before, behind⟩ :=
    index_border args.srcWidth.toInt args.left.toInt args.right.toInt offset low
  unfold BorderArgs.sourceRects at taken
  unfold BorderArgs.index
  split_ifs at taken with reflect wrap <;> cases taken
  · rw [if_pos reflect]
    refine ⟨fun inside => ?_, fun inside => ?_⟩
    · rw [(before inside leftCovered).1]
      simp only [mirrored, if_true]
      omega
    · rw [(behind inside rightCovered).1]
      simp only [mirrored, if_true, near]
      omega
  · rw [if_neg reflect]
    refine ⟨fun inside => ?_, fun inside => ?_⟩
    · rw [(before inside leftCovered).2]
      simp only [mirrored, Bool.false_eq_true, if_false, far]
      omega
    · rw [(behind inside rightCovered).2]
      simp only [mirrored, Bool.false_eq_true, if_false]
      omega

theorem source_column_rows {source : BorderArgs.SourceRects}
    (taken : args.sourceRects = some source) :
    source.left.y = 0 ∧ source.right.y = 0 := by
  unfold BorderArgs.sourceRects at taken
  split_ifs at taken <;> cases taken <;> exact ⟨rfl, rfl⟩

theorem source_between (covered : args.Covered) (fits : args.Fits)
    {source : BorderArgs.SourceRects} (taken : args.sourceRects = some source) (offset : Int)
    (low : 0 ≤ offset) :
    (offset < args.left.toInt →
      let column := mirrored source.reflect source.left.x.toInt source.left.width.toInt offset
      args.left.toInt ≤ column ∧ column < args.left.toInt + args.srcWidth.toInt) ∧
    (offset < args.right.toInt →
      let column := mirrored source.reflect source.right.x.toInt source.right.width.toInt offset
      args.left.toInt ≤ column ∧ column < args.left.toInt + args.srcWidth.toInt) := by
  have left := fits.left
  have right := fits.right
  have leftCovered := covered.left
  have rightCovered := covered.right
  obtain ⟨near, far⟩ := column_starts fits covered
  unfold BorderArgs.sourceRects at taken
  split_ifs at taken <;> cases taken <;>
    simp only [mirrored, Bool.false_eq_true, if_true, if_false, near, far] <;> omega

theorem column_pixel (fits : args.Fits) (covered : args.Covered) {source : BorderArgs.SourceRects}
    (taken : args.sourceRects = some source) (inside : args.dstRect.Holds x y) :
    paintJob colour src (paintJob colour src (args.copyTask.paint colour src dst)
        (args.rowTasks source)) (args.columnTasks source) x y =
      src (args.index args.srcWidth.toInt (x - args.left.toInt))
        (args.index args.srcHeight.toInt (y - args.top.toInt)) := by
  have width := fits.width
  obtain ⟨_, _, flipped, plain⟩ := flips source
  obtain ⟨leftRow, rightRow⟩ := source_column_rows taken
  rw [dstRect_holds] at inside
  obtain ⟨low, high, above, below⟩ := inside
  rw [paintJob_columnTasks fits]
  by_cases right : args.rightRect.Holds x y
  · have start : args.rightRect.y.toInt = 0 := Int32.toInt_zero
    rw [paint_inside right, flipped, plain, rightRow, start, Int32.toInt_zero, Int.sub_zero,
      mirrored_plain, rightRect_x fits]
    rw [rightRect_holds fits] at right
    have offset : 0 ≤ x - (args.srcWidth.toInt + args.left.toInt) := by omega
    obtain ⟨first, last⟩ := (source_between covered fits taken _ offset).2 (by omega)
    have column := (source_columns covered fits taken _ offset).2 (by omega)
    have shifted : args.srcWidth.toInt + (x - (args.srcWidth.toInt + args.left.toInt)) =
        x - args.left.toInt := by omega
    rw [shifted] at column
    -- the left border, drawn before, is not among the columns read
    have beside : ¬args.leftRect.Holds
        (mirrored source.reflect source.right.x.toInt source.right.width.toInt
          (x - (args.srcWidth.toInt + args.left.toInt))) y := by
      rw [leftRect_holds fits]
      omega
    simp only [if_true]
    rw [paint_outside beside, row_pixel fits covered taken first last above below, column]
  rw [paint_outside right]
  by_cases left : args.leftRect.Holds x y
  · have startX : args.leftRect.x.toInt = 0 := Int32.toInt_zero
    have startY : args.leftRect.y.toInt = 0 := Int32.toInt_zero
    rw [paint_inside left, flipped, plain, leftRow, startX, startY, Int32.toInt_zero, Int.sub_zero,
      Int.sub_zero, mirrored_plain]
    rw [leftRect_holds fits] at left
    obtain ⟨first, last⟩ := (source_between covered fits taken x low).1 left.2.1
    have column := (source_columns covered fits taken x low).1 left.2.1
    simp only [if_true]
    rw [row_pixel fits covered taken first last above below, column]
  rw [paint_outside left]
  rw [rightRect_holds fits] at right
  rw [leftRect_holds fits] at left
  rw [row_pixel fits covered taken (by omega) (by omega) above below, @index_inside args
    args.srcWidth.toInt (x - args.left.toInt) (by omega) (by omega)]

/-- The jobs come down to the same tasks whether a job that would be empty is left out or not. -/
theorem jobs_pixel (fits : args.Fits)
    (covered : args.borderType ≠ imBorderConstant → args.Covered)
    (known : args.borderType = imBorderConstant ∨ args.sourceRects.isSome)
    (inside : args.dstRect.Holds x y) :
    args.jobs.foldl (paintJob colour src) (args.copyTask.paint colour src dst) x y =
      args.bordered colour src x y := by
  unfold BorderArgs.jobs
  by_cases constant : args.borderType = imBorderConstant
  · rw [if_pos constant]
    exact constant_pixel fits constant inside
  · rw [if_neg constant]
    obtain ⟨source, taken⟩ := Option.isSome_iff_exists.mp (known.resolve_left constant)
    have pixel :=
      @column_pixel P colour args src dst x y fits (covered constant) source taken inside
    have meaning : args.bordered colour src x y =
        src (args.index args.srcWidth.toInt (x - args.left.toInt))
          (args.index args.srcHeight.toInt (y - args.top.toInt)) := by
      unfold BorderArgs.bordered BorderArgs.index
      rw [if_neg constant]
      split_ifs <;> rfl
    rw [taken, meaning, ← pixel]
    by_cases rows : args.top ≠ 0 ∨ args.bottom ≠ 0
    · dsimp only
      rw [if_pos rows]
      rfl
    · obtain ⟨top, bottom⟩ := not_or.mp rows
      have none : args.rowTasks source = [] := by
        simp [BorderArgs.rowTasks, BorderArgs.wanted, not_not.mp top, not_not.mp bottom]
      dsimp only
      rw [if_neg rows, none]
      rfl

end Pixels

/-! The whole function -/

theorem borderless_jobs {P : Type} {colour : UInt32 → P} {args : BorderArgs} {src dst : Picture P}
    (empty : args.borderless = true) : args.jobs.foldl (paintJob colour src) dst = dst := by
  obtain ⟨top, bottom, _, _⟩ := borderless_zero empty
  unfold BorderArgs.jobs
  split
  · rw [fillTasks_borderless empty]
    rfl
  · split
    · rfl
    · rw [columnTasks_borderless empty, if_neg (not_or.mpr ⟨not_not.mpr top, not_not.mpr bottom⟩)]
      rfl

def reflectArgs : BorderArgs :=
  { srcWidth := 8, srcHeight := 8, dstWidth := 21, dstHeight := 21
    top := 6, bottom := 7, left := 6, right := 7, borderType := imBorderReflect }

/-- Every call succeeds, with fence 5 and handle 1. -/
def goodReplies : ∀ call : BorderCall, call.Reply
  | .improcess _ _ | .imendJob _ _ _ _ => ({ status := .success, fence := 5 } : FenceReply)
  | .imbeginJob => (1 : UInt32)
  | .task _ _ | .imcancelJob _ | .imsync _ => ImStatus.success

theorem goodReplies_through (call : BorderCall) : GoesThrough ⟨call, goodReplies call⟩ := by
  have positive : (0 : Int32) < 5 := by decide
  cases call with
  | improcess drect fence => exact ⟨rfl, positive⟩
  | imendJob handle syncMode fence release => exact ⟨rfl, fun _ => positive⟩
  | imbeginJob => exact (by decide : (1 : UInt32) ≠ 0)
  | task handle task => rfl
  | imcancelJob handle => rfl
  | imsync fence => rfl

end LibRga
