import LibRga.Modes
import LibRga.Library.Interaction

/-!
`immakeBorder`, over any outcomes of the calls it makes.

The picture is copied first. The borders go into one job when they are constant,
and into two when they are taken from the picture: top and bottom from `src`,
then left and right from `dst` with the finished rows.
-/

namespace LibRga

open Interaction

/-! `IM_BORDER_TYPE` -/

def imBorderConstant : Int32 := 0
def imBorderReflect : Int32 := 2
def imBorderWrap : Int32 := 3

/-- Of the two buffers only the sizes matter. `releaseFence` says whether there is a place for the
release fence. -/
structure BorderArgs where
  srcWidth : Int32
  srcHeight : Int32
  dstWidth : Int32
  dstHeight : Int32
  top : Int32
  bottom : Int32
  left : Int32
  right : Int32
  borderType : Int32
  value : Int32 := 0
  sync : Int32 := 1
  acquireFenceFd : Int32 := -1
  releaseFence : Bool := false
deriving DecidableEq, Repr, Inhabited

inductive BorderTask where
  | imfillTask (rect : ImRect) (color : UInt32)
  /-- `dst` is written; it is also read when `fromDst`. -/
  | improcessTask (fromDst : Bool) (srect drect : ImRect) (usage : Int32)
deriving DecidableEq, Repr

/-- Where a submission puts its release fence: `NULL`, `tmp_fence_fd`, or the caller's place. -/
inductive ReleaseSlot where
  | null
  | tmp
  | caller
deriving DecidableEq, Repr

inductive BorderCall where
  /-- The copy, asynchronous. -/
  | improcess (drect : ImRect) (acquireFenceFd : Int32)
  | imbeginJob
  | task (handle : UInt32) (task : BorderTask)
  | imendJob (handle : UInt32) (syncMode acquireFenceFd : Int32) (release : ReleaseSlot)
  | imcancelJob (handle : UInt32)
  | imsync (fenceFd : Int32)
deriving DecidableEq, Repr

/-- The fence of a submission is written only on success. -/
structure FenceReply where
  status : ImStatus
  fence : Int32 := -1
deriving DecidableEq, Repr, Inhabited

@[reducible]
def BorderCall.Reply : BorderCall → Type
  | improcess _ _ | imendJob _ _ _ _ => FenceReply
  | imbeginJob => UInt32
  | task _ _ | imcancelJob _ | imsync _ => ImStatus

structure BorderResult where
  status : ImStatus
  /-- What was stored for the caller. -/
  releaseFence : Option Int32 := none
deriving DecidableEq, Repr, Inhabited

abbrev BorderProg := Prog BorderCall BorderCall.Reply BorderResult

namespace BorderArgs

variable (args : BorderArgs)

def copyRect : ImRect :=
  ⟨args.left, args.top, args.srcWidth, args.srcHeight⟩

/-! `border_rect` -/

def topRect : ImRect :=
  ⟨args.left, 0, args.srcWidth, args.top⟩

def bottomRect : ImRect :=
  ⟨args.left, args.srcHeight + args.top, args.topRect.width, args.bottom⟩

def leftRect : ImRect :=
  ⟨0, 0, args.left, args.srcHeight + args.top + args.bottom⟩

def rightRect : ImRect :=
  ⟨args.srcWidth + args.left, 0, args.right, args.leftRect.height⟩

/-- `border_src_rect`, in the order top, bottom, left, right. -/
structure SourceRects where
  top : ImRect
  bottom : ImRect
  left : ImRect
  right : ImRect
  reflect : Bool

def sourceRects : Option SourceRects :=
  if args.borderType = imBorderReflect then
    some {
      top := ⟨0, 0, args.srcWidth, args.top⟩
      bottom := ⟨0, args.srcHeight - args.bottom, args.srcWidth, args.bottom⟩
      left := ⟨args.left, 0, args.left, args.leftRect.height⟩
      right := ⟨args.rightRect.x - args.right, 0, args.right, args.rightRect.height⟩
      reflect := true
    }
  else if args.borderType = imBorderWrap then
    some {
      top := ⟨0, args.srcHeight - args.top, args.srcWidth, args.top⟩
      bottom := ⟨0, 0, args.srcWidth, args.bottom⟩
      left := ⟨args.rightRect.x - args.left, 0, args.left, args.rightRect.height⟩
      right := ⟨args.left, 0, args.right, args.leftRect.height⟩
      reflect := false
    }
  else none

def flipV (source : SourceRects) : Int32 :=
  if source.reflect then imHalTransformFlipV else 0

def flipH (source : SourceRects) : Int32 :=
  if source.reflect then imHalTransformFlipH else 0

/-- `cancel_job_handle` -/
def cancel (handle : UInt32) (ret : ImStatus) : BorderProg :=
  .call (.imcancelJob handle) fun _ => .done { status := ret }

/-- One task of a job after the other, up to the first that fails. -/
def addTasks (handle : UInt32) (next : BorderProg) : List BorderTask → BorderProg
  | [] => next
  | task :: rest =>
      .call (.task handle task) fun (ret : ImStatus) =>
        if ret ≠ .success then cancel handle ret else addTasks handle next rest

def wanted (size : Int32) (task : BorderTask) : List BorderTask :=
  if size ≠ 0 then [task] else []

def fillTasks : List BorderTask :=
  wanted args.top (.imfillTask args.topRect args.value.toUInt32) ++
  wanted args.bottom (.imfillTask args.bottomRect args.value.toUInt32) ++
  wanted args.left (.imfillTask args.leftRect args.value.toUInt32) ++
  wanted args.right (.imfillTask args.rightRect args.value.toUInt32)

def rowTasks (source : SourceRects) : List BorderTask :=
  wanted args.top (.improcessTask false source.top args.topRect (flipV source)) ++
  wanted args.bottom (.improcessTask false source.bottom args.bottomRect (flipV source))

/-- Both, as soon as one of them is wanted. -/
def columnTasks (source : SourceRects) : List BorderTask :=
  if args.left ≠ 0 ∨ args.right ≠ 0 then
    [.improcessTask true source.left args.leftRect (flipH source),
      .improcessTask true source.right args.rightRect (flipH source)]
  else []

def finish (handle : UInt32) (fence : Int32) : BorderProg :=
  if args.sync = 1 then
    .call (.imsync fence) fun (ret : ImStatus) =>
      if ret ≠ .success then cancel handle ret
      else .call (.imendJob handle imSync 0 .null) fun (reply : FenceReply) =>
        .done { status := reply.status }
  else
    .call (.imendJob handle imAsync fence .caller) fun (reply : FenceReply) =>
      .done {
        status := reply.status
        releaseFence := if reply.status = .success then some reply.fence else none
      }

def columnJob (source : SourceRects) (handle : UInt32) (fence : Int32) : BorderProg :=
  addTasks handle (args.finish handle fence) (args.columnTasks source)

def rowJob (source : SourceRects) (handle : UInt32) (fence : Int32) : BorderProg :=
  addTasks handle
    (.call (.imendJob handle imAsync fence .tmp) fun (reply : FenceReply) =>
      if reply.status ≠ .success ∨ reply.fence ≤ 0 then cancel handle reply.status
      else .call .imbeginJob fun (next : UInt32) =>
        if next = 0 then .done { status := .failed }
        else args.columnJob source next reply.fence)
    (args.rowTasks source)

def borderJobs (fence : Int32) : BorderProg :=
  .call .imbeginJob fun (handle : UInt32) =>
    if handle = 0 then .done { status := .failed }
    else if args.borderType = imBorderConstant then
      addTasks handle (args.finish handle fence) args.fillTasks
    else
      match args.sourceRects with
      | none => .call (.imcancelJob handle) fun (ret : ImStatus) => .done { status := ret }
      | some source =>
          if args.top ≠ 0 ∨ args.bottom ≠ 0 then args.rowJob source handle fence
          else args.columnJob source handle fence

def borderless : Bool :=
  args.top = 0 ∧ args.bottom = 0 ∧ args.left = 0 ∧ args.right = 0

def Known : Prop :=
  args.borderType ∈ [imBorderConstant, imBorderReflect, imBorderWrap]

instance : Decidable args.Known :=
  inferInstanceAs (Decidable (_ ∈ _))

end BorderArgs

def immakeBorder (args : BorderArgs) : BorderProg :=
  if args.sync ≠ 1 ∧ args.releaseFence = false then .done { status := .invalidParam }
  else if args.srcWidth + args.left + args.right ≠ args.dstWidth ∨
      args.srcHeight + args.top + args.bottom ≠ args.dstHeight then
    .done { status := .illegalParam }
  else
    .call (.improcess args.copyRect args.acquireFenceFd) fun (copy : FenceReply) =>
      if copy.status ≠ .success ∨ copy.fence ≤ 0 then .done { status := copy.status }
      else if args.borderless then
        if args.sync = 1 then
          .call (.imsync copy.fence) fun (ret : ImStatus) =>
            -- a wait that succeeds goes on to the empty job
            if ret ≠ .success then .done { status := ret } else args.borderJobs copy.fence
        else .done { status := .success, releaseFence := some copy.fence }
      else args.borderJobs copy.fence

section Kinds

variable {args : BorderArgs}

theorem known_iff : args.Known ↔ args.borderType = imBorderConstant ∨ args.sourceRects.isSome := by
  unfold BorderArgs.Known BorderArgs.sourceRects
  simp only [List.mem_cons, List.not_mem_nil, or_false]
  by_cases reflect : args.borderType = imBorderReflect
  · simp [reflect]
  · by_cases wrap : args.borderType = imBorderWrap
    · have other : imBorderWrap ≠ imBorderReflect := by decide
      simp [wrap, other]
    · simp [reflect, wrap]

theorem borderless_zero (borderless : args.borderless = true) :
    args.top = 0 ∧ args.bottom = 0 ∧ args.left = 0 ∧ args.right = 0 :=
  of_decide_eq_true borderless

theorem fillTasks_borderless (borderless : args.borderless = true) : args.fillTasks = [] := by
  obtain ⟨top, bottom, left, right⟩ := borderless_zero borderless
  simp [BorderArgs.fillTasks, BorderArgs.wanted, top, bottom, left, right]

theorem columnTasks_borderless {source : BorderArgs.SourceRects}
    (borderless : args.borderless = true) : args.columnTasks source = [] := by
  obtain ⟨_, _, left, right⟩ := borderless_zero borderless
  simp [BorderArgs.columnTasks, left, right]

end Kinds

end LibRga
