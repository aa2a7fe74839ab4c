import LibRga.ArrayAtomicity
import LibRga.BorderPixels
import LibRga.ColourSpace
import LibRga.HardwareMerge
import LibRga.Library.Box
import LibRga.SessionAccounting

/-!
The pixels that `imrectangle` paints.

Its four sides are filled one after the other. Each is checked against the buffer and none against
the rectangle they are made of; and an empty one stands for the whole buffer.
-/

namespace LibRga

open Pixels

/-! What is asked for, and what is painted -/

def ImRect.box (rect : ImRect) : Box :=
  ⟨rect.x.toInt, rect.y.toInt, rect.width.toInt, rect.height.toInt⟩

/-- The pixels of a channel, as emitted. -/
def RgaImgInfo.box (img : RgaImgInfo) : Box :=
  ⟨img.xOffset.toNat, img.yOffset.toNat, img.actW.toNat, img.actH.toNat⟩

/-- The pixel is covered by a fill that went to the driver or into the job. -/
def Painted (result : SubmitResult) (px py : Int) : Prop :=
  ∃ req ∈ handedOver result, req.renderMode = colorFillMode ∧ req.dst.box.Holds px py

instance (result : SubmitResult) (px py : Int) : Decidable (Painted result px py) :=
  inferInstanceAs (Decidable (∃ req ∈ _, _))

def DrawsOutline (result : SubmitResult) (rect : ImRect) (thickness : Int32) : Prop :=
  ∀ px py, Painted result px py ↔ rect.box.Outline thickness.toInt px py

/-- The rectangle is not empty, its columns are no wider than itself, and no side starts where its
offset takes more than 16 bits. -/
structure OutlineFits (rect : ImRect) (thickness : Int32) : Prop where
  filled : 0 < rect.width
  narrow : thickness ≤ rect.width
  right : rect.x.toInt + (rect.width.toInt - thickness.toInt) < 65536
  bottom : rect.y.toInt + (rect.height.toInt - thickness.toInt) < 65536

/-! The resolution of a session -/

def RgaInfoTableEntry.OutputsWithin (entry : RgaInfoTableEntry) : Prop :=
  entry.outputResolution.width.toInt ≤ 8192 ∧ entry.outputResolution.height.toInt ≤ 8192

instance (entry : RgaInfoTableEntry) : Decidable entry.OutputsWithin :=
  inferInstanceAs (Decidable (_ ∧ _))

theorem coreTable_within {version : RgaVersion} {entry : RgaInfoTableEntry}
    (row : rgaCoreTable.lookup version = some entry) : entry.OutputsWithin := by
  have rows : ∀ entry ∈ rgaCoreTable.map (·.2), entry.OutputsWithin := by decide
  apply rows
  obtain ⟨before, after, split, _⟩ := List.lookup_eq_some_iff.mp row
  simp [split]

theorem mergeTable_within {dst merge : RgaInfoTableEntry} (one : dst.OutputsWithin)
    (two : merge.OutputsWithin) : (rgaSupportInfoMergeTable dst merge).OutputsWithin := by
  unfold RgaInfoTableEntry.OutputsWithin rgaSupportInfoMergeTable rgaSupportInfoMergeResolution
  dsimp only
  split
  · exact two
  · exact one

theorem rgaMergeCores_within {table merged : RgaInfoTableEntry} {versions : List RgaVersion}
    (within : table.OutputsWithin) (merges : rgaMergeCores table versions = some merged) :
    merged.OutputsWithin := by
  induction versions generalizing table with
  | nil =>
      cases merges
      exact within
  | cons version rest ih =>
      simp only [rgaMergeCores] at merges
      split at merges
      · cases merges
      · rename_i entry row
        exact ih (mergeTable_within within (coreTable_within row)) merges

theorem rgaGetInfo_within {versions : RgaHwVersions} {table : RgaInfoTableEntry}
    (within : table.OutputsWithin) : (rgaGetInfo versions table).2.OutputsWithin := by
  unfold rgaGetInfo
  split
  · rename_i merged merges
    exact rgaMergeCores_within within merges
  · have rows : ∀ index, (hwInfoTable index).OutputsWithin := by
      intro index
      cases index <;> decide
    exact rows _

theorem rgaDeviceInit_hardwareInfo (session : SessionData) (reply : SessionReply) :
    (session.rgaDeviceInit reply).2.1.hardwareInfo = session.hardwareInfo := by
  have asked : (session.queryVersions reply).1.hardwareInfo = session.hardwareInfo := by
    unfold SessionData.queryVersions
    split
    · dsimp only
      split <;> rfl
    · dsimp only
      split <;> rfl
  unfold SessionData.rgaDeviceInit SessionData.setDriverFeature
  dsimp only
  split_ifs <;> first | rfl | exact asked

theorem rgaSessionInit_within {session : SessionData} (reply : SessionReply)
    (within : session.hardwareInfo.OutputsWithin) :
    (session.rgaSessionInit reply).2.1.hardwareInfo.OutputsWithin := by
  rw [← rgaDeviceInit_hardwareInfo session reply] at within
  unfold SessionData.rgaSessionInit
  generalize session.rgaDeviceInit reply = opened at within
  obtain ⟨status, opened, calls⟩ := opened
  dsimp only at within ⊢
  split
  · exact within
  split
  · unfold SessionData.rgaDeviceExit
    split
    · exact rgaGetInfo_within within
    · exact rgaGetInfo_within within
  · exact rgaGetInfo_within within

/-- No core writes more than 8192 pixels in a dimension, and so no session is ready to. -/
theorem run_within {trace : List SessionEvent} {state : SessionState}
    (run : Machine.Run SessionState.step {} trace state) :
    state.session.hardwareInfo.OutputsWithin := by
  refine run.invariant (P := fun _ state => state.session.hardwareInfo.OutputsWithin)
    (by decide) ?_
  intro past before op after event _ kept taken
  obtain ⟨_, _, session, _⟩ | ⟨_, reply, _, made, _, _, ran, session, _⟩ := sessionStep_cases taken
  · rw [session]
    exact kept
  · have within := rgaSessionInit_within reply kept
    rw [ran] at within
    rw [session]
    exact within

/-! One fill -/

/-- The box a fill emits for a rectangle, and for the whole buffer if it is empty. -/
def fillBox (dst : RgaBuffer) (rect : ImRect) : Box :=
  let image := rgaApplyRect dst rect
  ⟨(toU16 rect.x).toNat, (toU16 rect.y).toNat, (toU16 image.width).toNat,
    (toU16 image.height).toNat⟩

section Fill

variable {session : RgaSession} {env : TaskEnv} {manager : JobManager RgaReq} {args : TaskArgs}
  {buffers : TaskBuffers} {mode : Int32}

theorem fill_built (path : taskPath args = .fill) (accepted : Accepted session args buffers mode)
    {req : RgaReq} (builds : builtReq (taskBuilt session env args buffers mode).2 = some req) :
    req.renderMode = colorFillMode ∧ req.dst.box = fillBox args.dst args.drect := by
  simp only [taskBuilt, path, buildTask] at builds
  obtain built | ⟨exit, stops, stale, _⟩ := builtReq_eq_some builds
  · obtain ⟨addr, _, finished⟩ := fillReq_finished built
    refine ⟨finished.renderMode, ?_⟩
    obtain ⟨rdMode, image⟩ := finished.dst
    have settled := settleBuffers_dst accepted.settled
    rw [image]
    simp only [fillBox, RgaImgInfo.box, Channel.image, setActiveInfo, fillChannel]
    show Box.mk _ _ (toU16 buffers.dst.width).toNat (toU16 buffers.dst.height).toNat = _
    rw [settled]
    rfl
  · exact absurd (fill_exit_negative stops) stale

theorem fill_painted (path : taskPath args = .fill)
    (succeeds : (rgaTaskSubmit session env manager args).status = .success) (px py : Int) :
    Painted (rgaTaskSubmit session env manager args) px py ↔
      (fillBox args.dst args.drect).Holds px py := by
  obtain ⟨buffers, mode, req, accepted, fence, builds, delivers⟩ :=
    @delivered_of_ok session env manager args (by rw [succeeds]; rfl)
  obtain ⟨render, box⟩ := fill_built path accepted builds
  have handed := handedOver_accepted env manager accepted fence
  constructor
  · rintro ⟨emitted, member, _, holds⟩
    obtain update | ⟨other, _⟩ := (handed emitted).mp member
    · rw [(taskBuilt_update update).1] at path
      cases path
    · rw [builds] at other
      cases other
      rwa [← box]
  · intro holds
    exact ⟨req, (handed req).mpr (.inr ⟨builds, delivers⟩), render, by rwa [box]⟩

end Fill

/-! Several fills -/

theorem fills_painted {session : RgaSession} {calls : List TaskArgs}
    (fills : ∀ args ∈ calls, taskPath args = .fill) (env : Nat → TaskEnv)
    (manager : JobManager RgaReq)
    (succeeds : (submitAll session env manager calls).status = .success) (px py : Int) :
    Painted (submitAll session env manager calls) px py ↔
      ∃ args ∈ calls, (fillBox args.dst args.drect).Holds px py := by
  induction calls generalizing env manager with
  | nil => simp [Painted, submitAll, handedOver, blitRequests, queuedRequests]
  | cons first rest ih =>
      obtain ⟨path, others⟩ := List.forall_mem_cons.mp fills
      dsimp only [submitAll] at succeeds ⊢
      by_cases taken : (rgaTaskSubmit session (env 0) manager first).status = .success
      · rw [if_pos taken] at succeeds ⊢
        have one := fill_painted path taken px py
        have more := ih others (fun n => env (n + 1)) _ succeeds
        rw [List.exists_mem_cons_iff, ← one, ← more]
        simp only [Painted, handedOver, blitRequests_append, queuedRequests_append,
          List.mem_append]
        constructor
        · rintro ⟨req, (member | member) | (member | member), fill, holds⟩
          · exact .inl ⟨req, .inl member, fill, holds⟩
          · exact .inr ⟨req, .inl member, fill, holds⟩
          · exact .inl ⟨req, .inr member, fill, holds⟩
          · exact .inr ⟨req, .inr member, fill, holds⟩
        · rintro (⟨req, member | member, fill, holds⟩ | ⟨req, member | member, fill, holds⟩)
          · exact ⟨req, .inl (.inl member), fill, holds⟩
          · exact ⟨req, .inr (.inl member), fill, holds⟩
          · exact ⟨req, .inl (.inr member), fill, holds⟩
          · exact ⟨req, .inr (.inr member), fill, holds⟩
      · rw [if_neg taken] at succeeds
        exact absurd succeeds taken

/-! What the check of a side leaves -/

/-- A side with its length and height in the limits of a core, which has its own box. -/
structure WholeSide (dst : RgaBuffer) (side : ImRect) : Prop where
  wide : 2 ≤ side.width.toInt ∧ side.width.toInt ≤ 8192
  high : 2 ≤ side.height.toInt ∧ side.height.toInt ≤ 8192
  emitted : fillBox dst side =
    ⟨side.x.toInt % 65536, side.y.toInt % 65536, side.width.toInt, side.height.toInt⟩

structure EmptySide (dst : RgaBuffer) (side : ImRect) : Prop where
  width : side.width.toInt = 0
  height : side.height.toInt = 0
  emitted : 0 < (fillBox dst side).width ∧ 0 < (fillBox dst side).height

structure SideChecked (dst : RgaBuffer) (side : ImRect) : Prop where
  left : 0 ≤ side.x.toInt
  top : 0 ≤ side.y.toInt
  kind : WholeSide dst side ∨ EmptySide dst side

theorem rgaCheckInfo_within {info : RgaBuffer} {rect : ImRect} {resolution : RgaInfoResolution}
    (checked : rgaCheckInfo info rect resolution = .noError) :
    info.width.toInt ≤ resolution.width.toInt ∧ info.height.toInt ≤ resolution.height.toInt := by
  unfold rgaCheckInfo at checked
  split_ifs at checked with _ _ _ _ _ _ large
  simp only [not_or, Int32.not_lt, Int32.le_iff_toInt_le] at large
  exact large

theorem fill_sideChecked {session : RgaSession} {args : TaskArgs} {buffers : TaskBuffers}
    {mode : Int32} (within : session.hardwareInfo.OutputsWithin)
    (accepted : Accepted session args buffers mode) : SideChecked args.dst args.drect := by
  have checked := rgaCheck_dst accepted.checked
  obtain ⟨wide, high, _, _, left, top, _, _⟩ := rgaCheckInfo_noError checked
  obtain ⟨_, _, partly, negative, _⟩ := rgaCheckInfo_passed checked
  obtain ⟨narrow, low⟩ := rgaCheckInfo_within checked
  rw [settleBuffers_dst accepted.settled] at wide high narrow low
  dsimp only at wide high narrow low
  have narrow := Int.le_trans narrow within.1
  have low := Int.le_trans low within.2
  refine ⟨left, top, ?_⟩
  have width := toU16_toNat (rgaApplyRect args.dst args.drect).width (by omega) (by omega)
  have height := toU16_toNat (rgaApplyRect args.dst args.drect).height (by omega) (by omega)
  by_cases given : 0 < args.drect.width ∧ 0 < args.drect.height
  · have taken : rgaApplyRect args.dst args.drect =
        { args.dst with width := args.drect.width, height := args.drect.height } := if_pos given
    rw [taken] at wide high narrow low width height
    refine .inl ⟨⟨wide, narrow⟩, ⟨high, low⟩, ?_⟩
    rw [fillBox, taken]
    dsimp only
    rw [width, height, toU16_emod, toU16_emod]
  · simp only [not_or, not_and, Int32.not_lt] at negative partly given
    simp only [Int32.lt_iff_toInt_lt, Int32.le_iff_toInt_le, ← Int32.toInt_inj,
      Int32.toInt_zero] at negative partly given
    refine .inr ⟨by omega, by omega, ?_⟩
    dsimp only [fillBox]
    omega

/-! The four sides -/

/-- Offsets are sent with 16 bits. -/
def wrapped (box : Box) : Box :=
  { box with left := box.left % 65536, top := box.top % 65536 }

structure SideBounds (rect : ImRect) (thickness : Int32) : Prop where
  left : 0 ≤ rect.x.toInt
  top : 0 ≤ rect.y.toInt
  width : 2 ≤ rect.width.toInt ∧ rect.width.toInt ≤ 8192
  rows : 2 ≤ thickness.toInt ∧ thickness.toInt ≤ 8192
  columns : 2 ≤ rect.height.toInt - 2 * thickness.toInt ∧
    rect.height.toInt - 2 * thickness.toInt ≤ 8192

/-- A sum is that of the integers if it passes for one that is not negative. -/
theorem toInt_add_checked {left right : Int32} (low : 0 ≤ left.toInt)
    (sum : 0 ≤ (left + right).toInt) : (left + right).toInt = left.toInt + right.toInt := by
  have above := left.toInt_lt
  have bounds := right.le_toInt
  have limit := right.toInt_lt
  rw [Int32.toInt_add, Int.bmod_def] at sum ⊢
  split at sum
  · rename_i small
    rw [if_pos small]
    omega
  · rename_i large
    omega

theorem WholeSide.of_wide {dst : RgaBuffer} {side : ImRect} (checked : SideChecked dst side)
    (wide : side.width.toInt ≠ 0) : WholeSide dst side := by
  obtain whole | empty := checked.kind
  · exact whole
  · exact absurd empty.width wide

theorem height_of_columns {height thickness : Int32} (thin : 0 ≤ thickness.toInt)
    (thick : thickness.toInt ≤ 8192) (low : 0 ≤ (height - 2 * thickness).toInt)
    (high : (height - 2 * thickness).toInt ≤ 8192) :
    height.toInt = (height - 2 * thickness).toInt + 2 * thickness.toInt := by
  have two : (2 * thickness).toInt = 2 * thickness.toInt := by
    rw [Int32.toInt_mul, Int.bmod_eq_of_le]
    · rfl
    · show _ ≤ 2 * thickness.toInt
      omega
    · show 2 * thickness.toInt < _
      omega
  calc
    height.toInt = (height - 2 * thickness + 2 * thickness).toInt := by rw [Int32.sub_add_cancel]
    _ = (height - 2 * thickness).toInt + 2 * thickness.toInt := by
      rw [toInt_add_small low (by omega) (by omega), two]

theorem rectangleSides_wrapped {dst : RgaBuffer} {rect : ImRect} {thickness : Int32}
    (filled : 0 < rect.width) (thick : 0 ≤ thickness)
    (checked : ∀ side ∈ rectangleSides rect thickness, SideChecked dst side) :
    SideBounds rect thickness ∧ (rectangleSides rect thickness).map (fillBox dst) =
      (rect.box.sides thickness.toInt).map wrapped := by
  simp only [rectangleSides, List.forall_mem_cons, List.not_mem_nil, false_implies, implies_true,
    and_true] at checked
  obtain ⟨above, below, column, other⟩ := checked
  rw [Int32.lt_iff_toInt_lt, Int32.toInt_zero] at filled
  rw [Int32.le_iff_toInt_le, Int32.toInt_zero] at thick
  have first := WholeSide.of_wide above (by dsimp only; omega)
  have rows := first.high
  dsimp only at rows
  have second := WholeSide.of_wide below (by dsimp only; omega)
  have third := WholeSide.of_wide column (by dsimp only; omega)
  have fourth := WholeSide.of_wide other (by dsimp only; omega)
  have width := first.wide
  have length := third.high
  dsimp only at width length
  have height := height_of_columns thick rows.2 (by omega) length.2
  have left := above.left
  have top := above.top
  dsimp only at left top
  have bottom : (rect.y + (rect.height - thickness)).toInt =
      rect.y.toInt + (rect.height.toInt - thickness.toInt) := by
    rw [toInt_add_checked top below.top, toInt_sub_nonneg (by omega) thick]
  have right : (rect.x + (rect.width - thickness)).toInt =
      rect.x.toInt + (rect.width.toInt - thickness.toInt) := by
    rw [toInt_add_checked left other.left, toInt_sub_nonneg (by omega) thick]
  have middle : (rect.y + thickness).toInt = rect.y.toInt + thickness.toInt :=
    toInt_add_checked top column.top
  refine ⟨⟨left, top, width, rows, by omega⟩, ?_⟩
  have columns : (rect.height - 2 * thickness).toInt =
      rect.height.toInt - 2 * thickness.toInt := by omega
  simp only [rectangleSides, List.map_cons, List.map_nil, first.emitted, second.emitted,
    third.emitted, fourth.emitted, bottom, right, middle, columns, Box.sides, wrapped, ImRect.box]

theorem empty_overpaints {dst : RgaBuffer} {rect : ImRect} {thickness : Int32}
    (empty : ¬ 0 < rect.width)
    (checked : ∀ side ∈ rectangleSides rect thickness, SideChecked dst side) :
    ¬ ∀ px py, (∃ box ∈ (rectangleSides rect thickness).map (fillBox dst), box.Holds px py) ↔
      rect.box.Outline thickness.toInt px py := by
  intro draws
  have above := checked _ List.mem_cons_self
  obtain whole | ⟨width, _, wide, high⟩ := above.kind
  · have wide := whole.wide.1
    dsimp only at wide
    rw [Int32.lt_iff_toInt_lt, Int32.toInt_zero] at empty
    omega
  · have painted := (draws _ _).mp
      ⟨_, List.mem_map_of_mem List.mem_cons_self, Box.holds_corner wide high⟩
    exact Box.not_outline_of_empty width _ _ _ painted

theorem wrapped_sides_iff {rect : ImRect} {thickness : Int32}
    (bounds : SideBounds rect thickness) :
    (∀ px py, (∃ side ∈ (rect.box.sides thickness.toInt).map wrapped, side.Holds px py) ↔
      rect.box.Outline thickness.toInt px py) ↔ OutlineFits rect thickness := by
  obtain ⟨left, top, width, rows, columns⟩ := bounds
  constructor
  · intro draws
    have inside (side : Box) (member : side ∈ rect.box.sides thickness.toInt)
        (wide : 0 < side.width) (high : 0 < side.height) :=
      @Box.within_of_holds (wrapped side) rect.box wide high fun px py holds =>
        ((draws px py).mp ⟨wrapped side, List.mem_map_of_mem member, holds⟩).1
    simp only [Box.sides, List.forall_mem_cons, List.not_mem_nil, false_implies, implies_true,
      and_true, ImRect.box, wrapped] at inside
    obtain ⟨above, below, column, other⟩ := inside
    have first := above (by omega) (by omega)
    have second := below (by omega) (by omega)
    have third := column (by omega) (by omega)
    have fourth := other (by omega) (by omega)
    refine ⟨?_, ?_, ?_, ?_⟩
    · rw [Int32.lt_iff_toInt_lt, Int32.toInt_zero]
      omega
    · rw [Int32.le_iff_toInt_le]
      omega
    · omega
    · omega
  · rintro ⟨_, narrow, right, bottom⟩ px py
    rw [Int32.le_iff_toInt_le] at narrow
    have kept : (rect.box.sides thickness.toInt).map wrapped =
        rect.box.sides thickness.toInt := by
      simp only [Box.sides, ImRect.box, wrapped, List.map_cons, List.map_nil]
      rw [Int.emod_eq_of_lt left (by omega), Int.emod_eq_of_lt top (by omega),
        Int.emod_eq_of_lt (a := rect.y.toInt + (rect.height.toInt - thickness.toInt)) (by omega)
          bottom,
        Int.emod_eq_of_lt (a := rect.y.toInt + thickness.toInt) (by omega) (by omega),
        Int.emod_eq_of_lt (a := rect.x.toInt + (rect.width.toInt - thickness.toInt)) (by omega)
          right]
    rw [kept]
    exact Box.sides_outline narrow (by dsimp only [ImRect.box]; omega) px py

/-! The calls -/

def sideFill (dst : RgaBuffer) (color : UInt32) : ArrayForm → ImRect → TaskArgs
  | .single sync releaseFence, side => Fenced.fillArgs dst side color.toInt32 sync releaseFence
  | .task jobHandle, side =>
      { jobHandle := jobHandle, dst := dst, drect := side, opt := some { color := color.toInt32 }
        usage := imColorFill }

theorem sideFill_handle (dst : RgaBuffer) (color : UInt32) (form : ArrayForm) (side : ImRect) :
    (sideFill dst color form side).jobHandle = form.jobHandle := by
  cases form <;> rfl

theorem sideFill_drect (dst : RgaBuffer) (color : UInt32) (form : ArrayForm) (side : ImRect) :
    (sideFill dst color form side).dst = dst ∧ (sideFill dst color form side).drect = side := by
  cases form <;> exact ⟨rfl, rfl⟩

theorem sideFill_path (dst : RgaBuffer) (color : UInt32) (form : ArrayForm) (side : ImRect) :
    taskPath (sideFill dst color form side) = .fill := by
  cases form with
  | single sync placed =>
      have fills : has (imColorFill ||| syncUsage sync) imColorFill = true := by
        unfold syncUsage
        split_ifs <;> decide
      exact if_pos fills
  | task jobHandle => simp [sideFill, taskPath, has, imColorFill]

theorem rectangle_calls (dst : RgaBuffer) (rect : ImRect) (color : UInt32) {thickness : Int32}
    (thick : 0 ≤ thickness) (form : ArrayForm) :
    arrayPlan (.imrectangle dst rect color thickness) form =
      .ok ((rectangleSides rect thickness).map (sideFill dst color form)) := by
  have outlined : ¬ thickness < 0 := Int32.not_lt.mpr thick
  cases form with
  | single sync placed =>
      refine (if_neg outlined).trans ?_
      exact @Fenced.forRects_ok _ (fun side => [sideFill dst color (.single sync placed) side])
        (fun _ => rfl) _
  | task jobHandle =>
      refine (if_neg outlined).trans ?_
      exact @Fenced.forRects_ok _ (fun side => [sideFill dst color (.task jobHandle) side])
        (fun _ => rfl) _

section Rectangle

variable {session : RgaSession} {env : Nat → TaskEnv} {manager : JobManager RgaReq}
  {form : ArrayForm} {dst : RgaBuffer} {color : UInt32} {sides : List ImRect}

theorem sides_checked (within : session.hardwareInfo.OutputsWithin)
    (succeeds : (submitAll session env manager (sides.map (sideFill dst color form))).status =
      .success) : ∀ side ∈ sides, SideChecked dst side := by
  have elements : ∀ args ∈ sides.map (sideFill dst color form), Element form.jobHandle args := by
    intro args member
    obtain ⟨side, _, rfl⟩ := List.mem_map.mp member
    exact ⟨sideFill_handle dst color form side, by rw [sideFill_path]; decide⟩
  have taken := (submitAll_success_iff elements env manager).mp succeeds
  intro side member
  have listed := List.mem_map_of_mem (f := sideFill dst color form) member
  obtain ⟨index, found⟩ := List.mem_iff_getElem?.mp listed
  obtain ⟨_, _, accepted, _⟩ := taken index _ found
  have checked := fill_sideChecked within accepted
  rwa [(sideFill_drect dst color form side).1, (sideFill_drect dst color form side).2] at checked

theorem sides_painted
    (succeeds : (submitAll session env manager (sides.map (sideFill dst color form))).status =
      .success) (px py : Int) :
    Painted (submitAll session env manager (sides.map (sideFill dst color form))) px py ↔
      ∃ box ∈ sides.map (fillBox dst), box.Holds px py := by
  have fills : ∀ args ∈ sides.map (sideFill dst color form), taskPath args = .fill := by
    intro args member
    obtain ⟨side, _, rfl⟩ := List.mem_map.mp member
    exact sideFill_path dst color form side
  rw [fills_painted fills env manager succeeds]
  simp only [List.mem_map, exists_exists_and_eq_and, sideFill_drect]

end Rectangle

/-- A rectangle that was drawn is the outline asked for exactly where it is not empty and no
narrower than its columns, and its sides keep their offsets. -/
theorem imrectangle_outline_iff {trace : List SessionEvent} {state : SessionState}
    (run : Machine.Run SessionState.step {} trace state) (env : Nat → TaskEnv)
    (manager : JobManager RgaReq) (form : ArrayForm) (dst : RgaBuffer) (rect : ImRect)
    (color : UInt32) (thickness : Int32) (thick : 0 ≤ thickness)
    (succeeds : (runApi state.session.rgaSession env manager
      (arrayPlan (.imrectangle dst rect color thickness) form)).status = .success) :
    DrawsOutline (runApi state.session.rgaSession env manager
        (arrayPlan (.imrectangle dst rect color thickness) form)) rect thickness ↔
      OutlineFits rect thickness := by
  have within : state.session.rgaSession.hardwareInfo.OutputsWithin := run_within run
  rw [rectangle_calls dst rect color thick form] at succeeds ⊢
  dsimp only [runApi] at succeeds ⊢
  have checked := sides_checked within succeeds
  have painted := sides_painted succeeds
  simp only [DrawsOutline, painted]
  by_cases filled : 0 < rect.width
  · obtain ⟨bounds, wraps⟩ := rectangleSides_wrapped filled thick checked
    rw [wraps]
    exact wrapped_sides_iff bounds
  · constructor
    · intro draws
      exact absurd draws (empty_overpaints filled checked)
    · intro fits
      exact absurd fits.filled filled

def openedSession : SessionData :=
  (SessionData.rgaSessionInit {} (rk3588Reply 3)).2.1

theorem openedSession_reached : ∃ trace state, Machine.Run SessionState.step {} trace state ∧
    state.session = openedSession :=
  ⟨_, _, Machine.Run.of_exec SessionState.step {} [.readLock 0, .writeLock 0 (rk3588Reply 3)] rfl,
    rfl⟩

def drawRectangle (form : ArrayForm) (rect : ImRect) (thickness : Int32) : SubmitResult :=
  runApi openedSession.rgaSession (fun _ => {}) openJobManager
    (arrayPlan (.imrectangle (importedBuffer 1) rect 0xff thickness) form)

/-- The outline of 8 by 12 pixels, two of them thick. -/
theorem imrectangle_outline_drawn :
    DrawsOutline (drawRectangle (.task 7) ⟨4, 4, 8, 12⟩ 2) ⟨4, 4, 8, 12⟩ 2 := by
  have succeeds : (drawRectangle (.task 7) ⟨4, 4, 8, 12⟩ 2).status = .success := by decide +kernel
  obtain ⟨trace, state, run, opened⟩ := openedSession_reached
  have drawn := imrectangle_outline_iff run (fun _ => {}) openJobManager (.task 7)
    (importedBuffer 1) ⟨4, 4, 8, 12⟩ 0xff 2 (by decide)
  rw [opened] at drawn
  exact (drawn succeeds).mpr ⟨by decide, by decide, by decide, by decide⟩

/-- Four pixels thick, a rectangle of two columns is painted over on both sides. And an empty one
fills the buffer. -/
theorem imrectangle_overpaints :
    (∃ trace state, Machine.Run SessionState.step {} trace state ∧
      state.session = openedSession) ∧
    ∀ form ∈ [ArrayForm.single 1 false, .task 7],
      (drawRectangle form ⟨4, 4, 2, 12⟩ 4).status = .success ∧
        ¬ DrawsOutline (drawRectangle form ⟨4, 4, 2, 12⟩ 4) ⟨4, 4, 2, 12⟩ 4 ∧
        (drawRectangle form {} 0).status = .success ∧
        ¬ DrawsOutline (drawRectangle form {} 0) {} 0 := by
  refine ⟨openedSession_reached, ?_⟩
  have thick : ∀ form ∈ [ArrayForm.single 1 false, .task 7],
      (drawRectangle form ⟨4, 4, 2, 12⟩ 4).status = .success ∧
        Painted (drawRectangle form ⟨4, 4, 2, 12⟩ 4) 7 8 := by
    decide +kernel
  have empty : ∀ form ∈ [ArrayForm.single 1 false, .task 7],
      (drawRectangle form {} 0).status = .success ∧ Painted (drawRectangle form {} 0) 7 8 := by
    decide +kernel
  intro form member
  refine ⟨(thick form member).1, fun draws => ?_, (empty form member).1, fun draws => ?_⟩
  · exact absurd ((draws 7 8).mp (thick form member).2) (by decide)
  · exact absurd ((draws 7 8).mp (empty form member).2) (by decide)

end LibRga
