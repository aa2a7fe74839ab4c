import LibRga.Failure
import LibRga.Legacy

/-!
The argument of every blit ioctl against the layout its driver reads.

Five places issue such ioctls: `rga_task_submit`, `RgaBlit`, `RgaCollorFill`,
`RgaCollorPalette`, and the table update inside the two palette builders.
-/

namespace LibRga

/-- The multi-RGA driver reads an `rga_req`, the older ones its compat image. -/
def driverLayout (driver : RgaDriverIocType) (req : RgaReq) : Option BlitArg :=
  match driver with
  | .multiRga => some (.rgaReq req)
  | .rga1 | .rga2 => some (.rga2Req (normalRgaCompatModeConvertRga2 req))
  | .unknown => none

inductive BlitCall where
  | task (session : RgaSession) (env : TaskEnv) (manager : JobManager RgaReq) (args : TaskArgs)
  | blit (ctx : RgaContext) (src dst : RgaInfo) (src1 : Option RgaInfo) (reply : IoctlReply)
  | fill (ctx : RgaContext) (dst : RgaInfo) (reply : IoctlReply)
  | palette (ctx : RgaContext) (src dst : RgaInfo) (lut : Option RgaInfo) (stack : RgaRect)
      (lutRet : Int32) (reply : IoctlReply)

namespace BlitCall

def driver : BlitCall → RgaDriverIocType
  | task session _ _ _ => session.driverType
  | blit ctx .. | fill ctx .. | palette ctx .. => ctx.driver

def events : BlitCall → List DriverEvent
  | task session env manager args => (rgaTaskSubmit session env manager args).events
  | blit ctx src dst src1 reply => (rgaBlit ctx src dst src1 reply).events
  | fill ctx dst reply => (rgaCollorFill ctx dst reply).events
  | palette ctx src dst lut stack lutRet reply =>
      (rgaCollorPalette ctx src dst lut stack lutRet reply).events

/-- The requests that the builder of the call fills, the table update among them. -/
def built : BlitCall → List RgaReq
  | task session env _ args =>
      match validateTask session args with
      | .error _ => []
      | .ok (buffers, mode) =>
          let built := taskBuilt session env args buffers mode
          built.1.toList ++ (builtReq built.2).toList
  | blit ctx src dst src1 _ => (rgaBlitReq ctx src dst src1).toOption.toList
  | fill ctx dst _ => (rgaCollorFillReq ctx dst).toOption.toList
  | palette ctx src dst lut stack _ _ =>
      match planRgaCollorPalette src dst lut stack with
      | .error _ => []
      | .ok plan =>
          (rgaCollorPaletteLutReq ctx plan lut).toList ++ [rgaCollorPaletteReq ctx plan lut]

/-- Every blit ioctl gets a request that was built, in the layout of the driver. -/
def WellLaid (call : BlitCall) : Prop :=
  ∀ cmd req arg, .blit cmd req arg ∈ call.events →
    req ∈ call.built ∧ driverLayout call.driver req = some arg

end BlitCall

/-- The palette builder accepts the call, so it sends the table before anything else. -/
def LoadsTable (session : RgaSession) (env : TaskEnv) (args : TaskArgs) : Prop :=
  ∃ buffers mode, Accepted session args buffers mode ∧ lacksFence args = false ∧
    taskPath args = .palette ∧
    ¬ BuilderRefuses session .palette (taskSetup env args buffers mode)

def BlitCall.LayoutSafe : BlitCall → Prop
  | task session env _ args => session.driverType = .multiRga ∨ ¬ LoadsTable session env args
  | blit .. | fill .. => True
  | palette ctx src dst lut stack lutRet _ =>
      ∀ plan, planRgaCollorPalette src dst lut stack = .ok plan →
        lut.isSome = true ∧ ctx.driver = .multiRga ∧ lutRet ≠ 0 ∨
          lut = none ∧ ctx.driver ≠ .rga2 ∧ ctx.driver ≠ .multiRga

variable {session : RgaSession} {env : TaskEnv} {manager : JobManager RgaReq} {args : TaskArgs}
  {buffers : TaskBuffers} {mode : Int32} {cmd : Int32} {req : RgaReq} {arg : BlitArg}

/-! The im2d path -/

theorem gaussEvents_noBlit : DriverEvent.blit cmd req arg ∉ gaussEvents env args := by
  unfold gaussEvents
  split_ifs <;> simp

theorem mem_lutEvents_iff {update : Option RgaReq} :
    DriverEvent.blit cmd req arg ∈ lutEvents update ↔
      update = some req ∧ cmd = rgaBlitSync ∧ arg = .rgaReq req := by
  cases update with
  | none => simp [lutEvents]
  | some issued =>
      simp only [lutEvents, Option.map_some, Option.toList_some, List.mem_singleton,
        DriverEvent.blit.injEq, Option.some.injEq]
      constructor
      · rintro ⟨rfl, rfl, rfl⟩
        exact ⟨rfl, rfl, rfl⟩
      · rintro ⟨rfl, rfl, rfl⟩
        exact ⟨rfl, rfl, rfl⟩

theorem blitArg_eq_driverLayout (session : RgaSession) (req : RgaReq) :
    blitArg session req = driverLayout session.driverType req := by
  unfold blitArg driverLayout
  cases session.driverType <;> rfl

theorem submitDirect_blit {other : RgaReq}
    (issued : .blit cmd other arg ∈ (submitDirect session env manager args req).events) :
    other = req ∧ driverLayout session.driverType req = some arg := by
  unfold submitDirect at issued
  split at issued
  · cases issued
  · rename_i passed known
    have same : other = req ∧ arg = passed := by
      dsimp only at issued
      split_ifs at issued <;> simp_all
    obtain ⟨rfl, rfl⟩ := same
    rw [blitArg_eq_driverLayout] at known
    exact ⟨rfl, known⟩

theorem submitReq_blit {other : RgaReq}
    (issued : .blit cmd other arg ∈ (submitReq session env manager args req).events) :
    other = req ∧ driverLayout session.driverType req = some arg := by
  have branch : .blit cmd other arg ∈ (if 0 < args.jobHandle then submitJob manager args req
      else submitDirect session env manager args req).events := by
    unfold submitReq at issued
    dsimp only at issued
    split at issued
    · simpa using issued
    · exact issued
  split at branch
  · unfold submitJob at branch
    split at branch <;> simp at branch
  · exact submitDirect_blit branch

theorem update_loads (accepted : Accepted session args buffers mode)
    (fence : lacksFence args = false)
    (update : (taskBuilt session env args buffers mode).1 = some req) :
    LoadsTable session env args := by
  obtain ⟨path, plan, planned, _⟩ := taskBuilt_update update
  refine ⟨buffers, mode, accepted, fence, path, ?_⟩
  rintro ⟨exit, refused⟩
  simp only [taskSetup, planned] at refused
  cases refused

theorem LoadsTable.issues (loads : LoadsTable session env args) (manager : JobManager RgaReq) :
    ∃ table, .blit rgaBlitSync table (.rgaReq table) ∈
      (rgaTaskSubmit session env manager args).events := by
  obtain ⟨buffers, mode, accepted, fence, path, accepts⟩ := loads
  obtain ⟨plan, planned⟩ := palette_planned accepts
  have updates := (palette_updates session env.lutRet planned).1
  have issued : (taskBuilt session env args buffers mode).1.isSome = true := by
    simpa only [taskBuilt, path, buildTask] using updates
  obtain ⟨table, issued⟩ := Option.isSome_iff_exists.mp issued
  have sent : DriverEvent.blit rgaBlitSync table (.rgaReq table) ∈
      gaussEvents env args ++ lutEvents (taskBuilt session env args buffers mode).1 :=
    List.mem_append_right _ (mem_lutEvents_iff.mpr ⟨issued, rfl, rfl⟩)
  refine ⟨table, ?_⟩
  unfold rgaTaskSubmit
  rw [prepareTask_accepted env accepted fence]
  cases builtReq (taskBuilt session env args buffers mode).2 with
  | none => exact sent
  | some req => exact List.mem_append_left _ sent

theorem built_accepted (env : TaskEnv) (manager : JobManager RgaReq)
    (accepted : Accepted session args buffers mode) :
    (BlitCall.task session env manager args).built =
      (taskBuilt session env args buffers mode).1.toList ++
        (builtReq (taskBuilt session env args buffers mode).2).toList := by
  simp only [BlitCall.built, validateTask_ok_iff.mpr accepted]

theorem table_wellLaid (safe : session.driverType = .multiRga ∨ ¬ LoadsTable session env args)
    (accepted : Accepted session args buffers mode) (fence : lacksFence args = false)
    (issued : .blit cmd req arg ∈ lutEvents (taskBuilt session env args buffers mode).1) :
    req ∈ (BlitCall.task session env manager args).built ∧
      driverLayout session.driverType req = some arg := by
  obtain ⟨update, _, rfl⟩ := mem_lutEvents_iff.mp issued
  rw [built_accepted env manager accepted, update]
  refine ⟨by simp, ?_⟩
  obtain multi | unloaded := safe
  · rw [multi]
    rfl
  · exact absurd (update_loads accepted fence update) unloaded

theorem task_wellLaid_iff (session : RgaSession) (env : TaskEnv) (manager : JobManager RgaReq)
    (args : TaskArgs) :
    (BlitCall.task session env manager args).WellLaid ↔
      (BlitCall.task session env manager args).LayoutSafe := by
  constructor
  · intro laid
    by_contra exposed
    simp only [BlitCall.LayoutSafe, not_or, not_not] at exposed
    obtain ⟨older, loads⟩ := exposed
    obtain ⟨table, issued⟩ := loads.issues manager
    have layout := (laid _ _ _ issued).2
    simp only [BlitCall.driver] at layout
    cases driver : session.driverType <;> simp_all [driverLayout]
  · intro safe cmd req arg
    simp only [BlitCall.events, BlitCall.driver]
    intro issued
    cases rgaTaskSubmit_submitted session env manager args with
    | invalid status refused same =>
        rw [same] at issued
        cases issued
    | noFence buffers mode accepted fence same =>
        rw [same] at issued
        exact absurd issued gaussEvents_noBlit
    | refused buffers mode accepted fence exits same =>
        rw [same] at issued
        obtain allocated | update := List.mem_append.mp issued
        · exact absurd allocated gaussEvents_noBlit
        · exact table_wellLaid safe accepted fence update
    | built buffers mode accepted fence built builds same =>
        rw [same] at issued
        obtain early | late := List.mem_append.mp issued
        · obtain allocated | update := List.mem_append.mp early
          · exact absurd allocated gaussEvents_noBlit
          · exact table_wellLaid safe accepted fence update
        · obtain ⟨rfl, layout⟩ := submitReq_blit late
          rw [built_accepted env manager accepted, builds]
          exact ⟨by simp, layout⟩

/-! The legacy paths -/

theorem driverLayout_of_legacyArg {driver : RgaDriverIocType}
    (passed : legacyArg driver req = some arg) : driverLayout driver req = some arg := by
  cases driver <;> simp_all [legacyArg, driverLayout]

theorem legacyIoctl_blit {ctx : RgaContext} {dst : RgaInfo} {syncMode outFence : Int32}
    {reply : IoctlReply} {other : RgaReq}
    (issued : .blit cmd other arg ∈ (legacyIoctl ctx dst syncMode req reply outFence).events) :
    other = req ∧ driverLayout ctx.driver req = some arg := by
  unfold legacyIoctl at issued
  split at issued
  · cases issued
  · rename_i passed known
    have same : other = req ∧ arg = passed := by
      dsimp only at issued
      split_ifs at issued <;> simp_all
    obtain ⟨rfl, rfl⟩ := same
    exact ⟨rfl, driverLayout_of_legacyArg known⟩

theorem blit_wellLaid (ctx : RgaContext) (src dst : RgaInfo) (src1 : Option RgaInfo)
    (reply : IoctlReply) : (BlitCall.blit ctx src dst src1 reply).WellLaid := by
  intro cmd req arg issued
  simp only [BlitCall.events, rgaBlit] at issued
  cases built : rgaBlitReq ctx src dst src1 with
  | error exit => simp [built] at issued
  | ok filled =>
      rw [built] at issued
      obtain ⟨rfl, layout⟩ := legacyIoctl_blit issued
      refine ⟨?_, layout⟩
      simp [BlitCall.built, built, Except.toOption]

theorem fill_wellLaid (ctx : RgaContext) (dst : RgaInfo) (reply : IoctlReply) :
    (BlitCall.fill ctx dst reply).WellLaid := by
  intro cmd req arg issued
  simp only [BlitCall.events, rgaCollorFill] at issued
  cases built : rgaCollorFillReq ctx dst with
  | error exit => simp [built] at issued
  | ok filled =>
      rw [built] at issued
      obtain ⟨rfl, layout⟩ := legacyIoctl_blit issued
      refine ⟨?_, layout⟩
      simp [BlitCall.built, built, Except.toOption]

open Result in
theorem planRgaCollorPalette_lut {src dst : RgaInfo} {lut : Option RgaInfo} {stack : RgaRect}
    {plan : PalettePlan} (planned : planRgaCollorPalette src dst lut stack = .ok plan) :
    plan.lut = openLegacyLut lut stack ∧ ∀ info ∈ lut, 0 < info.handle := by
  simp only [planRgaCollorPalette, ite_error_eq_ok, bind_eq_ok] at planned
  obtain ⟨handles, _, _, _, _, _, _, same⟩ := planned
  cases same
  refine ⟨rfl, ?_⟩
  intro info given
  rw [Option.mem_def] at given
  simp only [given, Option.map_some, Option.toList_some, List.any_cons, List.any_nil,
    Bool.or_eq_true, decide_eq_true_eq, not_or, Int32.not_le] at handles
  exact handles.2.2.1

theorem rgaCollorPaletteLutReq_isSome (ctx : RgaContext) {src dst : RgaInfo}
    {lut : Option RgaInfo} {stack : RgaRect} {plan : PalettePlan}
    (planned : planRgaCollorPalette src dst lut stack = .ok plan) :
    (rgaCollorPaletteLutReq ctx plan lut).isSome = lut.isSome := by
  obtain ⟨opened, handles⟩ := planRgaCollorPalette_lut planned
  unfold rgaCollorPaletteLutReq
  rw [opened]
  cases lut with
  | none => rfl
  | some info =>
      obtain ⟨nonzero, addressed⟩ := ne_of_positive (handles info rfl)
      have kept : (openLegacyLut (some info) stack).addr.fd ≠ -1 := by
        simp [openLegacyLut, openLut, resolveAddr, nonzero, addressed]
      simp [kept]

theorem driverLayout_ne_pointer {driver : RgaDriverIocType} {target : BlitArg} :
    driverLayout driver req ≠ some (.pointer target) := by
  cases driver <;> simp [driverLayout]

theorem driverLayout_eq_rgaReq {driver : RgaDriverIocType} :
    driverLayout driver req = some (.rgaReq req) ↔ driver = .multiRga := by
  cases driver <;> simp [driverLayout]

theorem legacyArg_eq_none {driver : RgaDriverIocType} :
    legacyArg driver req = none ↔ driver ≠ .rga2 ∧ driver ≠ .multiRga := by
  cases driver <;> simp [legacyArg]

theorem rgaCollorPalette_blit_iff {ctx : RgaContext} {src dst : RgaInfo} {lut : Option RgaInfo}
    {stack : RgaRect} {lutRet : Int32} {reply : IoctlReply} {plan : PalettePlan}
    (planned : planRgaCollorPalette src dst lut stack = .ok plan) :
    .blit cmd req arg ∈ (rgaCollorPalette ctx src dst lut stack lutRet reply).events ↔
      .blit cmd req arg ∈ lutEvents (rgaCollorPaletteLutReq ctx plan lut) ∨
        ¬(lut.isSome = true ∧ lutRet ≠ 0) ∧ cmd = rgaBlitSync ∧
          req = rgaCollorPaletteReq ctx plan lut ∧
          ∃ target, legacyArg ctx.driver req = some target ∧ arg = .pointer target := by
  have table := rgaCollorPaletteLutReq_isSome ctx planned
  simp only [rgaCollorPalette, planned, table]
  by_cases stops : lut.isSome = true ∧ lutRet ≠ 0
  · have unsent : ¬¬(lut.isSome = true ∧ lutRet ≠ 0) := not_not.mpr stops
    rw [if_pos stops]
    simp only [unsent, false_and, or_false]
    rfl
  · rw [if_neg stops]
    cases passed : legacyArg ctx.driver (rgaCollorPaletteReq ctx plan lut) with
    | none =>
        have nothing : ¬(req = rgaCollorPaletteReq ctx plan lut ∧
            ∃ target, legacyArg ctx.driver req = some target ∧ arg = .pointer target) := by
          rintro ⟨rfl, target, known, _⟩
          rw [passed] at known
          cases known
        simp only [nothing, and_false, or_false]
        rfl
    | some target =>
        have sent : DriverEvent.blit cmd req arg =
              .blit rgaBlitSync (rgaCollorPaletteReq ctx plan lut) (.pointer target) ↔
            cmd = rgaBlitSync ∧ req = rgaCollorPaletteReq ctx plan lut ∧
              ∃ target, legacyArg ctx.driver req = some target ∧ arg = .pointer target := by
          rw [DriverEvent.blit.injEq]
          constructor
          · rintro ⟨rfl, rfl, rfl⟩
            exact ⟨rfl, rfl, target, passed, rfl⟩
          · rintro ⟨rfl, rfl, other, known, rfl⟩
            rw [passed] at known
            cases known
            exact ⟨rfl, rfl, rfl⟩
        rw [List.mem_append, List.mem_singleton, sent]
        simp only [stops, not_false_eq_true, true_and]
        rfl

/-- The palette itself always goes out through a pointer too many, so the call is safe only when
it does not come that far, and when what it sent before was in the right layout. -/
theorem palette_wellLaid_iff (ctx : RgaContext) (src dst : RgaInfo) (lut : Option RgaInfo)
    (stack : RgaRect) (lutRet : Int32) (reply : IoctlReply) :
    (BlitCall.palette ctx src dst lut stack lutRet reply).WellLaid ↔
      (BlitCall.palette ctx src dst lut stack lutRet reply).LayoutSafe := by
  simp only [BlitCall.WellLaid, BlitCall.LayoutSafe, BlitCall.events, BlitCall.driver]
  cases planned : planRgaCollorPalette src dst lut stack with
  | error exit => simp [rgaCollorPalette, planned]
  | ok plan =>
      have table := rgaCollorPaletteLutReq_isSome ctx planned
      simp only [rgaCollorPalette_blit_iff planned, BlitCall.built, planned, Except.ok.injEq,
        forall_eq']
      constructor
      · intro laid
        -- the last ioctl would carry a pointer to a pointer, which no driver reads
        have stops : lut.isSome = true ∧ lutRet ≠ 0 ∨
            legacyArg ctx.driver (rgaCollorPaletteReq ctx plan lut) = none := by
          by_contra reached
          rw [not_or] at reached
          obtain ⟨target, passed⟩ := Option.ne_none_iff_exists'.mp reached.2
          have layout := (laid _ _ _ (.inr ⟨reached.1, rfl, rfl, target, passed, rfl⟩)).2
          exact driverLayout_ne_pointer layout
        cases update : rgaCollorPaletteLutReq ctx plan lut with
        | none =>
            rw [update, Option.isSome_none] at table
            have absent : lut = none := by simpa using table.symm
            refine .inr ⟨absent, ?_⟩
            rw [absent] at stops
            exact legacyArg_eq_none.mp (stops.resolve_left (by simp))
        | some issued =>
            have layout := (laid _ _ _ (.inl (mem_lutEvents_iff.mpr ⟨update, rfl, rfl⟩))).2
            have multi := driverLayout_eq_rgaReq.mp layout
            rw [legacyArg_eq_none, multi] at stops
            obtain ⟨given, refused⟩ := stops.resolve_right (by simp)
            exact .inl ⟨given, multi, refused⟩
      · rintro (⟨given, multi, refused⟩ | ⟨absent, older⟩) cmd req arg
          (loads | ⟨stays, _, _, target, passed, _⟩)
        · obtain ⟨update, _, rfl⟩ := mem_lutEvents_iff.mp loads
          rw [update, multi]
          exact ⟨by simp, rfl⟩
        · exact absurd ⟨given, refused⟩ stays
        · obtain ⟨update, _, _⟩ := mem_lutEvents_iff.mp loads
          rw [update, absent] at table
          cases table
        · rw [legacyArg_eq_none.mpr older] at passed
          cases passed

theorem payload_wellLaid_iff (call : BlitCall) : call.WellLaid ↔ call.LayoutSafe := by
  cases call with
  | task session env manager args => exact task_wellLaid_iff session env manager args
  | blit ctx src dst src1 reply =>
      exact iff_of_true (blit_wellLaid ctx src dst src1 reply) trivial
  | fill ctx dst reply => exact iff_of_true (fill_wellLaid ctx dst reply) trivial
  | palette ctx src dst lut stack lutRet reply =>
      exact palette_wellLaid_iff ctx src dst lut stack lutRet reply

def rga2Session : RgaSession :=
  { driverType := .rga2, hardwareInfo := rga2ProInfo }

def importedInfo (handle : Int32) : RgaInfo :=
  { handle := handle, rect := { width := 64, height := 64, wstride := 64, hstride := 64 } }

/-- A palette on the RGA2 driver sends its table unconverted, and the legacy palette sends the
address of a pointer, on the multi-RGA driver too. -/
theorem palette_payload_wrong :
    ¬ (BlitCall.task rga2Session {} emptyManager { strandedPalette with jobHandle := 0 }).WellLaid ∧
      ¬ (BlitCall.palette { mVersion := Float32.round (32 / 10) } (importedInfo 1) (importedInfo 2)
        (some (importedInfo 3)) {} 0 {}).WellLaid := by
  constructor
  · intro laid
    let events := (rgaTaskSubmit rga2Session {} emptyManager
      { strandedPalette with jobHandle := 0 }).events
    let table := (blitRequests events).headD {}
    have issued : DriverEvent.blit rgaBlitSync table (.rgaReq table) ∈ events := by
      decide +kernel
    have layout := driverLayout_eq_rgaReq.mp (laid _ _ _ issued).2
    exact absurd layout (by decide)
  · intro laid
    let events := (rgaCollorPalette { mVersion := Float32.round (32 / 10) } (importedInfo 1)
      (importedInfo 2) (some (importedInfo 3)) {} 0 {}).events
    let palette := (blitRequests events).getLastD {}
    have issued : DriverEvent.blit rgaBlitSync palette (.pointer (.rgaReq palette)) ∈ events := by
      decide +kernel
    exact driverLayout_ne_pointer (laid _ _ _ issued).2

end LibRga
