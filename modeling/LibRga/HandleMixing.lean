import LibRga.Plan

/-!
The rule on mixing handles with other addresses, in the three builders.

A blit may have all its channels by handle or none. `generate_color_palette_req`
takes handles only, and counts a table that has no address as one without a handle.
-/

namespace LibRga

open Result

/-! The palette builder without a pointer to a table -/

/-- `relLutRect` is left as it was on the stack. -/
def missingLut (stack : RgaRect) : Channel :=
  { info := {}
    addr := {}
    rect := { stack with format := rkRgaCompatibleFormat stack.format } }

def planPaletteOnly (stack : RgaRect) (src dst : RgaInfo) : Except BuildExit PalettePlan := do
  if 0 < src.handle ∧ 0 < dst.handle then
    let srcChannel ← openChannel src
    let dstChannel ← openChannel dst
    if checkRectForRga srcChannel.rect = false then .error .srcRect
    else if checkRectForRga dstChannel.rect = false then .error .dstRect
    else .ok { src := srcChannel, dst := dstChannel, lut := missingLut stack }
  else .error .mixedHandles

/-- Without a table `rd_mode` of the pattern is not written. -/
def paletteOnlyReq (session : RgaSession) (plan : PalettePlan) : RgaReq :=
  let req := paletteReq session plan
  { req with pat := { req.pat with rdMode := 0 } }

def generatePaletteOnlyReq (session : RgaSession) (stack : RgaRect) (src dst : RgaInfo) :
    Except BuildExit RgaReq := do
  let plan ← planPaletteOnly stack src dst
  .ok (paletteOnlyReq session plan)

/-! The three builders -/

/-- A call of a builder. The table of a palette may be a null pointer. -/
inductive HandleCall where
  | blit (session : RgaSession) (src dst : RgaInfo) (src1 : Option RgaInfo)
  | fill (session : RgaSession) (dst : RgaInfo)
  | palette (session : RgaSession) (stack : RgaRect) (src dst : RgaInfo) (lut : Option RgaInfo)
      (lutRet : Int32)

namespace HandleCall

/-- What is handed to the driver while building, and the result. -/
def build : HandleCall → Option RgaReq × Except BuildExit RgaReq
  | blit session src dst src1 => (none, generateBlitReq session src dst src1)
  | fill session dst => (none, generateFillReq session dst)
  | palette session stack src dst none _ => (none, generatePaletteOnlyReq session stack src dst)
  | palette session _ src dst (some lut) lutRet =>
      generateColorPaletteReq session src dst lut lutRet

end HandleCall

def RgaInfo.addressed (info : RgaInfo) : Prop :=
  info.handle ≠ 0 ∨ info.phyAddr ≠ 0 ∨ 0 < info.fd ∨ info.virAddr ≠ 0

instance (info : RgaInfo) : Decidable info.addressed :=
  inferInstanceAs (Decidable (_ ∨ _))

namespace HandleCall

/-- The channels a request uses. A table counts when it has an address. -/
def used : HandleCall → List RgaInfo
  | blit _ src dst src1 => src :: dst :: src1.toList
  | fill _ dst => [dst]
  | palette _ _ src dst lut _ => src :: dst :: (lut.filter fun info => info.addressed).toList

def anyHandle (call : HandleCall) : Prop :=
  ∃ info ∈ call.used, 0 < info.handle

def allHandles (call : HandleCall) : Prop :=
  ∀ info ∈ call.used, 0 < info.handle

/-- The rule: some but not all handles are refused, and all of them set the flag. -/
structure MixingRule (call : HandleCall) : Prop where
  refuses : call.build.2 = .error .mixedHandles ↔ call.anyHandle ∧ ¬ call.allHandles
  flags : ∀ req, call.build.1 = some req ∨ call.build.2 = .ok req →
    (req.handleFlag &&& 1 ≠ 0 ↔ call.allHandles)

/-- A palette call gives some channel by handle, and a table that it points to has an address where
the other two are given so. -/
def FollowsRule : HandleCall → Prop
  | palette session stack src dst lut lutRet =>
      (palette session stack src dst lut lutRet).anyHandle ∧
        ∀ table, lut = some table → 0 < src.handle → 0 < dst.handle → table.addressed
  | _ => True

end HandleCall

/-! Exits -/

theorem requireAddr_avoids (addr : BufferAddr) : Avoids .mixedHandles (requireAddr addr) :=
  .ite (.error (by decide)) (.ite (.error (by decide)) (.ok _))

theorem openChannel_avoids (info : RgaInfo) : Avoids .mixedHandles (openChannel info) :=
  (requireAddr_avoids _).bind fun _ => .ok _

theorem openSrc1_avoids (src1 : Option RgaInfo) : Avoids .mixedHandles (openSrc1 src1) := by
  cases src1 with
  | none => exact .ok _
  | some info => exact (requireAddr_avoids _).bind fun _ => .ok _

theorem checkBlitRects_avoids (src dst : Channel) (src1 : Option Channel) :
    Avoids .mixedHandles (checkBlitRects src dst src1) :=
  .ite (.error (by decide)) (.ite (.error (by decide)) (.ite (.error (by decide)) (.ok _)))

theorem handleMode_mixed {handles : List Int32} :
    handleMode handles = .error .mixedHandles ↔
      (∃ handle ∈ handles, 0 < handle) ∧ ¬ ∀ handle ∈ handles, 0 < handle := by
  unfold handleMode
  by_cases all : ∀ handle ∈ handles, 0 < handle
  · rw [if_pos (by simpa using all)]
    constructor
    · intro impossible
      cases impossible
    · rintro ⟨_, missing⟩
      exact absurd all missing
  · rw [if_neg (by simpa using all)]
    obtain ⟨other, member, missing⟩ : ∃ other ∈ handles, other ≤ 0 := by
      push Not at all
      obtain ⟨other, member, missing⟩ := all
      exact ⟨other, member, Int32.not_lt.mp missing⟩
    have lacking : handles.any (fun handle => decide (handle ≤ 0)) = true :=
      List.any_eq_true.mpr ⟨other, member, decide_eq_true missing⟩
    rw [lacking, Bool.and_true]
    by_cases some : ∃ handle ∈ handles, 0 < handle
    · rw [if_pos (by simpa using some)]
      exact iff_of_true rfl ⟨some, all⟩
    · rw [if_neg (by simpa using some)]
      refine iff_of_false (fun impossible => ?_) fun both => some both.1
      cases impossible

theorem generateBlitReq_mixed {session : RgaSession} {src dst : RgaInfo} {src1 : Option RgaInfo} :
    generateBlitReq session src dst src1 = .error .mixedHandles ↔
      handleMode (src.handle :: dst.handle :: (src1.map RgaInfo.handle).toList) =
        .error .mixedHandles := by
  rw [generateBlitReq_exit_iff (by decide)]
  unfold planBlit
  rw [bind_exit_iff]
  intro flag
  refine (openChannel_avoids src).bind fun _ => ?_
  refine (openSrc1_avoids src1).bind fun _ => ?_
  refine (openChannel_avoids dst).bind fun _ => ?_
  refine (checkBlitRects_avoids _ _ _).bind fun _ => ?_
  exact .ite (.error (by decide)) <| .ite (.error (by decide)) <| .ite (.error (by decide)) (.ok _)

theorem generateFillReq_avoids (session : RgaSession) (dst : RgaInfo) :
    Avoids .mixedHandles (generateFillReq session dst) :=
  (requireAddr_avoids _).bind fun _ => .ok _

theorem channels_avoid {plan : Type} (src dst : RgaInfo) {result : Channel → Channel → plan} :
    Avoids .mixedHandles (do
      let srcChannel ← openChannel src
      let dstChannel ← openChannel dst
      if checkRectForRga srcChannel.rect = false then .error .srcRect
      else if checkRectForRga dstChannel.rect = false then .error .dstRect
      else .ok (result srcChannel dstChannel)) := by
  refine (openChannel_avoids src).bind fun srcChannel => ?_
  refine (openChannel_avoids dst).bind fun dstChannel => ?_
  exact .ite (.error (by decide)) (.ite (.error (by decide)) (.ok _))

theorem planPalette_mixed {src dst lut : RgaInfo} :
    planPalette src dst lut = .error .mixedHandles ↔
      ¬(0 < src.handle ∧ 0 < dst.handle ∧ 0 < lut.handle) := by
  have missing : (src.handle ≤ 0 ∨ dst.handle ≤ 0 ∨ lut.handle ≤ 0) ↔
      ¬(0 < src.handle ∧ 0 < dst.handle ∧ 0 < lut.handle) := by
    simp only [not_and_or, Int32.not_lt]
  unfold planPalette
  by_cases handles : 0 < src.handle ∧ 0 < dst.handle ∧ 0 < lut.handle
  · rw [if_neg (missing.not.mpr (not_not.mpr handles))]
    exact iff_of_false (channels_avoid src dst) (not_not.mpr handles)
  · rw [if_pos (missing.mpr handles)]
    exact iff_of_true rfl handles

theorem planPaletteOnly_mixed {stack : RgaRect} {src dst : RgaInfo} :
    planPaletteOnly stack src dst = .error .mixedHandles ↔
      ¬(0 < src.handle ∧ 0 < dst.handle) := by
  unfold planPaletteOnly
  by_cases handles : 0 < src.handle ∧ 0 < dst.handle
  · rw [if_pos handles]
    exact iff_of_false (channels_avoid src dst) (not_not.mpr handles)
  · rw [if_neg handles]
    exact iff_of_true rfl handles

theorem generateColorPaletteReq_planned {session : RgaSession} {src dst lut : RgaInfo}
    {plan : PalettePlan} (lutRet : Int32) (planned : planPalette src dst lut = .ok plan) :
    generateColorPaletteReq session src dst lut lutRet = (paletteLutReq session plan,
      if (paletteLutReq session plan).isSome ∧ lutRet ≠ 0 then .error .lutIoctl
      else .ok (paletteReq session plan)) := by
  rw [generateColorPaletteReq, planned]
  dsimp only
  cases paletteLutReq session plan with
  | none => rfl
  | some update =>
      dsimp only
      by_cases refused : lutRet ≠ 0
      · rw [if_pos refused, if_pos ⟨rfl, refused⟩]
      · rw [if_neg refused, if_neg fun both => refused both.2]

theorem generateColorPaletteReq_mixed {session : RgaSession} {src dst lut : RgaInfo}
    {lutRet : Int32} :
    (generateColorPaletteReq session src dst lut lutRet).2 = .error .mixedHandles ↔
      planPalette src dst lut = .error .mixedHandles := by
  cases planned : planPalette src dst lut with
  | error exit =>
      simp [generateColorPaletteReq, planned]
  | ok plan =>
      rw [generateColorPaletteReq_planned lutRet planned]
      refine iff_of_false ?_ (Avoids.ok plan)
      exact Avoids.ite (.error (by decide)) (.ok _)

/-! Requests -/

theorem palette_flag {session : RgaSession} {src dst lut : RgaInfo} {lutRet : Int32} {req : RgaReq}
    (made : (generateColorPaletteReq session src dst lut lutRet).1 = some req ∨
      (generateColorPaletteReq session src dst lut lutRet).2 = .ok req) :
    (0 < src.handle ∧ 0 < dst.handle ∧ 0 < lut.handle) ∧ req.handleFlag = 1 := by
  obtain update | built := made
  · cases planned : planPalette src dst lut with
    | error exit =>
        rw [generateColorPaletteReq, planned] at update
        cases update
    | ok plan =>
        rw [generateColorPaletteReq_planned lutRet planned] at update
        exact ⟨(planPalette_ok planned).1, (paletteLutReq_finished update).1.handleFlag⟩
  · obtain ⟨plan, planned, finished, _⟩ := generateColorPaletteReq_finished built
    exact ⟨(planPalette_ok planned).1, finished.handleFlag⟩

theorem paletteOnly_flag {session : RgaSession} {stack : RgaRect} {src dst : RgaInfo}
    {req : RgaReq} (built : generatePaletteOnlyReq session stack src dst = .ok req) :
    (0 < src.handle ∧ 0 < dst.handle) ∧ req.handleFlag = 1 := by
  obtain ⟨plan, planned, finished⟩ := bind_eq_ok.mp built
  cases finished
  refine ⟨?_, (paletteReq_finished session plan).1.handleFlag⟩
  by_contra missing
  rw [planPaletteOnly_mixed.mpr missing] at planned
  cases planned

theorem flag_iff {flag : Bool} {all : Prop} (same : flag = true ↔ all) {word : UInt8}
    (written : word = if flag then 1 else 0) : word &&& 1 ≠ 0 ↔ all := by
  rw [← same, written]
  cases flag <;> decide

/-! The rule for each builder -/

namespace HandleCall

theorem blit_rule (session : RgaSession) (src dst : RgaInfo) (src1 : Option RgaInfo) :
    (blit session src dst src1).MixingRule := by
  constructor
  · show generateBlitReq session src dst src1 = _ ↔ _
    rw [generateBlitReq_mixed, handleMode_mixed]
    cases src1 <;> simp [anyHandle, allHandles, used]
  · rintro req (update | built)
    · cases update
    · obtain ⟨plan, planned, finished⟩ := generateBlitReq_finished built
      have flag := handleMode_positive (planBlit_planned planned).handles
      refine flag_iff (flag.trans ?_) finished.handleFlag
      cases src1 <;> simp [allHandles, used]

theorem fill_rule (session : RgaSession) (dst : RgaInfo) : (fill session dst).MixingRule := by
  have single : (fill session dst).anyHandle ↔ (fill session dst).allHandles := by
    simp [anyHandle, allHandles, used]
  constructor
  · rw [single]
    exact iff_of_false (generateFillReq_avoids session dst) and_not_self
  · rintro req (update | built)
    · cases update
    · obtain ⟨addr, resolved, finished⟩ := fillReq_finished built
      rw [finished.handleFlag]
      have all : (fill session dst).allHandles ↔ 0 < dst.handle := by simp [allHandles, used]
      rw [all]
      split <;> simp_all

theorem palette_refuses_iff (session : RgaSession) (stack : RgaRect) (src dst : RgaInfo)
    (lut : Option RgaInfo) (lutRet : Int32) :
    (palette session stack src dst lut lutRet).build.2 = .error .mixedHandles ↔
      ¬ ∀ info ∈ src :: dst :: lut.toList, 0 < info.handle := by
  cases lut with
  | none =>
      show generatePaletteOnlyReq session stack src dst = _ ↔ _
      rw [generatePaletteOnlyReq, bind_exit_iff fun plan => .ok _, planPaletteOnly_mixed]
      simp
  | some info =>
      show (generateColorPaletteReq session src dst info lutRet).2 = _ ↔ _
      rw [generateColorPaletteReq_mixed, planPalette_mixed]
      simp

theorem palette_flags (session : RgaSession) (stack : RgaRect) (src dst : RgaInfo)
    (lut : Option RgaInfo) (lutRet : Int32) {req : RgaReq}
    (made : (palette session stack src dst lut lutRet).build.1 = some req ∨
      (palette session stack src dst lut lutRet).build.2 = .ok req) :
    (∀ info ∈ src :: dst :: lut.toList, 0 < info.handle) ∧ req.handleFlag = 1 := by
  cases lut with
  | none =>
      obtain update | built := made
      · cases update
      · obtain ⟨⟨srcHandle, dstHandle⟩, flag⟩ := paletteOnly_flag built
        exact ⟨by simp [srcHandle, dstHandle], flag⟩
  | some info =>
      obtain ⟨⟨srcHandle, dstHandle, lutHandle⟩, flag⟩ := palette_flag made
      exact ⟨by simp [srcHandle, dstHandle, lutHandle], flag⟩

theorem palette_used (session : RgaSession) (stack : RgaRect) (src dst : RgaInfo)
    (lut : Option RgaInfo) (lutRet : Int32) (info : RgaInfo) :
    info ∈ (palette session stack src dst lut lutRet).used ↔
      info = src ∨ info = dst ∨ (lut = some info ∧ info.addressed) := by
  simp [used, Option.mem_toList, Option.filter_eq_some_iff]

theorem palette_rule_iff (session : RgaSession) (stack : RgaRect) (src dst : RgaInfo)
    (lut : Option RgaInfo) (lutRet : Int32) :
    (palette session stack src dst lut lutRet).MixingRule ↔
      (palette session stack src dst lut lutRet).FollowsRule := by
  let call := palette session stack src dst lut lutRet
  have member := palette_used session stack src dst lut lutRet
  have refuses := palette_refuses_iff session stack src dst lut lutRet
  have covers : (∀ info ∈ src :: dst :: lut.toList, 0 < info.handle) → call.allHandles := by
    intro all info used
    apply all
    obtain rfl | rfl | ⟨given, _⟩ := (member info).mp used
    · simp
    · simp
    · simp [given]
  constructor
  · rintro ⟨rule, _⟩
    rw [refuses] at rule
    have some : call.anyHandle := by
      by_contra none
      have all := not_not.mp fun missing => none (rule.mp missing).1
      exact none ⟨src, (member src).mpr (.inl rfl), all src (by simp)⟩
    refine ⟨some, ?_⟩
    rintro table rfl srcHandle dstHandle
    by_contra absent
    have all : call.allHandles := by
      intro info used
      obtain rfl | rfl | ⟨given, present⟩ := (member info).mp used
      · exact srcHandle
      · exact dstHandle
      · cases given
        exact absurd present absent
    have handles := not_not.mp fun missing => (rule.mp missing).2 all
    exact absent (.inl (ne_of_positive (handles table (by simp))).1)
  · rintro ⟨some, tableFound⟩
    have same : (∀ info ∈ src :: dst :: lut.toList, 0 < info.handle) ↔ call.allHandles := by
      refine ⟨covers, fun all => ?_⟩
      have srcHandle := all src ((member src).mpr (.inl rfl))
      have dstHandle := all dst ((member dst).mpr (.inr (.inl rfl)))
      rintro info listed
      obtain rfl | rfl | given : info = src ∨ info = dst ∨ lut = Option.some info := by
        simpa [Option.mem_toList] using listed
      · exact srcHandle
      · exact dstHandle
      · have present := tableFound info given srcHandle dstHandle
        exact all info ((member info).mpr (.inr (.inr ⟨given, present⟩)))
    constructor
    · rw [refuses, same]
      exact ⟨fun missing => ⟨some, missing⟩, And.right⟩
    · intro req made
      obtain ⟨handles, flag⟩ := palette_flags session stack src dst lut lutRet made
      rw [flag]
      exact iff_of_true (by decide) (covers handles)

/-- Blits and fills keep the rule; a palette call keeps it exactly where some channel is given by
handle and no table without an address is handed over beside two handles. -/
theorem mixingRule_iff (call : HandleCall) : call.MixingRule ↔ call.FollowsRule := by
  cases call with
  | blit session src dst src1 => exact iff_of_true (blit_rule session src dst src1) trivial
  | fill session dst => exact iff_of_true (fill_rule session dst) trivial
  | palette session stack src dst lut lutRet =>
      exact palette_rule_iff session stack src dst lut lutRet

/-- Three fds; and two handles with a table that has no address. -/
theorem palette_breaks_rule :
    let rect : RgaRect := { width := 64, height := 64, wstride := 64, hstride := 64 }
    let fds := palette {} {} { fd := 3, rect := rect } { fd := 4, rect := rect }
      (some { fd := 5, rect := rect }) 0
    let handles := palette {} {} { handle := 1, rect := rect } { handle := 2, rect := rect }
      (some {}) 0
    (fds.build.2 = .error .mixedHandles ∧ ¬ fds.anyHandle) ∧
      (handles.build.2 = .error .mixedHandles ∧ handles.allHandles) ∧
      ¬ fds.MixingRule ∧ ¬ handles.MixingRule := by
  intro rect fds handles
  have none : ¬ fds.anyHandle := by
    rintro ⟨info, used, handle⟩
    revert info
    decide
  have all : handles.allHandles := by
    unfold allHandles
    decide
  refine ⟨⟨rfl, none⟩, ⟨rfl, all⟩, ?_, ?_⟩
  · rintro ⟨rule, _⟩
    exact none (rule.mp rfl).1
  · rintro ⟨rule, _⟩
    exact (rule.mp rfl).2 all

end HandleCall

end LibRga
