import LibRga.ColourSpace
import LibRga.Registers

/-!
The rotation, flip and blend that a usage word names, and those that a request
performs.
-/

namespace LibRga

/-! What is named -/

structure Transform where
  turn : Orientation := .deg0
  flipH : Bool := false
  flipV : Bool := false
deriving DecidableEq, Repr, Inhabited

/-- Quarter turns exchange the sides of the picture. -/
def Transform.quarter (transform : Transform) : Bool :=
  transform.turn = .deg90 || transform.turn = .deg270

inductive PorterDuff where
  | src
  | dst
  | srcOver
  | dstOver
  | srcIn
  | dstIn
  | srcOut
  | dstOut
  | srcAtop
  | dstAtop
  | xor
deriving DecidableEq, Repr, Inhabited

def turnBits : List (Int32 × Orientation) :=
  [(0, .deg0), (imHalTransformRot90, .deg90), (imHalTransformRot180, .deg180),
    (imHalTransformRot270, .deg270)]

def flipBits : List (Int32 × Bool × Bool) :=
  [(0, false, false), (imHalTransformFlipH, true, false), (imHalTransformFlipV, false, true),
    (imHalTransformFlipHV, true, true)]

/-- A copy is what the mode "SRC" gives, so that is named when no bit is set. -/
def blendBits : List (Int32 × PorterDuff) :=
  [(0, .src), (imAlphaBlendSrc, .src), (imAlphaBlendDst, .dst), (imAlphaBlendSrcOver, .srcOver),
    (imAlphaBlendDstOver, .dstOver), (imAlphaBlendSrcIn, .srcIn), (imAlphaBlendDstIn, .dstIn),
    (imAlphaBlendSrcOut, .srcOut), (imAlphaBlendDstOut, .dstOut), (imAlphaBlendSrcAtop, .srcAtop),
    (imAlphaBlendDstAtop, .dstAtop), (imAlphaBlendXor, .xor)]

def namedTransform (usage : Int32) : Option Transform :=
  match turnBits.lookup (usage &&& imHalTransformRotMask),
      flipBits.lookup (usage &&& imHalTransformFlipMask) with
  | some turn, some (flipH, flipV) => some ⟨turn, flipH, flipV⟩
  | _, _ => none

def namedBlend (usage : Int32) : Option PorterDuff :=
  blendBits.lookup (usage &&& imAlphaBlendMask)

/-! What is performed -/

/-- `rotate_mode` holds a mirror alone in its low half, and beside a rotation in its high half. -/
def mirrorOf (half : UInt8) : Option (Bool × Bool) :=
  [((0 : UInt8), false, false), (2, true, false), (3, false, true), (4, true, true)].lookup half

def angleOf (sina cosa : Int32) : Option Orientation :=
  [Orientation.deg0, .deg90, .deg180, .deg270].find? fun angle =>
    sinaTable angle == sina && cosaTable angle == cosa

def Registers.transform (registers : Registers) : Option Transform :=
  let low := registers.rotateMode &&& (0xf : UInt8)
  match mirrorOf (registers.rotateMode >>> (4 : UInt8)) with
  | none => none
  | some (mirrorH, mirrorV) =>
      if low = 1 then
        (angleOf registers.sina registers.cosa).map fun turn => ⟨turn, mirrorH, mirrorV⟩
      else (mirrorOf low).map fun flip => ⟨.deg0, flip.1 != mirrorH, flip.2 != mirrorV⟩

def pdModes : List (UInt8 × PorterDuff) :=
  [(1, .src), (2, .dst), (3, .srcOver), (4, .dstOver), (5, .srcIn), (6, .dstIn), (7, .srcOut),
    (8, .dstOut), (9, .srcAtop), (10, .dstAtop), (11, .xor)]

/-- Of `alpha_rop_flag` the bits 0 and 3 enable the blend, bit 1 would make it a ROP. -/
def Registers.blends (registers : Registers) : Bool :=
  registers.alphaRopFlag &&& (0xb : UInt16) == 0x9

def Registers.blend (registers : Registers) : Option PorterDuff :=
  if registers.blends then pdModes.lookup registers.pdMode else some .src

def PlacedAs (img : RgaImgInfo) (rect : RgaRect) (quarter : Bool) : Prop :=
  img.xOffset = toU16 rect.xoffset ∧ img.yOffset = toU16 rect.yoffset ∧
    img.actW = toU16 (if quarter then rect.height else rect.width) ∧
    img.actH = toU16 (if quarter then rect.width else rect.height)

structure Realises (usage : Int32) (rect : RgaRect) (req : RgaReq) : Prop where
  transform : ∃ transform, namedTransform usage = some transform ∧
    req.registers.transform = some transform ∧ PlacedAs req.dst rect transform.quarter
  blend : ∃ mode, namedBlend usage = some mode ∧ req.registers.blend = some mode

/-! Rotation -/

def rotationWord (turn flip : Int32) : Int32 :=
  let rotation : Int32 :=
    if turn = imHalTransformRot90 then halTransformRot90
    else if turn = imHalTransformRot180 then halTransformRot180
    else if turn = imHalTransformRot270 then halTransformRot270
    else 0
  let mirror : Int32 :=
    if flip = imHalTransformFlipV then halTransformFlipV
    else if flip = imHalTransformFlipH then halTransformFlipH
    else if flip = imHalTransformFlipHV then halTransformFlipHV
    else 0
  if rotation ≠ 0 then rotation ||| (mirror <<< (4 : Int32)) else rotation ||| mirror

theorem taskRotation_eq (usage : Int32) :
    taskRotation usage =
      rotationWord (usage &&& imHalTransformRotMask) (usage &&& imHalTransformFlipMask) := by
  unfold taskRotation
  split
  · rfl
  · rename_i none
    have clear : usage &&& imHalTransformMask = 0 := by simpa [has] using none
    have turn : usage &&& imHalTransformRotMask = 0 := by
      have within : imHalTransformRotMask = imHalTransformMask &&& imHalTransformRotMask := by
        decide
      rw [within, ← Int32.and_assoc, clear, Int32.zero_and]
    have flip : usage &&& imHalTransformFlipMask = 0 := by
      have within : imHalTransformFlipMask = imHalTransformMask &&& imHalTransformFlipMask := by
        decide
      rw [within, ← Int32.and_assoc, clear, Int32.zero_and]
    rw [turn, flip]
    decide

def turnRegisters (turn : Turn) : Registers :=
  { rotateMode := toU8 turn.rotateMode
    sina := sinaTable turn.orientation
    cosa := cosaTable turn.orientation }

theorem mapped_turns : ∀ turn ∈ turnBits, ∀ flip ∈ flipBits, ∀ stretch : Bool,
    let decoded := turnOf (rotationWord turn.1 flip.1) stretch
    (turnRegisters decoded).transform = some ⟨turn.2, flip.2.1, flip.2.2⟩ ∧
      decoded.swapped = (⟨turn.2, flip.2.1, flip.2.2⟩ : Transform).quarter := by
  decide +kernel

theorem named_turn {usage : Int32} {transform : Transform}
    (named : namedTransform usage = some transform) (stretch : Bool) :
    (turnRegisters (turnOf (taskRotation usage) stretch)).transform = some transform ∧
      (turnOf (taskRotation usage) stretch).swapped = transform.quarter := by
  unfold namedTransform at named
  split at named
  · rename_i turn flipH flipV turnFound flipFound
    cases named
    have turnListed : (usage &&& imHalTransformRotMask, turn) ∈ turnBits := by
      obtain ⟨_, _, split, _⟩ := List.lookup_eq_some_iff.mp turnFound
      rw [split]
      simp
    have flipListed : (usage &&& imHalTransformFlipMask, flipH, flipV) ∈ flipBits := by
      obtain ⟨_, _, split, _⟩ := List.lookup_eq_some_iff.mp flipFound
      rw [split]
      simp
    rw [taskRotation_eq]
    exact mapped_turns _ turnListed _ flipListed stretch
  · cases named

/-! Blending -/

theorem shifted_code (value shift : UInt32) (high : shift = 16 ∨ shift = 24) :
    (value <<< shift) &&& (0xfff : UInt32) = 0 := by
  apply UInt32.toNat_inj.mp
  rw [UInt32.toNat_and, UInt32.toNat_shiftLeft]
  have low (number : Nat) : number &&& (0xfff : UInt32).toNat = number % 4096 :=
    Nat.and_two_pow_sub_one_eq_mod number 12
  rw [low, Nat.shiftLeft_eq]
  obtain rfl | rfl := high
  · have sixteen : 2 ^ ((16 : UInt32).toNat % 32) = 65536 := by decide
    rw [sixteen, UInt32.toNat_zero]
    omega
  · have twentyFour : 2 ^ ((24 : UInt32).toNat % 32) = 16777216 := by decide
    rw [twentyFour, UInt32.toNat_zero]
    omega

def blendCodes : List UInt32 :=
  [0, 1, 2, 3, 4, 5, 6, 7, 8, 9, 10, 11]

theorem taskBlendCode_small (usage : Int32) : taskBlendCode usage ∈ blendCodes := by
  have chosen (mode : Prop) [Decidable mode] {code other : UInt32} (known : code ∈ blendCodes)
      (rest : other ∈ blendCodes) : (if mode then code else other) ∈ blendCodes := by
    split
    · exact known
    · exact rest
  unfold taskBlendCode
  repeat' apply chosen
  all_goals decide

theorem taskBlendCode_low (usage : Int32) :
    taskBlendCode usage &&& (0xfff : UInt32) = taskBlendCode usage := by
  have narrow : ∀ code ∈ blendCodes, code &&& (0xfff : UInt32) = code := by decide
  exact narrow _ (taskBlendCode_small usage)

/-- The code that ends in the blend word: a colour key without a blend copies. -/
def blendCode (usage : Int32) : UInt32 :=
  let code := if has usage imAlphaBlendMask then taskBlendCode usage else 0
  if has usage imAlphaColorkeyMask && code == 0 then 1 else code

theorem low_or (first second : UInt32) :
    (first ||| second) &&& (0xfff : UInt32) =
      (first &&& (0xfff : UInt32)) ||| (second &&& (0xfff : UInt32)) := by
  apply UInt32.toBitVec_inj.mp
  simp only [UInt32.toBitVec_or, UInt32.toBitVec_and, BitVec.and_or_distrib_right]

theorem taskBlend_code (usage srcAlpha dstAlpha : Int32) :
    taskBlend usage srcAlpha dstAlpha &&& (0xfff : UInt32) = blendCode usage := by
  have fg := shifted_code (srcAlpha.toUInt32 &&& (0xff : UInt32)) 16 (.inl rfl)
  have bg := shifted_code (dstAlpha.toUInt32 &&& (0xff : UInt32)) 24 (.inr rfl)
  have pre : (if has usage imAlphaBlendPreMul then (0x1000 : UInt32) else 0) &&& (0xfff : UInt32) =
      0 := by
    split <;> decide
  let blended : UInt32 :=
    if has usage imAlphaBlendMask then
      taskBlendCode usage ||| (if has usage imAlphaBlendPreMul then 0x1000 else 0) |||
        ((srcAlpha.toUInt32 &&& (0xff : UInt32)) <<< (16 : UInt32)) |||
        ((dstAlpha.toUInt32 &&& (0xff : UInt32)) <<< (24 : UInt32))
    else 0
  let code := if has usage imAlphaBlendMask then taskBlendCode usage else 0
  have low : blended &&& (0xfff : UInt32) = code := by
    unfold blended code
    split
    · simp only [low_or, fg, bg, pre, taskBlendCode_low, UInt32.or_zero]
    · decide
  have keyed : (if has usage imAlphaColorkeyMask && !hasBit blended 0xfff then
      blended ||| (0xffff1001 : UInt32) else blended) &&& (0xfff : UInt32) = blendCode usage := by
    have clear : (!hasBit blended 0xfff) = (code == 0) := by
      rw [hasBit, low, bne, Bool.not_not]
    have one : (0xffff1001 : UInt32) &&& (0xfff : UInt32) = 1 := by decide
    rw [clear, apply_ite (· &&& (0xfff : UInt32)), low_or, low, one]
    show _ = if has usage imAlphaColorkeyMask && code == 0 then 1 else code
    split
    · rename_i both
      have zero : code = 0 := by simpa using (Bool.and_eq_true_iff.mp both).2
      rw [zero]
      decide
    · rfl
  show (if has usage imGauss then (if has usage imAlphaColorkeyMask && !hasBit blended 0xfff then
      blended ||| (0xffff1001 : UInt32) else blended) |||
        ((srcAlpha.toUInt32 &&& (0xff : UInt32)) <<< (16 : UInt32))
    else if has usage imAlphaColorkeyMask && !hasBit blended 0xfff then
      blended ||| (0xffff1001 : UInt32) else blended) &&& (0xfff : UInt32) = blendCode usage
  split
  · rw [low_or, keyed, fg, UInt32.or_zero]
  · exact keyed

theorem taskBlendCode_masked (usage : Int32) :
    taskBlendCode usage = taskBlendCode (usage &&& imAlphaBlendMask) := by
  unfold taskBlendCode
  rw [Int32.and_assoc, Int32.and_self]

theorem blendCode_table : ∀ bits ∈ blendBits, ∀ key : Bool,
    let code := if bits.1 != 0 then taskBlendCode bits.1 else 0
    let code := if key && code == 0 then 1 else code
    (code = 0 → bits.2 = .src) ∧ (code ≠ 0 → pdModes.lookup code.toUInt8 = some bits.2) := by
  decide +kernel

theorem blendCode_named {usage : Int32} {mode : PorterDuff}
    (named : namedBlend usage = some mode) :
    (blendCode usage = 0 → mode = .src) ∧
      (blendCode usage ≠ 0 → pdModes.lookup (blendCode usage).toUInt8 = some mode) := by
  have listed : (usage &&& imAlphaBlendMask, mode) ∈ blendBits := by
    obtain ⟨_, _, split, _⟩ := List.lookup_eq_some_iff.mp named
    rw [split]
    simp
  have table := blendCode_table _ listed (has usage imAlphaColorkeyMask)
  dsimp only at table
  rw [← taskBlendCode_masked] at table
  exact table

theorem blendCode_small (usage : Int32) : blendCode usage ∈ blendCodes := by
  have small := taskBlendCode_small usage
  unfold blendCode
  dsimp only
  split_ifs
  · decide
  · exact small
  · decide
  · decide

theorem blendWords_plain {blend : UInt32} (small : blend &&& (0xfff : UInt32) ∈ blendCodes) :
    (blendWords blend).blend = blend := by
  have apart : ∀ code ∈ blendCodes,
      code ≠ 0x405 ∧ code ≠ 0x504 ∧ code ≠ 0x105 ∧ code ≠ 0x501 ∧ code ≠ 0x100 := by decide
  obtain ⟨first, second, third, fourth, fifth⟩ := apart _ small
  unfold blendWords
  dsimp only
  rw [if_neg first, if_neg second, if_neg third, if_neg fourth, if_neg fifth]

-- the two features that are assigned the word switch the blend off
theorem blends_flags (on multiplied byFormat nn dither rop key : Bool) :
    let flag : UInt16 := if on then if multiplied then 0x219 else 0x19 else 0
    let flag := if byFormat then flag ||| (0x20 : UInt16) else flag
    let flag := if nn then flag ||| (0x100 : UInt16) else flag
    let flag := if dither then 0x21 else flag
    let flag := if rop then 0x3 else flag
    let flag := if key then flag ||| (0x200 : UInt16) else flag
    (flag &&& (0xb : UInt16) == 0x9) = (on && !(dither || rop)) := by
  decide +revert

/-! A built blit -/

def blendErased (src dst : RgaInfo) : Bool :=
  dst.dither.enable = 1 || 0 < src.ropCode

theorem blitRegisters_blend {plan : BlitPlan} (mode : AddressMode) {code : UInt32}
    (low : plan.src.info.blend &&& (0xfff : UInt32) = code) (small : code ∈ blendCodes) :
    (blitRegisters plan mode).blend =
      if code != 0 && !blendErased plan.src.info plan.dst.info then pdModes.lookup code.toUInt8
      else some .src := by
  have on : hasBit plan.src.info.blend 0xfff = (code != 0) := by
    rw [hasBit, low]
  have word := blendWords_plain (low.symm ▸ small)
  have flags : (blitRegisters plan mode).blends =
      (code != 0 && !blendErased plan.src.info plan.dst.info) := by
    have table := blends_flags (hasBit plan.src.info.blend 0xfff)
      (hasBit (blendWords plan.src.info.blend).blend 0x1000) (blitDithers plan)
      (decide (plan.dst.info.nn.nnFlag = 1)) (decide (plan.dst.info.dither.enable = 1))
      (decide (0 < plan.src.info.ropCode)) (decide (plan.src.info.colorkeyEn = 1))
    rw [← on]
    unfold Registers.blends blitRegisters blitFlags blendFlags blendErased
    dsimp only
    simpa only [decide_eq_true_eq] using table
  unfold Registers.blend
  rw [flags]
  split
  · rename_i blends
    have set : hasBit plan.src.info.blend 0xfff = true := by
      rw [on]
      exact (Bool.and_eq_true_iff.mp blends).1
    have pd : (blitRegisters plan mode).pdMode = code.toUInt8 := by
      show blendPdMode plan.src.info.blend = code.toUInt8
      rw [blendPdMode, if_pos set, word, low]
    rw [pd]
  · rfl

theorem blit_blend_iff {plan : BlitPlan} (addresses : AddressMode) {usage : Int32}
    {mode : PorterDuff} (named : namedBlend usage = some mode)
    (low : plan.src.info.blend &&& (0xfff : UInt32) = blendCode usage) :
    (blitRegisters plan addresses).blend = some mode ↔
      (blendErased plan.src.info plan.dst.info = true → mode = .src) := by
  obtain ⟨off, on⟩ := blendCode_named named
  rw [blitRegisters_blend addresses low (blendCode_small usage)]
  by_cases zero : blendCode usage = 0
  · have copy := off zero
    rw [zero, copy]
    simp
  · rw [on zero]
    cases blendErased plan.src.info plan.dst.info with
    | true => simp [eq_comm]
    | false => simp [zero]

theorem blit_realises_iff {session : RgaSession} {src dst : RgaInfo} {src1 : Option RgaInfo}
    {req : RgaReq} (usage : Int32) (built : generateBlitReq session src dst src1 = .ok req)
    (rotation : src.rotation = taskRotation usage)
    (low : src.blend &&& (0xfff : UInt32) = blendCode usage) :
    Realises usage (relRect dst.rect) req ↔
      (namedTransform usage).isSome = true ∧
        ∃ mode, namedBlend usage = some mode ∧ (blendErased src dst = true → mode = .src) := by
  obtain ⟨plan, planned, registers⟩ := generateBlitReq_registers built
  obtain ⟨same, again, finished⟩ := generateBlitReq_finished built
  rw [planned] at again
  cases again
  have facts := planBlit_planned planned
  have source : plan.src.info = src := (openChannel_ok facts.src).1
  have target : plan.dst.info = dst := (openChannel_ok facts.dst).1
  have turn : plan.src.info.rotation = taskRotation usage := by rw [source, rotation]
  have code : plan.src.info.blend &&& (0xfff : UInt32) = blendCode usage := by rw [source, low]
  have placed : PlacedAs req.dst (relRect dst.rect)
      (turnOf plan.src.info.rotation plan.stretch).swapped := by
    obtain ⟨_, tagged⟩ := finished.dst
    rw [tagged, ← facts.rects_eq.2.1]
    exact ⟨rfl, rfl, rfl, rfl⟩
  rw [turn] at placed
  have turned : req.registers.transform =
      (turnRegisters (turnOf (taskRotation usage) plan.stretch)).transform := by
    rw [registers, ← turn]
    rfl
  constructor
  · rintro ⟨⟨transform, named, _⟩, mode, namedMode, blends⟩
    rw [registers, blit_blend_iff _ namedMode code, source, target] at blends
    exact ⟨Option.isSome_iff_exists.mpr ⟨transform, named⟩, mode, namedMode, blends⟩
  · rintro ⟨some, mode, namedMode, erased⟩
    obtain ⟨transform, named⟩ := Option.isSome_iff_exists.mp some
    obtain ⟨performed, swapped⟩ := named_turn named plan.stretch
    rw [swapped] at placed
    refine ⟨⟨transform, named, turned.trans performed, placed⟩, mode, namedMode, ?_⟩
    rw [registers, blit_blend_iff _ namedMode code, source, target]
    exact erased

/-! Requests that neither turn nor blend -/

theorem idle_realises_iff {usage : Int32} {rect : RgaRect} {req : RgaReq}
    (transform : req.registers.transform = some {}) (blend : req.registers.blend = some .src) :
    Realises usage rect req ↔
      (namedTransform usage = some {} ∧ namedBlend usage = some .src) ∧
        PlacedAs req.dst rect false := by
  constructor
  · rintro ⟨⟨named, namedEq, performed, placed⟩, mode, modeEq, blends⟩
    rw [transform, Option.some.injEq] at performed
    rw [blend, Option.some.injEq] at blends
    subst performed blends
    exact ⟨⟨namedEq, modeEq⟩, placed⟩
  · rintro ⟨⟨named, mode⟩, placed⟩
    exact ⟨⟨{}, named, transform, placed⟩, .src, mode, blend⟩

theorem idle_registers (clip : Rect) (mmu : Mmu) :
    ({ clip := clip, mmuInfo := mmu } : Registers).transform = some {} ∧
      ({ clip := clip, mmuInfo := mmu } : Registers).blend = some .src := by
  have still : ((0 : UInt16) &&& (0xb : UInt16) == 0x9) = false := by decide
  have unmirrored : mirrorOf ((0 : UInt8) >>> (4 : UInt8)) = some (false, false) := by decide
  constructor
  · unfold Registers.transform
    dsimp only
    rw [unmirrored]
    dsimp only
    rw [if_neg (by decide)]
    decide
  · unfold Registers.blend Registers.blends
    rw [still]
    rfl

theorem fill_realises_iff {mode : AddressMode} {dst : RgaInfo} {req : RgaReq} {usage : Int32}
    (built : fillReq mode dst = .ok req) :
    Realises usage (relRect dst.rect) req ↔
      namedTransform usage = some {} ∧ namedBlend usage = some .src := by
  obtain ⟨mmu, registers⟩ := fillReq_registers built
  obtain ⟨_, _, finished⟩ := fillReq_finished built
  obtain ⟨transform, blend⟩ := idle_registers (fillClip (relRect dst.rect)) mmu
  rw [← registers] at transform blend
  have placed : PlacedAs req.dst (relRect dst.rect) false := by
    obtain ⟨_, tagged⟩ := finished.dst
    rw [tagged]
    exact ⟨rfl, rfl, rfl, rfl⟩
  rw [idle_realises_iff transform blend, and_iff_left placed]

theorem palette_realises_iff {session : RgaSession} {src dst lut : RgaInfo} {lutRet : Int32}
    {req : RgaReq} {usage : Int32}
    (built : (generateColorPaletteReq session src dst lut lutRet).2 = .ok req) :
    Realises usage (relRect dst.rect) req ↔
      namedTransform usage = some {} ∧ namedBlend usage = some .src := by
  obtain ⟨plan, mmu, planned, registers⟩ := generateColorPaletteReq_registers built
  obtain ⟨same, again, finished, _⟩ := generateColorPaletteReq_finished built
  rw [planned] at again
  cases again
  obtain ⟨transform, blend⟩ := idle_registers (dstClip plan.dst.rect) mmu
  rw [← registers] at transform blend
  have placed : PlacedAs req.dst (relRect dst.rect) false := by
    obtain ⟨_, tagged⟩ := finished.dst
    rw [tagged, ← (openChannel_ok (planPalette_ok planned).2.2.1).2.1]
    exact ⟨rfl, rfl, rfl, rfl⟩
  rw [idle_realises_iff transform blend, and_iff_left placed]

/-! A submission -/

structure UsageSettled (session : RgaSession) (env : TaskEnv) (manager : JobManager RgaReq)
    (args : TaskArgs) : Prop where
  realised : ∀ req ∈ drawn (rgaTaskSubmit session env manager args),
    Realises args.usage (channelRect args.drect (settledBuffers args).dst) req
  refused : namedTransform args.usage = none ∨ namedBlend args.usage = none →
    (rgaTaskSubmit session env manager args).status.ok = false

def NamesNothing (usage : Int32) : Prop :=
  namedTransform usage = some {} ∧ namedBlend usage = some .src

/-- A ROP, or the dither table of a Y4 or Y8 destination. -/
def erasesBlend (args : TaskArgs) (buffers : TaskBuffers) : Bool :=
  (taskDither buffers.dst).enable = 1 ||
    (has args.usage imRop && 0 < (rgaGetOpt args.opt).ropCode)

/-- Only blits turn and blend, and a blend must not meet a feature that erases its flags. A blit
that is sent blank can stand for nothing but an empty rectangle. -/
def UsageFits (session : RgaSession) (args : TaskArgs) (buffers : TaskBuffers) : Prop :=
  if taskPath args = .fill ∨ taskPath args = .palette then NamesNothing args.usage
  else
    (StaleReturn session args →
      NamesNothing args.usage ∧ PlacedAs {} (channelRect args.drect buffers.dst) false) ∧
    (¬ StaleReturn session args →
      (namedTransform args.usage).isSome = true ∧
        ∃ mode, namedBlend args.usage = some mode ∧
          (erasesBlend args buffers = true → mode = .src))

section Task

variable {session : RgaSession} {env : TaskEnv} {manager : JobManager RgaReq} {args : TaskArgs}
  {buffers : TaskBuffers} {mode : Int32}

theorem blendErased_task :
    blendErased (taskSrcInfo env args buffers) (taskDstInfo env args buffers mode) =
      erasesBlend args buffers := by
  unfold blendErased erasesBlend
  show (decide ((taskDither buffers.dst).enable = 1) ||
    decide (0 < if has args.usage imRop then (rgaGetOpt args.opt).ropCode else 0)) = _
  cases has args.usage imRop <;> simp

theorem usage_realised_iff {req : RgaReq} (accepted : Accepted session args buffers mode)
    (fence : lacksFence args = false)
    (builds : builtReq (taskBuilt session env args buffers mode).2 = some req) :
    Realises args.usage (channelRect args.drect buffers.dst) req ↔
      UsageFits session args buffers := by
  have blits {third : Option RgaInfo}
      (built : generateBlitReq session (taskSrcInfo env args buffers)
        (taskDstInfo env args buffers mode) third = .ok req) :
      Realises args.usage (channelRect args.drect buffers.dst) req ↔
        (namedTransform args.usage).isSome = true ∧
          ∃ mode, namedBlend args.usage = some mode ∧
            (erasesBlend args buffers = true → mode = .src) := by
    have realised := blit_realises_iff args.usage built rfl (taskBlend_code _ _ _)
    rw [blendErased_task] at realised
    exact realised
  unfold UsageFits
  obtain built | ⟨exit, exits, stale, rfl⟩ := builtReq_eq_some builds
  · have fresh := fresh_of_built accepted built
    simp only [taskBuilt] at built
    cases path : taskPath args with
    | fill =>
        rw [path] at built
        rw [if_pos (.inl rfl)]
        exact fill_realises_iff built
    | palette =>
        rw [path] at built
        rw [if_pos (.inr rfl)]
        exact palette_realises_iff built
    | blend =>
        rw [path] at built
        rw [if_neg (by simp), blits built]
        exact ⟨fun fits => ⟨fun returns => absurd returns fresh, fun _ => fits⟩,
          fun fits => fits.2 fresh⟩
    | blit =>
        rw [path] at built
        rw [if_neg (by simp), blits built]
        exact ⟨fun fits => ⟨fun returns => absurd returns fresh, fun _ => fits⟩,
          fun fits => fits.2 fresh⟩
  · have returns : StaleReturn session args := by
      by_contra fresh
      exact stale (fillsRequest_iff.mpr fresh buffers mode exit accepted fence exits)
    have path : ¬(taskPath args = .fill ∨ taskPath args = .palette) := by
      obtain blit | blend := returns.blits
      · simp [blit]
      · simp [blend]
    have transform : (RgaReq.registers {}).transform = some {} := by decide
    have blend : (RgaReq.registers {}).blend = some .src := by decide
    rw [if_neg path, idle_realises_iff transform blend]
    exact ⟨fun fits => ⟨fun _ => fits, fun fresh => absurd returns fresh⟩,
      fun fits => fits.1 returns⟩

end Task

/-- Every accepted usage word is realised, or refused, exactly when its bits have one meaning and
the path taken has room for it. -/
theorem usage_settled_iff (session : RgaSession) (env : TaskEnv) (manager : JobManager RgaReq)
    (args : TaskArgs) :
    UsageSettled session env manager args ↔
      ∀ buffers mode, Paints session env manager args buffers mode →
        UsageFits session args buffers := by
  have each := drawn_forall_iff env manager
    (P := Realises args.usage (channelRect args.drect (settledBuffers args).dst))
    (Q := fun buffers => UsageFits session args buffers)
    fun buffers mode req accepted fence builds => by
      rw [← accepted.buffers_eq]
      exact usage_realised_iff accepted fence builds
  refine ⟨fun settled => each.mp settled.realised, fun fits => ?_⟩
  have realised := each.mpr fits
  refine ⟨realised, fun unnamed => not_ok_of_undrawn fun req painted => ?_⟩
  obtain ⟨⟨_, named, _⟩, _, namedMode, _⟩ := realised req painted
  obtain missing | missing := unnamed
  · rw [missing] at named
    cases named
  · rw [missing] at namedMode
    cases namedMode

def turnedCopy (usage : Int32) : TaskArgs :=
  { src := importedBuffer 1
    dst := importedBuffer 2
    opt := some {}
    usage := usage ||| imSync }

/-- Two rotations give none, and two blend modes a plain copy. -/
theorem usage_dropped :
    let turns := turnedCopy (imHalTransformRot90 ||| imHalTransformRot180)
    let blends := turnedCopy (imAlphaBlendDst ||| imAlphaBlendXor)
    let submit := rgaTaskSubmit rga2ProSession {} emptyManager
    (submit turns).status = .success ∧
      (drawn (submit turns)).map (fun req => req.registers.transform) = [some {}] ∧
      ¬ UsageSettled rga2ProSession {} emptyManager turns ∧
      (submit blends).status = .success ∧
      (drawn (submit blends)).map (fun req => req.registers.blend) = [some .src] ∧
      ¬ UsageSettled rga2ProSession {} emptyManager blends := by
  intro turns blends submit
  have turned : (submit turns).status = .success := by decide +kernel
  have blended : (submit blends).status = .success := by decide +kernel
  refine ⟨turned, by decide +kernel, fun settled => ?_, blended, by decide +kernel,
    fun settled => ?_⟩
  · have refused := settled.refused (.inl (by decide))
    exact absurd refused (by rw [turned]; decide)
  · have refused := settled.refused (.inr (by decide))
    exact absurd refused (by rw [blended]; decide)

end LibRga
