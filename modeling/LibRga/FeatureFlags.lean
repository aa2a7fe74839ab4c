import LibRga.Interpolation

/-!
The features that share `alpha_rop_flag`: which of them survive in one request.
-/

namespace LibRga

section Flags

variable (src dst : RgaInfo)

/-- By the table of the options, or by the formats. -/
def dithers : Bool :=
  dst.dither.enable = 1 ||
    blitDither (rkRgaCompatibleFormat src.rect.format) (rkRgaCompatibleFormat dst.rect.format)

def requestedFlags : UInt16 :=
  blendFlags src.blend ||| (if 0 < src.ropCode then 0x2 else 0) |||
    (if dithers src dst then 0x20 else 0) ||| (if dst.nn.nnFlag = 1 then 0x100 else 0) |||
    (if src.colorkeyEn = 1 then 0x200 else 0)

/-- A feature that is assigned the word has no company but the colour key, which comes last. -/
structure FlagsCompose : Prop where
  rop : 0 < src.ropCode →
    hasBit src.blend 0xfff = false ∧ dithers src dst = false ∧ dst.nn.nnFlag ≠ 1
  dither : dst.dither.enable = 1 → hasBit src.blend 0xfff = false ∧ dst.nn.nnFlag ≠ 1

theorem flagsCompose_iff :
    FlagsCompose src dst ↔
      (0 < src.ropCode →
        hasBit src.blend 0xfff = false ∧ dithers src dst = false ∧ dst.nn.nnFlag ≠ 1) ∧
      (dst.dither.enable = 1 → hasBit src.blend 0xfff = false ∧ dst.nn.nnFlag ≠ 1) :=
  ⟨fun ⟨rop, dither⟩ => ⟨rop, dither⟩, fun ⟨rop, dither⟩ => ⟨rop, dither⟩⟩

instance : Decidable (FlagsCompose src dst) :=
  decidable_of_iff _ (flagsCompose_iff src dst).symm

end Flags

-- the whole table of the features
theorem composed_flags (blends multiplied byFormat rop nn dither key : Bool) :
    let blend : UInt16 := if blends then if multiplied then 0x219 else 0x19 else 0
    let wanted := blend ||| (if rop then 0x2 else 0) |||
      (if dither || byFormat then 0x20 else 0) ||| (if nn then 0x100 else 0) |||
      (if key then 0x200 else 0)
    let flag := if byFormat then blend ||| (0x20 : UInt16) else blend
    let flag := if nn then flag ||| (0x100 : UInt16) else flag
    let flag := if dither then 0x21 else flag
    let flag := if rop then 0x3 else flag
    let flag := if key then flag ||| (0x200 : UInt16) else flag
    flag &&& wanted = wanted ↔
      (rop = true → blends = false ∧ (dither || byFormat) = false ∧ nn = false) ∧
      (dither = true → blends = false ∧ nn = false) := by
  decide +revert

section Blit

variable {session : RgaSession} {src dst : RgaInfo} {src1 : Option RgaInfo} {req : RgaReq}

theorem alphaRopFlag_built (built : generateBlitReq session src dst src1 = .ok req) :
    ∃ plan, planBlit session src dst src1 = .ok plan ∧ plan.src.info = src ∧
      plan.dst.info = dst ∧ req.alphaRopFlag = blitFlags plan ∧
      blitDithers plan = blitDither (rkRgaCompatibleFormat src.rect.format)
        (rkRgaCompatibleFormat dst.rect.format) := by
  obtain ⟨plan, planned, registers⟩ := generateBlitReq_registers built
  have facts := planBlit_planned planned
  obtain ⟨srcInfo, srcRect, _⟩ := openChannel_ok facts.src
  obtain ⟨dstInfo, dstRect, _⟩ := openChannel_ok facts.dst
  refine ⟨plan, planned, srcInfo, dstInfo, congrArg Registers.alphaRopFlag registers, ?_⟩
  unfold blitDithers
  rw [srcRect, dstRect]
  rfl

/-- The flags of all requested features are there exactly when none of them erases another. -/
theorem alphaRopFlag_complete_iff (built : generateBlitReq session src dst src1 = .ok req) :
    req.alphaRopFlag &&& requestedFlags src dst = requestedFlags src dst ↔
      FlagsCompose src dst := by
  obtain ⟨plan, _, srcInfo, dstInfo, flags, formats⟩ := alphaRopFlag_built built
  have core := composed_flags (hasBit src.blend 0xfff)
    (hasBit (blendWords src.blend).blend 0x1000)
    (blitDither (rkRgaCompatibleFormat src.rect.format) (rkRgaCompatibleFormat dst.rect.format))
    (decide (0 < src.ropCode)) (decide (dst.nn.nnFlag = 1)) (decide (dst.dither.enable = 1))
    (decide (src.colorkeyEn = 1))
  rw [flags, flagsCompose_iff]
  unfold blitFlags requestedFlags blendFlags dithers
  dsimp only
  rw [formats, srcInfo, dstInfo]
  simpa only [decide_eq_true_eq, decide_eq_false_iff_not] using core

end Blit

def blendedInfo : RgaInfo :=
  { squareInfo 1 64 with blend := 0x1405, colorkeyEn := 1 }

def quantizedInfo : RgaInfo :=
  { squareInfo 2 64 with nn := { nnFlag := 1 } }

theorem alphaRopFlag_complete_quantized :
    ∃ req, generateBlitReq rga2ProSession blendedInfo quantizedInfo none = .ok req ∧
      req.alphaRopFlag &&& requestedFlags blendedInfo quantizedInfo =
        requestedFlags blendedInfo quantizedInfo := by
  obtain ⟨req, built, _⟩ := Result.exists_ok_of_any
    (generateBlitReq rga2ProSession blendedInfo quantizedInfo none) (fun _ => true)
    (by decide +kernel)
  exact ⟨req, built, (alphaRopFlag_complete_iff built).mpr (by decide +kernel)⟩

def ropInfo : RgaInfo :=
  { blendedInfo with ropCode := 0xcc }

theorem alphaRopFlag_erased :
    ∃ req, generateBlitReq rga2ProSession ropInfo quantizedInfo none = .ok req ∧
      ¬ req.alphaRopFlag &&& requestedFlags ropInfo quantizedInfo =
        requestedFlags ropInfo quantizedInfo := by
  obtain ⟨req, built, flag⟩ := Result.exists_ok_of_any
    (generateBlitReq rga2ProSession ropInfo quantizedInfo none)
    (fun req => req.alphaRopFlag == 0x203) (by decide +kernel)
  refine ⟨req, built, fun complete => ?_⟩
  rw [beq_iff_eq.mp flag] at complete
  exact absurd complete (by decide +kernel)

end LibRga
