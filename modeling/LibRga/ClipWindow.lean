import LibRga.Bounds
import LibRga.Registers

/-!
The clip window of a request beside the rectangle that its caller asked for.

Blits and palettes clip at the strides of the destination, fills at the size of
the rectangle, both from the origin of the picture.
-/

namespace LibRga

def BuilderCall.dst : BuilderCall → RgaInfo
  | blit _ _ dst _ => dst
  | fill _ dst => dst
  | palette _ _ dst _ _ => dst
  | legacyBlit _ _ dst _ => dst
  | legacyFill _ dst => dst

/-- Every pixel of the rectangle, in integers that do not wrap, is inside of the window. -/
def ClipContains (clip : Rect) (rect : RgaRect) : Prop :=
  ∀ column row : Int,
    rect.xoffset.toInt ≤ column → column < rect.xoffset.toInt + rect.width.toInt →
    rect.yoffset.toInt ≤ row → row < rect.yoffset.toInt + rect.height.toInt →
      clip.xmin.toNat ≤ column ∧ column ≤ clip.xmax.toNat ∧
        clip.ymin.toNat ≤ row ∧ row ≤ clip.ymax.toNat

theorem clipContains_iff {clip : Rect} {rect : RgaRect} :
    ClipContains clip rect ↔
      rect.width.toInt ≤ 0 ∨ rect.height.toInt ≤ 0 ∨
        (clip.xmin.toNat ≤ rect.xoffset.toInt ∧
          rect.xoffset.toInt + rect.width.toInt ≤ clip.xmax.toNat + 1) ∧
        (clip.ymin.toNat ≤ rect.yoffset.toInt ∧
          rect.yoffset.toInt + rect.height.toInt ≤ clip.ymax.toNat + 1) := by
  constructor
  · intro contains
    by_cases wide : rect.width.toInt ≤ 0
    · exact .inl wide
    by_cases high : rect.height.toInt ≤ 0
    · exact .inr (.inl high)
    have first := contains rect.xoffset.toInt rect.yoffset.toInt (by omega) (by omega) (by omega)
      (by omega)
    have last := contains (rect.xoffset.toInt + rect.width.toInt - 1)
      (rect.yoffset.toInt + rect.height.toInt - 1) (by omega) (by omega) (by omega) (by omega)
    omega
  · rintro inside column row left right top bottom
    omega

theorem toU16_pred (value : Int32) :
    ((toU16 (value - 1)).toNat : Int) = (value.toInt - 1) % 65536 := by
  have one : (1 : Int32).toInt = 1 := by decide
  rw [toU16_emod, Int32.toInt_sub, one, Int.bmod_def]
  split <;> omega

/-- One axis of a window that ends at the stride. -/
def StrideClips (offset length stride : Int) : Prop :=
  if stride ≤ 65536 then offset + length < 2 ^ 31
  else offset + length ≤ (stride - 1) % 65536 + 1

/-- One axis of a window that ends at the length. -/
def LengthClips (offset length : Int) : Prop :=
  offset = 0 ∧ length ≤ 65536

def BuilderCall.ClipFits (call : BuilderCall) : Prop :=
  let rect := relRect call.dst.rect
  match call with
  | fill .. | legacyFill .. =>
      rect.width.toInt ≤ 0 ∨ rect.height.toInt ≤ 0 ∨
        LengthClips rect.xoffset.toInt rect.width.toInt ∧
          LengthClips rect.yoffset.toInt rect.height.toInt
  | _ =>
      StrideClips rect.xoffset.toInt rect.width.toInt rect.wstride.toInt ∧
        StrideClips rect.yoffset.toInt rect.height.toInt rect.hstride.toInt

theorem strideClips_iff {offset length stride : Int32} (low : 0 ≤ offset.toInt)
    (positive : 2 ≤ length.toInt) (nested : (offset + length).toInt ≤ stride.toInt) :
    StrideClips offset.toInt length.toInt stride.toInt ↔
      offset.toInt + length.toInt ≤ (toU16 (stride - 1)).toNat + 1 := by
  rw [toU16_pred]
  unfold StrideClips
  split
  · rename_i small
    constructor
    · intro fits
      rw [toInt_add_small low (by omega) fits] at nested
      omega
    · intro inside
      omega
  · rfl

theorem dstClip_contains_iff {rect : RgaRect} (passed : checkRectForRga rect = true) :
    ClipContains (dstClip rect) rect ↔
      StrideClips rect.xoffset.toInt rect.width.toInt rect.wstride.toInt ∧
        StrideClips rect.yoffset.toInt rect.height.toInt rect.hstride.toInt := by
  have checked := checkRectForRga_checked passed
  have sides := checkRectForRga_sides passed
  rw [clipContains_iff, strideClips_iff checked.xoffset sides.1 checked.right,
    strideClips_iff checked.yoffset sides.2 checked.bottom]
  have left := checked.xoffset
  have top := checked.yoffset
  have origin : ((dstClip rect).xmin.toNat : Int) = 0 ∧ ((dstClip rect).ymin.toNat : Int) = 0 :=
    ⟨rfl, rfl⟩
  rw [origin.1, origin.2]
  simp only [dstClip]
  omega

theorem fillClip_contains_iff {rect : RgaRect} :
    ClipContains (fillClip rect) rect ↔
      rect.width.toInt ≤ 0 ∨ rect.height.toInt ≤ 0 ∨
        LengthClips rect.xoffset.toInt rect.width.toInt ∧
          LengthClips rect.yoffset.toInt rect.height.toInt := by
  have origin : ((fillClip rect).xmin.toNat : Int) = 0 ∧ ((fillClip rect).ymin.toNat : Int) = 0 :=
    ⟨rfl, rfl⟩
  have right : ((fillClip rect).xmax.toNat : Int) = (rect.width.toInt - 1) % 65536 :=
    toU16_pred rect.width
  have bottom : ((fillClip rect).ymax.toNat : Int) = (rect.height.toInt - 1) % 65536 :=
    toU16_pred rect.height
  rw [clipContains_iff, origin.1, origin.2, right, bottom]
  unfold LengthClips
  omega

/-! Every builder -/

theorem clipContains_relRect {clip : Rect} {rect : RgaRect} :
    ClipContains clip (relRect rect) ↔ ClipContains clip rect :=
  Iff.rfl

theorem planned_clip_iff {dst : RgaInfo} {channel : Channel} {req : RgaReq}
    (opened : openChannel dst = .ok channel) (passed : checkRectForRga channel.rect = true)
    (clip : req.clip = dstClip channel.rect) :
    let rect := relRect dst.rect
    ClipContains req.clip rect ↔
      StrideClips rect.xoffset.toInt rect.width.toInt rect.wstride.toInt ∧
        StrideClips rect.yoffset.toInt rect.height.toInt rect.hstride.toInt := by
  have rect := (openChannel_ok opened).2.1
  rw [clip, rect]
  rw [rect] at passed
  exact dstClip_contains_iff passed

/-- Fills lose what lies away from the origin; the other builders only what a stride or a sum
beyond its word cuts off. -/
theorem clip_contains_iff {call : BuilderCall} {req : RgaReq} (built : call.build = .ok req) :
    ClipContains req.clip call.dst.rect ↔ call.ClipFits := by
  rw [← clipContains_relRect]
  cases call with
  | blit session src dst src1 =>
      obtain ⟨plan, planned, registers⟩ := generateBlitReq_registers built
      have facts := planBlit_planned planned
      exact planned_clip_iff facts.dst (checkBlitRects_ok facts.rects).2.1
        (congrArg Registers.clip registers)
  | legacyBlit ctx src dst src1 =>
      obtain ⟨plan, planned, registers⟩ := rgaBlitReq_registers built
      have facts := planRgaBlit_planned planned
      exact planned_clip_iff facts.dst (checkBlitRects_ok facts.rects).2.1
        (congrArg Registers.clip registers)
  | palette session src dst lut lutRet =>
      obtain ⟨plan, info, planned, registers⟩ := generateColorPaletteReq_registers built
      obtain ⟨_, _, opened, _, _, passed⟩ := planPalette_ok planned
      exact planned_clip_iff opened passed (congrArg Registers.clip registers)
  | fill session dst =>
      obtain ⟨info, registers⟩ := fillReq_registers built
      have clip : req.clip = fillClip (relRect dst.rect) := congrArg Registers.clip registers
      rw [clip]
      exact fillClip_contains_iff
  | legacyFill ctx dst =>
      obtain ⟨info, registers⟩ := fillReq_registers built
      have clip : req.clip = fillClip (relRect dst.rect) := congrArg Registers.clip registers
      rw [clip]
      exact fillClip_contains_iff

def spotInfo (handle xoffset yoffset : Int32) : RgaInfo :=
  { handle := handle
    rect := { xoffset := xoffset, yoffset := yoffset, width := 16, height := 16
              wstride := 64, hstride := 64 } }

theorem clip_contains_blit :
    ∃ req, (BuilderCall.blit rga2ProSession (spotInfo 1 0 0) (spotInfo 2 32 16) none).build =
        .ok req ∧ ClipContains req.clip (spotInfo 2 32 16).rect := by
  obtain ⟨req, built, _⟩ := Result.exists_ok_of_any
    (BuilderCall.blit rga2ProSession (spotInfo 1 0 0) (spotInfo 2 32 16) none).build
    (fun _ => true) (by decide +kernel)
  refine ⟨req, built, (clip_contains_iff built).mpr ?_⟩
  simp only [BuilderCall.ClipFits, StrideClips]
  decide

/-- A fill away from the origin is clipped to the size it has at the origin. -/
theorem clip_excludes_fill :
    ∃ req, (BuilderCall.fill rga2ProSession (spotInfo 1 32 16)).build = .ok req ∧
      ¬ ClipContains req.clip (spotInfo 1 32 16).rect := by
  obtain ⟨req, built, clip⟩ := Result.exists_ok_of_any
    (BuilderCall.fill rga2ProSession (spotInfo 1 32 16)).build
    (fun req => req.clip == { xmax := 15, ymax := 15 }) (by decide +kernel)
  refine ⟨req, built, fun contains => ?_⟩
  rw [beq_iff_eq.mp clip] at contains
  have pixel := contains 32 16 (by decide) (by decide) (by decide) (by decide)
  exact absurd pixel.2.1 (by decide)

end LibRga
