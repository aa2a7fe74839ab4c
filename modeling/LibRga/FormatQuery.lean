import LibRga.CheckAgreement
import LibRga.Hardware

/-!
The format lists of `querystring` beside the formats that `rga_check_format` lets through.
-/

namespace LibRga

/-! The lists -/

/-- `output_format[]` from its second entry on, by the mask that guards the entry. -/
def outputFormatNames : List (UInt32 × String) :=
  [ (imRgaSupportFormatRgb, "RGBA/ARGB_8888 RGB_888 RGB_565 "),
    (imRgaSupportFormatArgb16Bit, "ARGB_4444 ARGB_5551 "),
    (imRgaSupportFormatRgba16Bit, "RGBA_4444 RGBA_5551 "),
    (imRgaSupportFormatBpp, "BPP8 BPP4 BPP2 BPP1 "),
    (imRgaSupportFormatYuv420SemiPlanner8Bit, "YUV420_sp_8bit "),
    (imRgaSupportFormatYuv420SemiPlanner10Bit, "YUV420_sp_10bit "),
    (imRgaSupportFormatYuv420Planner8Bit, "YUV420_p_8bit "),
    (imRgaSupportFormatYuv420Planner10Bit, "YUV420_p_10bit "),
    (imRgaSupportFormatYuv422SemiPlanner8Bit, "YUV422_sp_8bit "),
    (imRgaSupportFormatYuv422SemiPlanner10Bit, "YUV422_sp_10bit "),
    (imRgaSupportFormatYuv422Planner8Bit, "YUV422_p_8bit "),
    (imRgaSupportFormatYuv422Planner10Bit, "YUV422_p_10bit "),
    (imRgaSupportFormatYuyv420, "YUYV420 "),
    (imRgaSupportFormatYuyv422, "YUYV422 "),
    (imRgaSupportFormatYuv400, "YUV400 "),
    (imRgaSupportFormatY4, "Y4 "),
    (imRgaSupportFormatRgba2bpp, "RGB2BPP "),
    (imRgaSupportFormatAlpha8Bit, "ALPHA-8bit "),
    (imRgaSupportFormatYuv444SemiPlanner8Bit, "YUV444_sp_8bit "),
    (imRgaSupportFormatY8, "Y8 ") ]

def imRgaSupportFormatMask : UInt32 := 0x7ffffe

/-- The texts that one list writes, in order. `tested` is the word in which the guard of an entry
looks for its mask, `word` the one of the last guard. -/
def formatTexts (tested : UInt32 → UInt32) (word : UInt32) : List String :=
  (outputFormatNames.filter fun entry => hasBit (tested entry.1) entry.1).map Prod.snd ++
    if hasBit word imRgaSupportFormatMask then [] else ["unknown"]

def inputFormatTexts (info : RgaInfoTableEntry) : List String :=
  formatTexts (fun _ => info.inputFormat) info.inputFormat

/-- The guard of the 16-bit ARGB entry reads `input_format` here too. -/
def outputFormatTexts (info : RgaInfoTableEntry) : List String :=
  formatTexts (fun support =>
    if support = imRgaSupportFormatArgb16Bit then info.inputFormat else info.outputFormat)
    info.outputFormat

def querystringInputFormat (info : RgaInfoTableEntry) : String :=
  "Input support format  : " ++ String.join (inputFormatTexts info) ++ "\n"

def querystringOutputFormat (info : RgaInfoTableEntry) : String :=
  "output support format : " ++ String.join (outputFormatTexts info) ++ "\n"

/-! What they promise -/

/-- The families of `IM_RGA_SUPPORT_FORMAT`, by their masks. The last two have no text. -/
def formatSupports : List UInt32 :=
  outputFormatNames.map Prod.fst ++
    [imRgaSupportFormatRgba1010102, imRgaSupportFormatYuv444Paced10Bit]

def Names (texts : List String) (support : UInt32) : Prop :=
  ∃ text ∈ texts, (support, text) ∈ outputFormatNames

/-- `rga_check_format` lets an image of the family through. -/
def AcceptsFamily (formatUsage : UInt32) (modeUsage : Int32) (support : UInt32) : Prop :=
  ∃ family ∈ formatFamilies, family.support = support ∧
    ∃ (info : RgaBuffer) (rect : ImRect), info.format ∈ family.formats ∧
      rgaCheckFormat info rect formatUsage modeUsage = .noError

/-- Both lists name exactly the families that the check accepts on their channel. -/
def ListsAccepted (info : RgaInfoTableEntry) (modeUsage : Int32) : Prop :=
  ∀ support ∈ formatSupports,
    (Names (inputFormatTexts info) support ↔
      AcceptsFamily info.inputFormat modeUsage support) ∧
    (Names (outputFormatTexts info) support ↔
      AcceptsFamily info.outputFormat modeUsage support)

/-- Families with a text and no format, or with formats and no text. -/
def unmatchedSupports : List UInt32 :=
  [imRgaSupportFormatYuv420Planner10Bit, imRgaSupportFormatYuv422Planner10Bit,
    imRgaSupportFormatRgba1010102, imRgaSupportFormatYuv444Paced10Bit]

/-- The families that a list and the check treat alike for this channel word. Palettes take
bit-packed formats without asking for their mask. -/
def WordMatches (word : UInt32) (modeUsage : Int32) : Prop :=
  (∀ support ∈ unmatchedSupports, hasBit word support = false) ∧
  (has modeUsage imColorPalette = true → hasBit word imRgaSupportFormatBpp = true)

theorem names_iff (tested : UInt32 → UInt32) (word : UInt32) (support : UInt32) :
    Names (formatTexts tested word) support ↔
      support ∈ outputFormatNames.map Prod.fst ∧ hasBit (tested support) support = true := by
  have apart : ∀ entry ∈ outputFormatNames, ∀ other ∈ outputFormatNames,
      entry.2 = other.2 → entry = other := by
    decide
  have notUnknown : ∀ entry ∈ outputFormatNames, entry.2 ≠ "unknown" := by
    decide
  constructor
  · rintro ⟨text, written, listed⟩
    refine ⟨List.mem_map.mpr ⟨_, listed, rfl⟩, ?_⟩
    rcases List.mem_append.mp written with entry | unknown
    · obtain ⟨other, kept, same⟩ := List.mem_map.mp entry
      obtain ⟨otherListed, guard⟩ := List.mem_filter.mp kept
      have equal := apart other otherListed _ listed same
      subst other
      exact guard
    · split at unknown
      · cases unknown
      · exact absurd (List.mem_singleton.mp unknown) (notUnknown _ listed)
  · rintro ⟨listed, guard⟩
    obtain ⟨entry, member, rfl⟩ := List.mem_map.mp listed
    refine ⟨entry.2, List.mem_append_left _ (List.mem_map.mpr ⟨entry, ?_, rfl⟩), member⟩
    exact List.mem_filter.mpr ⟨member, guard⟩

theorem hasBit_single {support : UInt32} {index : Nat} (inside : index < 32)
    (single : support.toBitVec = BitVec.twoPow 32 index) (word : UInt32) :
    hasBit word support = word.toBitVec.getLsbD index := by
  have nonzero : BitVec.twoPow 32 index ≠ 0#32 := by
    intro zero
    have bit := congrArg (fun bits => BitVec.getLsbD bits index) zero
    simp [inside] at bit
  rw [hasBit, Bool.eq_iff_iff, bne_iff_ne, ne_eq, ← UInt32.toBitVec_inj, UInt32.toBitVec_and,
    single, BitVec.and_twoPow]
  split <;> rename_i bit
  · simp [bit, nonzero]
  · simp [bit]

theorem hasBit_complement {support : UInt32} (listed : support ∈ formatSupports) (word : UInt32) :
    hasBit (~~~word) support = !hasBit word support := by
  have single : ∀ support ∈ formatSupports, ∃ index < 32,
      support.toBitVec = BitVec.twoPow 32 index := by
    decide
  obtain ⟨index, inside, single⟩ := single support listed
  rw [hasBit_single inside single, hasBit_single inside single, UInt32.toBitVec_not,
    BitVec.getLsbD_not]
  simp [inside]

theorem acceptsFamily_iff {support : UInt32} (listed : support ∈ formatSupports)
    (formatUsage : UInt32) (modeUsage : Int32) :
    AcceptsFamily formatUsage modeUsage support ↔
      support ∈ formatFamilies.map FormatFamily.support ∧
        (hasBit formatUsage support = true ∨
          support = imRgaSupportFormatBpp ∧ has modeUsage imColorPalette = true) := by
  have families : ∀ family ∈ formatFamilies, family.formats ≠ [] ∧
      (family.bpp = true ↔ family.support = imRgaSupportFormatBpp) := by
    decide
  constructor
  · rintro ⟨family, member, rfl, info, rect, format, accepted⟩
    have allowed := ((rgaCheckFormat_noError_iff member format _ _ _).mp accepted).1
    rw [hasBit_complement listed, Bool.not_eq_false', (families family member).2] at allowed
    exact ⟨List.mem_map_of_mem member, allowed⟩
  · rintro ⟨mapped, allowed⟩
    obtain ⟨family, member, rfl⟩ := List.mem_map.mp mapped
    obtain ⟨format, contained⟩ := List.exists_mem_of_ne_nil _ (families family member).1
    refine ⟨family, member, rfl, { format := format }, {}, contained, ?_⟩
    apply (rgaCheckFormat_noError_iff member contained _ _ _).mpr
    rw [hasBit_complement listed, Bool.not_eq_false', (families family member).2]
    -- an image without an extent is even
    exact ⟨allowed, fun _ => by simp [rgaYuvLegalityCheck]⟩

/-- A family of its own side only: it has a text, or a branch of the check, but not both. -/
theorem unmatchedSupports_apart : ∀ support ∈ unmatchedSupports, support ∈ formatSupports ∧
    support ≠ imRgaSupportFormatArgb16Bit ∧ support ≠ imRgaSupportFormatBpp ∧
    (support ∈ outputFormatNames.map Prod.fst ↔
      support ∉ formatFamilies.map FormatFamily.support) := by
  decide

theorem formatSupports_matched : ∀ support ∈ formatSupports, support ∈ unmatchedSupports ∨
    support ∈ outputFormatNames.map Prod.fst ∧
      support ∈ formatFamilies.map FormatFamily.support := by
  decide

/-- One list whose guards read the word of their channel, except that of the 16-bit ARGB entry. -/
theorem list_accepted_iff {tested : UInt32 → UInt32} {word : UInt32} (modeUsage : Int32)
    (own : ∀ support, support ≠ imRgaSupportFormatArgb16Bit → tested support = word) :
    (∀ support ∈ formatSupports,
      (Names (formatTexts tested word) support ↔ AcceptsFamily word modeUsage support)) ↔
      WordMatches word modeUsage ∧
        hasBit (tested imRgaSupportFormatArgb16Bit) imRgaSupportFormatArgb16Bit =
          hasBit word imRgaSupportFormatArgb16Bit := by
  have argb : imRgaSupportFormatArgb16Bit ∈ formatSupports ∧
      imRgaSupportFormatArgb16Bit ∈ outputFormatNames.map Prod.fst ∧
      imRgaSupportFormatArgb16Bit ∈ formatFamilies.map FormatFamily.support ∧
      imRgaSupportFormatArgb16Bit ≠ imRgaSupportFormatBpp := by
    decide
  have bpp : imRgaSupportFormatBpp ∈ formatSupports ∧
      imRgaSupportFormatBpp ∈ formatFamilies.map FormatFamily.support ∧
      imRgaSupportFormatBpp ≠ imRgaSupportFormatArgb16Bit := by
    decide
  constructor
  · intro same
    refine ⟨⟨?_, ?_⟩, ?_⟩
    · intro support member
      obtain ⟨listed, notArgb, notBpp, odd⟩ := unmatchedSupports_apart support member
      have agree := same support listed
      rw [names_iff, acceptsFamily_iff listed, own support notArgb, odd] at agree
      by_contra set
      rw [Bool.not_eq_false] at set
      tauto
    · intro palette
      have agree := same _ bpp.1
      rw [names_iff, acceptsFamily_iff bpp.1, own _ bpp.2.2] at agree
      exact (agree.mpr ⟨bpp.2.1, .inr ⟨rfl, palette⟩⟩).2
    · have agree := same _ argb.1
      rw [names_iff, acceptsFamily_iff argb.1] at agree
      rw [Bool.eq_iff_iff]
      tauto
  · rintro ⟨⟨clear, palette⟩, slip⟩ support listed
    rw [names_iff, acceptsFamily_iff listed]
    rcases formatSupports_matched support listed with odd | ⟨text, family⟩
    · obtain ⟨_, notArgb, notBpp, _⟩ := unmatchedSupports_apart support odd
      simp [own support notArgb, clear support odd, notBpp]
    · have bit : hasBit (tested support) support = hasBit word support := by
        by_cases sixteen : support = imRgaSupportFormatArgb16Bit
        · rw [sixteen]
          exact slip
        · rw [own support sixteen]
      rw [bit]
      constructor
      · rintro ⟨_, set⟩
        exact ⟨family, .inl set⟩
      · rintro ⟨_, set | ⟨rfl, mode⟩⟩
        · exact ⟨text, set⟩
        · exact ⟨text, palette mode⟩

theorem input_accepted_iff (info : RgaInfoTableEntry) (modeUsage : Int32) :
    (∀ support ∈ formatSupports, (Names (inputFormatTexts info) support ↔
      AcceptsFamily info.inputFormat modeUsage support)) ↔
      WordMatches info.inputFormat modeUsage := by
  unfold inputFormatTexts
  rw [list_accepted_iff modeUsage (fun _ _ => rfl)]
  simp

theorem output_accepted_iff (info : RgaInfoTableEntry) (modeUsage : Int32) :
    (∀ support ∈ formatSupports, (Names (outputFormatTexts info) support ↔
      AcceptsFamily info.outputFormat modeUsage support)) ↔
      WordMatches info.outputFormat modeUsage ∧
        hasBit info.inputFormat imRgaSupportFormatArgb16Bit =
          hasBit info.outputFormat imRgaSupportFormatArgb16Bit := by
  unfold outputFormatTexts
  rw [list_accepted_iff modeUsage (fun _ other => if_neg other), if_pos rfl]

/-- The lists and the check agree on exactly the tables that have none of the four families with
only a text or only formats, and the 16-bit ARGB family on both channels or on none. -/
theorem listsAccepted_iff (info : RgaInfoTableEntry) (modeUsage : Int32) :
    ListsAccepted info modeUsage ↔
      WordMatches info.inputFormat modeUsage ∧ WordMatches info.outputFormat modeUsage ∧
        hasBit info.inputFormat imRgaSupportFormatArgb16Bit =
          hasBit info.outputFormat imRgaSupportFormatArgb16Bit := by
  unfold ListsAccepted
  rw [forall₂_and, input_accepted_iff, output_accepted_iff]

/-- A table with 16-bit ARGB on the source alone, the RGA2-PRO of driver version 5.2, which accepts
a 10-bit RGB destination that has no text, and an enhanced RGA2, whose list has a planar 10-bit
format without a code. -/
theorem lists_not_accepted :
    ¬ListsAccepted { inputFormat := imRgaSupportFormatArgb16Bit } 0 ∧
      (∃ info, rgaCoreTable.lookup ⟨5, 2, 0x48482⟩ = some info ∧ ¬ListsAccepted info 0) ∧
      ¬ListsAccepted (hwInfoTable .rga2Enhance) 0 := by
  have outputClear : ∀ info, ListsAccepted info 0 → ∀ support ∈ unmatchedSupports,
      hasBit info.outputFormat support = false := by
    intro info same
    exact ((output_accepted_iff info 0).mp fun support listed => (same support listed).2).1.1
  refine ⟨?_, ⟨_, rfl, ?_⟩, ?_⟩
  · intro same
    have slip := ((output_accepted_iff _ 0).mp fun support listed => (same support listed).2).2
    exact absurd slip (by decide)
  · intro same
    have clear := outputClear _ same imRgaSupportFormatRgba1010102 (by decide)
    exact absurd clear (by decide)
  · intro same
    have clear := (input_accepted_iff _ 0).mp fun support listed => (same support listed).1
    exact absurd (clear.1 imRgaSupportFormatYuv420Planner10Bit (by decide)) (by decide)

end LibRga
