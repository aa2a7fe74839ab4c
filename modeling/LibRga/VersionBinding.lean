import LibRga.Hardware
import Mathlib.Data.Prod.Lex
import Mathlib.Order.Fin.Basic

/-!
The version binding tables: which row a library version is bound to, and what the check of a
driver or header version against that row decides.
-/

namespace LibRga

/-! The order of versions -/

def RgaVersion.key (version : RgaVersion) : Nat ×ₗ Nat ×ₗ Nat :=
  toLex (version.major.toNat, toLex (version.minor.toNat, version.revision.toNat))

theorem RgaVersion.key_injective : Function.Injective RgaVersion.key := by
  rintro ⟨major, minor, revision⟩ ⟨otherMajor, otherMinor, otherRevision⟩ same
  simpa [RgaVersion.key, UInt32.toNat_inj] using same

instance rgaVersionOrder : LinearOrder RgaVersion :=
  LinearOrder.lift' RgaVersion.key RgaVersion.key_injective

theorem RgaVersion.lt_iff (version1 version2 : RgaVersion) :
    version1 < version2 ↔ version1.major < version2.major ∨
      version1.major = version2.major ∧ (version1.minor < version2.minor ∨
        version1.minor = version2.minor ∧ version1.revision < version2.revision) := by
  show version1.key < version2.key ↔ _
  rw [RgaVersion.key, RgaVersion.key, Prod.Lex.toLex_lt_toLex, Prod.Lex.toLex_lt_toLex]
  simp only [UInt32.toNat_inj, UInt32.lt_iff_toNat_lt]

/-- `rga_version_compare` with its branches as they stand. -/
def rgaVersionCompareResult (version1 version2 : RgaVersion) : Int32 :=
  if version1.major > version2.major then 1
  else if version1.major = version2.major ∧ version1.minor > version2.minor then 1
  else if version1.major = version2.major ∧ version1.minor = version2.minor ∧
      version1.revision > version2.revision then 1
  else if version1.major = version2.major ∧ version1.minor = version2.minor ∧
      version1.revision = version2.revision then 0
  else -1

theorem rgaVersionCompare_lt_iff (version1 version2 : RgaVersion) :
    rgaVersionCompare version1 version2 = .lt ↔ version1 < version2 := by
  rw [rgaVersionCompare, Ordering.then_eq_lt, Ordering.then_eq_lt, RgaVersion.lt_iff]
  simp only [Std.compare_eq_lt, Std.LawfulEqCmp.compare_eq_iff_eq]

theorem rgaVersionCompare_eq_iff (version1 version2 : RgaVersion) :
    rgaVersionCompare version1 version2 = .eq ↔ version1 = version2 := by
  rw [rgaVersionCompare, Ordering.then_eq_eq, Ordering.then_eq_eq]
  simp only [Std.LawfulEqCmp.compare_eq_iff_eq]
  cases version1
  cases version2
  simp

theorem rgaVersionCompare_gt_iff (version1 version2 : RgaVersion) :
    rgaVersionCompare version1 version2 = .gt ↔ version2 < version1 := by
  have lt := rgaVersionCompare_lt_iff version1 version2
  have eq := rgaVersionCompare_eq_iff version1 version2
  rcases lt_trichotomy version1 version2 with below | same | above
  · simp [lt.mpr below, below.le]
  · rw [eq.mpr same]
    simp [same]
  · cases result : rgaVersionCompare version1 version2 with
    | lt => exact absurd (lt.mp result) above.not_gt
    | eq => exact absurd (eq.mp result) above.ne'
    | gt => exact iff_of_true rfl above

/-- The ordering stands for the sign that the source returns. -/
theorem rgaVersionCompare_result (version1 version2 : RgaVersion) :
    rgaVersionCompareResult version1 version2 =
      match rgaVersionCompare version1 version2 with
      | .lt => -1
      | .eq => 0
      | .gt => 1 := by
  obtain ⟨major1, minor1, revision1⟩ := version1
  obtain ⟨major2, minor2, revision2⟩ := version2
  split
  next below =>
    have order := (RgaVersion.lt_iff _ _).mp ((rgaVersionCompare_lt_iff _ _).mp below)
    simp only at order
    simp only [rgaVersionCompareResult]
    grind
  next same =>
    have equal := (rgaVersionCompare_eq_iff _ _).mp same
    simp_all [rgaVersionCompareResult]
  next above =>
    have order := (RgaVersion.lt_iff _ _).mp ((rgaVersionCompare_gt_iff _ _).mp above)
    simp only at order
    simp only [rgaVersionCompareResult]
    grind

/-- Revisions compare as numbers. -/
example : rgaVersionCompareResult ⟨1, 3, 11⟩ ⟨1, 3, 2⟩ = 1 := by
  decide

theorem versionCompare_isGE (version1 version2 : RgaVersion) :
    (rgaVersionCompare version1 version2).isGE = true ↔ version2 ≤ version1 := by
  rw [← not_lt, ← rgaVersionCompare_lt_iff]
  cases rgaVersionCompare version1 version2 <;> decide

theorem versionCompare_isLT (version1 version2 : RgaVersion) :
    (rgaVersionCompare version1 version2).isLT = true ↔ version1 < version2 := by
  rw [← rgaVersionCompare_lt_iff]
  cases rgaVersionCompare version1 version2 <;> decide

theorem versionCompare_isGT (version1 version2 : RgaVersion) :
    (rgaVersionCompare version1 version2).isGT = true ↔ version2 < version1 := by
  rw [← rgaVersionCompare_gt_iff]
  cases rgaVersionCompare version1 version2 <;> decide

/-! The rows of a table -/

/-- What the comment above the tables asks of them. -/
structure SortedBinding (table : List RgaVersionBind) : Prop where
  current : (table.map RgaVersionBind.current).Pairwise (· < ·)
  minimum : (table.map RgaVersionBind.minimum).Pairwise (· ≤ ·)

/-- The last row whose entry in the column is not above the version. -/
def BoundRow (field : RgaVersionBind → RgaVersion) (table : List RgaVersionBind)
    (version : RgaVersion) (i : Fin table.length) : Prop :=
  IsGreatest {j : Fin table.length | field table[j] ≤ version} i

/-- The versions from the minimum of a row up to that of the next one, if there is a next one. -/
def InRange (table : List RgaVersionBind) (i : Fin table.length) (version : RgaVersion) : Prop :=
  table[i].minimum ≤ version ∧ ∀ next ∈ table[i.val + 1]?, version < next.minimum

theorem tableRow (table : List RgaVersionBind) {i : Nat} (inside : i < table.length) :
    table.getD i default = table[i] := by
  simp [List.getD, inside]

section Lookup

variable (field : RgaVersionBind → RgaVersion) (version : RgaVersion) (table : List RgaVersionBind)

/-- The second comparison of the loop never fails: the row above was already passed over. -/
theorem rgaVersionTableGetIndex_rows {rows : Nat} (inside : rows ≤ table.length)
    (above : ∀ j : Fin table.length, rows ≤ j → version < field table[j]) :
    (rgaVersionTableGetIndex field version table rows = -1 ∧
      ∀ j : Fin table.length, version < field table[j]) ∨
    ∃ i : Fin table.length, rgaVersionTableGetIndex field version table rows = Int32.ofNat i ∧
      BoundRow field table version i := by
  induction rows with
  | zero => exact .inl ⟨rfl, fun j => above j (Nat.zero_le _)⟩
  | succ row ih =>
      rw [rgaVersionTableGetIndex, tableRow table inside]
      simp only [versionCompare_isGE, versionCompare_isGT]
      by_cases bound : field table[row] ≤ version
      · have last : BoundRow field table version ⟨row, inside⟩ := by
          refine ⟨bound, ?_⟩
          intro j member
          by_contra beyond
          have later : row + 1 ≤ j := Nat.not_le.mp beyond
          exact absurd member (above j later).not_ge
        refine .inr ⟨⟨row, inside⟩, ?_, last⟩
        rw [if_pos bound]
        by_cases top : row + 1 = table.length
        · rw [if_pos top]
        · have next : row + 1 < table.length := by omega
          have passed : version < field table[row + 1] := above ⟨row + 1, next⟩ (le_refl _)
          rw [if_neg top, tableRow table next, if_pos passed]
      · rw [if_neg bound]
        apply ih (by omega)
        intro j lower
        by_cases here : j.val = row
        · have same : table[j] = table[row] := by simp [here]
          rw [same]
          exact not_le.mp bound
        · exact above j (by omega)

variable {version table}

theorem rgaVersionTableGetIndex_cases :
    (rgaVersionTableGetIndex field version table table.length = -1 ∧
      ∀ j : Fin table.length, version < field table[j]) ∨
    ∃ i : Fin table.length,
      rgaVersionTableGetIndex field version table table.length = Int32.ofNat i ∧
      BoundRow field table version i :=
  rgaVersionTableGetIndex_rows field version table (le_refl _)
    fun j beyond => absurd j.isLt (Nat.not_lt.mpr beyond)

theorem rowIndex_toInt (small : table.length < 2 ^ 31) (i : Fin table.length) :
    (Int32.ofNat i).toInt = i := by
  have inside := i.isLt
  exact Int32.toInt_ofNat_of_lt (by omega)

theorem rowIndex_nonneg (small : table.length < 2 ^ 31) (i : Fin table.length) :
    ¬Int32.ofNat i < 0 := by
  rw [Int32.lt_iff_toInt_lt, rowIndex_toInt small]
  exact Int.not_lt.mpr (Int.natCast_nonneg _)

theorem getIndex_absent_iff (small : table.length < 2 ^ 31) :
    rgaVersionTableGetIndex field version table table.length = -1 ↔
      ∀ j : Fin table.length, version < field table[j] := by
  rcases @rgaVersionTableGetIndex_cases field version table with
    ⟨absent, above⟩ | ⟨i, found, bound⟩
  · exact iff_of_true absent above
  · refine iff_of_false ?_ fun above => absurd bound.1 (above i).not_ge
    rw [found]
    intro negative
    exact rowIndex_nonneg small i (negative ▸ by decide)

theorem getIndex_row_iff (small : table.length < 2 ^ 31) (i : Fin table.length) :
    rgaVersionTableGetIndex field version table table.length = Int32.ofNat i ↔
      BoundRow field table version i := by
  rcases @rgaVersionTableGetIndex_cases field version table with
    ⟨absent, above⟩ | ⟨j, found, bound⟩
  · refine iff_of_false ?_ fun bound => absurd bound.1 (above i).not_ge
    rw [absent]
    intro negative
    exact rowIndex_nonneg small i (negative ▸ by decide)
  · rw [found]
    constructor
    · intro same
      have equal := congrArg Int32.toInt same
      rw [rowIndex_toInt small, rowIndex_toInt small] at equal
      have row : j = i := Fin.ext (by omega)
      exact row ▸ bound
    · intro other
      rw [IsGreatest.unique bound other]

end Lookup

/-! The check -/

section Check

variable {table : List RgaVersionBind} {version : RgaVersion}

theorem checkMinimumRange_cases (i : Fin table.length) (version : RgaVersion) :
    (version < table[i].minimum ∧ rgaVersionTableCheckMinimumRange version table i = -1) ∨
    (InRange table i version ∧ rgaVersionTableCheckMinimumRange version table i = 0) ∨
    (table[i].minimum ≤ version ∧ ¬InRange table i version ∧
      rgaVersionTableCheckMinimumRange version table i = 1) := by
  simp only [rgaVersionTableCheckMinimumRange, tableRow table i.isLt, versionCompare_isGE,
    versionCompare_isLT, InRange, Fin.getElem_fin]
  by_cases reached : table[i.val].minimum ≤ version
  · refine .inr ?_
    by_cases top : i.val + 1 = table.length
    · refine .inl ⟨⟨reached, ?_⟩, ?_⟩
      · simp [top]
      · rw [if_pos reached, if_pos top]
    · have next : i.val + 1 < table.length := by omega
      rw [if_pos reached, if_neg top, tableRow table next, List.getElem?_eq_getElem next]
      by_cases below : version < table[i.val + 1].minimum
      · exact .inl ⟨⟨reached, by simpa using below⟩, if_pos below⟩
      · exact .inr ⟨reached, fun range => below (by simpa using range.2), if_neg below⟩
  · exact .inl ⟨not_le.mp reached, if_neg reached⟩

theorem inRange_minimum {i : Fin table.length} (range : InRange table i version) :
    ¬version < table[i].minimum :=
  range.1.not_gt

/-- The ranges of a sorted table do not overlap: the row that has the version is the last one whose
minimum is not above it. -/
theorem inRange_iff_boundRow (sorted : SortedBinding table) (i : Fin table.length) :
    InRange table i version ↔ BoundRow RgaVersionBind.minimum table version i := by
  have ordered : ∀ j k : Fin table.length, j ≤ k → table[j].minimum ≤ table[k].minimum := by
    intro j k below
    rcases below.lt_or_eq with before | rfl
    · have pair := List.pairwise_iff_getElem.mp sorted.minimum j k (by simp) (by simp) before
      simpa using pair
    · exact le_refl _
  constructor
  · rintro ⟨reached, next⟩
    refine ⟨reached, ?_⟩
    intro j member
    by_contra beyond
    have inside : i.val + 1 < table.length := by
      have := j.isLt
      omega
    have later := ordered ⟨i.val + 1, inside⟩ j (Nat.not_le.mp beyond)
    have below := next table[i.val + 1] (by simp [inside])
    exact absurd (later.trans member) below.not_ge
  · rintro ⟨reached, greatest⟩
    refine ⟨reached, ?_⟩
    intro next listed
    obtain ⟨inside, rfl⟩ := List.getElem?_eq_some_iff.mp listed
    by_contra notBelow
    have later : (⟨i.val + 1, inside⟩ : Fin table.length) ≤ i := greatest (not_lt.mp notBelow)
    exact absurd later (Nat.not_le.mpr (Nat.lt_succ_self _))

/-- Above the range of some row the lookup by minimum finds the row that has the version. -/
theorem minimumIndex_inRange (small : table.length < 2 ^ 31) (sorted : SortedBinding table)
    {i : Fin table.length} (reached : table[i].minimum ≤ version) :
    ∃ j : Fin table.length, rgaVersionTableGetMinimumIndex version table = Int32.ofNat j ∧
      0 ≤ rgaVersionTableGetMinimumIndex version table ∧
      ∀ k : Fin table.length, InRange table k version ↔ k = j := by
  rcases @rgaVersionTableGetIndex_cases RgaVersionBind.minimum version table with
    ⟨_, above⟩ | ⟨j, found, bound⟩
  · exact absurd reached (above i).not_ge
  · refine ⟨j, found, ?_, ?_⟩
    · rw [rgaVersionTableGetMinimumIndex, found]
      exact Int32.not_lt.mp (rowIndex_nonneg small j)
    · intro k
      rw [inRange_iff_boundRow sorted]
      exact ⟨fun other => other.unique bound, fun same => same ▸ bound⟩

theorem rgaVersionCheck_row (small : table.length < 2 ^ 31) {current : RgaVersion}
    {i : Fin table.length}
    (found : rgaVersionTableGetCurrentIndex current table = Int32.ofNat i) :
    rgaVersionCheck current version table = rgaVersionTableCheckMinimumRange version table i := by
  rw [rgaVersionCheck, found, if_neg (rowIndex_nonneg small i), rowIndex_toInt small]
  rfl

end Check

/-! The two checks of the library -/

def userHeaderBindTable : List RgaVersionBind :=
  [⟨⟨0, 0, 0⟩, ⟨0, 0, 0⟩⟩, ⟨⟨1, 0, 3⟩, ⟨1, 0, 3⟩⟩, ⟨⟨1, 4, 0⟩, ⟨1, 4, 0⟩⟩]

def rgaCheckHeader (headerVersion : RgaVersion) : ImStatus :=
  if rgaVersionCheck rgaSetCurrentApiVersion headerVersion userHeaderBindTable = 0 then .success
  else .errorVersion

theorem userDriverBindTable_sorted : SortedBinding userDriverBindTable := by
  constructor <;> decide

theorem userHeaderBindTable_sorted : SortedBinding userHeaderBindTable := by
  constructor <;> decide

/-- A version that no row is bound to gets a status that is none of the answers for a row. -/
theorem rgaVersionCheck_cases {table : List RgaVersionBind} (small : table.length < 2 ^ 31)
    (current version : RgaVersion) :
    ((∀ j : Fin table.length, current < table[j].current) ∧
      rgaVersionCheck current version table = -5) ∨
    ∃ i : Fin table.length, BoundRow RgaVersionBind.current table current i ∧
      ((version < table[i].minimum ∧ rgaVersionCheck current version table = -1) ∨
      (InRange table i version ∧ rgaVersionCheck current version table = 0) ∨
      (table[i].minimum ≤ version ∧ ¬InRange table i version ∧
        rgaVersionCheck current version table = 1)) := by
  rcases @rgaVersionTableGetIndex_cases RgaVersionBind.current current table with
    ⟨absent, above⟩ | ⟨i, found, bound⟩
  · refine .inl ⟨above, ?_⟩
    rw [rgaVersionCheck, rgaVersionTableGetCurrentIndex, absent]
    rfl
  · refine .inr ⟨i, bound, ?_⟩
    rw [rgaVersionCheck_row small found]
    exact checkMinimumRange_cases i version

/-- What neither fits the row of the library nor is below it: the answers on which a driver is
rejected. -/
theorem rgaVersionCheck_rejects_iff {table : List RgaVersionBind} (small : table.length < 2 ^ 31)
    (sorted : SortedBinding table) (current version : RgaVersion) :
    ¬(rgaVersionCheck current version table = 0 ∨ rgaVersionCheck current version table = -1) ↔
      (∀ j : Fin table.length, current < table[j].current) ∨
      ∃ i, BoundRow RgaVersionBind.current table current i ∧
        ∃ next ∈ table[i.val + 1]?, next.minimum ≤ version := by
  rcases rgaVersionCheck_cases small current version with
    ⟨unbound, answer⟩ | ⟨i, bound, ⟨below, answer⟩ | ⟨range, answer⟩ | ⟨reached, past, answer⟩⟩
  · rw [answer]
    exact iff_of_true (by decide) (.inl unbound)
  · rw [answer]
    refine iff_of_false (by decide) ?_
    rintro (unbound | ⟨j, other, next, listed, above⟩)
    · exact absurd bound.1 (unbound i).not_ge
    · rw [other.unique bound] at listed
      obtain ⟨inside, rfl⟩ := List.getElem?_eq_some_iff.mp listed
      have ordered := List.pairwise_iff_getElem.mp sorted.minimum i (i + 1) (by simp)
        (by simpa using inside) (Nat.lt_succ_self _)
      simp only [List.getElem_map] at ordered
      exact absurd (ordered.trans above) below.not_ge
  · rw [answer]
    refine iff_of_false (by decide) ?_
    rintro (unbound | ⟨j, other, next, listed, above⟩)
    · exact absurd bound.1 (unbound i).not_ge
    · rw [other.unique bound] at listed
      exact absurd above (range.2 next listed).not_ge
  · rw [answer]
    refine iff_of_true (by decide) (.inr ⟨i, bound, ?_⟩)
    by_contra! none
    exact past ⟨reached, none⟩

theorem rgaCheckDriver_rejects_iff (driverVersion : RgaVersion) :
    rgaCheckDriver driverVersion = .errorVersion ↔
      (∀ j : Fin userDriverBindTable.length,
        rgaSetCurrentApiVersion < userDriverBindTable[j].current) ∨
      ∃ i, BoundRow RgaVersionBind.current userDriverBindTable rgaSetCurrentApiVersion i ∧
        ∃ next ∈ userDriverBindTable[i.val + 1]?, next.minimum ≤ driverVersion := by
  rw [← rgaVersionCheck_rejects_iff (by decide) userDriverBindTable_sorted, rgaCheckDriver]
  split <;> simp_all

theorem rgaCheckHeader_accepts_iff (headerVersion : RgaVersion) :
    rgaCheckHeader headerVersion = .success ↔
      ∃ i, BoundRow RgaVersionBind.current userHeaderBindTable rgaSetCurrentApiVersion i ∧
        InRange userHeaderBindTable i headerVersion := by
  have accepted : rgaCheckHeader headerVersion = .success ↔
      rgaVersionCheck rgaSetCurrentApiVersion headerVersion userHeaderBindTable = 0 := by
    rw [rgaCheckHeader]
    split <;> simp_all
  have unique : ∀ {i j}, BoundRow RgaVersionBind.current userHeaderBindTable
      rgaSetCurrentApiVersion i → BoundRow RgaVersionBind.current userHeaderBindTable
      rgaSetCurrentApiVersion j → i = j := IsGreatest.unique
  rw [accepted]
  rcases @rgaVersionCheck_cases userHeaderBindTable (by decide) rgaSetCurrentApiVersion
    headerVersion with ⟨unbound, answer⟩ |
      ⟨i, bound, ⟨below, answer⟩ | ⟨range, answer⟩ | ⟨reached, past, answer⟩⟩
  · rw [answer]
    exact iff_of_false (by decide) fun ⟨i, bound, _⟩ => absurd bound.1 (unbound i).not_ge
  · rw [answer]
    refine iff_of_false (by decide) ?_
    rintro ⟨j, other, range⟩
    rw [unique other bound] at range
    exact inRange_minimum range below
  · rw [answer]
    exact iff_of_true rfl ⟨i, bound, range⟩
  · rw [answer]
    refine iff_of_false (by decide) ?_
    rintro ⟨j, other, range⟩
    rw [unique other bound] at range
    exact past range

theorem versionBinding_exact :
    (∀ version1 version2 : RgaVersion,
      (rgaVersionCompareResult version1 version2 = 1 ↔ version2 < version1) ∧
      (rgaVersionCompareResult version1 version2 = 0 ↔ version1 = version2) ∧
      (rgaVersionCompareResult version1 version2 = -1 ↔ version1 < version2) ∧
      (version1 < version2 ↔ version1.major < version2.major ∨
        version1.major = version2.major ∧ (version1.minor < version2.minor ∨
          version1.minor = version2.minor ∧ version1.revision < version2.revision))) ∧
    (∀ table : List RgaVersionBind, table.length < 2 ^ 31 → SortedBinding table →
      ∀ current version : RgaVersion,
      (rgaVersionTableGetCurrentIndex current table = -1 ↔
        ∀ j : Fin table.length, current < table[j].current) ∧
      ∀ i : Fin table.length,
        (rgaVersionTableGetCurrentIndex current table = Int32.ofNat i ↔
          IsGreatest {j : Fin table.length | table[j].current ≤ current} i) ∧
        (rgaVersionTableGetCurrentIndex current table = Int32.ofNat i →
          (rgaVersionCheck current version table = 0 ↔ InRange table i version) ∧
          (rgaVersionCheck current version table = -1 ↔ version < table[i].minimum) ∧
          (¬InRange table i version → ¬version < table[i].minimum →
            rgaVersionCheck current version table = 1 ∧
            ∃ j : Fin table.length, rgaVersionTableGetMinimumIndex version table = Int32.ofNat j ∧
              0 ≤ rgaVersionTableGetMinimumIndex version table ∧
              ∀ k : Fin table.length, InRange table k version ↔ k = j))) ∧
    (∀ driverVersion, rgaCheckDriver driverVersion = .errorVersion ↔
      (∀ j : Fin userDriverBindTable.length,
        rgaSetCurrentApiVersion < userDriverBindTable[j].current) ∨
      ∃ i, BoundRow RgaVersionBind.current userDriverBindTable rgaSetCurrentApiVersion i ∧
        ∃ next ∈ userDriverBindTable[i.val + 1]?, next.minimum ≤ driverVersion) ∧
    ∀ headerVersion, rgaCheckHeader headerVersion = .success ↔
      ∃ i, BoundRow RgaVersionBind.current userHeaderBindTable rgaSetCurrentApiVersion i ∧
        InRange userHeaderBindTable i headerVersion := by
  refine ⟨?_, ?_, rgaCheckDriver_rejects_iff, rgaCheckHeader_accepts_iff⟩
  · intro version1 version2
    refine ⟨?_, ?_, ?_, RgaVersion.lt_iff version1 version2⟩
    · rw [rgaVersionCompare_result, ← rgaVersionCompare_gt_iff]
      cases rgaVersionCompare version1 version2 <;> decide
    · rw [rgaVersionCompare_result, ← rgaVersionCompare_eq_iff]
      cases rgaVersionCompare version1 version2 <;> decide
    · rw [rgaVersionCompare_result, ← rgaVersionCompare_lt_iff]
      cases rgaVersionCompare version1 version2 <;> decide
  · intro table small sorted current version
    refine ⟨getIndex_absent_iff _ small, ?_⟩
    intro i
    refine ⟨getIndex_row_iff _ small i, ?_⟩
    intro found
    rw [rgaVersionCheck_row small found]
    rcases checkMinimumRange_cases i version with
      ⟨below, answer⟩ | ⟨range, answer⟩ | ⟨reached, past, answer⟩
    · rw [answer]
      refine ⟨iff_of_false (by decide) fun range => inRange_minimum range below,
        iff_of_true rfl below, fun _ above => absurd below above⟩
    · rw [answer]
      refine ⟨iff_of_true rfl range, iff_of_false (by decide) (inRange_minimum range),
        fun outside => absurd range outside⟩
    · rw [answer]
      refine ⟨iff_of_false (by decide) past, iff_of_false (by decide) reached.not_gt, ?_⟩
      intro _ _
      exact ⟨rfl, minimumIndex_inRange small sorted reached⟩

/-- A library of version 1.7.2 with a driver of the row after its own. -/
theorem versionBinding_exact_above :
    rgaVersionCheck ⟨1, 7, 2⟩ ⟨1, 2, 5⟩ userDriverBindTable = 1 ∧
      ∃ j : Fin userDriverBindTable.length,
        rgaVersionTableGetMinimumIndex ⟨1, 2, 5⟩ userDriverBindTable = Int32.ofNat j := by
  have row := (versionBinding_exact.2.1 userDriverBindTable (by decide) userDriverBindTable_sorted
    ⟨1, 7, 2⟩ ⟨1, 2, 5⟩).2 ⟨3, by decide⟩
  obtain ⟨answer, j, found, _⟩ := (row.2 (by decide)).2.2
    (fun range => absurd (range.2 ⟨⟨1, 7, 3⟩, ⟨1, 2, 4⟩⟩ rfl) (by decide)) (by decide)
  exact ⟨answer, j, found⟩

end LibRga
