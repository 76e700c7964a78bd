import Mathlib.Data.Prod.Lex
import Mathlib.Order.Interval.Set.OrdConnected
import PgMetrics.Proofs.Catalog.Merged

namespace PgMetrics

variable {α : Type} {a b c v : Version}

namespace Version

/-- The three numbers of a version. They are compared one after the other. -/
def numbers (v : Version) : ℕ ×ₗ ℕ ×ₗ ℕ :=
  toLex (v.major.toNat, toLex (v.minor.toNat, v.patch.toNat))

theorem compareRelease_eq_compare_numbers (v w : Version) : v.compareRelease w = compare v.numbers w.numbers := by
  have words (x y : UInt64) : compare x y = compare x.toNat y.toNat := by
    simp only [compare, compareOfLessAndEq, UInt64.lt_iff_toNat_lt, UInt64.toNat_inj]
  rw [compareRelease, words, words, words]
  rfl

end Version

namespace Comparison

/-- What stands in a relation to something. -/
def region [Preorder α] : Comparison → α → Set α
  | lt, x => Set.Iio x
  | le, x => Set.Iic x
  | gt, x => Set.Ioi x
  | ge, x => Set.Ici x
  | eq, x => {x}

theorem holds_compare_iff [LinearOrder α] (comparison : Comparison) (x y : α) :
    comparison.holds (compare x y) = true ↔ x ∈ comparison.region y := by
  cases comparison with
  | lt => exact Ordering.isLT_iff_eq_lt.trans compare_lt_iff_lt
  | le => exact Ordering.ne_gt_iff_isLE.symm.trans compare_le_iff_le
  | gt => exact Ordering.isGT_iff_eq_gt.trans compare_gt_iff_gt
  | ge => exact Ordering.ne_lt_iff_isGE.symm.trans compare_ge_iff_ge
  | eq => exact Ordering.isEq_iff_eq_eq.trans compare_eq_iff_eq

theorem ordConnected_region [PartialOrder α] (comparison : Comparison) (x : α) :
    (comparison.region x).OrdConnected := by
  cases comparison with
  | lt => exact Set.ordConnected_Iio
  | le => exact Set.ordConnected_Iic
  | gt => exact Set.ordConnected_Ioi
  | ge => exact Set.ordConnected_Ici
  | eq => exact Set.ordConnected_singleton

end Comparison

namespace VersionRange

/-- The numbers that all bounds allow. -/
def region (r : VersionRange) : Set (ℕ ×ₗ ℕ ×ₗ ℕ) :=
  ⋂ b ∈ r.bounds, b.comparison.region b.version.numbers

theorem accepts_iff_mem_region (r : VersionRange) (v : Version) : r.accepts v = true ↔ v.numbers ∈ r.region := by
  simp only [accepts, Bound.accepts, List.all_eq_true, Version.compareRelease_eq_compare_numbers,
    Comparison.holds_compare_iff, region, Set.mem_iInter]

theorem ordConnected_region (r : VersionRange) : r.region.OrdConnected :=
  Set.ordConnected_biInter fun b _ => b.comparison.ordConnected_region b.version.numbers

theorem accepts_between {r : VersionRange} (ab : a.numbers ≤ b.numbers) (bc : b.numbers ≤ c.numbers)
    (first : r.accepts a = true) (last : r.accepts c = true) : r.accepts b = true := by
  rw [accepts_iff_mem_region] at first last ⊢
  exact r.ordConnected_region.out first last ⟨ab, bc⟩

end VersionRange

namespace Descriptor

variable {view : String} {column : Column}

theorem accepts_of_isDiscarded (kept : (compile view v column).isDiscarded = false) :
    ∀ range, column.versions = some range → range.accepts v = true := by
  intro range given
  rw [← Bool.not_eq_true, (describes_compile view v column).discarded_iff] at kept
  rw [← Bool.not_eq_false]
  exact fun out => kept (.inr (.inr ⟨range, given, out⟩))

theorem compile_between (ab : a.numbers ≤ b.numbers) (bc : b.numbers ≤ c.numbers)
    (first : (compile view a column).isDiscarded = false) (last : (compile view c column).isDiscarded = false) :
    compile view b column = compile view a column ∧ compile view c column = compile view a column := by
  have atFirst := accepts_of_isDiscarded first
  have atLast := accepts_of_isDiscarded last
  constructor
  · refine compile_congr fun range given => ?_
    rw [atFirst range given]
    exact VersionRange.accepts_between ab bc (atFirst range given) (atLast range given)
  · exact compile_congr fun range given => (atLast range given).trans (atFirst range given).symm

end Descriptor

namespace Maps

/-- What becomes of a column of a view. -/
def descriptor? (m : Maps) (view column : String) : Option Descriptor :=
  (m.views.get? view).bind (·.columns.get? column)

/-- Which declaration of a column counts does not depend on the version. -/
theorem exists_column (catalog : Catalog) (options : Options) (document : Option Document) (view column : String) :
    ∃ declared : Option Column, ∀ v,
      (build catalog options v document).descriptor? view column = declared.map (Descriptor.compile view v) := by
  have declared : ∃ columns : Option (List Column), ∀ v,
      (build catalog options v document).views.get? view = columns.map (ViewMap.compile view v) := by
    have plain v := (get?_build_none catalog options v view).1
    cases document with
    | none =>
      refine ⟨if options.disableDefaultMetrics then none else catalog.views.get? view, fun v => ?_⟩
      rw [plain]
      split <;> rfl
    | some d =>
      refine ⟨(d.columns? view).or (if options.disableDefaultMetrics then none else catalog.views.get? view),
        fun v => ?_⟩
      rw [get?_views_build, plain, Option.map_or]
      split <;> rfl
  obtain ⟨columns, declared⟩ := declared
  refine ⟨columns.bind (·.reverse.find? (·.name == column)), fun v => ?_⟩
  rw [descriptor?, declared, Option.bind_map, Option.map_bind]
  exact congrArg _ (funext fun columns => ViewMap.get?_compile view v columns column)

/-- A range accepts the versions whose three numbers are, in the order of such triples, on the right side of each of
its bounds. So it accepts every version between two that it accepts; and of a column that two versions report every
version between them makes the same. -/
theorem gates_are_intervals :
    (∀ (r : VersionRange) (v : Version), r.accepts v = true ↔ v.numbers ∈ r.region) ∧
    ∀ a b c : Version, a.numbers ≤ b.numbers → b.numbers ≤ c.numbers →
      (∀ r : VersionRange, r.accepts a = true → r.accepts c = true → r.accepts b = true) ∧
      ∀ (catalog : Catalog) (options : Options) (document : Option Document) (view column : String)
        (d d' : Descriptor),
        (build catalog options a document).descriptor? view column = some d → d.isDiscarded = false →
        (build catalog options c document).descriptor? view column = some d' → d'.isDiscarded = false →
        d' = d ∧ (build catalog options b document).descriptor? view column = some d := by
  refine ⟨VersionRange.accepts_iff_mem_region, fun a b c ab bc => ⟨fun r => VersionRange.accepts_between ab bc, ?_⟩⟩
  intro catalog options document view column d d' atFirst first atLast last
  obtain ⟨declared, compiled⟩ := exists_column catalog options document view column
  rw [compiled, Option.map_eq_some_iff] at atFirst atLast
  obtain ⟨declaration, rfl, rfl⟩ := atFirst
  obtain ⟨_, same, rfl⟩ := atLast
  cases same
  obtain ⟨between, beyond⟩ := Descriptor.compile_between ab bc first last
  exact ⟨beyond, by rw [compiled, Option.map_some, between]⟩

/-- A column that exists from 9.2 up to version 10 is reported on 9.6.5 as on the first and the last of these. -/
theorem column_between_releases :
    let range : VersionRange := ⟨[⟨.ge, .release 9 2 0⟩, ⟨.lt, .release 10 0 0⟩]⟩
    let catalog := ({} : Catalog).withView "pg_x" [⟨"lag", .duration, "Delay", none, some range⟩]
    let m v := build catalog {} v none
    let a := Version.release 9 2 0
    let b := Version.release 9 6 5
    let c := Version.release 9 18446744073709551615 0
    (a.numbers ≤ b.numbers ∧ b.numbers ≤ c.numbers) ∧ range.accepts b = true ∧
      ∃ d, (m b).descriptor? "pg_x" "lag" = some d ∧ d.isDiscarded = false ∧ d.name = "pg_x_lag_milliseconds" ∧
        (m c).descriptor? "pg_x" "lag" = some d := by
  intro range catalog m a b c
  have ab : a.numbers ≤ b.numbers := by decide
  have bc : b.numbers ≤ c.numbers := by decide
  obtain ⟨-, between⟩ := gates_are_intervals
  obtain ⟨ranges, columns⟩ := between a b c ab bc
  obtain ⟨same, reported⟩ := columns catalog {} none "pg_x" "lag" _ _ rfl rfl rfl rfl
  refine ⟨⟨ab, bc⟩, ranges range (by decide) (by decide), _, reported, rfl, rfl, ?_⟩
  rw [← same]
  rfl

end Maps

end PgMetrics
