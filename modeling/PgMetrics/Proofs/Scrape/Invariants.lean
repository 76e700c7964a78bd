import PgMetrics.Proofs.Scrape.Indicator
import PgMetrics.Proofs.Scrape.Readings

namespace PgMetrics

open Dialogue

variable {σ : Type}

/-- The looks at the clock have no part in what is read of the document. -/
theorem Cycle.contents_clocked (start finish : Float) (t₁ t₂ : List (Exchange σ)) (xs : List String) (s : Snapshot) :
    Cycle.contents ⟨⟨.clock, start⟩ :: (t₁ ++ (t₂ ++ [⟨.clock, finish⟩])), xs, s⟩ =
      (t₁ ++ t₂).filterMap Exchange.content? := by
  rw [contents, List.filterMap_cons_none rfl, ← List.append_assoc, List.filterMap_append]
  exact List.append_nil _

namespace Exporter

variable {address : Session → σ} {e e' : Exporter} {t : List (Exchange σ)} {readings : List Reading}
  {contents : List Content} {ys : List String} {P : List Content → List String → Exporter → Prop}
  {cycles : List (Cycle σ)} {cycle : Cycle σ}

/-- A property that speaks of an exporter, of the contents that its document had and of the targets that were
refreshed is kept when connections are given up and opened, and by passes. -/
structure Kept (address : Session → σ) (P : List Content → List String → Exporter → Prop) : Prop where
  renews {contents more ys e e'} : P contents ys e → e.registry.Renews e'.registry → e'.plan = e.plan →
    e'.loader = e.loader → P (contents ++ more) ys e'
  pass {contents ys e x t r e'} : P contents ys e → Passes address e x t r e' →
    P (contents ++ t.filterMap Exchange.content?) (ys ++ refreshedOf x r) e'

/-- A target was read when the property held, with nothing but `contents` seen by then, and it held afterwards. -/
def ReadAmid (address : Session → σ) (P : List Content → List String → Exporter → Prop) (contents : List Content)
    (reading : Reading) : Prop :=
  ∃ before after ys ys' e t e', P before ys e ∧ Reads address e t reading e' ∧ P after ys' e' ∧
    before ⊆ contents ∧ after ⊆ contents

theorem Kept.sweeps (kept : Kept address P) (holds : P contents ys e) (sweeps : Sweeps address e t readings e') :
    P (contents ++ t.filterMap Exchange.content?)
        (ys ++ readings.flatMap fun reading => refreshedOf reading.dsn reading.report) e' ∧
      ∀ reading ∈ readings, ReadAmid address P (contents ++ t.filterMap Exchange.content?) reading := by
  induction sweeps generalizing contents ys with
  | nil => exact ⟨by simpa using holds, fun _ member => (by cases member)⟩
  | @cons e e₁ e' t t' reading readings reads sweeps ih =>
    have first := kept.pass holds (passes_iff_reads.2 ⟨reading, rfl, rfl, reads⟩)
    obtain ⟨all, later⟩ := ih first
    rw [List.filterMap_append, ← List.append_assoc, List.flatMap_cons, ← List.append_assoc]
    refine ⟨all, List.forall_mem_cons.2 ⟨?_, later⟩⟩
    refine ⟨_, _, _, _, e, t, e₁, holds, reads, first, ?_, List.subset_append_left ..⟩
    rw [List.append_assoc]
    exact List.subset_append_left ..

theorem refreshed_zip (readings : List Reading) :
    (((readings.map (·.dsn)).zip (readings.map (·.report))).filter (·.2.isRefreshed)).map (·.1) =
      readings.flatMap fun reading => refreshedOf reading.dsn reading.report := by
  induction readings with
  | nil => rfl
  | cons reading readings ih =>
    rw [List.flatMap_cons, ← ih, refreshedOf, List.map_cons, List.map_cons, List.zip_cons_cons, List.filter_cons]
    cases reading.report.isRefreshed <;> rfl

theorem Kept.gathers (kept : Kept address P) (holds : P contents ys e)
    (gathers : Gathers address e cycle readings e') :
    P (contents ++ cycle.contents) (ys ++ cycle.refreshed) e' ∧
      ∀ reading ∈ readings, ReadAmid address P (contents ++ cycle.contents) reading := by
  cases gathers with
  | @mk start finish t₁ t₂ readings e₁ e₂ chosen sweeps =>
    obtain ⟨renews, plan, loader, -⟩ := renews_of_targets chosen
    have begun : P (contents ++ t₁.filterMap Exchange.content?) ys e₁ := kept.renews holds renews plan loader
    obtain ⟨ended, amid⟩ := kept.sweeps begun sweeps
    rw [List.append_assoc, ← List.filterMap_append] at ended amid
    rw [Cycle.contents_clocked, Cycle.refreshed, refreshed_zip]
    have counted := @kept.renews _ [] _ _ (e₂.count (readings.map Reading.report)) ended (.refl _) rfl rfl
    rw [List.append_nil] at counted
    exact ⟨counted, amid⟩

theorem Kept.rounds (kept : Kept address P) (start : P [] [] e) (run : Rounds address e cycles e') :
    P (cycles.flatMap (·.contents)) (cycles.flatMap (·.refreshed)) e' := by
  induction run with
  | start => exact start
  | next _ last ih =>
    obtain ⟨readings, gathers⟩ := scrapes_iff_gathers.1 last
    rw [List.flatMap_append, List.flatMap_append, List.flatMap_singleton, List.flatMap_singleton]
    exact (kept.gathers ih gathers).1

/-- In each cycle of a run the targets are read while the property holds. -/
theorem Kept.amid {e₀ : Exporter} (kept : Kept address P) (start : P [] [] e₀) (run : Rounds address e₀ cycles e)
    (last : Gathers address e cycle readings e') :
    ∀ reading ∈ readings, ReadAmid address P ((cycles ++ [cycle]).flatMap (·.contents)) reading := by
  rw [List.flatMap_append, List.flatMap_singleton]
  exact (kept.gathers (kept.rounds start run) last).2

end Exporter

end PgMetrics
