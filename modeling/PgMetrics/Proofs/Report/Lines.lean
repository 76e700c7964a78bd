import Mathlib.Data.List.Flatten
import PgMetrics.Proofs.Metric.Exposition
import PgMetrics.Report.Console

namespace PgMetrics

/-- Names that can be told from what stands around them: without an equals sign and on one line. -/
def Exposition.Plain (ls : Labels) : Prop :=
  ∀ l ∈ ls, '=' ∉ l.1.toList ∧ '\n' ∉ l.1.toList

theorem Exposition.lineFeed_not_mem_labels {ls : Labels} (plain : Plain ls) : '\n' ∉ labels ls := by
  intro member
  obtain mark | ⟨l, among, inName | ⟨-, other⟩⟩ := mem_labels member
  · exact absurd mark (by decide)
  · exact (plain l among).2 inName
  · exact other rfl

/-- Lines that stand among the blocks of a text, each of which ends with its line, are lines of the text. -/
theorem Text.sublist_split_join {lines blocks : List String} (among : (lines.map (· ++ "\n")).Sublist blocks)
    (ended : ∀ b ∈ blocks, ∃ body, b = body ++ "\n") (single : ∀ s ∈ lines, '\n' ∉ s.toList) :
    lines.Sublist (split '\n' (String.join blocks)) := by
  induction blocks generalizing lines with
  | nil =>
    rw [List.map_eq_nil_iff.1 (List.sublist_nil.1 among)]
    exact List.nil_sublist _
  | cons b blocks ih =>
    obtain ⟨⟨body, rfl⟩, later⟩ := List.forall_mem_cons.1 ended
    have cut : split '\n' (String.join ((body ++ "\n") :: blocks)) =
        split '\n' body ++ split '\n' (String.join blocks) := by
      have first : (String.join ((body ++ "\n") :: blocks)).toList =
          body.toList ++ '\n' :: (String.join blocks).toList := by
        simp [String.join_cons]
      rw [split, first, pieces_append, List.map_append]
      rfl
    rw [cut]
    rcases List.sublist_cons_iff.1 among with skipped | ⟨others, here, rest⟩
    · exact (ih skipped later single).trans (List.sublist_append_right _ _)
    · obtain ⟨line, lines, rfl, same, rfl⟩ := List.map_eq_cons_iff.1 here
      obtain ⟨whole, single⟩ := List.forall_mem_cons.1 single
      obtain rfl := (String.append_left_inj "\n").1 same
      have alone : split '\n' line = [line] := by
        rw [split, pieces_of_not_mem whole, List.map_singleton, String.ofList_toList]
      rw [alone]
      exact (ih rest later single).cons_cons line

namespace Console

/-- The samples that are shown of a snapshot: those of the targets with a connection, then the exporter's own. -/
def shown (s : Snapshot) : List Sample :=
  s.reports.flatMap (fun r => if r.isConnected then r.samples else []) ++ s.operational

/-- What a text is made of, block after block. -/
def blocks (colors : Bool) (s : Snapshot) : List String :=
  s.reports.flatMap (reportLines colors) ++ headLine colors "Exporter" :: s.operational.map (sampleLine colors)

theorem ended_detailLines (colors : Bool) (r : TargetReport) :
    ∀ b ∈ detailLines colors r, ∃ body, b = body ++ "\n" := by
  unfold detailLines
  split
  · exact List.forall_mem_singleton.2 ⟨_, rfl⟩
  · simp only [List.forall_mem_append, List.forall_mem_map, Option.mem_toList, Option.map_eq_some_iff]
    refine ⟨⟨⟨?_, fun _ _ => ⟨_, rfl⟩⟩, fun _ _ => ⟨_, rfl⟩⟩, fun _ _ => ⟨_, rfl⟩⟩
    rintro _ ⟨e, -, rfl⟩
    exact ⟨_, rfl⟩

theorem ended_blocks (colors : Bool) (s : Snapshot) : ∀ b ∈ blocks colors s, ∃ body, b = body ++ "\n" := by
  simp only [blocks, reportLines, List.forall_mem_append, List.forall_mem_cons, List.forall_mem_map,
    List.forall_mem_flatMap]
  refine ⟨fun r _ => ⟨⟨⟨_, rfl⟩, ended_detailLines colors r⟩, ⟨"", rfl⟩, ?_⟩, ⟨_, rfl⟩, fun _ _ => ⟨_, rfl⟩⟩
  exact List.forall_mem_nil _

theorem sublist_reportLines (colors : Bool) (r : TargetReport) :
    ((if r.isConnected then r.samples else []).map (sampleLine colors)).Sublist (reportLines colors r) := by
  cases atFailure : r.connectionFailure with
  | some e =>
    rw [if_neg (by simp [TargetReport.isConnected, atFailure])]
    exact List.nil_sublist _
  | none =>
    rw [if_pos (by simp [TargetReport.isConnected, atFailure])]
    have own : (r.samples.map (sampleLine colors)).Sublist (detailLines colors r) := by
      simp only [detailLines, atFailure]
      exact List.sublist_append_right _ _
    exact (own.trans (List.sublist_append_left _ _)).cons _

/-- The lines of the samples that are shown stand among the blocks in their order. -/
theorem sublist_blocks (colors : Bool) (s : Snapshot) :
    ((shown s).map (sampleLine colors)).Sublist (blocks colors s) := by
  rw [shown, blocks, List.map_append, List.map_flatMap]
  refine .append ?_ (.cons _ (.refl _))
  exact List.Sublist.flatMap_right _ fun r _ => sublist_reportLines colors r

theorem exists_line {x : Sample} (plain : Exposition.Plain x.labels) (name : '\n' ∉ x.name.toList) (colors : Bool) :
    ∃ line, sampleLine colors x = line ++ "\n" ∧ '\n' ∉ line.toList := by
  refine ⟨_, rfl, ?_⟩
  have number : '\n' ∉ (Exposition.value x.value).toList := Exposition.not_mem_value (by decide) x.value
  have styledName : '\n' ∉ (styled colors .cyan x.name).toList := by
    cases colors <;> simp [styled, Style.opening, Style.closing, escapeSequence, name]
  simp [styledName, number, Exposition.lineFeed_not_mem_labels plain]

theorem exists_lines {samples : List Sample}
    (plain : ∀ x ∈ samples, Exposition.Plain x.labels ∧ '\n' ∉ x.name.toList) (colors : Bool) :
    ∃ lines : List String, lines.map (· ++ "\n") = samples.map (sampleLine colors) ∧
      ∀ line ∈ lines, '\n' ∉ line.toList := by
  induction samples with
  | nil => exact ⟨[], rfl, List.forall_mem_nil _⟩
  | cons x samples ih =>
    obtain ⟨first, later⟩ := List.forall_mem_cons.1 plain
    obtain ⟨line, whole, here⟩ := exists_line first.1 first.2 colors
    obtain ⟨lines, others, single⟩ := ih later
    exact ⟨line :: lines, by rw [List.map_cons, List.map_cons, whole, others],
      List.forall_mem_cons.2 ⟨here, single⟩⟩

end Console

namespace Exposition

/-- From the text of labels whose names are plain the labels are read back, whatever their values are, and the text
stays on one line; so different labels have different texts. In a report for the terminal the samples with such labels,
and with names on one line, stand on lines of their own, in their order. -/
theorem labels_are_read_back :
    (∀ ls, Plain ls → '\n' ∉ labels ls ∧ read (labels ls) = some ls) ∧
    (∀ ls ls', Plain ls → Plain ls' → labels ls = labels ls' → ls = ls') ∧
    ∀ (colors : Bool) (s : Snapshot) (samples : List Sample), samples.Sublist (Console.shown s) →
      (∀ x ∈ samples, Plain x.labels ∧ '\n' ∉ x.name.toList) →
      ∃ lines : List String, lines.map (· ++ "\n") = samples.map (Console.sampleLine colors) ∧
        lines.Sublist (Text.split '\n' (Console.text colors s)) := by
  have back {ls : Labels} (plain : Plain ls) : read (labels ls) = some ls :=
    read_labels fun l member => (plain l member).1
  refine ⟨fun ls plain => ⟨lineFeed_not_mem_labels plain, back plain⟩, ?_, ?_⟩
  · intro ls ls' plain plain' same
    rw [← Option.some.injEq, ← back plain, ← back plain', same]
  · intro colors s samples among plain
    obtain ⟨lines, same, single⟩ := Console.exists_lines plain colors
    refine ⟨lines, same, Text.sublist_split_join ?_ (Console.ended_blocks colors s) single⟩
    rw [same]
    exact (among.map _).trans (Console.sublist_blocks colors s)

/-- Values that look like the end of a label, a label of its own and the end of a line. -/
theorem forged_labels_read_back :
    let ls : Labels := [("db", "a\",tbl=\"b"), ("query", "\\\n  pg_up 1\n"), ("tbl", "c\\")]
    let x : Sample := ⟨"pg_x", "", .gauge, ls, 1.0⟩
    let s : Snapshot := ⟨[{ target := "host=db", samples := [x] }], [⟨"pg_up", "", .gauge, [], 1.0⟩]⟩
    Plain ls ∧ read (labels ls) = some ls ∧ [x].Sublist (Console.shown s) ∧
      ∃ line, line ++ "\n" = Console.sampleLine true x ∧ [line].Sublist (Text.split '\n' (Console.text true s)) := by
  intro ls x s
  have plain : Plain ls := by
    unfold Plain
    decide
  have among : [x].Sublist (Console.shown s) := .cons_cons _ (List.nil_sublist _)
  obtain ⟨lines, same, lines_⟩ := labels_are_read_back.2.2 true s [x] among
    (List.forall_mem_singleton.2 ⟨plain, by decide⟩)
  obtain ⟨line, rfl, whole⟩ := List.map_eq_singleton_iff.1 same
  exact ⟨plain, (labels_are_read_back.1 ls plain).2, among, line, whole, lines_⟩

end Exposition

end PgMetrics
