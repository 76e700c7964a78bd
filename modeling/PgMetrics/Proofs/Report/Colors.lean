import PgMetrics.Proofs.Report.Lines

namespace PgMetrics

namespace ColorSequence

def isParameter (c : Char) : Bool :=
  c.isDigit || c == ';'

/-- The text behind a color sequence, if a text begins with one: an escape character and a bracket, numbers between
semicolons, and the letter m. -/
def behind? : List Char → Option (List Char)
  | '\x1b' :: '[' :: cs =>
    match cs.dropWhile isParameter with
    | 'm' :: rest => some rest
    | _ => none
  | _ => none

theorem behind?_length {cs rest : List Char} (found : behind? cs = some rest) : rest.length < cs.length := by
  unfold behind? at found
  split at found
  · rename_i cs
    split at found
    · rename_i rest' cut
      obtain rfl := Option.some.inj found
      have part := (List.dropWhile_sublist isParameter (l := cs)).length_le
      rw [cut] at part
      simp only [List.length_cons] at part ⊢
      omega
    · cases found
  · cases found

/-- A text without its color sequences. -/
def strip (cs : List Char) : List Char :=
  match found : behind? cs with
  | some rest =>
    have := behind?_length found
    strip rest
  | none =>
    match cs with
    | [] => []
    | c :: cs => c :: strip cs
termination_by cs.length

theorem strip_of_behind? {cs rest : List Char} (found : behind? cs = some rest) : strip cs = strip rest := by
  rw [strip]
  split <;> simp_all

theorem strip_cons {c : Char} (plain : c ≠ '\x1b') (cs : List Char) : strip (c :: cs) = c :: strip cs := by
  have none_ : behind? (c :: cs) = none := by
    unfold behind?
    split
    · rename_i same
      exact absurd (List.cons.inj same).1 plain
    · rfl
  rw [strip]
  split <;> simp_all

theorem strip_nil : strip [] = [] := by
  rw [strip]
  split
  · rename_i found
    cases found
  · rfl

/-- Of the first text the second is left, and what stands behind it is stripped as if it stood alone. -/
def Leaves (t t' : String) : Prop :=
  ∀ rest, strip (t.toList ++ rest) = t'.toList ++ strip rest

variable {t t' u u' : String}

theorem Leaves.strip_eq (leaves : Leaves t t') : strip t.toList = t'.toList := by
  have alone := leaves []
  rwa [List.append_nil, strip_nil, List.append_nil] at alone

theorem Leaves.append (first : Leaves t t') (second : Leaves u u') : Leaves (t ++ u) (t' ++ u') := by
  intro rest
  rw [String.toList_append, List.append_assoc, first, second, String.toList_append, List.append_assoc]

theorem leaves_of_plain (plain : '\x1b' ∉ t.toList) : Leaves t t := by
  intro rest
  generalize t.toList = cs at plain
  induction cs with
  | nil => rfl
  | cons c cs ih =>
    rw [List.mem_cons, not_or] at plain
    rw [List.cons_append, strip_cons (Ne.symm plain.1), ih plain.2, List.cons_append]

theorem leaves_escapeSequence {code : String} (parameters : ∀ c ∈ code.toList, isParameter c = true) :
    Leaves (Console.escapeSequence code) "" := by
  intro rest
  have whole : (Console.escapeSequence code).toList ++ rest = '\x1b' :: '[' :: (code.toList ++ 'm' :: rest) := by
    simp [Console.escapeSequence]
  have stops : ∀ c, ('m' :: rest).head? = some c → isParameter c = false := by
    rintro c ⟨⟩
    rfl
  have found : behind? ('\x1b' :: '[' :: (code.toList ++ 'm' :: rest)) = some rest := by
    simp only [behind?, (Text.cut_append parameters stops).2]
  rw [whole, strip_of_behind? found]
  rfl

/-- Parts of which each leaves a part leave together what those make up. -/
theorem leaves_join_flatMap {α : Type} {xs : List α} {f g : α → List String}
    (each : ∀ x ∈ xs, Leaves (String.join (f x)) (String.join (g x))) :
    Leaves (String.join (xs.flatMap f)) (String.join (xs.flatMap g)) := by
  induction xs with
  | nil => exact leaves_of_plain (by simp)
  | cons x xs ih =>
    obtain ⟨first, later⟩ := List.forall_mem_cons.1 each
    rw [List.flatMap_cons, List.flatMap_cons, String.join_append, String.join_append]
    exact first.append (ih later)

theorem leaves_join_map {α : Type} {xs : List α} {f g : α → String} (each : ∀ x ∈ xs, Leaves (f x) (g x)) :
    Leaves (String.join (xs.map f)) (String.join (xs.map g)) := by
  rw [List.map_eq_flatMap, List.map_eq_flatMap]
  refine leaves_join_flatMap fun x member => ?_
  simpa [String.join_cons] using each x member

end ColorSequence

def Sample.texts (s : Sample) : List String :=
  s.name :: s.labels.flatMap fun l => [l.1, l.2]

def TargetReport.texts (r : TargetReport) : List String :=
  r.target :: (r.connectionFailure.toList ++ r.versionFailure.toList).map (·.message) ++
    r.viewFailures.flatMap (fun e => [e.view, e.failure.message]) ++
    r.valueErrors.flatMap (fun e => [e.view, e.column, e.error.message]) ++ r.samples.flatMap (·.texts)

/-- The texts that a report is made of. Help texts are not shown in it. -/
def Snapshot.texts (s : Snapshot) : List String :=
  s.reports.flatMap (·.texts) ++ s.operational.flatMap (·.texts)

namespace Console

open ColorSequence

variable {c : Char} {t u : String}

theorem not_mem_append (first : c ∉ t.toList) (second : c ∉ u.toList) : c ∉ (t ++ u).toList := by
  rw [String.toList_append, List.mem_append]
  exact fun member => member.elim first second

theorem leaves_styled (plain : '\x1b' ∉ t.toList) (style : Style) :
    Leaves (styled true style t) (styled false style t) := by
  have opening : Leaves style.opening "" := by
    cases style <;> exact leaves_escapeSequence (List.all_eq_true.1 (by decide))
  have closing : Leaves style.closing "" := by
    cases style <;> exact leaves_escapeSequence (List.all_eq_true.1 (by decide))
  have around := (opening.append (leaves_of_plain plain)).append closing
  simpa [styled] using around

theorem leaves_line (plain : '\x1b' ∉ t.toList) (style : Style) :
    Leaves (styled true style t ++ "\n") (styled false style t ++ "\n") :=
  (leaves_styled plain style).append (leaves_of_plain (by decide))

theorem leaves_sampleLine {s : Sample} (plain : ∀ t ∈ s.texts, '\x1b' ∉ t.toList) :
    Leaves (sampleLine true s) (sampleLine false s) := by
  obtain ⟨name, parts⟩ := List.forall_mem_cons.1 plain
  have labels : '\x1b' ∉ (String.ofList (Exposition.labels s.labels)).toList := by
    rw [String.toList_ofList]
    intro member
    obtain mark | ⟨l, among, here⟩ := Exposition.mem_labels member
    · exact absurd mark (by decide)
    · rw [List.forall_mem_flatMap] at parts
      have both := parts l among
      simp only [List.forall_mem_cons] at both
      exact here.elim both.1 fun inValue => both.2.1 inValue.1
  have number : '\x1b' ∉ (Exposition.value s.value).toList := Exposition.not_mem_value (by decide) s.value
  have margin : Leaves "  " "  " := leaves_of_plain (by decide)
  have gap : Leaves " " " " := leaves_of_plain (by decide)
  have ending : Leaves "\n" "\n" := leaves_of_plain (by decide)
  exact ((((margin.append (leaves_styled name .cyan)).append (leaves_of_plain labels)).append gap).append
    (leaves_of_plain number)).append ending

theorem leaves_failureLine (plain : '\x1b' ∉ t.toList) : Leaves (failureLine true t) (failureLine false t) :=
  leaves_line (not_mem_append (by decide) plain) .red

theorem leaves_valueErrorLine {e : ValueError} (plain : ∀ t ∈ [e.view, e.column, e.error.message], '\x1b' ∉ t.toList) :
    Leaves (valueErrorLine true e) (valueErrorLine false e) := by
  simp only [List.forall_mem_cons] at plain
  obtain ⟨view, column, error, -⟩ := plain
  have place := not_mem_append (not_mem_append view (u := ".") (by decide)) column
  exact leaves_line (not_mem_append (by decide) (not_mem_append (not_mem_append place (by decide)) error)) .yellow

theorem leaves_detailLines {r : TargetReport} (plain : ∀ t ∈ r.texts, '\x1b' ∉ t.toList) :
    Leaves (String.join (detailLines true r)) (String.join (detailLines false r)) := by
  simp only [TargetReport.texts, List.forall_mem_append, List.forall_mem_cons, List.forall_mem_map,
    List.forall_mem_flatMap (p := fun t : String => '\x1b' ∉ t.toList)] at plain
  obtain ⟨⟨⟨⟨-, connection, version⟩, views⟩, values⟩, samples⟩ := plain
  unfold detailLines
  cases atFailure : r.connectionFailure with
  | some e =>
    have message := connection e (by simp [atFailure])
    simpa [String.join_cons] using leaves_failureLine (not_mem_append (t := "connection failed: ") (by decide) message)
  | none =>
    simp only [String.join_append, Option.toList_map]
    refine (((leaves_join_map ?_).append (leaves_join_map ?_)).append (leaves_join_map ?_)).append (leaves_join_map ?_)
    · exact fun e member => leaves_failureLine (not_mem_append (by decide) (version e member))
    · intro e member
      obtain ⟨view, failure, -⟩ := views e member
      exact leaves_failureLine
        (not_mem_append (not_mem_append (not_mem_append (by decide) view) (by decide)) failure)
    · exact fun e member => leaves_valueErrorLine (by simpa using values e member)
    · exact fun x member => leaves_sampleLine (samples x member)

theorem leaves_reportLines {r : TargetReport} (plain : ∀ t ∈ r.texts, '\x1b' ∉ t.toList) :
    Leaves (String.join (reportLines true r)) (String.join (reportLines false r)) := by
  have head : Leaves (headLine true r.target) (headLine false r.target) :=
    leaves_line (plain r.target (by simp [TargetReport.texts])) .bold
  have whole (colors : Bool) : String.join (reportLines colors r) =
      headLine colors r.target ++ String.join (detailLines colors r) ++ "\n" := by
    simp [reportLines, String.join_append, String.join_cons, String.append_assoc]
  rw [whole, whole]
  exact (head.append (leaves_detailLines plain)).append (leaves_of_plain (by decide))

/-- Colors are all that they change: a report with them, without its color sequences, is the report without them. -/
theorem strip_text {s : Snapshot} (plain : ∀ t ∈ s.texts, '\x1b' ∉ t.toList) :
    strip (text true s).toList = (text false s).toList := by
  obtain ⟨reports, operational⟩ := List.forall_mem_append.1 plain
  rw [List.forall_mem_flatMap] at reports operational
  refine Leaves.strip_eq ?_
  change Leaves (String.join (blocks true s)) (String.join (blocks false s))
  unfold blocks
  rw [String.join_append, String.join_append, String.join_cons, String.join_cons]
  refine (leaves_join_flatMap fun r member => leaves_reportLines (reports r member)).append (.append ?_ ?_)
  · exact leaves_line (by decide) .bold
  · exact leaves_join_map fun x member => leaves_sampleLine (operational x member)

/-- A target without a connection, and one where the version, a view and a value failed. A label and an error look like
color sequences without their escape character. -/
theorem strip_text_of_failures :
    let lost : TargetReport := { target := "host=a", connectionFailure := some (.of .connectionString) }
    let x : Sample := ⟨"pg_x_n", "", .gauge, [("server", "db:5432"), ("q", "[31m\n")], 1.5⟩
    let r : TargetReport :=
      { target := "host=db", samples := [x], viewFailures := [⟨"pg_y", .of (.database .refused)⟩]
        valueErrors := [⟨"pg_x", "m", .unmapped "[0m"⟩], versionFailure := some (.of .noVersionString) }
    let s : Snapshot := ⟨[lost, r], [⟨"pg_up", "", .gauge, [], 1.0⟩]⟩
    (∀ t ∈ s.texts, '\x1b' ∉ t.toList) ∧ strip (text true s).toList = (text false s).toList := by
  intro lost x r s
  have plain : ∀ t ∈ s.texts, '\x1b' ∉ t.toList := by decide +kernel
  exact ⟨plain, strip_text plain⟩

end Console

end PgMetrics
