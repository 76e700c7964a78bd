import PgMetrics.Metric.ViewMap

namespace PgMetrics

variable {view : String} {v w : Version}

namespace Column

/-- How the cells of a column become numbers, by its role. -/
inductive Converts (c : Column) : Conversion → Prop
  | counter : c.role = .counter → Converts c .numeric
  | gauge : c.role = .gauge → Converts c .numeric
  | mapped : c.role = .mapped → Converts c (.mapped (c.mapping.getD .empty))
  | duration : c.role = .duration → Converts c .duration

/-- The versions that have the column are given, and this one is not among them. -/
def GatedOn (c : Column) (v : Version) : Prop :=
  ∃ range, c.versions = some range ∧ range.accepts v = false

/-- What a declaration says of the descriptor of its column on a version. -/
structure Describes (c : Column) (view : String) (v : Version) (d : Descriptor) : Prop where
  discarded_iff : d.isDiscarded = true ↔ c.role = .discard ∨ c.role = .label ∨ c.GatedOn v
  name : d.isDiscarded = false →
    d.name = view ++ "_" ++ c.name ++ if c.role = .duration then "_milliseconds" else ""
  help : d.isDiscarded = false → d.help = c.description
  kind : d.isDiscarded = false → d.kind = if c.role = .counter then .counter else .gauge
  conversion : d.isDiscarded = false → c.Converts d.conversion

end Column

namespace Descriptor

variable {c : Column}

theorem describes_discarded (out : c.role = .discard ∨ c.role = .label ∨ c.GatedOn v) :
    c.Describes view v discarded where
  discarded_iff := iff_of_true rfl out
  name kept := Bool.noConfusion kept
  help kept := Bool.noConfusion kept
  kind kept := Bool.noConfusion kept
  conversion kept := Bool.noConfusion kept

theorem describes_compile (view : String) (v : Version) (c : Column) : c.Describes view v (compile view v c) := by
  have gated : c.GatedOn v ↔ (c.versions.any fun range => !range.accepts v) = true := by
    simp [Column.GatedOn, Option.any_eq_true]
  unfold compile
  split
  · rename_i closed
    exact describes_discarded (.inr (.inr (gated.2 closed)))
  · rename_i closed
    have inside : ¬c.GatedOn v := fun out => closed (gated.1 out)
    cases role : c.role with
    | discard => exact describes_discarded (.inl role)
    | label => exact describes_discarded (.inr (.inl role))
    | counter => constructor <;> simp [isDiscarded, role, inside, Column.Converts.counter]
    | gauge => constructor <;> simp [isDiscarded, role, inside, Column.Converts.gauge]
    | mapped => constructor <;> simp [isDiscarded, role, inside, Column.Converts.mapped]
    | duration => constructor <;> simp [isDiscarded, role, inside, Column.Converts.duration]

/-- A version counts by what the range of the column says of it. -/
theorem compile_congr (alike : ∀ range, c.versions = some range → range.accepts v = range.accepts w) :
    compile view v c = compile view w c := by
  have gates : (c.versions.any fun range => !range.accepts v) = c.versions.any fun range => !range.accepts w := by
    cases given : c.versions with
    | none => rfl
    | some range => simp [alike range given]
  unfold compile
  rw [gates]

end Descriptor

namespace ViewMap

variable {columns : List Column}

theorem compile_congr
    (alike : ∀ c ∈ columns, ∀ range, c.versions = some range → range.accepts v = range.accepts w) :
    compile view v columns = compile view w columns := by
  have each : columns.map (fun c => (c.name, Descriptor.compile view v c)) =
      columns.map fun c => (c.name, Descriptor.compile view w c) :=
    List.map_congr_left fun c member => congrArg _ (Descriptor.compile_congr (alike c member))
  rw [compile, compile, each]

theorem contains_compile {name : String} :
    (compile view v columns).columns.contains name = true ↔ name ∈ columns.map (·.name) := by
  rw [compile, Table.contains_ofList, List.map_map]
  rfl

theorem get?_compile_last {earlier later : List Column} {c : Column} (last : c.name ∉ later.map (·.name)) :
    (compile view v (earlier ++ c :: later)).columns.get? c.name = some (Descriptor.compile view v c) := by
  rw [compile, List.map_append, List.map_cons]
  exact Table.get?_ofList_last (by rwa [List.map_map])

end ViewMap

variable {views : List (String × List Column)}

theorem compileViews_congr
    (alike : ∀ e ∈ views, ∀ c ∈ e.2, ∀ range, c.versions = some range → range.accepts v = range.accepts w) :
    compileViews views v = compileViews views w := by
  have each : views.map (fun e => (e.1, ViewMap.compile e.1 v e.2)) =
      views.map fun e => (e.1, ViewMap.compile e.1 w e.2) :=
    List.map_congr_left fun e member => congrArg _ (ViewMap.compile_congr (alike e member))
  exact congrArg Table.ofList each

theorem contains_compileViews : (compileViews views v).contains view = true ↔ view ∈ views.map (·.1) := by
  rw [compileViews, Table.contains_ofList, List.map_map]
  rfl

theorem get?_compileViews_last {before after : List (String × List Column)} {columns : List Column}
    (last : view ∉ after.map (·.1)) :
    (compileViews (before ++ (view, columns) :: after) v).get? view = some (ViewMap.compile view v columns) := by
  rw [compileViews, List.map_append, List.map_cons]
  exact Table.get?_ofList_last (by rwa [List.map_map])

/-- On all versions a view has the same labels and the same columns. -/
theorem shape_compileViews {map map' : ViewMap} (atV : (compileViews views v).get? view = some map)
    (atW : (compileViews views w).get? view = some map') :
    map'.labels = map.labels ∧ map'.columns.keys = map.columns.keys := by
  rw [get?_compileViews, Option.map_eq_some_iff] at atV atW
  obtain ⟨columns, found, rfl⟩ := atV
  obtain ⟨columns', found', rfl⟩ := atW
  cases found.symm.trans found'
  refine ⟨rfl, Table.keys_eq fun name => ?_⟩
  rw [Bool.eq_iff_iff, ViewMap.contains_compile, ViewMap.contains_compile]

/-- Exactly the views that are declared are compiled, each from its last declaration: to the labels that it declares, in
their order, and to a descriptor for each of its columns, as the last declaration of the column says. Labels and names
are the same on all versions, descriptors on versions that no range tells apart, and of a version only the three
numbers count. -/
theorem compiled_as_declared (views : List (String × List Column)) (v : Version) :
    (∀ view, (compileViews views v).contains view = true ↔ view ∈ views.map (·.1)) ∧
    (∀ before view columns after, views = before ++ (view, columns) :: after → view ∉ after.map (·.1) →
      ∃ map, (compileViews views v).get? view = some map ∧
        map.labels = (columns.filter (·.role = .label)).map (·.name) ∧
        (∀ name, map.columns.contains name = true ↔ name ∈ columns.map (·.name)) ∧
        ∀ earlier c later, columns = earlier ++ c :: later → c.name ∉ later.map (·.name) →
          ∃ d, map.columns.get? c.name = some d ∧ c.Describes view v d) ∧
    (∀ w, (compileViews views w).keys = (compileViews views v).keys ∧
      ∀ view map map', (compileViews views v).get? view = some map → (compileViews views w).get? view = some map' →
        map'.labels = map.labels ∧ map'.columns.keys = map.columns.keys) ∧
    (∀ w, (∀ e ∈ views, ∀ c ∈ e.2, ∀ range, c.versions = some range → range.accepts v = range.accepts w) →
      compileViews views v = compileViews views w) ∧
    ∀ pre build, compileViews views { v with pre, build } = compileViews views v := by
  refine ⟨fun view => contains_compileViews, ?_, fun w => ⟨?_, ?_⟩, fun w => compileViews_congr, ?_⟩
  · rintro before view columns after rfl lastView
    refine ⟨_, get?_compileViews_last lastView, rfl, fun name => ViewMap.contains_compile, ?_⟩
    rintro earlier c later rfl lastColumn
    exact ⟨_, ViewMap.get?_compile_last lastColumn, Descriptor.describes_compile view v c⟩
  · refine Table.keys_eq fun view => ?_
    rw [Bool.eq_iff_iff, contains_compileViews, contains_compileViews]
  · exact fun view map map' => shape_compileViews
  · -- A bound is compared with the three numbers, which are those of the version itself.
    exact fun pre build => compileViews_congr fun _ _ _ _ _ _ => rfl

/-- A view declared twice, with a column that is a label first and then a duration from version 10 on. -/
theorem compiled_after_second_declaration :
    let since : VersionRange := ⟨[⟨.ge, .release 10 0 0⟩]⟩
    let lag : Column := ⟨"lag", .duration, "Delay", none, some since⟩
    let views := [("pg_x", [⟨"old", .gauge, "Gone", none, none⟩]), ("pg_x", [⟨"lag", .label, "Delay", none, none⟩, lag])]
    let early := Version.release 9 6 0
    let late := Version.release 11 2 0
    (∃ map d, (compileViews views late).get? "pg_x" = some map ∧ map.labels = ["lag"] ∧
      map.columns.contains "old" = false ∧ map.columns.get? "lag" = some d ∧ d.name = "pg_x_lag_milliseconds" ∧
      d.kind = .gauge) ∧
    (∃ map d, (compileViews views early).get? "pg_x" = some map ∧ map.labels = ["lag"] ∧
      map.columns.get? "lag" = some d ∧ d.isDiscarded = true) ∧
    compileViews views late = compileViews views (.release 10 0 0) := by
  intro since lag views early late
  have lastView : "pg_x" ∉ ([] : List (String × List Column)).map (·.1) := List.not_mem_nil
  have lastColumn : lag.name ∉ ([] : List Column).map (·.name) := List.not_mem_nil
  refine ⟨?_, ?_, ?_⟩
  · obtain ⟨-, declared, -⟩ := compiled_as_declared views late
    obtain ⟨map, atView, labels, names, columns⟩ := declared [_] "pg_x" _ [] rfl lastView
    obtain ⟨d, atLag, describes⟩ := columns [_] lag [] rfl lastColumn
    have kept : d.isDiscarded = false := by
      rw [← Bool.not_eq_true, describes.discarded_iff]
      rintro (role | role | ⟨range, given, out⟩)
      · cases role
      · cases role
      · cases given
        exact absurd out (by decide)
    refine ⟨map, d, atView, labels, ?_, atLag, describes.name kept, describes.kind kept⟩
    rw [← Bool.not_eq_true, names]
    decide
  · obtain ⟨-, declared, -⟩ := compiled_as_declared views early
    obtain ⟨map, atView, labels, -, columns⟩ := declared [_] "pg_x" _ [] rfl lastView
    obtain ⟨d, atLag, describes⟩ := columns [_] lag [] rfl lastColumn
    exact ⟨map, d, atView, labels, atLag, describes.discarded_iff.2 (.inr (.inr ⟨since, rfl, by decide⟩))⟩
  · obtain ⟨-, -, -, alike, -⟩ := compiled_as_declared views late
    refine alike _ ?_
    simp [views, lag, since, late]
    decide

end PgMetrics
