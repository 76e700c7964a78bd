import PgMetrics.Command.Config
import PgMetrics.Proofs.Scrape.Labels

namespace PgMetrics

open Dialogue

variable {σ : Type}

/-- The columns of a view have different names, and none has that of the server's label. -/
def WellNamed (columns : List Column) : Prop :=
  (columns.map (·.name)).Nodup ∧ serverLabel ∉ columns.map (·.name)

instance (columns : List Column) : Decidable (WellNamed columns) :=
  inferInstanceAs (Decidable (_ ∧ _))

/-- The document that a content describes, if any, declares views with such columns. -/
def Content.WellNamed (path : String) (c : Content) : Prop :=
  ∀ document ∈ (c.document path).toOption, ∀ view ∈ document.declarations, PgMetrics.WellNamed view.2

instance (path : String) (c : Content) : Decidable (c.WellNamed path) :=
  inferInstanceAs (Decidable (∀ document ∈ (c.document path).toOption, _))

/-- The labels of a view are different, and none is the server's. -/
def ViewMap.LabelsApart (m : ViewMap) : Prop :=
  m.labels.Nodup ∧ serverLabel ∉ m.labels

theorem ViewMap.labelsApart_compile {columns : List Column} (named : WellNamed columns) (view : String)
    (version : Version) : (compile view version columns).LabelsApart := by
  obtain ⟨nodup, other⟩ := named
  have part : ((columns.filter (·.role == .label)).map (·.name)).Sublist (columns.map (·.name)) :=
    List.filter_sublist.map _
  exact ⟨nodup.sublist part, fun member => other (part.subset member)⟩

theorem labelsApart_compileViews {views : List (String × List Column)} (named : ∀ view ∈ views, WellNamed view.2)
    {version : Version} {view : String} {m : ViewMap} (atView : (compileViews views version).get? view = some m) :
    m.LabelsApart := by
  rw [get?_compileViews] at atView
  obtain ⟨columns, declared, rfl⟩ := Option.map_eq_some_iff.1 atView
  exact ViewMap.labelsApart_compile (named _ (Table.mem_of_lookup_reverse declared)) view version

/-- Of the views of a catalog with a document over it, each is one of the catalog or one of the document. -/
theorem Maps.labelsApart_build {catalog : Catalog} {o : Options} {version : Version} {document : Option Document}
    (inCatalog : ∀ view ∈ catalog.views.entries, WellNamed view.2)
    (inDocument : ∀ d ∈ document, ∀ view ∈ d.declarations, WellNamed view.2) {view : String} {m : ViewMap}
    (atView : (build catalog o version document).views.get? view = some m) : m.LabelsApart := by
  have base (atView : (ofCatalog catalog o version).views.get? view = some m) : m.LabelsApart := by
    unfold ofCatalog at atView
    split at atView
    · cases atView
    · exact labelsApart_compileViews inCatalog atView
  cases document with
  | none => exact base atView
  | some d =>
    simp only [build, Table.get?_extend] at atView
    obtain declared | ⟨-, below⟩ := Option.or_eq_some_iff.1 atView
    · exact labelsApart_compileViews (inDocument d rfl) declared
    · exact base below

/-- A loader, if there is one, is for the file at a path, and the document that it keeps has such columns. -/
structure Loader.WellNamed (path? : Option String) (l : Option Loader) : Prop where
  file : l.map (·.path) = path?
  document : ∀ d ∈ l.bind (·.lastGood), ∀ view ∈ d.declarations, PgMetrics.WellNamed view.2

theorem Loader.WellNamed.reload {path? : Option String} {l : Option Loader} {content : Option Content}
    (named : Loader.WellNamed path? l)
    (read : ∀ path, path? = some path → ∀ c, content = some c → c.WellNamed path) :
    Loader.WellNamed path? (Plan.reload l content) := by
  cases content with
  | none => exact named
  | some c =>
    cases l with
    | none => exact ⟨named.file, fun d member => (by cases member)⟩
    | some l =>
      refine ⟨named.file, fun d member => ?_⟩
      -- The document is that of the content if it can be read, and else the one before.
      obtain fresh | ⟨-, old⟩ := Option.or_eq_some_iff.1 (Option.mem_def.1 member)
      · exact read l.path named.file.symm c rfl d fresh
      · exact named.document d old

/-- Maps stay as they are, or they are built with the document that there is then. -/
theorem Plan.maps_of_advance {p : Plan} {state state' : MapState} {l l' : Option Loader} {v : Version}
    {content : Option Content} (advanced : p.advance state l v content = (state', l')) :
    l' = l ∧ state'.maps = state.maps ∨ l' = reload l content ∧ state'.maps = p.mapsFor v l' := by
  unfold advance at advanced
  dsimp only at advanced
  split at advanced <;> cases advanced
  · exact .inr ⟨rfl, rfl⟩
  · exact .inl ⟨rfl, rfl⟩

namespace Exporter

variable {address : Session → σ} {e e' : Exporter} {t : List (Exchange σ)} {reading : Reading}
  {readings : List Reading} {cycles : List (Cycle σ)} {cycle : Cycle σ} {o : Options} {catalog : Catalog}
  {dsns : List String} {contents : List Content} {ys : List String}

/-- What is declared for an exporter, in its document and in the maps of its connections, names labels apart. -/
structure Declares (catalog : Catalog) (o : Options) (e : Exporter) : Prop where
  keyed : e.registry.Keyed
  plan : e.plan = ⟨catalog, o⟩
  loader : Loader.WellNamed o.extensionPath e.loader
  views : ∀ x view m, (e.registry.state x).maps.views.get? view = some m → m.LabelsApart

theorem declares_of (catalog : Catalog) (o : Options) (dsns : List String) :
    Declares catalog o (Exporter.of catalog o dsns) := by
  refine ⟨Registry.keyed_new _, rfl, ⟨?_, ?_⟩, ?_⟩
  · cases document : o.extensionPath <;> simp [Exporter.of, document]
  · intro d member
    cases document : o.extensionPath <;> simp [Exporter.of, document] at member
  · intro x view m atView
    cases atView

/-- Maps may be lost. -/
theorem Declares.of_states (declares : Declares catalog o e) (keyed : e'.registry.Keyed) (plan : e'.plan = e.plan)
    (loader : e'.loader = e.loader) (states : ∀ y, e'.registry.state y = e.registry.state y ∨ e'.registry.state y = {}) :
    Declares catalog o e' := by
  refine ⟨keyed, plan.trans declares.plan, loader ▸ declares.loader, ?_⟩
  intro y view m atView
  obtain kept | lost := states y
  · exact declares.views y view m (kept ▸ atView)
  · rw [lost] at atView
    cases atView

theorem Declares.pass {x : String} {r : TargetReport} (named : ∀ view ∈ catalog.views.entries, WellNamed view.2)
    (declares : Declares catalog o e) (passes : Passes address e x t r e')
    (read : ∀ path, o.extensionPath = some path → ∀ c ∈ t.filterMap Exchange.content?, c.WellNamed path) :
    Declares catalog o e' := by
  obtain ⟨-, plan, -⟩ := passes.target_eq
  obtain ⟨keyed, others, ⟨-, loader, same⟩ | ⟨-, v, content, -, inPass, advanced⟩⟩ :=
    passes.refreshed_cases declares.keyed
  · refine declares.of_states keyed plan loader fun y => ?_
    by_cases atX : y = x
    · exact atX ▸ same
    · exact .inl (others y atX)
  · have reloaded := declares.loader.reload fun path file c some_ => read path file c (inPass c some_)
    have advances := Plan.maps_of_advance advanced
    have loader : Loader.WellNamed o.extensionPath e'.loader := by
      obtain ⟨kept, -⟩ | ⟨load, -⟩ := advances
      · rw [kept]
        exact declares.loader
      · rw [load]
        exact reloaded
    refine ⟨keyed, plan.trans declares.plan, loader, ?_⟩
    intro y view m atView
    by_cases atX : y = x
    · subst atX
      obtain ⟨-, maps⟩ | ⟨-, maps⟩ := advances
      · exact declares.views y view m (maps ▸ atView)
      · rw [maps, declares.plan] at atView
        exact Maps.labelsApart_build named loader.document atView
    · rw [others y atX] at atView
      exact declares.views y view m atView

theorem declares_kept (named : ∀ view ∈ catalog.views.entries, WellNamed view.2) :
    Kept address fun contents _ e =>
      (∀ path, o.extensionPath = some path → ∀ c ∈ contents, c.WellNamed path) → Declares catalog o e where
  renews holds renews plan loader read :=
    have before := holds fun path file c member => read path file c (List.mem_append_left _ member)
    before.of_states (before.keyed.of_renews renews) plan loader renews.state
  pass holds passes read :=
    have before := holds fun path file c member => read path file c (List.mem_append_left _ member)
    before.pass named passes fun path file c member => read path file c (List.mem_append_right _ member)

/-- What is read of a target has labels with different names, none of them the server's, besides those of the target. -/
theorem Reads.ownLabels_nodup (declares : Declares catalog o e') (reads : Reads address e t reading e')
    (emitter : Emitter) : (reading.ownLabels emitter).Nodup ∧ serverLabel ∉ reading.ownLabels emitter := by
  have plain : ([] : List String).Nodup ∧ serverLabel ∉ ([] : List String) := by simp
  have version : ["short_version", "version"].Nodup ∧ serverLabel ∉ ["short_version", "version"] := by decide
  cases reads with
  | unconnected => cases emitter <;> first | exact version | exact plain
  | @connected t₁ t₂ x c registry outcome state loader settings views acquires refreshes some_ atViews =>
    cases emitter with
    | version => exact version
    | setting => exact plain
    | column view name =>
      rw [Reading.ownLabels]
      cases found : views.find? (·.1.1.name == view) with
      | none => exact plain
      | some q =>
        have inViews : q.1 ∈ Connection.views { c with state } e.options.emitUntypedColumns :=
          atViews ▸ List.mem_map_of_mem (List.mem_of_find?_eq_some found)
        obtain ⟨entry, inEntries, atEntry⟩ := List.mem_filterMap.1 inViews
        obtain ⟨sql, -, same⟩ := Option.map_eq_some_iff.1 atEntry
        have map : q.1.1.map = entry.2 := by rw [← same]
        have kept := Registry.state_add registry c.target.dsn { c with state } c.target.dsn
        rw [if_pos rfl] at kept
        have atView := declares.views c.target.dsn entry.1 entry.2
        rw [kept] at atView
        rw [Option.map_some, Option.getD_some, map]
        exact atView ((Table.mem_entries_iff _).1 inEntries)

end Exporter

/-- Constants have different names; if those of other labels are different too and no constant has one of them, all are
different. -/
theorem Table.nodup_labels {constants : Table String} {rest : Labels} (nodup : (rest.map (·.1)).Nodup)
    (apart : ∀ name ∈ rest.map (·.1), constants.get? name = none) :
    ((constants.entries ++ rest).map (·.1)).Nodup := by
  rw [List.map_append]
  refine List.nodup_append.2 ⟨?_, nodup, ?_⟩
  · exact (List.pairwise_map.2 constants.sorted).imp fun lt => String.ne_of_lt lt
  · rintro name inConstants _ inRest rfl
    have known := constants.mem_keys_iff.1 inConstants
    rw [Table.contains, apart name inRest] at known
    cases known

theorem Config.validate_of_labels {c : Config} (some_ : c.poolMaxSize ≠ 0)
    (fine : c.options.constantLabels.keys.findSome? labelError = none) : c.validate = .ok c := by
  rw [validate, if_neg some_, fine]

theorem Config.serverLabel_of_validate {c : Config} (accepted : c.validate = .ok c) :
    c.options.constantLabels.get? serverLabel = none := by
  by_contra given
  have key : serverLabel ∈ c.options.constantLabels.keys := by
    rw [Table.mem_keys_iff, Table.contains, Option.isSome_iff_ne_none]
    exact given
  have refused : labelError serverLabel ≠ none := by decide
  unfold validate at accepted
  split at accepted
  · cases accepted
  · split at accepted
    · cases accepted
    · rename_i fine
      exact refused (List.findSome?_eq_none_iff.1 fine serverLabel key)

namespace Exporter

variable {address : Session → σ} {e e' : Exporter} {readings : List Reading} {cycles : List (Cycle σ)}
  {cycle : Cycle σ} {catalog : Catalog} {dsns : List String}

/-- With a configuration that is not refused, and a catalog and documents whose views have columns of different names,
the names of the labels of a sample are different unless a constant has one of those that the sample comes with: of
the version, of the document, or of a label column of its view. -/
theorem label_names_distinct {c : Config} (accepted : c.validate = .ok c)
    (inCatalog : ∀ view ∈ catalog.views.entries, WellNamed view.2)
    (run : Rounds address (Exporter.of catalog c.options dsns) cycles e) (last : Gathers address e cycle readings e')
    (inDocuments : ∀ path, c.options.extensionPath = some path →
      ∀ d ∈ cycles ++ [cycle], ∀ content ∈ d.contents, content.WellNamed path) :
    cycle.snapshot.reports.map (·.samples) = readings.map (fun reading => reading.emitted.map (·.2)) ∧
      (∀ reading ∈ readings, ∀ p ∈ reading.emitted,
        (∀ name ∈ reading.ownLabels p.1.emitter, c.options.constantLabels.get? name = none) →
          (p.2.labels.map (·.1)).Nodup) ∧
      ∀ s ∈ cycle.snapshot.operational, (∀ name ∈ s.ownLabels, c.options.constantLabels.get? name = none) →
        (s.labels.map (·.1)).Nodup := by
  obtain ⟨ofTargets, own⟩ := run.labels last
  refine ⟨?_, ?_, ?_⟩
  · rw [last.eq.2.1, List.map_map]
    exact List.map_congr_left fun reading _ => reading.emitted_samples.symm
  · intro reading member p emitted apart
    obtain ⟨_, seen, _, _, _, _, _, -, reads, declares, -, inCycles⟩ :=
      (declares_kept inCatalog).amid (fun _ => declares_of catalog c.options dsns) run last reading member
    have inSeen : ∀ path, c.options.extensionPath = some path → ∀ content ∈ seen, content.WellNamed path := by
      intro path file content member
      obtain ⟨d, inRun, inCycle⟩ := List.mem_flatMap.1 (inCycles member)
      exact inDocuments path file d inRun content inCycle
    obtain ⟨nodup, notServer⟩ := reads.ownLabels_nodup (declares inSeen) p.1.emitter
    obtain ⟨target, rest, -, labels, names⟩ := ofTargets reading member p emitted
    rw [← names] at nodup notServer apart
    rw [labels, Target.labels, List.cons_append, List.map_cons]
    refine List.nodup_cons.2 ⟨fun again => ?_, Table.nodup_labels nodup apart⟩
    rw [List.map_append] at again
    obtain inConstants | inRest := List.mem_append.1 again
    · have known := (c.options.constantLabels.mem_keys_iff).1 inConstants
      rw [Table.contains, Config.serverLabel_of_validate accepted] at known
      cases known
    · exact notServer inRest
  · intro s member apart
    obtain ⟨rest, labels, names⟩ := own s member
    rw [labels]
    refine Table.nodup_labels ?_ (names ▸ apart)
    rw [names, Sample.ownLabels]
    split <;> decide

/-- What is logged and what is read of sources has no content of the document in it. -/
theorem contents_logged (es : List LogEntry) :
    (es.map (Exchange.logged (σ := σ))).filterMap Exchange.content? = [] := by
  simp [List.filterMap_map, Function.comp_def, Exchange.content?, Exchange.logged]

theorem contents_remainder (address : Session → σ) (connection : Connection)
    (outcome : Except Failure (Option Sample)) (parts : List Part) :
    (remainder address connection outcome parts).filterMap Exchange.content? = [] := by
  rw [remainder, List.filterMap_append, contents_logged, List.nil_append, List.filterMap_flatMap,
    List.flatMap_eq_nil_iff]
  intro part _
  rw [Part.exchanges, List.filterMap_cons_none rfl, contents_logged]

/-- A view of the catalog and one of the document, each with a label column, and a constant of another name. -/
theorem label_names_with_document :
    let c : Config := { options :=
      { disableSettingsMetrics := true, constantLabels := .ofList [("env", "prod")], extensionPath := some "q.yaml" } }
    let catalog : Catalog :=
      { views := ⟨[("pg_x", [⟨"a", .label, "", none, none⟩, ⟨"n", .gauge, "", none, none⟩])], by decide⟩ }
    ∃ cycle readings e', Gathers Session.dsn (Exporter.of catalog c.options ["host=db"]) cycle readings e' ∧
      cycle.contents.map (fun x => ((x.document "q.yaml").toOption.map (·.declarations.map (·.1)))) = [some ["pg_y"]] ∧
      (readings.flatMap (·.emitted)).map (fun p => p.2.labels.map (·.1)) =
        [["server", "env", "short_version", "version"], ["server", "env", "a"], ["server", "env", "b"]] ∧
      ∀ s ∈ cycle.snapshot.samples, (s.labels.map (·.1)).Nodup := by
  intro c catalog
  let e := Exporter.of catalog c.options ["host=db"]
  let content : Content := .ok (Text.encode "pg_y: {metrics: [{b: {usage: LABEL}}]}")
  let document : Document := ⟨⟨[("pg_y", ⟨none, [⟨[("b", ⟨.label, ""⟩)], by decide⟩]⟩)], by decide⟩⟩
  have described : content.document "q.yaml" = .ok document := by
    have read : Document.read "pg_y: {metrics: [{b: {usage: LABEL}}]}" = .ok document := by cbv
    simp only [content, Content.document, Text.decode_encode, read]
  let connection := e.registry.fresh ⟨"host=db", "db:5432"⟩
  let banner : Banner := ⟨"PostgreSQL 11.2", .release 11 2 0⟩
  let said : Except Failure Answer := .ok ⟨["version"], [[.text banner.text]]⟩
  let state : MapState :=
    ⟨some banner.version, Maps.build catalog c.options banner.version (some document), content.hashsum?⟩
  let loaded := Loader.load ⟨"q.yaml", none, none⟩ content
  have advanced : e.plan.advance connection.state e.loader banner.version (some content) = (state, some loaded) := by
    have lastGood : loaded.lastGood = some document := by
      rw [Loader.lastGood_load, described]
      rfl
    change ((⟨some banner.version, Maps.build catalog c.options banner.version loaded.lastGood,
      content.hashsum?⟩ : MapState), some loaded) = _
    rw [lastGood]
  let rows : Except Failure Answer := .ok ⟨["a", "b", "n"], [[.text "u", .text "v", .int 1]]⟩
  let views := (Connection.views { connection with state } true).map (·, rows)
  have atViews : views.map (·.1) = Connection.views { connection with state } true := by
    simp [views, Function.comp_def]
  have read : Target.read "host=db" = .ok ⟨"host=db", "db:5432"⟩ := by decide +kernel
  have told : Banner.ofReply said = .ok banner := by decide +kernel
  obtain ⟨t₁, none_, acquires⟩ : ∃ t₁ : List (Exchange String), t₁.filterMap Exchange.content? = [] ∧
      e.registry.Acquires Session.dsn "host=db" t₁ (.ok connection) _ := ⟨_, rfl, .opened rfl read .alive⟩
  obtain ⟨t₂, once, refreshes⟩ : ∃ t₂ : List (Exchange String), t₂.filterMap Exchange.content? = [content] ∧
      e.plan.Refreshes Session.dsn connection e.loader t₂ _ state (some loaded) := by
    refine ⟨_, ?_, .done told .readable advanced⟩
    rw [List.filterMap_cons_none rfl, List.filterMap_append, List.filterMap_append, contents_logged, contents_logged]
    rfl
  let reading := Reading.connected "host=db" { connection with state }
    (.ok (e.plan.versionSample connection.labels banner)) none views
  obtain ⟨cycle, contents, e', gathers⟩ :
      ∃ cycle, cycle.contents = [content] ∧ ∃ e', Gathers Session.dsn e cycle [reading] e' := by
    have reads := Reads.connected acquires refreshes (rfl : (none : Option (Except Failure Answer)).isSome = _) atViews
    have chosen : Runs (e.targets (world Session.dsn)) [] (["host=db"], e) := .done
    refine ⟨_, ?_, _, @Gathers.mk _ Session.dsn e 0.0 1.0 _ _ [reading] _ _ chosen (.cons reads .nil)⟩
    rw [Cycle.contents_clocked, List.nil_append, List.append_nil, List.filterMap_append, List.filterMap_append, none_,
      once, contents_remainder]
    rfl
  have apart : ∀ p ∈ reading.emitted, ∀ name ∈ reading.ownLabels p.1.emitter,
      c.options.constantLabels.get? name = none := by decide +kernel
  have accepted : c.validate = .ok c := Config.validate_of_labels (by decide) (by decide +kernel)
  have inDocument : content.WellNamed "q.yaml" := by
    intro d member
    rw [described] at member
    obtain rfl := Option.some.inj member
    decide +kernel
  refine ⟨cycle, [reading], e', gathers, ?_, by decide +kernel, ?_⟩
  · rw [contents, List.map_singleton, described]
    rfl
  · obtain ⟨samples, ofTargets, own⟩ := label_names_distinct accepted (by decide) .start gathers fun path file d inRun =>
      by
        obtain rfl := Option.some.inj file
        rw [List.mem_singleton.1 inRun, contents]
        exact List.forall_mem_singleton.2 inDocument
    intro s member
    obtain inReports | operational := List.mem_append.1 member
    · rw [List.flatMap_def, samples] at inReports
      obtain ⟨p, emitted, rfl⟩ : ∃ p ∈ reading.emitted, p.2 = s := by simpa using inReports
      exact ofTargets reading (List.mem_singleton_self _) p emitted (apart p emitted)
    · refine own s operational ?_
      rw [Sample.ownLabels]
      split <;> decide +kernel

/-- Constants with the names of what comes with the version, with a row of a view and with the document: none is
refused, and each is there twice on one sample. -/
theorem label_names_repeated :
    let c : Config := { options :=
      { disableSettingsMetrics := true, extensionPath := some "q.yaml"
        constantLabels := .ofList [("version", "x"), ("a", "x"), ("hashsum", "x")] } }
    let catalog : Catalog :=
      { views := ⟨[("pg_x", [⟨"a", .label, "", none, none⟩, ⟨"n", .gauge, "", none, none⟩])], by decide⟩ }
    let answer (sql : String) : Answer :=
      if sql = Banner.query then ⟨["version"], [[.text "PostgreSQL 11.2"]]⟩ else ⟨["a", "n"], [[.text "u", .int 1]]⟩
    let replies := Request.replyOf (fun _ => .ok ()) (fun _ sql => .ok (answer sql)) (.error .notFound)
    let run := play (fun _ => replies) [] ((Exporter.of catalog c.options ["host=db"]).scrape (world Session.dsn))
    let cycle : Cycle String := ⟨run.1, ["host=db"], run.2.1⟩
    c.validate = .ok c ∧ (∀ view ∈ catalog.views.entries, WellNamed view.2) ∧
      Scrapes Session.dsn (Exporter.of catalog c.options ["host=db"]) cycle run.2.2 ∧
      (∀ content ∈ cycle.contents, content.WellNamed "q.yaml") ∧
      (cycle.snapshot.samples.filter fun s => ¬(s.labels.map (·.1)).Nodup).map (·.name) =
        ["pg_static", "pg_x_n", "pg_exporter_user_queries_load_error"] := by
  intro c catalog answer replies run cycle
  have accepted : c.validate = .ok c := Config.validate_of_labels (by decide) (by decide +kernel)
  exact ⟨accepted, by decide, .of_play rfl rfl rfl, by decide +kernel, by decide +kernel⟩

end Exporter

end PgMetrics
