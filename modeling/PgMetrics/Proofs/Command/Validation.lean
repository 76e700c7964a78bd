import PgMetrics.Command.Validate
import PgMetrics.Extension.Loader
import PgMetrics.Proofs.Replies

namespace PgMetrics

variable {σ α β : Type}

/-- What a run shows to those who started it. -/
structure Effects where
  output : List String := []
  errors : List String := []
  exitCodes : List Nat := []
  deriving DecidableEq, Repr

namespace Effects

def ofExchange : Exchange σ → Effects
  | ⟨.print text, _⟩ => { output := [text] }
  | ⟨.printError text, _⟩ => { errors := [text] }
  | ⟨.exit code, _⟩ => { exitCodes := [code] }
  | _ => {}

/-- The effects of the exchanges of a run, in their order. -/
def of : List (Exchange σ) → Effects
  | [] => {}
  | x :: t =>
    { output := (ofExchange x).output ++ (of t).output
      errors := (ofExchange x).errors ++ (of t).errors
      exitCodes := (ofExchange x).exitCodes ++ (of t).exitCodes }

theorem of_append_of_silent {t : List (Exchange σ)} (silent : ∀ x ∈ t, ofExchange x = {}) (t' : List (Exchange σ)) :
    of (t ++ t') = of t' := by
  induction t with
  | nil => rfl
  | cons x t ih =>
    obtain ⟨first, later⟩ := List.forall_mem_cons.1 silent
    rw [List.cons_append, of, first, ih later]
    rfl

end Effects

theorem Content.exists_text_of_document {path : String} {c : Content} {d : Document}
    (made : Content.document path c = .ok d) : ∃ s, c = .ok (Text.encode s) ∧ Document.read s = .ok d := by
  cases c with
  | error e => cases made
  | ok bytes =>
    unfold Content.document at made
    cases text : Text.decode bytes with
    | none => simp [text] at made
    | some s =>
      simp only [text] at made
      exact ⟨s, by rw [Text.encode_of_decode text], made⟩

/-- A configuration is accepted as it is. -/
theorem Config.eq_of_validate {c c' : Config} (accepted : c.validate = .ok c') : c = c' := by
  unfold validate at accepted
  split at accepted
  · cases accepted
  · split at accepted
    · cases accepted
    · exact Except.ok.inj accepted

namespace Dialogue

variable (replies : (r : Request σ) → r.Reply)

/-- A dialogue that shows nothing. -/
def Silent (d : Dialogue σ α) : Prop :=
  ∀ x ∈ exchanges replies d, Effects.ofExchange x = {}

variable {replies} {address : Session → σ}

theorem silent_pure (a : α) : Silent replies (pure a : Dialogue σ α) :=
  List.forall_mem_nil _

theorem Silent.bind {d : Dialogue σ α} {f : α → Dialogue σ β} (first : Silent replies d)
    (second : ∀ a, Silent replies (f a)) : Silent replies (d >>= f) := by
  intro x member
  rw [exchanges_bind, List.mem_append] at member
  exact member.elim (first x) (second _ x)

theorem silent_logAll (es : List LogEntry) : Silent replies ((world address).logAll es) := by
  induction es with
  | nil => exact silent_pure ()
  | cons e es ih => exact .bind (List.forall_mem_singleton.2 rfl) fun _ => ih

theorem silent_readText (path : String) : Silent replies ((world address).readText path) := by
  refine .bind (List.forall_mem_singleton.2 rfl) fun content => ?_
  split
  · exact silent_pure _
  · split <;> exact silent_pure _

end Dialogue

namespace Validation

open Dialogue

variable {address : Session → σ} {replies : (r : Request σ) → r.Reply} {a : ValidateArguments} {path : String}

theorem silent_load (directory : String) (file : Option String) :
    Silent replies (Config.load (world address) directory file) := by
  refine .bind (silent_readText _) fun text => ?_
  split
  · exact silent_pure _
  · split <;> exact silent_pure _

theorem silent_checkDocument (c : Config) (path : String) :
    Silent replies (checkDocument (world address) c path) := by
  refine .bind (silent_readText path) fun text => ?_
  split
  · exact silent_pure _
  · split
    · exact silent_pure _
    · exact .bind (silent_logAll _) fun _ => silent_pure _

/-- Nothing is shown before the outcome is known. -/
theorem silent_check : Silent replies (check (world address) a) := by
  refine .bind (silent_load _ _) fun loaded => ?_
  split
  · exact silent_pure _
  · split
    · exact silent_pure _
    · refine .bind (silent_checkDocument _ _) fun checked => ?_
      split <;> exact silent_pure _

/-- A document makes it through validation when a loader makes one of its content. -/
theorem outcome_checkDocument_eq_ok_iff {c : Config} :
    outcome replies (checkDocument (world address) c path) = .ok () ↔
      ∃ d, Content.document path (replies (.content path)) = .ok d := by
  rw [checkDocument, outcome_bind]
  cases read : outcome replies ((world address).readText path) with
  | error e =>
    refine iff_of_false nofun ?_
    rintro ⟨d, made⟩
    obtain ⟨s, content, -⟩ := Content.exists_text_of_document made
    rw [outcome_readText_eq_ok_iff.2 content] at read
    cases read
  | ok s =>
    rw [outcome_readText_eq_ok_iff.1 read]
    simp only [Content.document, Text.decode_encode]
    cases Document.read s with
    | error f => exact iff_of_false nofun (by simp)
    | ok d => exact iff_of_true (outcome_bind ..) ⟨d, rfl⟩

/-- The configuration that the file describes, whether or not it can be used. -/
def described? (replies : (r : Request σ) → r.Reply) (address : Session → σ) (a : ValidateArguments) : Option Config :=
  (outcome replies ((world address).readText (a.config.getD (Config.pathIn "." Config.defaultFile)))).toOption.bind
    Config.read

/-- The arguments name a document, or else the configuration does, even one that is refused. -/
def Names (replies : (r : Request σ) → r.Reply) (address : Session → σ) (a : ValidateArguments)
    (path : String) : Prop :=
  a.extensionPath.or ((described? replies address a).bind (·.options.extensionPath)) = some path

/-- The configuration is loaded, and a loader that reads its file and loads it has not failed. -/
def Loads (replies : (r : Request σ) → r.Reply) (address : Session → σ) (a : ValidateArguments) (l : Loader) : Prop :=
  (∃ c, outcome replies (Config.load (world address) "." a.config) = .ok c) ∧
    (l.load (outcome replies (Loader.read (world address) l.path))).status.map (·.failed) = some false

theorem outcome_read (path : String) :
    outcome replies (Loader.read (world address) path) = replies (.content path) := by
  rw [Loader.read, outcome_bind, outcome_contentOf]
  cases replies (.content path) with
  | error e => rfl
  | ok bytes => rfl

theorem loads_iff {l : Loader} : Loads replies address a l ↔
    (∃ c, outcome replies (Config.load (world address) "." a.config) = .ok c) ∧
      ∃ d, Content.document l.path (replies (.content l.path)) = .ok d := by
  rw [Loads, outcome_read, Loader.status_load]
  refine and_congr_right fun _ => ?_
  cases Content.document l.path (replies (.content l.path)) with
  | error f => exact iff_of_false nofun nofun
  | ok d => exact iff_of_true rfl ⟨d, rfl⟩

/-- A configuration that is loaded names what its file does; the one that stands in for a missing file names nothing. -/
theorem Names.of_load {c : Config} (named : Names replies address a path)
    (config : outcome replies (Config.load (world address) "." a.config) = .ok c) :
    a.extensionPath.or c.options.extensionPath = some path := by
  suffices same : (described? replies address a).bind (·.options.extensionPath) = c.options.extensionPath by
    rwa [Names, same] at named
  rw [Config.load, outcome_bind] at config
  unfold described?
  cases read : outcome replies ((world address).readText (a.config.getD (Config.pathIn "." Config.defaultFile))) with
  | error e =>
    rw [read] at config
    dsimp only at config
    split at config
    · cases config
      rfl
    · cases config
  | ok text =>
    rw [read] at config
    replace config : Config.ofText (a.config.getD (Config.pathIn "." Config.defaultFile)) text = .ok c := config
    rw [Except.toOption, Option.bind_some]
    unfold Config.ofText at config
    cases written : Config.read text with
    | none => simp [written] at config
    | some c' =>
      simp only [written] at config
      rw [Config.eq_of_validate config, Option.bind_some]

theorem check_of_loads {l : Loader} (named : Names replies address a l.path) (loads : Loads replies address a l) :
    outcome replies (check (world address) a) = .ok (some l.path) := by
  obtain ⟨⟨c, config⟩, document⟩ := loads_iff.1 loads
  rw [check, outcome_bind, config]
  simp only [named.of_load config, outcome_bind, outcome_checkDocument_eq_ok_iff.2 document]
  rfl

theorem check_of_not_loads {l : Loader} (named : Names replies address a l.path) (fails : ¬ Loads replies address a l) :
    ∃ f, outcome replies (check (world address) a) = .error f ∧
      ∀ f', outcome replies (Config.load (world address) "." a.config) = .error f' → f' = f := by
  rw [check, outcome_bind]
  cases config : outcome replies (Config.load (world address) "." a.config) with
  | error f => exact ⟨f, rfl, fun f' same => Except.error.inj same.symm⟩
  | ok c =>
    simp only [named.of_load config, outcome_bind]
    cases document : outcome replies (checkDocument (world address) c l.path) with
    | error f => exact ⟨f, rfl, nofun⟩
    | ok _ => exact absurd (loads_iff.2 ⟨⟨c, config⟩, outcome_checkDocument_eq_ok_iff.1 document⟩) fails

theorem run_eq_of_ok {document : Option String} (valid : outcome replies (check (world address) a) = .ok document) :
    outcome replies (run (world address) a) = .ok () ∧
      Effects.of (exchanges replies (run (world address) a)) = { output := [successText a document] } := by
  constructor
  · rw [run, outcome_bind, valid]
    rfl
  · rw [run, exchanges_bind, Effects.of_append_of_silent silent_check, valid]
    rfl

theorem run_eq_of_error {f : Failure} (invalid : outcome replies (check (world address) a) = .error f) :
    outcome replies (run (world address) a) = .error f ∧
      Effects.of (exchanges replies (run (world address) a)) =
        { errors := ["❌ Configuration validation failed: " ++ f.message ++ "\n"], exitCodes := [1] } := by
  constructor
  · rw [run, outcome_bind, invalid]
    rfl
  · rw [run, exchanges_bind, Effects.of_append_of_silent silent_check, invalid]
    rfl

/-- Validation agrees with the loader. With a document named it ends well and reports its path, and does no more, just
when both the configuration and the document can be loaded; else it shows a failure, asks for the exit code 1 and ends
with that failure, which is the configuration's own if that cannot be loaded. -/
theorem run_agrees_with_loader {l : Loader} (named : Names replies address a l.path) :
    (Loads replies address a l ↔ outcome replies (run (world address) a) = .ok () ∧
      ∃ before, Effects.of (exchanges replies (run (world address) a)) =
        { output := [before ++ ("Extension document: " ++ l.path ++ "\n")] }) ∧
    (¬ Loads replies address a l → ∃ f, outcome replies (run (world address) a) = .error f ∧
      Effects.of (exchanges replies (run (world address) a)) =
        { errors := ["❌ Configuration validation failed: " ++ f.message ++ "\n"], exitCodes := [1] } ∧
      ∀ f', outcome replies (Config.load (world address) "." a.config) = .error f' → f' = f) := by
  by_cases loads : Loads replies address a l
  · obtain ⟨ends, shown⟩ := run_eq_of_ok (check_of_loads named loads)
    exact ⟨iff_of_true loads ⟨ends, _, shown⟩, fun fails => absurd loads fails⟩
  · obtain ⟨f, invalid, same⟩ := check_of_not_loads named loads
    obtain ⟨ends, shown⟩ := run_eq_of_error invalid
    refine ⟨iff_of_false loads fun valid => ?_, fun _ => ⟨f, ends, shown, same⟩⟩
    rw [ends] at valid
    cases valid.1

/-- A document that the configuration names is valid, and one that the arguments name in its place is not. Where the
configuration is refused, the valid document that it names is of no use. -/
theorem run_over_two_documents :
    let files : List (String × String) := [("c.toml", "extend_query_path = \"good.yaml\"\n"),
      ("refused.toml", "extend_query_path = \"good.yaml\"\npool_max_size = 0\n"),
      ("good.yaml", "pg_custom:\n  metrics:\n    - one:\n        usage: GAUGE\n"),
      ("bad.yaml", "pg_custom:\n  metrics:\n    - one:\n        usage: SUMMARY\n")]
    let replies : (r : Request Session) → r.Reply
      | .content path => ((files.lookup path).map Text.encode).elim (.error .notFound) .ok
      | r => Request.replyOf (fun _ => .ok ()) (fun _ _ => .ok ⟨[], []⟩) (.error .notFound) r
    let arguments : ValidateArguments := { config := some "c.toml" }
    outcome replies (run (world id) arguments) = .ok () ∧
      (∃ f, outcome replies (run (world id) { arguments with extensionPath := some "bad.yaml" }) = .error f) ∧
      ∃ f, outcome replies (Config.load (world id) "." (some "refused.toml")) = .error f ∧
        outcome replies (run (world id) { config := some "refused.toml" }) = .error f := by
  intro files replies arguments
  have named : Names replies id arguments "good.yaml" := by
    unfold Names
    decide +kernel
  have loads : Loads replies id arguments { path := "good.yaml" } := by
    refine ⟨?_, by decide +kernel⟩
    have ok : (outcome replies (Config.load (world id) "." (some "c.toml"))).toBool = true := by decide +kernel
    cases config : outcome replies (Config.load (world id) "." (some "c.toml")) with
    | error f => simp [config, Except.toBool] at ok
    | ok c => exact ⟨c, rfl⟩
  have other : Names replies id { arguments with extensionPath := some "bad.yaml" } "bad.yaml" := rfl
  have fails : ¬ Loads replies id { arguments with extensionPath := some "bad.yaml" } { path := "bad.yaml" } := by
    rintro ⟨-, loaded⟩
    revert loaded
    decide +kernel
  have named' : Names replies id { config := some "refused.toml" } "good.yaml" := by
    unfold Names
    decide +kernel
  obtain ⟨refusal, refused⟩ : ∃ f, outcome replies (Config.load (world id) "." (some "refused.toml")) = .error f := by
    have failed : (outcome replies (Config.load (world id) "." (some "refused.toml"))).toBool = false := by
      decide +kernel
    cases config : outcome replies (Config.load (world id) "." (some "refused.toml")) with
    | error f => exact ⟨f, rfl⟩
    | ok c => simp [config, Except.toBool] at failed
  have fails' : ¬ Loads replies id { config := some "refused.toml" } { path := "good.yaml" } := by
    rintro ⟨⟨c, config⟩, -⟩
    rw [refused] at config
    cases config
  obtain ⟨f, ends, -⟩ := (run_agrees_with_loader (l := { path := "bad.yaml" }) other).2 fails
  obtain ⟨f', ends', -, same⟩ := (run_agrees_with_loader (l := { path := "good.yaml" }) named').2 fails'
  refine ⟨((run_agrees_with_loader (l := { path := "good.yaml" }) named).1.1 loads).1, ⟨f, ends⟩, refusal, refused, ?_⟩
  rw [ends', same _ refused]

end Validation

end PgMetrics
