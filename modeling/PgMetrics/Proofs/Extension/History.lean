import PgMetrics.Proofs.Command.Validation
import PgMetrics.Proofs.Session.MapCache

namespace PgMetrics

open Dialogue

variable {σ : Type}

namespace Content

/-- A content describes a document if it is a text, and that text reads as the document. -/
def Describes (c : Content) (d : Document) : Prop :=
  ∃ s, c = .ok (Text.encode s) ∧ Document.read s = .ok d

variable {path : String} {c : Content} {d : Document}

theorem document_eq_ok_iff (path : String) : document path c = .ok d ↔ c.Describes d := by
  refine ⟨exists_text_of_document, ?_⟩
  rintro ⟨s, rfl, read⟩
  simp only [document, Text.decode_encode, read]

theorem toOption_document_eq_some_iff (path : String) : (document path c).toOption = some d ↔ c.Describes d := by
  rw [← document_eq_ok_iff path]
  cases document path c <;> simp [Except.toOption]

theorem toOption_document_eq_none_iff : (document path c).toOption = none ↔ ∀ d, ¬ c.Describes d := by
  simp only [Option.eq_none_iff_forall_ne_some, ne_eq, toOption_document_eq_some_iff]

end Content

namespace Loader

/-- Loads one after the other, each of what is read from the file just then, with all that is exchanged over them. -/
inductive History (address : Session → σ) (first : Loader) : List (Exchange σ) → Loader → Prop
  | start : History address first [] first
  | next {t l t' c} : History address first t l → Runs (read (world address) l.path) t' c →
      History address first (t ++ t') (l.load c)

/-- The contents that were read, in their order. -/
def contents (t : List (Exchange σ)) : List Content :=
  t.filterMap Exchange.content?

variable {address : Session → σ} {first l : Loader} {t : List (Exchange σ)} {path : String} {c : Content}

theorem contents_append (t t' : List (Exchange σ)) : contents (t ++ t') = contents t ++ contents t' :=
  List.filterMap_append

theorem contents_of_read (run : Runs (read (world address) path) t c) : contents t = [c] := by
  rw [runs_read.1 run]
  cases c <;> rfl

theorem exists_history (address : Session → σ) (first : Loader) (cs : List Content) :
    ∃ t l, History address first t l ∧ contents t = cs := by
  induction cs using List.reverseRecOn with
  | nil => exact ⟨[], first, .start, rfl⟩
  | append_singleton cs c ih =>
    obtain ⟨t, l, history, rfl⟩ := ih
    have run : Runs (read (world address) l.path) _ c := runs_read.2 rfl
    exact ⟨_, _, .next history run, by rw [contents_append, contents_of_read run]⟩

namespace History

theorem path_eq (history : History address first t l) : l.path = first.path := by
  induction history with
  | start => rfl
  | next _ _ ih => exact ih

/-- What is remembered after some loads is the document that was described last. -/
theorem lastGood_eq (history : History address first t l) :
    l.lastGood = latestDocument (some first) (contents t) := by
  induction history with
  | start => simp [latestDocument, contents]
  | next before run ih =>
    rw [lastGood_load, before.path_eq, contents_append, contents_of_read run, latestDocument_append_singleton, ih]

/-- The last load settles the status, whatever the status was before. -/
theorem status_eq (history : History address first t l) {cs : List Content} (read : contents t = cs ++ [c]) :
    l.status = some ⟨first.path, c.hashsum?.getD "", (Content.document first.path c).toOption.isNone⟩ := by
  cases history with
  | start => simp [contents] at read
  | next before run =>
    rw [contents_append, contents_of_read run] at read
    obtain ⟨-, same⟩ := List.append_inj' read rfl
    rw [status_load, before.path_eq, (List.cons.inj same).1]

end History

/-- Later contents that describe no document do not put the latest one away. -/
theorem latestDocument_of_split {cs earlier later : List Content} {d : Document} (split : cs = earlier ++ c :: later)
    (described : c.Describes d) (others : ∀ b ∈ later, ∀ d', ¬ b.Describes d') :
    latestDocument (some first) cs = some d := by
  have none_ : later.filterMap (fun b => (Content.document first.path b).toOption) = [] :=
    List.filterMap_eq_nil_iff.2 fun b member => Content.toOption_document_eq_none_iff.2 (others b member)
  have here := (Content.toOption_document_eq_some_iff first.path).2 described
  rw [latestDocument, split, Option.bind_some, List.filterMap_append, List.filterMap_cons, here, none_]
  simp

theorem latestDocument_of_undescribed {cs : List Content} (none_ : ∀ b ∈ cs, ∀ d, ¬ b.Describes d) :
    latestDocument (some first) cs = first.lastGood := by
  have empty : cs.filterMap (fun b => (Content.document first.path b).toOption) = [] :=
    List.filterMap_eq_nil_iff.2 fun b member => Content.toOption_document_eq_none_iff.2 (none_ b member)
  rw [latestDocument, Option.bind_some, empty]
  simp

/-- Whatever is in the file each time, loading always ends, and then the loader has the document of the latest content
that describes one. Before there is such a content it has what it had at first, which is nothing for a new loader. The
status names the file, with the hash sum of what was read last and whether that describes no document. -/
theorem latest_document_kept (address : Session → σ) (first : Loader) (cs : List Content) (c : Content) :
    (∃ t l, History address first t l ∧ contents t = cs ++ [c]) ∧
    ∀ t l, History address first t l → contents t = cs ++ [c] →
      (∀ earlier b later d, cs ++ [c] = earlier ++ b :: later → b.Describes d →
        (∀ b' ∈ later, ∀ d', ¬ b'.Describes d') → l.lastGood = some d) ∧
      ((∀ b ∈ cs ++ [c], ∀ d, ¬ b.Describes d) → l.lastGood = first.lastGood) ∧
      ∃ status, l.status = some status ∧ status.path = first.path ∧
        (∀ bytes, c = .ok bytes → status.hashsum = Sha256.hex bytes.data.toList) ∧
        (∀ e, c = .error e → status.hashsum = "") ∧
        (status.failed = true ↔ ∀ d, ¬ c.Describes d) := by
  refine ⟨exists_history address first _, fun t l history read => ?_⟩
  rw [history.lastGood_eq, read]
  refine ⟨fun _ _ _ _ => latestDocument_of_split, latestDocument_of_undescribed, _, history.status_eq read, rfl, ?_, ?_, ?_⟩
  · rintro bytes rfl
    rfl
  · rintro e rfl
    rfl
  · rw [Option.isNone_iff_eq_none, Content.toOption_document_eq_none_iff]

/-- A document, then no file, bytes that are no text, and a text that is no document. -/
theorem latest_document_after_failures :
    let good : Content := .ok (Text.encode "pg_x: {query: SELECT 1}")
    let cs : List Content := [good, .error .notFound, .ok ⟨#[0xC3]⟩]
    let broken : ByteArray := Text.encode "pg_x: [1"
    ∃ t l d, History id { path := "q.yaml" } t l ∧ contents t = cs ++ [.ok broken] ∧ good.Describes d ∧
      l.lastGood = some d ∧ ∃ status, l.status = some status ∧ status.path = "q.yaml" ∧
        status.hashsum = Sha256.hex broken.data.toList ∧ status.failed = true := by
  intro good cs broken
  obtain ⟨⟨t, l, history, read⟩, told⟩ := latest_document_kept id { path := "q.yaml" } cs (.ok broken)
  obtain ⟨latest, -, status, known, path, hash, -, failed⟩ := told t l history read
  have made : ((Content.document "q.yaml" good).toOption).isSome = true := by decide +kernel
  obtain ⟨d, described⟩ := Option.isSome_iff_exists.1 made
  rw [Content.toOption_document_eq_some_iff] at described
  have others : ∀ b ∈ [Except.error FileError.notFound, .ok ⟨#[0xC3]⟩, .ok broken],
      (Content.document "q.yaml" b).toOption.isNone = true := by decide +kernel
  have undescribed (b : Content) (member : b ∈ [Except.error FileError.notFound, .ok ⟨#[0xC3]⟩, .ok broken]) :
      ∀ d', ¬ b.Describes d' :=
    Content.toOption_document_eq_none_iff.1 (Option.isNone_iff_eq_none.1 (others b member))
  exact ⟨t, l, d, history, read, described, latest [] good _ d rfl described undescribed, status, known, path,
    hash broken rfl, failed.2 (undescribed _ (by simp))⟩

end Loader

end PgMetrics
