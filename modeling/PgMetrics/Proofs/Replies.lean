import PgMetrics.Extension.Loader
import PgMetrics.Proofs.Dialogue

namespace PgMetrics

variable {σ α β : Type}

/-- Replies of servers that answer any ping, and of a file with some content. -/
def Request.replyOf (connect : σ → Except Failure Unit) (query : σ → String → Except Failure Answer)
    (content : Content) : (r : Request σ) → r.Reply
  | .connect s => connect s
  | .ping _ => .ok ()
  | .query s sql => query s sql
  | .close _ => ()
  | .content _ => content
  | .save _ _ => .error .notFound
  | .environment _ => none
  | .log _ => ()
  | .clock => 0.0
  | .pause _ => ()
  | .print _ => ()
  | .printError _ => ()
  | .terminal => false
  | .exit _ => ()

namespace Dialogue

variable (replies : (r : Request σ) → r.Reply)

/-- What a dialogue ends with. -/
def outcome : Dialogue σ α → α
  | done a => a
  | ask request next => outcome (next (replies request))

/-- The exchanges that a dialogue makes. -/
def exchanges : Dialogue σ α → List (Exchange σ)
  | done _ => []
  | ask request next => ⟨request, replies request⟩ :: exchanges (next (replies request))

@[simp] theorem outcome_pure (a : α) : outcome replies (pure a) = a := rfl

@[simp] theorem exchanges_pure (a : α) : exchanges replies (pure a : Dialogue σ α) = [] := rfl

@[simp] theorem outcome_bind (d : Dialogue σ α) (f : α → Dialogue σ β) :
    outcome replies (d >>= f) = outcome replies (f (outcome replies d)) := by
  induction d with
  | done a => rfl
  | ask request next ih => exact ih _

@[simp] theorem exchanges_bind (d : Dialogue σ α) (f : α → Dialogue σ β) :
    exchanges replies (d >>= f) = exchanges replies d ++ exchanges replies (f (outcome replies d)) := by
  induction d with
  | done a => rfl
  | ask request next ih => exact congrArg _ (ih _)

theorem runs_iff_of_replies {d : Dialogue σ α} {t : List (Exchange σ)} {a : α} :
    (Runs d t a ∧ ∀ x ∈ t, x.reply = replies x.request) ↔ t = exchanges replies d ∧ a = outcome replies d := by
  constructor
  · rintro ⟨run, told⟩
    induction run with
    | done => exact ⟨rfl, rfl⟩
    | ask rest ih =>
      obtain ⟨first, later⟩ := List.forall_mem_cons.1 told
      dsimp only at first
      subst first
      obtain ⟨rfl, rfl⟩ := ih later
      exact ⟨rfl, rfl⟩
  · rintro ⟨rfl, rfl⟩
    induction d with
    | done a => exact ⟨.done, fun x member => (by cases member)⟩
    | ask request next ih =>
      obtain ⟨run, told⟩ := ih (replies request)
      exact ⟨.ask run, List.forall_mem_cons.2 ⟨rfl, told⟩⟩

variable {replies} {address : Session → σ}

@[simp] theorem outcome_contentOf (path : String) :
    outcome replies ((world address).contentOf path) = replies (.content path) := rfl

@[simp] theorem outcome_environment (name : String) :
    outcome replies ((world address).environment name) = replies (.environment name) := rfl

/-- A file is read as text if its bytes are one. -/
theorem outcome_readText_eq_ok_iff {path s : String} :
    outcome replies ((world address).readText path) = .ok s ↔ replies (.content path) = .ok (Text.encode s) := by
  rw [World.readText, outcome_bind, outcome_contentOf]
  cases content : replies (.content path) with
  | error e => simp
  | ok bytes =>
    rw [Except.ok.injEq]
    constructor
    · intro read
      cases text : Text.decode bytes with
      | none => simp [text] at read
      | some s' =>
        obtain rfl : s' = s := by simpa [text] using read
        exact (Text.encode_of_decode text).symm
    · rintro rfl
      simp [Text.decode_encode]

end Dialogue

end PgMetrics
