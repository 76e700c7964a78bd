import PgMetrics.Session.World

namespace PgMetrics

/-- What the surroundings may be asked for. Sessions are called by names in `σ`. -/
inductive Request (σ : Type) where
  | connect (session : σ)
  | ping (session : σ)
  | query (session : σ) (sql : String)
  | close (session : σ)
  | content (path : String)
  | save (path text : String)
  | environment (name : String)
  | log (entry : LogEntry)
  | clock
  | pause (time : Duration)
  | print (text : String)
  | printError (text : String)
  | terminal
  | exit (code : Nat)

namespace Request

variable {σ : Type}

/-- The kind of reply that a request gets. -/
abbrev Reply : Request σ → Type
  | connect _ => Except Failure Unit
  | ping _ => Except Failure Unit
  | query _ _ => Except Failure Answer
  | close _ => Unit
  | content _ => Except FileError ByteArray
  | save _ _ => Except FileError Unit
  | environment _ => Option String
  | log _ => Unit
  | clock => Float
  | pause _ => Unit
  | print _ => Unit
  | printError _ => Unit
  | terminal => Bool
  | exit _ => Unit

def isLog : Request σ → Bool
  | log _ => true
  | _ => false

/-- The session that a server is asked on. -/
def session? : Request σ → Option σ
  | connect s => some s
  | ping s => some s
  | query s _ => some s
  | close s => some s
  | _ => none

end Request

/-- A request with its reply. -/
structure Exchange (σ : Type) where
  request : Request σ
  reply : request.Reply

/-- A log entry that was written. -/
def Exchange.logged {σ : Type} (e : LogEntry) : Exchange σ :=
  ⟨.log e, ()⟩

/-- A computation that ends, or asks for something and goes on with the reply. -/
inductive Dialogue (σ α : Type) where
  | done (value : α)
  | ask (request : Request σ) (next : request.Reply → Dialogue σ α)

namespace Dialogue

variable {σ α β : Type}

def bind : Dialogue σ α → (α → Dialogue σ β) → Dialogue σ β
  | done a, f => f a
  | ask request next, f => ask request fun reply => (next reply).bind f

instance : Monad (Dialogue σ) where
  pure := done
  bind := bind

instance : LawfulMonad (Dialogue σ) := .mk' _
  (by
    intro α d
    induction d with
    | done a => rfl
    | ask request next ih => exact congrArg (ask request) (funext ih))
  (fun _ _ => rfl)
  (by
    intro α β γ d f g
    induction d with
    | done a => rfl
    | ask request next ih => exact congrArg (ask request) (funext ih))

/-- Asks for one thing. -/
def request (r : Request σ) : Dialogue σ r.Reply :=
  ask r done

/-- The world in which everything is asked for, with a name in `σ` for each session. -/
def world (address : Session → σ) : World (Dialogue σ) where
  connect s := request (.connect (address s))
  ping s := request (.ping (address s))
  query s sql := request (.query (address s) sql)
  close s := request (.close (address s))
  contentOf path := request (.content path)
  save path text := request (.save path text)
  environment name := request (.environment name)
  log e := request (.log e)
  clock := request .clock
  pause d := request (.pause d)
  print text := request (.print text)
  printError text := request (.printError text)
  isTerminal := request .terminal
  exit code := request (.exit code)

/-- The exchanges that a dialogue makes with some replies, and what it ends with. -/
inductive Runs : Dialogue σ α → List (Exchange σ) → α → Prop
  | done {a} : Runs (.done a) [] a
  | ask {request next reply t a} :
      Runs (next reply) t a → Runs (.ask request next) (⟨request, reply⟩ :: t) a

@[simp] theorem runs_pure {a b : α} {t : List (Exchange σ)} :
    Runs (pure a) t b ↔ t = [] ∧ b = a := by
  constructor
  · intro run
    cases run with
    | done => exact ⟨rfl, rfl⟩
  · rintro ⟨rfl, rfl⟩
    exact .done

@[simp] theorem runs_request {r : Request σ} {t : List (Exchange σ)} {reply : r.Reply} :
    Runs (request r) t reply ↔ t = [⟨r, reply⟩] := by
  constructor
  · intro run
    cases run with
    | ask rest =>
      cases rest with
      | done => rfl
  · rintro rfl
    exact .ask .done

/-- A run of two dialogues in a row falls apart into a run of each. -/
theorem runs_bind {d : Dialogue σ α} {f : α → Dialogue σ β} {t : List (Exchange σ)} {b : β} :
    Runs (d >>= f) t b ↔ ∃ t₁ a t₂, Runs d t₁ a ∧ Runs (f a) t₂ b ∧ t = t₁ ++ t₂ := by
  constructor
  · intro run
    induction d generalizing t with
    | done a => exact ⟨[], a, t, .done, run, rfl⟩
    | ask request next ih =>
      cases run with
      | @ask _ _ reply t _ rest =>
        obtain ⟨t₁, a, t₂, first, second, rfl⟩ := ih reply rest
        exact ⟨⟨request, reply⟩ :: t₁, a, t₂, .ask first, second, rfl⟩
  · rintro ⟨t₁, a, t₂, first, second, rfl⟩
    induction first with
    | done => exact second
    | ask _ ih => exact .ask (ih second)

theorem runs_logAll {address : Session → σ} {es : List LogEntry} {t : List (Exchange σ)} {u : Unit} :
    Runs ((world address).logAll es) t u ↔ t = es.map .logged := by
  induction es generalizing t with
  | nil => simp [World.logAll]
  | cons e es ih =>
    simp only [World.logAll, runs_bind, ih]
    constructor
    · rintro ⟨_, _, _, first, rfl, rfl⟩
      rw [runs_request.1 first]
      rfl
    · rintro rfl
      exact ⟨[.logged e], (), _, runs_request.2 rfl, rfl, rfl⟩

/-- The run of a dialogue with given replies, which may depend on all that went before. -/
def play (replies : List (Exchange σ) → (r : Request σ) → r.Reply) :
    List (Exchange σ) → Dialogue σ α → List (Exchange σ) × α
  | _, done a => ([], a)
  | past, ask request next =>
    let x : Exchange σ := ⟨request, replies past request⟩
    let (t, a) := play replies (past ++ [x]) (next x.reply)
    (x :: t, a)

/-- No reply keeps a dialogue from ending, so a statement on all its runs is on all behaviours of the surroundings. -/
theorem runs_play (replies : List (Exchange σ) → (r : Request σ) → r.Reply) (past : List (Exchange σ))
    (d : Dialogue σ α) : Runs d (play replies past d).1 (play replies past d).2 := by
  induction d generalizing past with
  | done a => exact .done
  | ask request next ih => exact .ask (ih _ _)

/-- When replies depend on the request alone, all that are recorded are such replies. -/
theorem reply_of_mem_play (replies : (r : Request σ) → r.Reply) (past : List (Exchange σ)) (d : Dialogue σ α) :
    ∀ x ∈ (play (fun _ => replies) past d).1, x.reply = replies x.request := by
  induction d generalizing past with
  | done a =>
    intro x member
    cases member
  | ask request next ih =>
    intro x member
    obtain rfl | later := List.mem_cons.1 member
    · rfl
    · exact ih _ _ x later

end Dialogue

end PgMetrics
