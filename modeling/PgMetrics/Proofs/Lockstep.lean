import PgMetrics.Proofs.Dialogue

namespace PgMetrics

variable {σ α : Type}

/-- When the same has been asked and replied so far and the same is asked now, the reply is the same. -/
def Agree (t t' : List (Exchange σ)) : Prop :=
  ∀ past x x', past ++ [x] <+: t → past ++ [x'] <+: t' → x.request = x'.request → x = x'

theorem Agree.of_cons {x x' : Exchange σ} {t t' : List (Exchange σ)} (agree : Agree (x :: t) (x' :: t'))
    (same : x.request = x'.request) : x = x' ∧ Agree t t' := by
  have equal : x = x' := agree [] x x' (by simp) (by simp) same
  refine ⟨equal, ?_⟩
  intro past y y' before before' request
  subst equal
  exact agree (x :: past) y y' (by simpa using before) (by simpa using before') request

theorem Agree.of_append {t t' more more' : List (Exchange σ)} (agree : Agree (t ++ more) (t' ++ more')) :
    Agree t t' := by
  intro past x x' before before' same
  exact agree past x x' (before.trans (List.prefix_append ..)) (before'.trans (List.prefix_append ..)) same

theorem Agree.of_append_left {t more more' : List (Exchange σ)} (agree : Agree (t ++ more) (t ++ more')) :
    Agree more more' := by
  induction t with
  | nil => exact agree
  | cons x t ih => exact ih (agree.of_cons rfl).2

/-- Beginnings of one record agree. -/
theorem agree_within {t t' whole : List (Exchange σ)} (first : t <+: whole) (second : t' <+: whole) :
    Agree t t' := by
  intro past x x' before before' _
  obtain ⟨_, one⟩ := before.trans first
  obtain ⟨_, other⟩ := before'.trans second
  rw [← other, List.append_assoc, List.append_assoc, List.append_cancel_left_eq] at one
  exact (List.cons.inj one).1

/-- Surroundings that reply to each request in one way, and others that reply alike. -/
theorem agree_of_replies {replies replies' : (r : Request σ) → r.Reply} {t t' : List (Exchange σ)}
    (first : ∀ x ∈ t, x.reply = replies x.request) (second : ∀ x ∈ t', x.reply = replies' x.request)
    (alike : ∀ x ∈ t, replies x.request = replies' x.request) : Agree t t' := by
  intro past x x' before before' same
  have member : x ∈ t := before.subset (List.mem_append_right _ (List.mem_singleton_self x))
  have member' : x' ∈ t' := before'.subset (List.mem_append_right _ (List.mem_singleton_self x'))
  have reply := (first x member).trans (alike x member)
  have reply' := second x' member'
  obtain ⟨request, _⟩ := x
  obtain ⟨request', _⟩ := x'
  cases same
  rw [Exchange.mk.injEq]
  exact ⟨rfl, heq_of_eq (reply.trans reply'.symm)⟩

theorem Request.reply_eq_of_isLog {r : Request σ} (log : r.isLog = true) (a b : r.Reply) : a = b := by
  match r, log with
  | .log _, _ => rfl

namespace Dialogue

/-- Two runs of a dialogue are the same once their records agree on what is heard. What is not heard must be the
log, whose reply says nothing. -/
theorem Runs.eq_of_agree {d : Dialogue σ α} (heard : Request σ → Bool) {t t' : List (Exchange σ)} {a b : α}
    (run : Runs d t a) (run' : Runs d t' b)
    (unheard : ∀ x ∈ t, heard x.request = false → x.request.isLog = true)
    (agree : Agree (t.filter (heard ·.request)) (t'.filter (heard ·.request))) : t = t' ∧ a = b := by
  induction run generalizing t' with
  | done =>
    cases run'
    exact ⟨rfl, rfl⟩
  | @ask request next reply t a rest ih =>
    cases run' with
    | @ask _ _ reply' t' _ rest' =>
      have later : ∀ x ∈ t, heard x.request = false → x.request.isLog = true :=
        fun x member => unheard x (List.mem_cons_of_mem _ member)
      have both : reply = reply' ∧ Agree (t.filter (heard ·.request)) (t'.filter (heard ·.request)) := by
        cases audible : heard request with
        | true =>
          simp only [List.filter_cons, audible, if_true] at agree
          obtain ⟨equal, agreeLater⟩ := agree.of_cons rfl
          cases equal
          exact ⟨rfl, agreeLater⟩
        | false =>
          simp only [List.filter_cons, audible, Bool.false_eq_true, if_false] at agree
          exact ⟨Request.reply_eq_of_isLog (unheard _ (List.mem_cons_self ..) audible) _ _, agree⟩
      obtain ⟨rfl, agreeLater⟩ := both
      obtain ⟨rfl, same⟩ := ih rest' later agreeLater
      exact ⟨rfl, same⟩

/-- What a run says, which is all but the log. -/
def spoken (t : List (Exchange σ)) : List (Exchange σ) :=
  t.filter (!·.request.isLog)

theorem spoken_append (t t' : List (Exchange σ)) : spoken (t ++ t') = spoken t ++ spoken t' :=
  List.filter_append ..

theorem spoken_logged (es : List LogEntry) : spoken (es.map (Exchange.logged : LogEntry → Exchange σ)) = [] := by
  simp [spoken, Exchange.logged, Request.isLog]

/-- A dialogue goes only one way along one record. -/
theorem Runs.eq_within {d : Dialogue σ α} {t t' whole : List (Exchange σ)} {a b : α} (run : Runs d t a)
    (run' : Runs d t' b) (first : spoken t <+: whole) (second : spoken t' <+: whole) : t = t' ∧ a = b :=
  run.eq_of_agree (!·.isLog) run' (fun x _ quiet => by simpa using quiet) (agree_within first second)

end Dialogue

end PgMetrics
