import PgMetrics.Proofs.Dsn.Assignment

namespace PgMetrics.KeyValue

/-- Characters stand for themselves up to a stop; behind a backslash any character does. -/
inductive Written (stop : Char → Bool) : List Char → List Char → Prop
  | nil : Written stop [] []
  | plain {c w v} : stop c = false → c ≠ '\\' → Written stop w v → Written stop (c :: w) (c :: v)
  | escaped {c w v} : Written stop w v → Written stop ('\\' :: c :: w) (c :: v)

/-- A text that begins with a value, and the rest. A backslash with nothing behind it is passed over. -/
inductive Spelled : List Char → List Char → List Char → Prop
  | quoted {w v rest} : Written (· == '\'') w v → Spelled ('\'' :: (w ++ '\'' :: rest)) v rest
  | plain {w v rest} : w.head? ≠ some '\'' → v ≠ [] → Written Text.isBlank w v → Dsn.EndsValue rest →
      Spelled (w ++ rest) v rest
  | dangling {w v} : w.head? ≠ some '\'' → v ≠ [] → Written Text.isBlank w v → Spelled (w ++ ['\\']) v []

variable {stop : Char → Bool} {cs w v rest after : List Char}

theorem Written.eq_nil_iff (written : Written stop w v) : w = [] ↔ v = [] := by
  cases written <;> simp

theorem Written.of_plain (plain : ∀ c ∈ cs, stop c = false ∧ c ≠ '\\') : Written stop cs cs := by
  induction cs with
  | nil => exact .nil
  | cons c cs ih =>
    obtain ⟨⟨goes, other⟩, later⟩ := List.forall_mem_cons.1 plain
    exact .plain goes other (ih later)

theorem written_escape (cs : List Char) : Written (· == '\'') (escape cs) cs := by
  induction cs with
  | nil => exact .nil
  | cons c cs ih =>
    rw [escape, List.flatMap_cons, ← escape]
    split
    · exact .escaped ih
    · rename_i bare
      rw [not_or] at bare
      exact .plain (by simpa using bare.1) bare.2 ih

theorem quotedValue_written (written : Written (· == '\'') w v) (rest : List Char) :
    quotedValue false (w ++ '\'' :: rest) = some (v, rest) := by
  induction written with
  | nil => rfl
  | plain goes other _ ih => simp_all [quotedValue]
  | escaped _ ih => simp [quotedValue, ih]

theorem plainValue_written (written : Written Text.isBlank w v) (tail : List Char) :
    plainValue false (w ++ tail) = (v ++ (plainValue false tail).1, (plainValue false tail).2) := by
  induction written with
  | nil => rfl
  | plain goes other _ ih => simp [plainValue, goes, other, ih]
  | escaped _ ih =>
    have blank : Text.isBlank '\\' = false := by decide
    simp [plainValue, blank, ih]

theorem plainValue_of_endsValue (ends : Dsn.EndsValue rest) : plainValue false rest = ([], rest) := by
  cases rest with
  | nil => rfl
  | cons c rest => simp [plainValue, ends c rfl]

/-- The backslash before a text that is read as one behind a backslash. -/
def protection (escaped : Bool) : List Char :=
  if escaped then ['\\'] else []

theorem written_of_quotedValue {escaped : Bool} (read : quotedValue escaped cs = some (v, rest)) :
    ∃ w, Written (· == '\'') w v ∧ protection escaped ++ cs = w ++ '\'' :: rest := by
  induction cs generalizing escaped v with
  | nil => cases read
  | cons c cs ih =>
    cases escaped with
    | true =>
      obtain ⟨v, later, rfl⟩ : ∃ v', quotedValue false cs = some (v', rest) ∧ c :: v' = v := by
        simpa [quotedValue] using read
      obtain ⟨w, written, whole⟩ := ih later
      exact ⟨_, .escaped written, congrArg ('\\' :: c :: ·) whole⟩
    | false =>
      by_cases quote : c = '\''
      · obtain ⟨rfl, rfl⟩ : [] = v ∧ cs = rest := by simpa [quotedValue, quote] using read
        exact ⟨[], .nil, by rw [quote]; rfl⟩
      · by_cases backslash : c = '\\'
        · subst backslash
          exact ih (by simpa [quotedValue] using read)
        · obtain ⟨v, later, rfl⟩ : ∃ v', quotedValue false cs = some (v', rest) ∧ c :: v' = v := by
            simpa [quotedValue, quote, backslash] using read
          obtain ⟨w, written, whole⟩ := ih later
          exact ⟨c :: w, .plain (by simpa using quote) backslash written, congrArg (c :: ·) whole⟩

/-- A value without quotes ends at a blank or with the text, and then there may be a backslash left over. -/
theorem written_of_plainValue {escaped : Bool} (read : plainValue escaped cs = (v, rest)) :
    ∃ w, Written Text.isBlank w v ∧ (protection escaped ++ cs = w ++ rest ∧ Dsn.EndsValue rest ∨
      protection escaped ++ cs = w ++ ['\\'] ∧ rest = []) := by
  induction cs generalizing escaped v with
  | nil =>
    obtain ⟨rfl, rfl⟩ := Prod.mk.inj read
    cases escaped with
    | true => exact ⟨[], .nil, .inr ⟨rfl, rfl⟩⟩
    | false => exact ⟨[], .nil, .inl ⟨rfl, fun c head => (by cases head)⟩⟩
  | cons c cs ih =>
    cases escaped with
    | true =>
      obtain ⟨rfl, behind⟩ := Prod.mk.inj read
      obtain ⟨w, written, whole⟩ := ih (Prod.ext rfl behind)
      refine ⟨_, .escaped written, whole.imp (fun whole => ?_) fun whole => ?_⟩
      · exact ⟨congrArg ('\\' :: c :: ·) whole.1, whole.2⟩
      · exact ⟨congrArg ('\\' :: c :: ·) whole.1, whole.2⟩
    | false =>
      cases blank : Text.isBlank c with
      | true =>
        obtain ⟨rfl, rfl⟩ : [] = v ∧ c :: cs = rest := by simpa [plainValue, blank] using read
        exact ⟨[], .nil, .inl ⟨rfl, fun d head => Option.some.inj head ▸ blank⟩⟩
      | false =>
        by_cases backslash : c = '\\'
        · subst backslash
          exact ih (by simpa [plainValue, blank] using read)
        · obtain ⟨rfl, behind⟩ : c :: (plainValue false cs).1 = v ∧ (plainValue false cs).2 = rest := by
            simpa [plainValue, blank, backslash] using read
          obtain ⟨w, written, whole⟩ := ih (Prod.ext rfl behind)
          refine ⟨_, .plain blank backslash written, whole.imp (fun whole => ?_) fun whole => ?_⟩
          · exact ⟨congrArg (c :: ·) whole.1, whole.2⟩
          · exact ⟨congrArg (c :: ·) whole.1, whole.2⟩

theorem value_of_unquoted (unquoted : cs.head? ≠ some '\'') :
    value cs = if (plainValue false cs).1.isEmpty then none else some (plainValue false cs) := by
  unfold value
  split
  · exact absurd rfl unquoted
  · rfl

theorem head?_append_written (written : Written stop w v) (some_ : v ≠ []) (tail : List Char) :
    (w ++ tail).head? = w.head? := by
  obtain ⟨c, w, rfl⟩ := List.exists_cons_of_ne_nil (mt written.eq_nil_iff.1 some_)
  rfl

/-- The reader reads values as they are written, and nothing else. -/
theorem value_eq_some_iff : value cs = some (v, rest) ↔ Spelled cs v rest := by
  constructor
  · intro read
    by_cases quote : cs.head? = some '\''
    · obtain ⟨body, rfl⟩ := List.head?_eq_some_iff.1 quote
      obtain ⟨w, written, rfl⟩ := written_of_quotedValue (read : quotedValue false body = _)
      exact .quoted written
    · rw [value_of_unquoted quote] at read
      split at read
      · cases read
      · rename_i full
        have read := Option.some.inj read
        have some_ : v ≠ [] := by simpa [read] using full
        obtain ⟨w, written, ⟨rfl, ends⟩ | ⟨rfl, rfl⟩⟩ := written_of_plainValue read
        · rw [head?_append_written written some_] at quote
          exact .plain quote some_ written ends
        · rw [head?_append_written written some_] at quote
          exact .dangling quote some_ written
  · intro spelled
    cases spelled with
    | quoted written => exact quotedValue_written written rest
    | plain unquoted some_ written ends =>
      rw [value_of_unquoted (by rwa [head?_append_written written some_]), plainValue_written written,
        plainValue_of_endsValue ends]
      simpa using some_
    | dangling unquoted some_ written =>
      rw [value_of_unquoted (by rwa [head?_append_written written some_]), plainValue_written written,
        (by decide : plainValue false ['\\'] = ([], []))]
      simpa using some_

theorem Spelled.begins (spelled : Spelled cs v rest) : ∃ c tail, cs = c :: tail ∧ Text.isBlank c = false := by
  have first {w} (written : Written Text.isBlank w v) (some_ : v ≠ []) (tail : List Char) :
      ∃ c more, w ++ tail = c :: more ∧ Text.isBlank c = false := by
    cases written with
    | nil => exact absurd rfl some_
    | plain visible => exact ⟨_, _, rfl, visible⟩
    | escaped => exact ⟨_, _, rfl, by decide⟩
  cases spelled with
  | quoted => exact ⟨_, _, rfl, by decide⟩
  | plain _ some_ written => exact first written some_ _
  | dangling _ some_ written => exact first written some_ _

/-- A value that needs no quotes has nothing in it that could be taken for another thing. -/
theorem plain_of_needsQuotes (bare : needsQuotes cs = false) :
    cs ≠ [] ∧ ∀ c ∈ cs, Text.isBlank c = false ∧ c ≠ '\'' ∧ c ≠ '\\' := by
  simp only [needsQuotes, Bool.or_eq_false_iff, List.isEmpty_eq_false_iff, List.any_eq_false, Bool.or_eq_true,
    not_or, beq_iff_eq, Bool.not_eq_true] at bare
  exact ⟨bare.1, fun c member => ⟨(bare.2 c member).1.1, (bare.2 c member).1.2, (bare.2 c member).2⟩⟩

/-- The general form of a value is a way to write it, whatever is behind it if there are quotes around it. -/
theorem spelled_quote_iff : Spelled (quote cs ++ after) cs after ↔ needsQuotes cs = true ∨ Dsn.EndsValue after := by
  unfold quote
  cases needs : needsQuotes cs with
  | true =>
    have spelled : Spelled (_ :: (escape cs ++ _ :: after)) cs after := .quoted (written_escape cs)
    simpa using spelled
  | false =>
    -- Without quotes nothing but an end or a blank stops the reader, and the name has neither in it.
    obtain ⟨some_, plain⟩ := plain_of_needsQuotes needs
    have unquoted : cs.head? ≠ some '\'' := fun first => (plain _ (List.mem_of_mem_head? first)).2.1 rfl
    have written : Written Text.isBlank cs cs := .of_plain fun c member => ⟨(plain c member).1, (plain c member).2.2⟩
    rw [if_neg (by decide), or_iff_right (by decide)]
    refine ⟨fun spelled => ?_, .plain unquoted some_ written⟩
    generalize whole : cs ++ after = text at spelled
    cases spelled with
    | quoted =>
      rw [← head?_append_written written some_ after, whole] at unquoted
      exact absurd rfl unquoted
    | plain _ _ _ ends => exact ends
    | dangling =>
      rintro c ⟨⟩

/-- What is in quotes is read back: a reader that takes values as they are written, and nothing else, finds a name in
its general form and goes on right behind it, exactly if there are quotes around it, or an end or a blank behind it. -/
theorem quotes_are_undone :
    (∀ cs v rest, value cs = some (v, rest) ↔ Spelled cs v rest) ∧
      ∀ (name : String) (after : List Char), value (quote name.toList ++ after) = some (name.toList, after) ↔
        needsQuotes name.toList = true ∨ after = [] ∨ ∃ c rest, after = c :: rest ∧ Text.isBlank c = true := by
  refine ⟨fun _ _ _ => value_eq_some_iff, fun name after => ?_⟩
  rw [value_eq_some_iff, spelled_quote_iff]
  cases after <;> simp [Dsn.EndsValue]

end PgMetrics.KeyValue
