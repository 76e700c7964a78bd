import PgMetrics.Proofs.Dsn.Assignment
import PgMetrics.Proofs.Url.Credentials

namespace PgMetrics.Dsn

/-- The name of the setting that is masked. -/
def passwordKey : List Char := "password".toList

/-- The masked form of a text. -/
def masked (cs : List Char) : List Char :=
  maskValues cs.length cs

theorem borderless_passwordKey : Borderless passwordKey where
  ne := by decide
  begins := by
    rintro c ⟨⟩
    decide
  borderless := by decide

section Reading

variable {cs v : List Char}

/-- The count that bounds the characters left is of no account as long as it is large enough. -/
theorem maskValues_eq {count count' : Nat} (enough : cs.length ≤ count) (enough' : cs.length ≤ count') :
    maskValues count cs = maskValues count' cs := by
  induction count generalizing cs count' with
  | zero =>
    obtain rfl : cs = [] := List.eq_nil_of_length_eq_zero (by omega)
    cases count' <;> rfl
  | succ count ih =>
    cases cs with
    | nil => cases count' <;> rfl
    | cons c cs =>
      rw [List.length_cons] at enough enough'
      obtain ⟨count', rfl⟩ : ∃ n, count' = n + 1 := ⟨count' - 1, by omega⟩
      simp only [maskValues]
      cases found : assigned? "password".toList (c :: cs) with
      | none => exact congrArg (c :: ·) (ih (by omega) (by omega))
      | some p =>
        have shorter : p.2.length < (c :: cs).length := assigned?_length (by decide) found
        rw [List.length_cons] at shorter
        exact congrArg (p.1 ++ mask ++ ·) (ih (by omega) (by omega))

theorem masked_cons (c : Char) (cs : List Char) :
    masked (c :: cs) =
      match assigned? passwordKey (c :: cs) with
      | some (head, rest) => head ++ mask ++ masked rest
      | none => c :: masked cs := by
  unfold masked
  rw [List.length_cons, maskValues]
  change (match assigned? passwordKey (c :: cs) with
      | some (head, rest) => head ++ mask ++ maskValues cs.length rest
      | none => c :: maskValues cs.length cs) = _
  cases found : assigned? passwordKey (c :: cs) with
  | none => rfl
  | some p =>
    have shorter : p.2.length < (c :: cs).length := assigned?_length (by decide) found
    rw [List.length_cons] at shorter
    exact congrArg (p.1 ++ mask ++ ·) (maskValues_eq (by omega) (Nat.le_refl _))

theorem redact_of_not_url {dsn : String} (keyValue : url? dsn = none) :
    redact dsn = String.ofList (masked dsn.toList) := by
  rw [redact, keyValue]
  rfl

/-- A text without an assignment is shown as it is, up to an assignment behind it. -/
theorem masked_append {before gap gap' after : List Char} (quiet : Unassigned passwordKey before) :
    masked (before ++ (assignment passwordKey gap gap' ++ after)) =
      before ++ masked (assignment passwordKey gap gap' ++ after) := by
  induction before with
  | nil => rfl
  | cons c before ih =>
    have absent : assigned? passwordKey (c :: before ++ (assignment passwordKey gap gap' ++ after)) = none := by
      rw [assigned?, assignment, List.append_assoc,
        assignment?_append_name borderless_passwordKey (by simp) (quiet _ (List.suffix_refl _))]
    rw [List.cons_append] at absent ⊢
    rw [masked_cons, absent, List.cons_append]
    exact congrArg (c :: ·) (ih fun tail suffix => quiet tail (suffix.trans (List.suffix_cons c before)))

/-- What is shown does not depend on how the value is written. -/
theorem masked_value {before gap gap' after : List Char} (quiet : Unassigned passwordKey before)
    (blank : ∀ c ∈ gap, Text.isBlank c = true) (blank' : ∀ c ∈ gap', Text.isBlank c = true)
    (delimited : Delimited v) (ends : EndsValue after) :
    masked (before ++ (assignment passwordKey gap gap' ++ (v ++ after))) =
      before ++ (assignment passwordKey gap gap' ++ (mask ++ masked after)) := by
  have found : assigned? passwordKey _ = _ := assigned?_assignment blank blank' delimited ends
  rw [masked_append quiet]
  obtain ⟨c, cs, atC⟩ : ∃ c cs, assignment passwordKey gap gap' ++ (v ++ after) = c :: cs := ⟨_, _, rfl⟩
  rw [atC] at found ⊢
  rw [masked_cons, found]
  simp only [List.append_assoc]

end Reading

theorem url?_scheme {scheme rest : List Char} (known : scheme ∈ schemes) :
    url? (String.ofList (scheme ++ ("://".toList ++ rest))) = some (scheme, rest) := by
  simp only [schemes, List.mem_cons, List.not_mem_nil, or_false] at known
  rcases known with rfl | rfl <;>
    simp [url?, schemes, behindScheme?, List.findSome?]

/-- Where a password is written: as the value of a key, or behind the user of a URL. -/
inductive PasswordPlace where
  | value (before gap gap' after : List Char)
  | credentials (scheme user rest : List Char)
  deriving DecidableEq, Repr

namespace PasswordPlace

/-- The connection string with a password at its place. -/
def fill : PasswordPlace → List Char → String
  | value before gap gap' after, v => String.ofList (before ++ (assignment passwordKey gap gap' ++ (v ++ after)))
  | credentials scheme user rest, v =>
    String.ofList (scheme ++ ("://".toList ++ (user ++ ':' :: (v ++ '@' :: rest))))

/-- The place is one at which the mask finds the password when it is written so. -/
def Hides : PasswordPlace → List Char → Prop
  | value before gap gap' after, v =>
    url? (String.ofList (before ++ (assignment passwordKey gap gap' ++ (v ++ after)))) = none ∧
      Unassigned passwordKey before ∧ (∀ c ∈ gap, Text.isBlank c = true) ∧
      (∀ c ∈ gap', Text.isBlank c = true) ∧ Delimited v ∧ EndsValue after
  | credentials scheme user _, v =>
    scheme ∈ schemes ∧ ':' ∉ user ∧ (∀ c ∈ user ++ v, Url.endsAuthority c = false) ∧
      v.filter (!Url.isDropped ·) ≠ []

/-- Where the mask finds the password, two spellings of it are shown alike. -/
theorem redact_fill_eq {place : PasswordPlace} {v w : List Char} (hides : place.Hides v)
    (hides' : place.Hides w) : redact (place.fill v) = redact (place.fill w) := by
  cases place with
  | value before gap gap' after =>
    obtain ⟨keyValue, quiet, blank, blank', delimited, ends⟩ := hides
    obtain ⟨keyValue', -, -, -, delimited', -⟩ := hides'
    simp only [fill]
    rw [redact_of_not_url keyValue, redact_of_not_url keyValue', String.toList_ofList, String.toList_ofList,
      masked_value quiet blank blank' delimited ends, masked_value quiet blank blank' delimited' ends]
  | credentials scheme user rest =>
    obtain ⟨known, plain, inside, ne⟩ := hides
    obtain ⟨-, -, inside', ne'⟩ := hides'
    obtain ⟨shown, read⟩ := Url.read_credentials scheme rest plain inside ne
    obtain ⟨shown', read'⟩ := Url.read_credentials scheme rest plain inside' ne'
    simp only [fill, redact, url?_scheme known, read, read']
    obtain ⟨e, failed, failed'⟩ | ⟨u, done, done'⟩ := Url.readBehind_cases scheme
      (user.filter (!Url.isDropped ·)) shown shown' (Url.significant rest)
    · rw [failed, failed']
    · rw [done, done']
      rfl

theorem redact_quoted_eq_plain :
    redact "host=localhost password = 'my \\' secret' user=me" = redact "host=localhost password = x\\y user=me" := by
  have quiet : Unassigned passwordKey "host=localhost ".toList := by decide +kernel
  have blank : ∀ c ∈ [' '], Text.isBlank c = true := List.all_eq_true.1 (by decide)
  have ends : EndsValue " user=me".toList := by
    intro c first
    cases first
    decide
  have quoted : Delimited "'my \\' secret'".toList := .quoted (by decide)
  have unblank : ∀ c ∈ "x\\y".toList, (!Text.isBlank c) = true := List.all_eq_true.1 (by decide)
  have plain : Delimited "x\\y".toList := .plain (by decide) (by decide) (by simpa using unblank)
  let place : PasswordPlace := .value "host=localhost ".toList [' '] [' '] " user=me".toList
  have first : place.fill "'my \\' secret'".toList = "host=localhost password = 'my \\' secret' user=me" := by
    decide +kernel
  have second : place.fill "x\\y".toList = "host=localhost password = x\\y user=me" := by decide +kernel
  rw [← first, ← second]
  exact redact_fill_eq ⟨by decide +kernel, quiet, blank, blank, quoted, ends⟩
    ⟨by decide +kernel, quiet, blank, blank, plain, ends⟩

end PasswordPlace

/-- The settings without their password. -/
def openSettings? (dsn : String) : Option ConnectionSettings :=
  (settings? dsn).map fun c => { c with password := none }

/-- Two texts that differ in the spelling of a password are told apart when a blank in it is escaped, when it is a
parameter of a URL, and when the authority of the URL ends in it. -/
theorem redact_tells_passwords_apart :
    let own : ConnectionSettings := { user := some "me", hosts := [.name "localhost"] }
    let app : ConnectionSettings := { own with dbname := some "app", ports := [5432] }
    (openSettings? "host=localhost password=my\\ secret user=me" = some own ∧
      openSettings? "host=localhost password=x user=me" = some own ∧
      redact "host=localhost password=my\\ secret user=me" ≠ redact "host=localhost password=x user=me") ∧
    (openSettings? "postgresql://me@localhost/app?password=secret" = some app ∧
      openSettings? "postgresql://me@localhost/app?password=x" = some app ∧
      redact "postgresql://me@localhost/app?password=secret" ≠ redact "postgresql://me@localhost/app?password=x") ∧
    (openSettings? "postgresql://me:12/34@localhost/app" = some app ∧
      openSettings? "postgresql://me:x@localhost/app" = some app ∧
      redact "postgresql://me:12/34@localhost/app" ≠ redact "postgresql://me:x@localhost/app") := by
  decide +kernel

end PgMetrics.Dsn
