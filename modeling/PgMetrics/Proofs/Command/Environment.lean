import Mathlib
import PgMetrics.Command.DataSources
import PgMetrics.Proofs.Dsn.Credentials
import PgMetrics.Proofs.Replies

namespace PgMetrics.DataSources

open Dialogue ConnectionSettings

theorem not_mem_encode {mark : Char} (needed : isPlain mark = false) (other : mark ∉ "%0123456789ABCDEF".toList)
    (s : String) : mark ∉ (encode s).toList := by
  rw [encode, String.toList_ofList]
  exact Percent.not_mem_encode (by simp [needed]) other s.toList

theorem url?_ofParts (user password location : String) :
    Dsn.url? (ofParts user password location) = some ("postgresql".toList,
      (encode user).toList ++ ':' :: ((encode password).toList ++ '@' :: location.toList)) := by
  delta ofParts
  simp [Dsn.url?, Dsn.schemes, Dsn.behindScheme?]

/-- The credentials of a connection string made of parts are those parts, and behind them is the third. -/
theorem readCredentials_ofParts (user password location : String) :
    Locator.readCredentials {} ((encode user).toList ++ ':' :: ((encode password).toList ++ '@' :: location.toList)) =
      some ({ user := some user, password := some (bytesOf password) }, location.toList) := by
  have named : Percent.decodeText (encode user).toList = some user := by
    rw [encode, String.toList_ofList]
    exact Percent.decodeText_encode (by decide) user
  have secret : Percent.decode (encode password).toList = bytesOf password := by
    rw [encode, String.toList_ofList]
    exact Percent.decode_encode_toList (by decide) password
  rw [Locator.readCredentials_append {} _ (not_mem_encode (by decide) (by decide) user)
    (not_mem_encode (by decide) (by decide) user) (not_mem_encode (by decide) (by decide) password) named, secret]

theorem credentials_ofParts {user password location : String} {c : ConnectionSettings}
    (noUser : some "user" ∉ Locator.parameterNames (Locator.query location.toList))
    (noPassword : some "password" ∉ Locator.parameterNames (Locator.query location.toList))
    (read : Dsn.settings? (ofParts user password location) = some c) :
    c.user = some user ∧ c.password = some (bytesOf password) := by
  rw [Dsn.settings?, url?_ofParts] at read
  have same := Locator.credentials_read (readCredentials_ofParts user password location) read noUser noPassword
  exact Prod.mk.inj same

variable {σ : Type} {address : Session → σ} {replies : (r : Request σ) → r.Reply}

/-- A secret is the value of a variable, unless another one names a file: then it is the trimmed text of the file. -/
inductive Given (replies : (r : Request σ) → r.Reply) (fileVariable valueVariable : String) : String → Prop
  | value : (replies (.environment fileVariable)).getD "" = "" →
      Given replies fileVariable valueVariable ((replies (.environment valueVariable)).getD "")
  | file {path s} : replies (.environment fileVariable) = some path → path ≠ "" →
      replies (.content path) = .ok (Text.encode s) → Given replies fileVariable valueVariable (Text.trim s)

theorem outcome_nonEmpty?_eq_none_iff {name : String} :
    outcome replies (nonEmpty? (world address) name) = none ↔ (replies (.environment name)).getD "" = "" := by
  change (replies (.environment name)).filter (!·.isEmpty) = none ↔ _
  cases replies (.environment name) with
  | none => simp
  | some s => simp

theorem outcome_nonEmpty?_eq_some_iff {name s : String} :
    outcome replies (nonEmpty? (world address) name) = some s ↔ replies (.environment name) = some s ∧ s ≠ "" := by
  change (replies (.environment name)).filter (!·.isEmpty) = some s ↔ _
  simp [Option.filter_eq_some_iff]

theorem outcome_secret_eq_ok_iff {fileVariable valueVariable s : String} :
    outcome replies (secret (world address) fileVariable valueVariable) = .ok s ↔
      Given replies fileVariable valueVariable s := by
  rw [secret, outcome_bind]
  cases file : outcome replies (nonEmpty? (world address) fileVariable) with
  | none =>
    have unnamed := outcome_nonEmpty?_eq_none_iff.1 file
    simp only [outcome_bind, outcome_environment, outcome_pure, Except.ok.injEq]
    constructor
    · rintro rfl
      exact .value unnamed
    · intro given
      cases given with
      | value _ => rfl
      | file named ne _ =>
        rw [named] at unnamed
        exact absurd unnamed ne
  | some path =>
    obtain ⟨named, ne⟩ := outcome_nonEmpty?_eq_some_iff.1 file
    simp only [outcome_bind]
    constructor
    · intro read
      cases text : outcome replies ((world address).readText path) with
      | error e => simp [text] at read
      | ok text' =>
        obtain rfl : Text.trim text' = s := by simpa [text] using read
        exact .file named ne (outcome_readText_eq_ok_iff.1 text)
    · intro given
      cases given with
      | value unnamed =>
        rw [named] at unnamed
        exact absurd unnamed ne
      | @file path' text named' _ content =>
        obtain rfl : path = path' := Option.some.inj (named.symm.trans named')
        rw [outcome_readText_eq_ok_iff.2 content]
        rfl

/-- With no list but a location, what comes of it depends on the two secrets. -/
theorem outcome_read_located {location : String}
    (unnamed : (replies (.environment "DATA_SOURCE_NAME")).getD "" = "")
    (located : replies (.environment "DATA_SOURCE_URI") = some location) (ne : location ≠ "") :
    outcome replies (read (world address)) =
      match outcome replies (secret (world address) "DATA_SOURCE_USER_FILE" "DATA_SOURCE_USER") with
      | .error e => .error e
      | .ok user =>
        match outcome replies (secret (world address) "DATA_SOURCE_PASS_FILE" "DATA_SOURCE_PASS") with
        | .error e => .error e
        | .ok password => .ok [ofParts user password location] := by
  have noNames : outcome replies (nonEmpty? (world address) "DATA_SOURCE_NAME") = none :=
    outcome_nonEmpty?_eq_none_iff.2 unnamed
  have someLocation : outcome replies (nonEmpty? (world address) "DATA_SOURCE_URI") = some location :=
    outcome_nonEmpty?_eq_some_iff.2 ⟨located, ne⟩
  simp only [read, outcome_bind, noNames, someLocation]
  cases outcome replies (secret (world address) "DATA_SOURCE_USER_FILE" "DATA_SOURCE_USER") with
  | error e => rfl
  | ok user =>
    simp only [outcome_bind]
    cases outcome replies (secret (world address) "DATA_SOURCE_PASS_FILE" "DATA_SOURCE_PASS") <;> rfl

/-- With no list of connection strings one is made of the location and the secrets. -/
theorem outcome_read {user password location : String}
    (unnamed : (replies (.environment "DATA_SOURCE_NAME")).getD "" = "")
    (located : replies (.environment "DATA_SOURCE_URI") = some location) (ne : location ≠ "")
    (givenUser : Given replies "DATA_SOURCE_USER_FILE" "DATA_SOURCE_USER" user)
    (givenPassword : Given replies "DATA_SOURCE_PASS_FILE" "DATA_SOURCE_PASS" password) :
    outcome replies (read (world address)) = .ok [ofParts user password location] := by
  rw [outcome_read_located unnamed located ne, outcome_secret_eq_ok_iff.2 givenUser,
    outcome_secret_eq_ok_iff.2 givenPassword]

/-- Credentials survive the connection string that is made of them. It is read as it was put together: the user, the
password and then the location; unless the location has parameters of those names, its settings have the two as they
were given. -/
theorem credentials_survive {user password location : String}
    (unnamed : (replies (.environment "DATA_SOURCE_NAME")).getD "" = "")
    (located : replies (.environment "DATA_SOURCE_URI") = some location) (ne : location ≠ "")
    (givenUser : Given replies "DATA_SOURCE_USER_FILE" "DATA_SOURCE_USER" user)
    (givenPassword : Given replies "DATA_SOURCE_PASS_FILE" "DATA_SOURCE_PASS" password) :
    ∃ dsn behind, outcome replies (read (world address)) = .ok [dsn] ∧
      Dsn.url? dsn = some ("postgresql".toList, behind) ∧
      Locator.readCredentials {} behind =
        some ({ user := some user, password := some (bytesOf password) }, location.toList) ∧
      (some "user" ∉ Locator.parameterNames (Locator.query location.toList) →
        some "password" ∉ Locator.parameterNames (Locator.query location.toList) →
        ∀ c, Dsn.settings? dsn = some c → c.user = some user ∧ c.password = some (bytesOf password)) :=
  ⟨_, _, outcome_read unnamed located ne givenUser givenPassword, url?_ofParts .., readCredentials_ofParts ..,
    fun noUser noPassword _ settings => credentials_ofParts noUser noPassword settings⟩

/-- A user with every kind of mark, from a variable, and a password that is the text of a file. -/
theorem credentials_with_marks_survive :
    let lookup := fun name => [("DATA_SOURCE_URI", "db/app?sslmode=disable"), ("DATA_SOURCE_USER", "a:b@c/ü"),
      ("DATA_SOURCE_PASS_FILE", "secret")].lookup name
    let replies : (r : Request Session) → r.Reply
      | .environment name => lookup name
      | r => Request.replyOf (fun _ => .ok ()) (fun _ _ => .ok ⟨[], []⟩) (.ok (Text.encode " p@:ss%?\n")) r
    ∃ dsn c, outcome replies (read (world id)) = .ok [dsn] ∧ Dsn.settings? dsn = some c ∧
      c.user = some "a:b@c/ü" ∧ c.password = some (bytesOf "p@:ss%?") := by
  intro lookup replies
  have trimmed : Text.trim " p@:ss%?\n" = "p@:ss%?" := by cbv
  have givenUser : Given replies "DATA_SOURCE_USER_FILE" "DATA_SOURCE_USER" "a:b@c/ü" := .value (by decide)
  have givenPassword : Given replies "DATA_SOURCE_PASS_FILE" "DATA_SOURCE_PASS" "p@:ss%?" :=
    trimmed ▸ .file (rfl : replies (.environment "DATA_SOURCE_PASS_FILE") = some "secret") (by decide) rfl
  have located : replies (.environment "DATA_SOURCE_URI") = some "db/app?sslmode=disable" := by decide
  obtain ⟨dsn, behind, returned, -, -, kept⟩ :=
    @credentials_survive _ id _ _ _ _ (by decide) located (by decide) givenUser givenPassword
  have made := returned.symm.trans (outcome_read (by decide) located (by decide) givenUser givenPassword)
  obtain rfl : dsn = _ := List.head_eq_of_cons_eq (Except.ok.inj made)
  have read_ : (Dsn.settings? (ofParts "a:b@c/ü" "p@:ss%?" "db/app?sslmode=disable")).isSome = true := by
    simp only [Dsn.settings?, url?_ofParts, Locator.read, readCredentials_ofParts]
    cbv
  obtain ⟨c, settings⟩ := Option.isSome_iff_exists.1 read_
  exact ⟨_, c, returned, settings, kept (by decide +kernel) (by decide +kernel) c settings⟩

end PgMetrics.DataSources
