import PgMetrics.Proofs.Command.Environment

namespace PgMetrics

theorem Text.encode_injective : Function.Injective encode := by
  intro s s' same
  rw [← Option.some_inj, ← decode_encode s, ← decode_encode s', same]

theorem ConnectionSettings.bytesOf_injective : Function.Injective bytesOf := by
  intro s s' same
  exact Text.encode_injective (ByteArray.ext (Array.toList_inj.1 same))

namespace DataSources

open Dialogue ConnectionSettings

section Parts

variable {user user' password password' location location' : String}

/-- The parts of a connection string can be told from it. -/
theorem ofParts_inj : ofParts user password location = ofParts user' password' location' ↔
    user = user' ∧ password = password' ∧ location = location' := by
  refine ⟨fun same => ?_, fun ⟨user, password, location⟩ => by rw [user, password, location]⟩
  have behind := url?_ofParts user password location
  rw [same, url?_ofParts, Option.some_inj, Prod.mk.injEq] at behind
  have credentials := readCredentials_ofParts user password location
  rw [← behind.2, readCredentials_ofParts] at credentials
  simp only [Option.some_inj, Prod.mk.injEq, ConnectionSettings.mk.injEq, and_true] at credentials
  obtain ⟨⟨sameUser, samePassword⟩, sameLocation⟩ := credentials
  exact ⟨sameUser.symm, (bytesOf_injective samePassword).symm, (String.toList_inj.1 sameLocation).symm⟩

end Parts

/-- The names of a list are the texts between its commas, trimmed, but for those that are blank. -/
theorem ofNames_eq (names : String) : ∃ parts : List (List Char), parts ≠ [] ∧ (∀ part ∈ parts, ',' ∉ part) ∧
    Text.join [','] parts = names.toList ∧
    ofNames names = ((parts.map Text.trimChars).filter (· ≠ [])).map String.ofList := by
  refine ⟨Text.pieces ',' names.toList, Text.pieces_ne_nil _ _, fun _ => Text.not_mem_of_mem_pieces,
    Text.join_pieces .., ?_⟩
  have empty (cs : List Char) : (String.ofList cs).isEmpty = decide (cs = []) := by
    rw [Bool.eq_iff_iff]
    simp
  rw [ofNames, Text.split, List.filter_map, List.filter_map, List.filter_map]
  simp [Text.trim, Function.comp_def, empty]

variable {σ : Type} {address : Session → σ} {replies replies' : (r : Request σ) → r.Reply}
  {fileVariable valueVariable location s s' : String}

/-- A variable names a file that cannot be read as text. -/
def Unreadable (replies : (r : Request σ) → r.Reply) (fileVariable : String) : Prop :=
  ∃ path, replies (.environment fileVariable) = some path ∧ path ≠ "" ∧
    ∀ s, replies (.content path) ≠ .ok (Text.encode s)

/-- A secret comes in two surroundings from files with the same text but for blanks around it, or in both from the
variable, which has the same value. -/
inductive Alike (replies replies' : (r : Request σ) → r.Reply) (fileVariable valueVariable : String) : Prop
  | value : (replies (.environment fileVariable)).getD "" = "" → (replies' (.environment fileVariable)).getD "" = "" →
      (replies (.environment valueVariable)).getD "" = (replies' (.environment valueVariable)).getD "" →
      Alike replies replies' fileVariable valueVariable
  | file {path path' s s'} : replies (.environment fileVariable) = some path → path ≠ "" →
      replies (.content path) = .ok (Text.encode s) → replies' (.environment fileVariable) = some path' → path' ≠ "" →
      replies' (.content path') = .ok (Text.encode s') → Text.trim s = Text.trim s' →
      Alike replies replies' fileVariable valueVariable

/-- What is given does not depend on which of the rules is used. -/
theorem Given.unique (given : Given replies fileVariable valueVariable s)
    (given' : Given replies fileVariable valueVariable s') : s = s' := by
  cases given with
  | value unnamed =>
    cases given' with
    | value => rfl
    | file named ne =>
      rw [named] at unnamed
      exact absurd unnamed ne
  | file named ne content =>
    cases given' with
    | value unnamed =>
      rw [named] at unnamed
      exact absurd unnamed ne
    | file named' _ content' =>
      cases named.symm.trans named'
      rw [Text.encode_injective (Except.ok.inj (content.symm.trans content'))]

theorem Given.eq_of_alike (given : Given replies fileVariable valueVariable s)
    (given' : Given replies' fileVariable valueVariable s')
    (alike : Alike replies replies' fileVariable valueVariable) : s = s' := by
  cases alike with
  | value unnamed unnamed' same => rw [given.unique (.value unnamed), given'.unique (.value unnamed'), same]
  | file named ne content named' ne' content' same =>
    rw [given.unique (.file named ne content), given'.unique (.file named' ne' content'), same]

/-- The only way not to get a secret is a file that cannot be read, which the error names. -/
theorem outcome_secret_error {e : Failure}
    (failed : outcome replies (secret (world address) fileVariable valueVariable) = .error e) :
    ∃ path cause, replies (.environment fileVariable) = some path ∧ path ≠ "" ∧
      (∀ s, replies (.content path) ≠ .ok (Text.encode s)) ∧
      e = (Failure.of (.file cause)).during (.readingVariable fileVariable path) := by
  rw [secret, outcome_bind] at failed
  cases file : outcome replies (nonEmpty? (world address) fileVariable) with
  | none =>
    rw [file] at failed
    cases failed
  | some path =>
    obtain ⟨named, ne⟩ := outcome_nonEmpty?_eq_some_iff.1 file
    rw [file] at failed
    simp only [outcome_bind] at failed
    cases text : outcome replies ((world address).readText path) with
    | ok s =>
      rw [text] at failed
      cases failed
    | error cause =>
      rw [text] at failed
      cases failed
      refine ⟨path, cause, named, ne, fun s content => ?_, rfl⟩
      rw [outcome_readText_eq_ok_iff.2 content] at text
      cases text

theorem outcome_secret_eq_error_iff :
    (∃ e, outcome replies (secret (world address) fileVariable valueVariable) = .error e) ↔
      Unreadable replies fileVariable := by
  constructor
  · rintro ⟨e, failed⟩
    obtain ⟨path, _, named, ne, unread, -⟩ := outcome_secret_error failed
    exact ⟨path, named, ne, unread⟩
  · rintro ⟨path, named, ne, unread⟩
    cases result : outcome replies (secret (world address) fileVariable valueVariable) with
    | error e => exact ⟨e, rfl⟩
    | ok s =>
      cases outcome_secret_eq_ok_iff.1 result with
      | value unnamed =>
        rw [named] at unnamed
        exact absurd unnamed ne
      | file named' _ content =>
        cases named.symm.trans named'
        exact absurd content (unread _)

/-- What is made of a location has the user and the password that are given. -/
theorem given_of_outcome_read {sources : List String}
    (unnamed : (replies (.environment "DATA_SOURCE_NAME")).getD "" = "")
    (located : replies (.environment "DATA_SOURCE_URI") = some location) (ne : location ≠ "")
    (made : outcome replies (read (world address)) = .ok sources) :
    ∃ user password, sources = [ofParts user password location] ∧
      Given replies "DATA_SOURCE_USER_FILE" "DATA_SOURCE_USER" user ∧
      Given replies "DATA_SOURCE_PASS_FILE" "DATA_SOURCE_PASS" password := by
  rw [outcome_read_located unnamed located ne] at made
  split at made
  · cases made
  · rename_i user givenUser
    split at made
    · cases made
    · rename_i password givenPassword
      cases made
      exact ⟨user, password, rfl, outcome_secret_eq_ok_iff.1 givenUser, outcome_secret_eq_ok_iff.1 givenPassword⟩

/-- A list of names that is not empty counts alone: its names are returned whatever else is set and whatever the files
are. Without it nothing is returned without a location. With one, an error comes exactly if a file is named for a secret
that cannot be read as text, and it names such a file; else a connection string of the user, the password and the
location is returned. Of the environment and the files the user depends on no more than the trimmed text of the file
that is named for it, or, if none is, the variable that gives it; and so does the password. -/
theorem credentials_take_precedence :
    (∀ names, names ≠ "" → ∃ parts : List (List Char), parts ≠ [] ∧ (∀ part ∈ parts, ',' ∉ part) ∧
      Text.join [','] parts = names.toList ∧
      ∀ replies : (r : Request σ) → r.Reply, replies (.environment "DATA_SOURCE_NAME") = some names →
        outcome replies (read (world address)) =
          .ok (((parts.map Text.trimChars).filter (· ≠ [])).map String.ofList)) ∧
    ∀ replies : (r : Request σ) → r.Reply, (replies (.environment "DATA_SOURCE_NAME")).getD "" = "" →
      ((replies (.environment "DATA_SOURCE_URI")).getD "" = "" → outcome replies (read (world address)) = .ok []) ∧
      ∀ location, replies (.environment "DATA_SOURCE_URI") = some location → location ≠ "" →
        ((∃ e, outcome replies (read (world address)) = .error e) ↔
          Unreadable replies "DATA_SOURCE_USER_FILE" ∨ Unreadable replies "DATA_SOURCE_PASS_FILE") ∧
        (∀ e, outcome replies (read (world address)) = .error e →
          ∃ fileVariable ∈ ["DATA_SOURCE_USER_FILE", "DATA_SOURCE_PASS_FILE"], ∃ path cause,
            replies (.environment fileVariable) = some path ∧
            e = (Failure.of (.file cause)).during (.readingVariable fileVariable path)) ∧
        (∀ sources, outcome replies (read (world address)) = .ok sources →
          ∃ user password, sources = [ofParts user password location] ∧
            Given replies "DATA_SOURCE_USER_FILE" "DATA_SOURCE_USER" user ∧
            Given replies "DATA_SOURCE_PASS_FILE" "DATA_SOURCE_PASS" password) ∧
        ∀ (replies' : (r : Request σ) → r.Reply) (user password location' user' password' : String),
          (replies' (.environment "DATA_SOURCE_NAME")).getD "" = "" →
          replies' (.environment "DATA_SOURCE_URI") = some location' → location' ≠ "" →
          outcome replies (read (world address)) = .ok [ofParts user password location] →
          outcome replies' (read (world address)) = .ok [ofParts user' password' location'] →
          (Alike replies replies' "DATA_SOURCE_USER_FILE" "DATA_SOURCE_USER" → user = user') ∧
          (Alike replies replies' "DATA_SOURCE_PASS_FILE" "DATA_SOURCE_PASS" → password = password') := by
  refine ⟨?_, fun replies unnamed => ⟨?_, fun location located ne =>
    ⟨?_, ?_, fun _ => given_of_outcome_read unnamed located ne, ?_⟩⟩⟩
  · intro names ne
    obtain ⟨parts, some_, apart, whole, listed⟩ := ofNames_eq names
    refine ⟨parts, some_, apart, whole, fun replies named => ?_⟩
    have someNames : outcome replies (nonEmpty? (world address) "DATA_SOURCE_NAME") = some names :=
      outcome_nonEmpty?_eq_some_iff.2 ⟨named, ne⟩
    rw [read, outcome_bind, someNames, ← listed]
    rfl
  · intro unlocated
    have noNames : outcome replies (nonEmpty? (world address) "DATA_SOURCE_NAME") = none :=
      outcome_nonEmpty?_eq_none_iff.2 unnamed
    have noLocation : outcome replies (nonEmpty? (world address) "DATA_SOURCE_URI") = none :=
      outcome_nonEmpty?_eq_none_iff.2 unlocated
    simp [read, noNames, noLocation]
  · rw [outcome_read_located unnamed located ne, ← @outcome_secret_eq_error_iff σ address replies _ "DATA_SOURCE_USER",
      ← @outcome_secret_eq_error_iff σ address replies _ "DATA_SOURCE_PASS"]
    cases outcome replies (secret (world address) "DATA_SOURCE_USER_FILE" "DATA_SOURCE_USER") with
    | error e => simp
    | ok user => cases outcome replies (secret (world address) "DATA_SOURCE_PASS_FILE" "DATA_SOURCE_PASS") <;> simp
  · intro e failed
    rw [outcome_read_located unnamed located ne] at failed
    split at failed
    · rename_i e' user
      cases failed
      obtain ⟨path, cause, named, -, -, same⟩ := outcome_secret_error user
      exact ⟨_, by simp, path, cause, named, same⟩
    · split at failed
      · rename_i e' password
        cases failed
        obtain ⟨path, cause, named, -, -, same⟩ := outcome_secret_error password
        exact ⟨_, by simp, path, cause, named, same⟩
      · cases failed
  · intro replies' user password location' user' password' unnamed' located' ne' made made'
    obtain ⟨_, _, same, givenUser, givenPassword⟩ := given_of_outcome_read unnamed located ne made
    obtain ⟨rfl, rfl, -⟩ := ofParts_inj.1 (List.head_eq_of_cons_eq same)
    obtain ⟨_, _, same', givenUser', givenPassword'⟩ := given_of_outcome_read unnamed' located' ne' made'
    obtain ⟨rfl, rfl, -⟩ := ofParts_inj.1 (List.head_eq_of_cons_eq same')
    exact ⟨givenUser.eq_of_alike givenUser', givenPassword.eq_of_alike givenPassword'⟩

/-- Replies of an environment and of files alone. -/
def surrounded (values : String → Option String) (files : String → Content) : (r : Request σ) → r.Reply
  | .environment name => values name
  | .content path => files path
  | r => Request.replyOf (fun _ => .ok ()) (fun _ _ => .ok ⟨[], []⟩) (.error .notFound) r

/-- Two variables for a user that is read from a file, a password in a file that is missing, and a list of names. -/
theorem file_before_variable :
    let surroundings (pairs : List (String × String)) (text : String) :=
      @surrounded Session (List.lookup · pairs) fun path =>
        if path = "missing" then .error .notFound else .ok (Text.encode text)
    let located := [("DATA_SOURCE_NAME", ""), ("DATA_SOURCE_URI", "db/app"), ("DATA_SOURCE_USER_FILE", "user")]
    let old := surroundings (("DATA_SOURCE_USER", "stale") :: located) "me\n"
    let new := surroundings (("DATA_SOURCE_USER", "fresh") :: located) " me"
    let broken := surroundings (("DATA_SOURCE_PASS_FILE", "missing") :: located) "me"
    let named := surroundings [("DATA_SOURCE_NAME", "host=a,, host=b "), ("DATA_SOURCE_USER_FILE", "missing")] ""
    (∃ user password user' password', outcome old (read (world id)) = .ok [ofParts user password "db/app"] ∧
      outcome new (read (world id)) = .ok [ofParts user' password' "db/app"] ∧ user = user') ∧
      (∃ e, outcome broken (read (world id)) = .error e) ∧
      outcome named (read (world id)) = .ok ["host=a", "host=b"] := by
  intro surroundings located old new broken named
  obtain ⟨lists, others⟩ := @credentials_take_precedence Session id
  refine ⟨?_, ?_, ?_⟩
  · have userFile user text : surroundings (("DATA_SOURCE_USER", user) :: located) text
        (.environment "DATA_SOURCE_USER_FILE") = some "user" := rfl
    have content user text : surroundings (("DATA_SOURCE_USER", user) :: located) text (.content "user") =
        .ok (Text.encode text) := rfl
    have trimmed : Text.trim "me\n" = Text.trim " me" := by cbv
    have made user text : outcome (surroundings (("DATA_SOURCE_USER", user) :: located) text) (read (world id)) =
        .ok [ofParts (Text.trim text) "" "db/app"] :=
      outcome_read rfl rfl (by decide) (.file (userFile user text) (by decide) (content user text)) (.value rfl)
    have before := made "stale" "me\n"
    have after := made "fresh" " me"
    have alike : Alike old new "DATA_SOURCE_USER_FILE" "DATA_SOURCE_USER" :=
      .file (userFile "stale" "me\n") (by decide) (content "stale" "me\n") (userFile "fresh" " me") (by decide)
        (content "fresh" " me") trimmed
    obtain ⟨-, given⟩ := others old rfl
    obtain ⟨-, -, -, depends⟩ := given "db/app" rfl (by decide)
    obtain ⟨same, -⟩ := depends new _ _ _ _ _ rfl rfl (by decide) before after
    exact ⟨_, _, _, _, before, after, same alike⟩
  · obtain ⟨-, given⟩ := others broken rfl
    obtain ⟨fails, -⟩ := given "db/app" rfl (by decide)
    refine fails.2 (.inr ⟨"missing", rfl, by decide, ?_⟩)
    rintro s ⟨⟩
  · obtain ⟨parts, some_, apart, whole, listed⟩ := lists "host=a,, host=b " (by decide)
    rw [listed named rfl, ← Text.pieces_join some_ apart, whole]
    cbv

end DataSources

end PgMetrics
