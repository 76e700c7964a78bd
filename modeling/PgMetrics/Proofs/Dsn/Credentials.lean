import Mathlib.Data.List.TakeWhile
import PgMetrics.Dsn.Basic

namespace PgMetrics

namespace Percent

theorem hexDigit_mem {n : Nat} (h : n < 16) : hexDigit n ∈ "0123456789ABCDEF".toList := by
  have table : ∀ n : Fin 16, hexDigit n.val ∈ "0123456789ABCDEF".toList := by decide
  exact table ⟨n, h⟩

theorem mem_encodeBytes {bs : List UInt8} {c : Char} (member : c ∈ bs.flatMap encodeByte) :
    c ∈ "%0123456789ABCDEF".toList := by
  obtain ⟨b, _, digits⟩ := List.mem_flatMap.1 member
  have bound := b.toNat_lt
  change c ∈ '%' :: "0123456789ABCDEF".toList
  simp only [encodeByte, List.mem_cons, List.not_mem_nil, or_false] at digits
  rcases digits with rfl | rfl | rfl
  · exact List.mem_cons_self ..
  · exact List.mem_cons_of_mem _ (hexDigit_mem (by omega))
  · exact List.mem_cons_of_mem _ (hexDigit_mem (by omega))

/-- Encoding leaves what needs none, and adds nothing but the signs it writes bytes with. -/
theorem mem_encode {encoded : Char → Bool} {c : Char} {cs : List Char} (member : c ∈ encode encoded cs) :
    (c ∈ cs ∧ encoded c = false) ∨ c ∈ "%0123456789ABCDEF".toList := by
  obtain ⟨d, among, written⟩ := List.mem_flatMap.1 member
  unfold encodeChar at written
  split at written
  · exact .inr (mem_encodeBytes written)
  · rename_i plain
    rw [List.mem_singleton.1 written]
    exact .inl ⟨among, by simpa using plain⟩

theorem not_mem_encode {encoded : Char → Bool} {mark : Char} (needed : encoded mark = true)
    (other : mark ∉ "%0123456789ABCDEF".toList) (cs : List Char) : mark ∉ encode encoded cs := by
  intro member
  obtain ⟨-, plain⟩ | sign := mem_encode member
  · rw [needed] at plain
    cases plain
  · exact other sign

theorem bytesOf_eq (s : String) : ConnectionSettings.bytesOf s = s.toList.flatMap String.utf8EncodeChar := by
  rw [ConnectionSettings.bytesOf, Text.encode, String.toUTF8_eq_toByteArray, ← String.utf8Encode_toList]
  simp [List.utf8Encode]

theorem decode_encode_toList {encoded : Char → Bool} (percent : encoded '%' = true) (s : String) :
    decode (encode encoded s.toList) = ConnectionSettings.bytesOf s := by
  rw [decode_encode percent, bytesOf_eq]

theorem decodeText_encode {encoded : Char → Bool} (percent : encoded '%' = true) (s : String) :
    decodeText (encode encoded s.toList) = some s := by
  rw [decodeText, decode_encode_toList percent]
  exact Text.decode_encode s

theorem decode_of_decodeText {cs : List Char} {s : String} (read : decodeText cs = some s) :
    decode cs = ConnectionSettings.bytesOf s := by
  rw [ConnectionSettings.bytesOf, Text.encode_of_decode read]

/-- Decoding keeps a character that is neither a percent sign nor a digit. -/
theorem mem_decode {mark : Char} (sign : mark ≠ '%') (digit : hexValue? mark = none) {cs : List Char}
    (member : mark ∈ cs) : String.utf8EncodeChar mark ⊆ decode cs := by
  fun_induction decode cs with
  | case1 => cases member
  | case2 high low rest b digits ih =>
    have apart : mark ≠ high ∧ mark ≠ low := by
      constructor <;> rintro rfl <;> simp [byte?, digit] at digits
    simp only [List.mem_cons, sign, apart, false_or] at member
    exact List.subset_cons_of_subset _ (ih member)
  | case3 high low rest digits ih =>
    rw [List.mem_cons] at member
    exact List.subset_append_of_subset_right _ (ih (member.resolve_left sign))
  | case4 c cs other ih =>
    obtain rfl | later := List.mem_cons.1 member
    · exact List.subset_append_left _ _
    · exact List.subset_append_of_subset_right _ (ih later)

end Percent

namespace ConnectionSettings

/-- The credentials among the settings. -/
def credentials (c : ConnectionSettings) : Option String × Option (List UInt8) :=
  (c.user, c.password)

theorem credentials_foldl_addHost (hosts : List String) (c : ConnectionSettings) :
    (hosts.foldl addHost c).credentials = c.credentials := by
  induction hosts generalizing c with
  | nil => rfl
  | cons host hosts ih => exact ih (c.addHost host)

/-- Settings of other names leave the credentials as they are. -/
theorem credentials_set {c c' : ConnectionSettings} {key value : String} (made : c.set key value = some c')
    (noUser : key ≠ "user") (noPassword : key ≠ "password") : c'.credentials = c.credentials := by
  unfold set at made
  split at made
  case h_1 => exact absurd rfl noUser
  case h_2 => exact absurd rfl noPassword
  case h_8 =>
    obtain rfl := Option.some.inj made
    exact credentials_foldl_addHost ..
  all_goals first
    | (obtain rfl := Option.some.inj made; rfl)
    | (obtain ⟨_, _, rfl⟩ := Option.map_eq_some_iff.1 made; rfl)
    | (split at made <;> first | (obtain rfl := Option.some.inj made; rfl) | cases made)
    | cases made

/-- No setting has the sign between parameters in its name. -/
theorem not_mem_of_set {c c' : ConnectionSettings} {key value : String} (made : c.set key value = some c') :
    0x26 ∉ bytesOf key := by
  unfold set at made
  split at made
  case h_20 => cases made
  all_goals decide +kernel

end ConnectionSettings

namespace Locator

open ConnectionSettings

variable {c c' : ConnectionSettings} {cs : List Char}

theorem upTo_append {mark : Char} (apart : mark ∉ cs) (rest : List Char) :
    upTo [mark] (cs ++ mark :: rest) = (cs, mark :: rest) := by
  have kept : ∀ c ∈ cs, (!([mark].contains c)) = true := fun c member => by
    simpa using fun same : c = mark => apart (same ▸ member)
  unfold upTo
  rw [List.takeWhile_append_of_pos kept, List.dropWhile_append_of_pos kept]
  simp

theorem eq_of_upTo {mark : Char} {before rest : List Char} (cut : upTo [mark] cs = (before, rest)) :
    cs = before ++ rest ∧ mark ∉ before ∧ (rest = [] ∨ ∃ behind, rest = mark :: behind) := by
  obtain ⟨rfl, rfl⟩ := Prod.mk.inj cut
  refine ⟨List.takeWhile_append_dropWhile.symm, fun member => ?_, ?_⟩
  · simpa using List.mem_takeWhile_imp member
  · cases stopped : cs.dropWhile fun c => !([mark].contains c) with
    | nil => exact .inl rfl
    | cons d behind =>
      have stop : (!([mark].contains d)) = false := @Text.head_dropWhile _ cs d (by rw [stopped]; rfl)
      obtain rfl : d = mark := by simpa using stop
      exact .inr ⟨behind, rfl⟩

/-- A user without a mark or a colon and a password without a mark are read as they are written. -/
theorem readCredentials_append {user password : List Char} {name : String} (c : ConnectionSettings)
    (rest : List Char) (userMark : '@' ∉ user) (userColon : ':' ∉ user) (passwordMark : '@' ∉ password)
    (named : Percent.decodeText user = some name) :
    readCredentials c (user ++ ':' :: (password ++ '@' :: rest)) =
      some ({ c with user := some name, password := some (Percent.decode password) }, rest) := by
  have credentials : upTo ['@'] (user ++ ':' :: (password ++ '@' :: rest)) =
      (user ++ ':' :: password, '@' :: rest) := by
    have apart : '@' ∉ user ++ ':' :: password := by simp [userMark, passwordMark]
    simpa using upTo_append apart rest
  unfold readCredentials
  simp only [credentials, upTo_append userColon, named]

theorem credentials_addHost (added : addHost c cs = some c') : c'.credentials = c.credentials := by
  unfold addHost at added
  dsimp only at added
  split at added
  · obtain rfl := Option.some.inj added
    rfl
  · obtain ⟨_, _, rfl⟩ := Option.map_eq_some_iff.1 added
    rfl

theorem credentials_addPlace (added : addPlace c cs = some c') : c'.credentials = c.credentials := by
  unfold addPlace at added
  split at added
  · cases added
  · split at added
    · rename_i placed _
      rw [credentials_set added (by decide) (by decide), credentials_addHost placed]
    · cases added

theorem credentials_addPlaces {places : List (List Char)} (added : addPlaces c places = some c') :
    c'.credentials = c.credentials := by
  induction places generalizing c with
  | nil =>
    obtain rfl := Option.some.inj added
    rfl
  | cons place places ih =>
    unfold addPlaces at added
    split at added
    · rename_i placed
      rw [ih added, credentials_addPlace placed]
    · cases added

theorem credentials_readHosts (read : readHosts c cs = some c') : c'.credentials = c.credentials := by
  unfold readHosts at read
  split at read
  · obtain rfl := Option.some.inj read
    rfl
  · exact credentials_addPlaces read

theorem credentials_readDatabase (read : readDatabase c cs = some c') : c'.credentials = c.credentials := by
  unfold readDatabase at read
  split at read
  · obtain rfl := Option.some.inj read
    rfl
  · split at read
    · obtain rfl := Option.some.inj read
      rfl
    · obtain ⟨_, _, rfl⟩ := Option.map_eq_some_iff.1 read
      rfl
  · obtain rfl := Option.some.inj read
    rfl

/-- The names of the parameters in a text, where they are texts. -/
def parameterNames (cs : List Char) : List (Option String) :=
  (Text.pieces '&' cs).map fun parameter => Percent.decodeText (upTo ['='] parameter).1

/-- The text behind the first question mark. -/
def query (cs : List Char) : List Char :=
  (upTo ['?'] cs).2.drop 1

/-- A key with the sign between parameters in it is refused. -/
theorem not_mem_of_addParameter {key value : List Char} (added : addParameter c key value = some c') :
    '&' ∉ key := by
  intro member
  have kept : 0x26 ∈ Percent.decode key :=
    Percent.mem_decode (by decide) (by decide) member (by decide : 0x26 ∈ String.utf8EncodeChar '&')
  unfold addParameter at added
  split at added
  · cases added
  · rename_i name read
    rw [Percent.decode_of_decodeText read] at kept
    split at added
    · rename_i host
      subst host
      revert kept
      decide +kernel
    · split at added
      · exact ConnectionSettings.not_mem_of_set added kept
      · cases added

theorem credentials_addParameter {key value : List Char} (added : addParameter c key value = some c')
    (noUser : Percent.decodeText key ≠ some "user") (noPassword : Percent.decodeText key ≠ some "password") :
    c'.credentials = c.credentials := by
  unfold addParameter at added
  split at added
  · cases added
  · rename_i name read
    rw [read] at noUser noPassword
    split at added
    · exact credentials_addHost added
    · split at added
      · exact credentials_set added (fun same => noUser (congrArg some same))
          fun same => noPassword (congrArg some same)
      · cases added

theorem parameterNames_of_not_mem {key value : List Char} (sign : '=' ∉ key) (apart : '&' ∉ key ++ '=' :: value) :
    parameterNames (key ++ '=' :: value) = [Percent.decodeText key] := by
  rw [parameterNames, Text.pieces_of_not_mem apart, List.map_singleton, upTo_append sign]

theorem parameterNames_append (cs rest : List Char) :
    parameterNames (cs ++ '&' :: rest) = parameterNames cs ++ parameterNames rest := by
  rw [parameterNames, Text.pieces_append, List.map_append]
  rfl

/-- Parameters of other names leave the credentials as they are. -/
theorem credentials_readParameters (read : readParameters c cs = some c')
    (noUser : some "user" ∉ parameterNames cs) (noPassword : some "password" ∉ parameterNames cs) :
    c'.credentials = c.credentials := by
  fun_induction readParameters c cs with
  | case1 c =>
    obtain rfl := Option.some.inj read
    rfl
  | case2 => cases read
  | case3 => cases read
  | case4 c d ds key mark behind cut c₁ added ih =>
    obtain ⟨whole, sign, begins⟩ := eq_of_upTo cut
    obtain ⟨_, same⟩ := begins.resolve_left (by simp)
    obtain ⟨rfl, rfl⟩ := List.cons.inj same
    generalize taken : upTo ['&'] behind = parts at added ih read
    obtain ⟨value, rest⟩ := parts
    obtain ⟨rfl, inside, ends⟩ := eq_of_upTo taken
    -- A key may run across the sign between parameters, but then there is no setting of its name.
    have first : parameterNames (key ++ '=' :: value) = [Percent.decodeText key] :=
      parameterNames_of_not_mem sign (by simp [not_mem_of_addParameter added, inside])
    rcases ends with rfl | ⟨more, rfl⟩
    · rw [whole, List.append_nil, first] at noUser noPassword
      have ended : c₁ = c' := by simpa [readParameters] using read
      rw [← ended]
      exact credentials_addParameter added (by simpa [eq_comm] using noUser) (by simpa [eq_comm] using noPassword)
    · have all : parameterNames (d :: ds) = Percent.decodeText key :: parameterNames more := by
        have both := parameterNames_append (key ++ '=' :: value) more
        rwa [first, List.append_assoc, List.cons_append, ← whole] at both
      rw [all, List.mem_cons, not_or] at noUser noPassword
      rw [ih read noUser.2 noPassword.2]
      exact credentials_addParameter added (Ne.symm noUser.1) (Ne.symm noPassword.1)

/-- The parameters stand behind the first question mark, whether a slash comes before it or not. -/
theorem query_eq (cs : List Char) :
    (if (upTo ['/', '?'] cs).2.head? = some '/' then upTo ['?'] (upTo ['/', '?'] cs).2
      else ([], (upTo ['/', '?'] cs).2)).2.drop 1 = query cs := by
  have whole : (upTo ['/', '?'] cs).1 ++ (upTo ['/', '?'] cs).2 = cs := List.takeWhile_append_dropWhile
  have before : ∀ c ∈ (upTo ['/', '?'] cs).1, (!(['?'].contains c)) = true := fun c member => by
    have kept := List.mem_takeWhile_imp member
    simp_all
  have stops (c : Char) (first : (upTo ['/', '?'] cs).2.head? = some c) : c = '/' ∨ c = '?' := by
    have stop := Text.head_dropWhile first
    simpa [Decidable.or_iff_not_imp_left] using stop
  have behind : query cs = query (upTo ['/', '?'] cs).2 := by
    unfold query
    conv => lhs; rw [← whole, upTo]
    rw [List.dropWhile_append_of_pos before]
    rfl
  rw [behind]
  generalize (upTo ['/', '?'] cs).2 = rest at stops
  split
  · rfl
  · rename_i other
    rw [query, upTo, Text.dropWhile_eq_self_of_head]
    intro c first
    obtain rfl | rfl := stops c first
    · exact absurd first other
    · rfl

/-- Nothing behind the credentials changes them, unless a parameter does. -/
theorem credentials_read {rest : List Char} {start : ConnectionSettings}
    (given : readCredentials {} cs = some (start, rest)) (read_ : read cs = some c)
    (noUser : some "user" ∉ parameterNames (query rest)) (noPassword : some "password" ∉ parameterNames (query rest)) :
    c.credentials = start.credentials := by
  rw [← query_eq] at noUser noPassword
  unfold read at read_
  simp only [given] at read_
  split at read_
  · cases read_
  · rename_i hosted hosts
    split at read_
    · cases read_
    · rename_i located database
      rw [credentials_readParameters read_ noUser noPassword, credentials_readDatabase database,
        credentials_readHosts hosts]

end Locator

end PgMetrics
