import PgMetrics.Proofs.Dsn.Database
import PgMetrics.Proofs.Url.Respelling

namespace PgMetrics.Locator

open Percent

variable {c c' : ConnectionSettings} {cs ds : List Char}

/-- The marks by which parameters are cut. -/
def parameterMarks : List Char := ['=', '&']

theorem readParameters_eq (c : ConnectionSettings) (cs : List Char) : readParameters c cs =
    if cs = [] then some c
    else if (upTo ['='] cs).2 = [] then none
    else (addParameter c (upTo ['='] cs).1 (upTo ['&'] ((upTo ['='] cs).2.drop 1)).1).bind
      (readParameters · ((upTo ['&'] ((upTo ['='] cs).2.drop 1)).2.drop 1)) := by
  cases cs with
  | nil => simp [readParameters]
  | cons d ds =>
    rw [if_neg (by simp)]
    conv => lhs; unfold readParameters
    split
    · rename_i cut
      rw [cut, if_pos rfl]
    · rename_i cut
      rw [cut, if_neg (by simp)]
      simp only [List.drop_succ_cons, List.drop_zero]
      split <;> rename_i added <;> rw [added] <;> rfl

theorem addHost_respells {marks : List Char} (respells : Respells marks cs ds) (c : ConnectionSettings) :
    addHost c ds = addHost c cs := by
  simp only [addHost, respells.decode_eq]

theorem decodeText_respells {marks : List Char} (respells : Respells marks cs ds) : decodeText ds = decodeText cs := by
  rw [decodeText, decodeText, respells.decode_eq]

theorem addParameter_respells {marks key value key' value' : List Char} (respells : Respells marks key key')
    (respells' : Respells marks value value') (c : ConnectionSettings) :
    addParameter c key' value' = addParameter c key value := by
  simp only [addParameter, decodeText_respells respells, decodeText_respells respells', addHost_respells respells']

theorem behind_length {mark : Char} (ne : (upTo [mark] cs).2 ≠ []) : ((upTo [mark] cs).2.drop 1).length < cs.length := by
  have shorter := upTo_length [mark] cs
  have positive := List.length_pos_iff.2 ne
  rw [List.length_drop]
  omega

/-- Parameters say the same in another spelling. -/
theorem readParameters_respells {cs ds : List Char} (respells : Respells parameterMarks cs ds) (c : ConnectionSettings) :
    readParameters c ds = readParameters c cs := by
  have sign : '=' ∈ parameterMarks ∧ '=' ∉ "%0123456789ABCDEF".toList := by decide
  have ampersand : '&' ∈ parameterMarks ∧ '&' ∉ "%0123456789ABCDEF".toList := by decide
  obtain ⟨key, behindKey⟩ := respells.upTo sign.1 sign.2
  have behind := respells.behind sign.1 sign.2
  obtain ⟨value, -⟩ := behind.upTo ampersand.1 ampersand.2
  have rest := behind.behind ampersand.1 ampersand.2
  rw [readParameters_eq c cs, readParameters_eq c ds]
  simp only [respells.eq_nil_iff, behindKey.eq_nil_iff, addParameter_respells key value]
  split
  · rfl
  · split
    · rfl
    · rename_i some_
      have shorter := behind_length some_
      have shorter' := upTo_length ['&'] ((upTo ['='] cs).2.drop 1)
      congr 1
      funext c
      exact readParameters_respells rest c
termination_by cs.length
decreasing_by
  rw [List.length_drop]
  omega

theorem addHost_select (c : ConnectionSettings) (database : Option String) (cs : List Char) :
    addHost (c.select database) cs = (addHost c cs).map (·.select database) := by
  unfold addHost
  dsimp only
  split
  · rfl
  · rw [Option.map_map]
    rfl

theorem addPlace_select (c : ConnectionSettings) (database : Option String) (cs : List Char) :
    addPlace (c.select database) cs = (addPlace c cs).map (·.select database) := by
  unfold addPlace
  split
  · rfl
  · rename_i host port _
    rw [addHost_select]
    cases addHost c host with
    | none => rfl
    | some c =>
      cases decodeText port with
      | none => rfl
      | some port => exact ConnectionSettings.set_select c database (by decide)

theorem addPlaces_select (c : ConnectionSettings) (database : Option String) (places : List (List Char)) :
    addPlaces (c.select database) places = (addPlaces c places).map (·.select database) := by
  induction places generalizing c with
  | nil => rfl
  | cons place places ih =>
    rw [addPlaces, addPlaces, addPlace_select]
    cases addPlace c place with
    | none => rfl
    | some c => exact ih c

theorem readHosts_select (c : ConnectionSettings) (database : Option String) (cs : List Char) :
    readHosts (c.select database) cs = (readHosts c cs).map (·.select database) := by
  unfold readHosts
  split
  · rfl
  · exact addPlaces_select c database _

/-- What reads the same for another database leaves the database as it is. -/
theorem dbname_eq {f : ConnectionSettings → Option ConnectionSettings}
    (same : ∀ database, f (c.select database) = (f c).map (·.select database)) (read : f c = some c') :
    c'.dbname = c.dbname := by
  have own : f c = (f c).map (·.select c.dbname) := same c.dbname
  rw [read, Option.map_some, Option.some.injEq] at own
  exact (congrArg ConnectionSettings.dbname own).trans rfl

theorem addParameter_select {key : List Char} (other : decodeText key ≠ some "dbname") (c : ConnectionSettings)
    (database : Option String) (value : List Char) :
    addParameter (c.select database) key value = (addParameter c key value).map (·.select database) := by
  unfold addParameter
  split
  · rfl
  · rename_i key' read
    split
    · exact addHost_select c database value
    · split
      · refine ConnectionSettings.set_select c database fun same => other ?_
        rw [read, same]
      · rfl

/-- The first parameter of a text and the others are among its parameters. -/
theorem not_mem_parameterNames {name : String} (some_ : name ≠ "") (behind : (upTo ['='] cs).2 ≠ [])
    (apart : '&' ∉ (upTo ['='] cs).1) (other : some name ∉ parameterNames cs) :
    decodeText (upTo ['='] cs).1 ≠ some name ∧
      some name ∉ parameterNames ((upTo ['&'] ((upTo ['='] cs).2.drop 1)).2.drop 1) := by
  generalize cut : upTo ['='] cs = parts at behind apart ⊢
  obtain ⟨key, rest⟩ := parts
  obtain ⟨rfl, sign, begins⟩ := eq_of_upTo cut
  obtain ⟨rest, rfl⟩ := begins.resolve_left behind
  simp only [List.drop_succ_cons, List.drop_zero]
  generalize taken : upTo ['&'] rest = parts
  obtain ⟨value, more⟩ := parts
  obtain ⟨rfl, inside, ends⟩ := eq_of_upTo taken
  have first : parameterNames (key ++ '=' :: value) = [decodeText key] :=
    parameterNames_of_not_mem sign (by simpa [inside] using apart)
  rcases ends with rfl | ⟨more, rfl⟩
  · rw [List.append_nil, first, List.mem_singleton] at other
    refine ⟨Ne.symm other, ?_⟩
    have none_ : parameterNames [] = [some ""] := by decide +kernel
    rw [List.drop_nil, none_, List.mem_singleton]
    exact fun same => some_ (Option.some.inj same)
  · have all := parameterNames_append (key ++ '=' :: value) more
    rw [List.append_assoc, List.cons_append] at all
    rw [all, first, List.singleton_append, List.mem_cons, not_or] at other
    exact ⟨Ne.symm other.1, other.2⟩

/-- Parameters of other names say the same for another database. -/
theorem readParameters_select {cs : List Char} (database : Option String) (other : some "dbname" ∉ parameterNames cs)
    (c : ConnectionSettings) :
    readParameters (c.select database) cs = (readParameters c cs).map (·.select database) := by
  rw [readParameters_eq c cs, readParameters_eq (c.select database) cs]
  split
  · rfl
  · split
    · rfl
    · rename_i behind
      by_cases apart : '&' ∈ (upTo ['='] cs).1
      · have refused (c : ConnectionSettings) : addParameter c (upTo ['='] cs).1
            (upTo ['&'] ((upTo ['='] cs).2.drop 1)).1 = none := by
          rw [← Option.not_isSome_iff_eq_none, Option.isSome_iff_exists]
          rintro ⟨_, added⟩
          exact not_mem_of_addParameter added apart
        rw [refused, refused]
        rfl
      · obtain ⟨first, later⟩ := not_mem_parameterNames (by decide) behind apart other
        rw [addParameter_select first, Option.bind_map, Option.map_bind]
        have shorter := behind_length behind
        have shorter' := upTo_length ['&'] ((upTo ['='] cs).2.drop 1)
        congr 1
        funext c
        exact readParameters_select database later c
termination_by cs.length
decreasing_by
  rw [List.length_drop]
  omega

/-- Credentials are read up to their mark. -/
theorem readCredentials_mark {credentials : List Char} (apart : '@' ∉ credentials) (c : ConnectionSettings)
    (rest : List Char) : readCredentials c (credentials ++ '@' :: rest) =
      (decodeText (upTo [':'] credentials).1).map fun user =>
        ({ c with
            user := some user
            password :=
              if (upTo [':'] credentials).2 = [] then c.password
              else some (decode ((upTo [':'] credentials).2.drop 1)) }, rest) := by
  unfold readCredentials
  simp only [upTo_append apart]
  generalize upTo [':'] credentials = parts
  obtain ⟨user, password⟩ := parts
  dsimp only
  cases decodeText user with
  | none => rfl
  | some user => cases password <;> rfl

/-- The parts of a text behind a scheme and its slashes. -/
structure Layout where
  credentials : Option (List Char)
  place : List Char
  path : List Char
  query : Option (List Char)

namespace Layout

/-- Credentials with their mark, if there are any. -/
def front : Option (List Char) → List Char
  | some credentials => credentials ++ ['@']
  | none => []

def location (l : Layout) : List Char :=
  l.place ++ (l.path ++ Url.optional '?' l.query)

def text (l : Layout) : List Char :=
  front l.credentials ++ l.location

/-- Every part ends at the first mark that can end it. -/
structure IsCut (l : Layout) : Prop where
  credentials : ∀ cs, l.credentials = some cs → '@' ∉ cs
  open_ : l.credentials = none → '@' ∉ l.location
  place : '/' ∉ l.place ∧ '?' ∉ l.place
  path : l.path = [] ∨ ∃ cs, l.path = '/' :: cs
  noQuery : '?' ∉ l.path

/-- The settings of a location on top of others. -/
def readLocation (l : Layout) (c : ConnectionSettings) : Option ConnectionSettings :=
  (readHosts c l.place).bind fun c => (readDatabase c l.path).bind (readParameters · (l.query.getD []))

theorem IsCut.head_rest {l : Layout} (isCut : l.IsCut) {c : Char}
    (first : (l.path ++ Url.optional '?' l.query).head? = some c) : c = '/' ∨ c = '?' := by
  obtain none_ | ⟨cs, slash⟩ := isCut.path
  · rw [none_, List.nil_append] at first
    cases given : l.query with
    | none => simp [given, Url.optional] at first
    | some q =>
      rw [given] at first
      exact .inr (Option.some.inj first).symm
  · rw [slash] at first
    exact .inl (Option.some.inj first).symm

theorem IsCut.upTo_location {l : Layout} (isCut : l.IsCut) :
    upTo ['/', '?'] l.location = (l.place, l.path ++ Url.optional '?' l.query) := by
  have inside : ∀ c ∈ l.place, (!(['/', '?'].contains c)) = true := by
    intro c member
    have apart : c ≠ '/' ∧ c ≠ '?' :=
      ⟨fun same => isCut.place.1 (same ▸ member), fun same => isCut.place.2 (same ▸ member)⟩
    simpa using apart
  obtain ⟨taken, dropped⟩ := Text.cut_append inside fun c first => by
    obtain rfl | rfl := isCut.head_rest first <;> rfl
  rw [upTo, location, taken, dropped]

theorem IsCut.readCredentials_text {l : Layout} (isCut : l.IsCut) (c : ConnectionSettings) :
    readCredentials c l.text = (readCredentials c (front l.credentials)).map fun p => (p.1, l.location) := by
  unfold text
  cases given : l.credentials with
  | none =>
    rw [front, List.nil_append, readCredentials, upTo_of_not_mem (isCut.open_ given)]
    rfl
  | some cs =>
    have apart := isCut.credentials cs given
    rw [front, List.append_assoc, List.singleton_append, readCredentials_mark apart, readCredentials_mark apart,
      Option.map_map]
    rfl

/-- A text is read part by part. -/
theorem IsCut.read_text {l : Layout} (isCut : l.IsCut) :
    read l.text = (readCredentials {} (front l.credentials)).bind fun p => l.readLocation p.1 := by
  have path : (if (l.path ++ Url.optional '?' l.query).head? = some '/' then upTo ['?'] (l.path ++ Url.optional '?' l.query)
      else ([], l.path ++ Url.optional '?' l.query)) = (l.path, Url.optional '?' l.query) := by
    rw [upTo_optional isCut.noQuery]
    obtain none_ | ⟨cs, slash⟩ := isCut.path
    · rw [none_, List.nil_append, ite_self]
    · rw [slash, List.cons_append, List.head?_cons, if_pos rfl]
  have query : (Url.optional '?' l.query).drop 1 = l.query.getD [] := by
    cases l.query <;> rfl
  unfold read
  rw [isCut.readCredentials_text]
  cases readCredentials {} (front l.credentials) with
  | none => rfl
  | some p =>
    simp only [Option.map_some, Option.bind_some, isCut.upTo_location, path, query, readLocation]
    cases readHosts p.1 l.place with
    | none => rfl
    | some c =>
      rw [Option.bind_some]
      dsimp only
      cases readDatabase c l.path <;> rfl

theorem withDatabase_readDatabase {path : List Char} (read : readDatabase c path = some c') (name : String) :
    c'.withDatabase name = c.withDatabase name := by
  unfold readDatabase at read
  split at read
  · exact congrArg (·.withDatabase name) (Option.some.inj read).symm
  · split at read
    · exact congrArg (·.withDatabase name) (Option.some.inj read).symm
    · obtain ⟨_, _, rfl⟩ := Option.map_eq_some_iff.1 read
      rfl
  · exact congrArg (·.withDatabase name) (Option.some.inj read).symm

theorem dbname_readCredentials {given : Option (List Char)} {rest : List Char}
    (apart : ∀ cs, given = some cs → '@' ∉ cs) (read : readCredentials {} (front given) = some (c, rest)) :
    c.dbname = none := by
  cases given with
  | none =>
    obtain ⟨rfl, -⟩ := Prod.mk.inj (Option.some.inj read)
    rfl
  | some cs =>
    rw [front, readCredentials_mark (apart cs rfl)] at read
    obtain ⟨_, _, same⟩ := Option.map_eq_some_iff.1 read
    obtain ⟨rfl, -⟩ := Prod.mk.inj same
    rfl

/-- A location with another path says the same, but for a database, exactly if this database is read from the path. The
other parts may be in whatever spelling. -/
theorem readLocation_eq_some_iff {l l' : Layout} {name : String} {s : ConnectionSettings} {kept : Prop}
    (hosts : ∀ c, readHosts c l'.place = readHosts c l.place)
    (database : ∀ c, c.dbname = none → (readDatabase c l'.path = some (c.withDatabase name) ↔ kept))
    (parameters : Respells parameterMarks (l.query.getD []) (l'.query.getD []))
    (other : some "dbname" ∉ parameterNames (l.query.getD [])) (new : c.dbname = none)
    (read : l.readLocation c = some s) : l'.readLocation c = some (s.withDatabase name) ↔ kept := by
  obtain ⟨located, atHosts, read⟩ := Option.bind_eq_some_iff.1 read
  obtain ⟨selected, atPath, read⟩ := Option.bind_eq_some_iff.1 read
  have unnamed : located.dbname = none :=
    (@dbname_eq c located (readHosts · l.place) (readHosts_select c · l.place) atHosts).trans new
  rw [← database located unnamed, readLocation, hosts, atHosts, Option.bind_some]
  simp only [readParameters_respells parameters]
  constructor
  · intro reads
    obtain ⟨selected', atPath', reads⟩ := Option.bind_eq_some_iff.1 reads
    have named : selected'.dbname = some name :=
      (@dbname_eq selected' _ (readParameters · _) (readParameters_select · other selected') reads).symm
    refine atPath'.trans (congrArg some ?_)
    rw [← withDatabase_readDatabase atPath', ConnectionSettings.withDatabase, ← named]
  · intro atPath'
    rw [atPath', Option.bind_some, ← withDatabase_readDatabase atPath]
    exact (readParameters_select (some name) other selected).trans (congrArg (Option.map _) read)

end Layout

end PgMetrics.Locator
