import PgMetrics.Proofs.Dsn.Database

namespace PgMetrics.Dsn

open KeyValue

/-- The first place that the search takes for an assignment of a database. -/
def findDatabase? (start : Bool) : List Char → Option DatabasePlace
  | [] => none
  | c :: cs =>
    match if start then assigned? databaseKey (c :: cs) else none with
    | some (_, after) => some ⟨[], after⟩
    | none => (findDatabase? (Text.isBlank c) cs).map fun p => { p with before := c :: p.before }

/-- A place behind all settings. -/
def lastPlace (cs : List Char) : DatabasePlace :=
  match Text.trimEndChars cs with
  | [] => ⟨[], []⟩
  | cs => ⟨cs ++ [' '], []⟩

theorem replaceDatabase?_eq (start : Bool) (cs : List Char) (name : String) :
    replaceDatabase? (quote name.toList) start cs = (findDatabase? start cs).map fun p => (p.fill name).toList := by
  induction cs generalizing start with
  | nil => rfl
  | cons c cs ih =>
    unfold replaceDatabase? findDatabase?
    rw [ih, databaseKey]
    cases if start then assigned? "dbname".toList (c :: cs) else none with
    | some p => simp [DatabasePlace.fill, assignment, databaseKey]
    | none => cases findDatabase? (Text.isBlank c) cs <;> simp [DatabasePlace.fill]

theorem appendDatabase_eq (cs : List Char) (name : String) :
    appendDatabase (quote name.toList) cs = ((lastPlace cs).fill name).toList := by
  unfold appendDatabase lastPlace
  cases Text.trimEndChars cs <;> simp [DatabasePlace.fill, assignment, databaseKey]

/-- The database is put in the place that the search finds, or else behind all settings. -/
theorem selectDatabase_eq {d : String} (keyValue : url? d = none) (name : String) :
    selectDatabase d name = .ok (((findDatabase? true d.toList).getD (lastPlace d.toList)).fill name) := by
  rw [selectDatabase, keyValue]
  simp only [replaceDatabase?_eq, appendDatabase_eq]
  cases findDatabase? true d.toList <;> simp

/-- The reader comes to a place as well, where it takes as much for the database as the search does, and none follows. -/
structure DatabasePlace.IsRead (p : DatabasePlace) (cs : List Char) (c : ConnectionSettings) : Prop where
  before : ReadsWhole {} p.before c
  assigned : ∃ setting old, cs = p.before ++ setting ∧ next setting = some (some (databaseKey, old, p.after))
  ends : EndsValue p.after
  last : NamesNone p.after

/-- The search and the reader agree on a text with some settings: on the place where it selects a database, or else that
the text with a blank behind it is read to its end. -/
inductive Agrees (cs : List Char) (s : ConnectionSettings) : Prop
  | found {p c} : findDatabase? true cs = some p → p.IsRead cs c → Agrees cs s
  | absent : findDatabase? true cs = none → ReadsWhole {} (lastPlace cs).before s → Agrees cs s

theorem url?_of_prefix {cs ds : List Char} (before : cs <+: ds) (bare : url? (String.ofList ds) = none) :
    url? (String.ofList cs) = none := by
  unfold url? at bare ⊢
  rw [List.findSome?_eq_none_iff] at bare ⊢
  intro scheme known
  have absent := bare scheme known
  simp only [String.toList_ofList, behindScheme?, ite_eq_right_iff, reduceCtorEq, imp_false,
    List.isPrefixOf_iff_prefix] at absent ⊢
  exact fun found => absent (found.trans before)

/-- In a place that is read, the text reads as it did but for the database. -/
theorem DatabasePlace.IsRead.settings?_fill {p : DatabasePlace} {d : String} {c s : ConnectionSettings}
    (isRead : p.IsRead d.toList c) (keyValue : url? d = none) (parses : settings? d = some s) (name : String) :
    settings? (p.fill name) = some (s.withDatabase name) := by
  obtain ⟨setting, old, whole, assigned⟩ := isRead.assigned
  have bare : url? (String.ofList p.before) = none := by
    refine url?_of_prefix (whole ▸ List.prefix_append ..) ?_
    rw [String.ofList_toList, keyValue]
  -- With the old name the reader gets the settings from what is behind the place.
  have read : (readFrom c p.after).map (·.withDatabase (String.ofList old)) = some s := by
    rw [← isRead.last.readFrom_withDatabase, ← parses, settings?, keyValue]
    simp only [KeyValue.read]
    rw [whole, isRead.before.readFrom_append, readFrom_eq c setting, assigned]
    rfl
  obtain ⟨s', behind, rfl⟩ := Option.map_eq_some_iff.1 read
  rw [DatabasePlace.settings?_fill bare isRead.before isRead.ends isRead.last, behind]
  rfl

theorem settings?_lastPlace {d : String} {s : ConnectionSettings} (keyValue : url? d = none)
    (reads : ReadsWhole {} (lastPlace d.toList).before s) (name : String) :
    settings? ((lastPlace d.toList).fill name) = some (s.withDatabase name) := by
  have bare : url? (String.ofList (lastPlace d.toList).before) = none := by
    have trimmed : url? (String.ofList (Text.trimEndChars d.toList)) = none := by
      refine url?_of_prefix (Text.trimEndChars_prefix _) ?_
      rw [String.ofList_toList, keyValue]
    unfold lastPlace
    split
    · rename_i none_
      rwa [none_] at trimmed
    · exact url?_append trimmed (by decide) []
  have behind : (lastPlace d.toList).after = [] := by
    unfold lastPlace
    split <;> rfl
  have ends : EndsValue (lastPlace d.toList).after := by
    rw [behind]
    rintro c ⟨⟩
  have last : NamesNone (lastPlace d.toList).after := by
    rw [behind]
    exact .finished fun _ read => by cases read
  rw [DatabasePlace.settings?_fill bare reads ends last, behind, readFrom_eq]
  rfl

/-- If the search and the reader agree on a connection string, then for whatever database it is changed into one that
selects this database and says the same in all other respects. -/
theorem database_selected_alone {d : String} {s : ConnectionSettings} (keyValue : url? d = none)
    (parses : settings? d = some s) (agrees : Agrees d.toList s) (name : String) :
    ∃ selected, selectDatabase d name = .ok selected ∧ settings? selected = some (s.withDatabase name) := by
  refine ⟨_, selectDatabase_eq keyValue name, ?_⟩
  cases agrees with
  | found found isRead =>
    rw [found]
    exact isRead.settings?_fill keyValue parses name
  | absent absent reads =>
    rw [absent]
    exact settings?_lastPlace keyValue reads name

/-- A database in quotes between other settings, and a connection string without one. -/
theorem database_selected_in_quotes :
    let d := "host='a b' dbname = 'old one' port=5433"
    let s : ConnectionSettings := { dbname := some "old one", hosts := [.name "a b"], ports := [5433] }
    let d' := "user=me  "
    let s' : ConnectionSettings := { user := some "me" }
    settings? d = some s ∧ Agrees d.toList s ∧ settings? d' = some s' ∧ Agrees d'.toList s' ∧
      (∃ selected, selectDatabase d "my db" = .ok selected ∧ settings? selected = some (s.withDatabase "my db")) ∧
      ∃ selected, selectDatabase d' "my db" = .ok selected ∧ settings? selected = some (s'.withDatabase "my db") := by
  intro d s d' s'
  have parses : settings? d = some s := by decide +kernel
  have parses' : settings? d' = some s' := by decide +kernel
  have host : next "host='a b' ".toList = some (some ("host".toList, "a b".toList, [' '])) := by decide +kernel
  have port : next " port=5433".toList = some (some ("port".toList, "5433".toList, [])) := by decide +kernel
  have user : next (lastPlace d'.toList).before = some (some ("user".toList, "me".toList, [' '])) := by decide +kernel
  have isRead : DatabasePlace.IsRead ⟨"host='a b' ".toList, " port=5433".toList⟩ d.toList { hosts := [.name "a b"] } := by
    refine ⟨.setting host (by decide) (by decide +kernel) (.blank (List.all_eq_true.1 (by decide))), ?_, ?_, ?_⟩
    · exact ⟨"dbname = 'old one' port=5433".toList, "old one".toList, by decide +kernel, by decide +kernel⟩
    · rintro c ⟨⟩
      decide
    · exact .setting port (by decide) (.finished fun _ read => by cases read)
  have agrees : Agrees d.toList s := .found (by decide +kernel) isRead
  have agrees' : Agrees d'.toList s' :=
    .absent (by decide +kernel) (.setting user (by decide) (by decide +kernel) (.blank (List.all_eq_true.1 (by decide))))
  exact ⟨parses, agrees, parses', agrees', database_selected_alone (by decide) parses agrees "my db",
    database_selected_alone (by decide) parses' agrees' "my db"⟩

/-- Without agreement: the search takes part of another value for the place, or not the whole of the old one, it leaves
no blank behind the new one or a database behind that, and blanks that are cut off belong to the last value, or the text
is not read to its end. -/
theorem other_settings_changed :
    let d := "user='a dbname=b' host=db"
    let selected := "user='a dbname=orders host=db"
    (selectDatabase d "orders").toOption = some selected ∧ (settings? d).isSome ∧ settings? selected = none ∧
      ∀ x ∈ [d, "dbname=a\\ sslmode=require", "dbname='a'port=5433", "dbname=old dbname=app", "host=x\\ ", "host=x =y"],
        url? x = none ∧ (settings? x).isSome ∧
          (selectDatabase x "orders").toOption.bind settings? ≠ (settings? x).map (·.withDatabase "orders") := by
  intro d selected
  refine ⟨by decide +kernel, by decide +kernel, by decide +kernel, by decide +kernel⟩

end PgMetrics.Dsn
