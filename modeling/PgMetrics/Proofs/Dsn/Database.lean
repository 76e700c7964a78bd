import PgMetrics.Proofs.Dsn.Values

namespace PgMetrics

namespace ConnectionSettings

def withDatabase (c : ConnectionSettings) (name : String) : ConnectionSettings :=
  { c with dbname := some name }

/-- The settings with another database or without any. -/
def select (c : ConnectionSettings) (database : Option String) : ConnectionSettings :=
  { c with dbname := database }

theorem foldl_addHost_select (c : ConnectionSettings) (database : Option String) (hosts : List String) :
    hosts.foldl addHost (c.select database) = (hosts.foldl addHost c).select database := by
  induction hosts generalizing c with
  | nil => rfl
  | cons host hosts ih => exact ih (c.addHost host)

/-- No other setting depends on the database. -/
theorem set_select {key value : String} (c : ConnectionSettings) (database : Option String) (other : key ≠ "dbname") :
    (c.select database).set key value = (c.set key value).map (·.select database) := by
  unfold set
  split
  case h_3 => exact absurd rfl other
  case h_8 => exact congrArg some (foldl_addHost_select c database _)
  all_goals first
    | rfl
    | simp only [Option.map_map]; rfl
    | split <;> rfl

theorem set_withDatabase {key value name : String} (c : ConnectionSettings) (other : key ≠ "dbname") :
    (c.withDatabase name).set key value = (c.set key value).map (·.withDatabase name) :=
  set_select c (some name) other

end ConnectionSettings

namespace KeyValue

/-- What a text goes on with: a setting and the rest, or the end of the settings. -/
def next (cs : List Char) : Option (Option (List Char × List Char × List Char)) :=
  let start := skipBlanks cs
  let key := start.takeWhile isKeyChar
  if key = [] then some none
  else
    match skipBlanks (start.dropWhile isKeyChar) with
    | '=' :: behind => (value (skipBlanks behind)).map fun p => some (key, p.1, p.2)
    | _ => none

/-- A setting without the proof that the rest is shorter. -/
def Step.shown {cs : List Char} : Step cs → Option (Option (List Char × List Char × List Char))
  | finished => some none
  | malformed => none
  | setting key v rest _ => some (some (key, v, rest))

theorem shown_step (cs : List Char) : (step cs).shown = next cs := by
  unfold step next
  dsimp only
  by_cases empty : (skipBlanks cs).takeWhile isKeyChar = []
  · rw [dif_pos empty, if_pos empty]
    rfl
  · rw [dif_neg empty, if_neg empty]
    split
    · rename_i behind atEquals
      simp only [atEquals]
      split
      · rename_i atValue
        simp only [Step.shown, atValue, Option.map_some]
      · rename_i noValue
        simp only [Step.shown, noValue, Option.map_none]
    · rename_i other
      split
      · rename_i behind atEquals
        exact absurd atEquals (other behind)
      · rfl

theorem readFrom_eq (c : ConnectionSettings) (cs : List Char) : readFrom c cs =
    match next cs with
    | none => none
    | some none => some c
    | some (some (key, v, rest)) => (c.set (String.ofList key) (String.ofList v)).bind (readFrom · rest) := by
  rw [readFrom, ← shown_step]
  cases step cs with
  | finished => rfl
  | malformed => rfl
  | setting key v rest =>
    simp only [Step.shown]
    cases c.set (String.ofList key) (String.ofList v) <;> rfl

theorem next_blanks {gap : List Char} (blank : ∀ c ∈ gap, Text.isBlank c = true) (cs : List Char) :
    next (gap ++ cs) = next cs := by
  have skipped : skipBlanks (gap ++ cs) = skipBlanks cs := List.dropWhile_append_of_pos blank
  simp only [next, skipped]

/-- A name, an equals sign with blanks around it and a value are read as a setting. -/
theorem next_assignment {key gap gap' behind v rest : List Char} (named : key ≠ [])
    (plain : ∀ c ∈ key, isKeyChar c = true) (blank : ∀ c ∈ gap, Text.isBlank c = true)
    (blank' : ∀ c ∈ gap', Text.isBlank c = true) (spelled : Spelled behind v rest) :
    next (Dsn.assignment key gap gap' ++ behind) = some (some (key, v, rest)) := by
  obtain ⟨x, xs, rfl, visible⟩ := spelled.begins
  obtain ⟨c, key, rfl⟩ := List.exists_cons_of_ne_nil named
  have begins : skipBlanks (Dsn.assignment (c :: key) gap gap' ++ x :: xs) =
      c :: key ++ (gap ++ '=' :: (gap' ++ x :: xs)) := by
    have first := plain c (List.mem_cons_self ..)
    simp only [isKeyChar, Bool.and_eq_true, Bool.not_eq_true'] at first
    simp [Dsn.assignment, skipBlanks, first.1]
  have keyEnds : ∀ d, (gap ++ '=' :: (gap' ++ x :: xs)).head? = some d → isKeyChar d = false := by
    intro d head
    cases gap with
    | nil =>
      obtain rfl := Option.some.inj head
      decide
    | cons b gap =>
      obtain rfl := Option.some.inj head
      simp [isKeyChar, blank b (List.mem_cons_self ..)]
  obtain ⟨taken, dropped⟩ := Text.cut_append plain keyEnds
  have atEquals : skipBlanks (gap ++ '=' :: (gap' ++ x :: xs)) = '=' :: (gap' ++ x :: xs) :=
    (Text.cut_append blank (by rintro _ ⟨⟩; decide)).2
  have atValue : skipBlanks (gap' ++ x :: xs) = x :: xs :=
    (Text.cut_append blank' (by rintro _ ⟨⟩; exact visible)).2
  simp only [next, begins, taken, dropped, named, if_false, atEquals, atValue, value_eq_some_iff.2 spelled,
    Option.map_some]

theorem plainValue_append {escaped : Bool} {cs rest : List Char} (tail : List Char) (ends : rest ≠ [])
    (read : (plainValue escaped cs).2 = rest) :
    plainValue escaped (cs ++ tail) = ((plainValue escaped cs).1, rest ++ tail) := by
  induction cs generalizing escaped with
  | nil => exact absurd read.symm ends
  | cons c cs ih =>
    simp only [List.cons_append, plainValue] at read ⊢
    split
    · rename_i stop
      rw [if_pos stop] at read
      rw [← read]
      rfl
    · rename_i goes
      rw [if_neg goes] at read
      split
      · rename_i backslash
        rw [if_pos backslash] at read
        exact ih read
      · rename_i other
        rw [if_neg other] at read
        rw [ih read]

theorem quotedValue_append {escaped : Bool} {cs v rest : List Char} (tail : List Char)
    (read : quotedValue escaped cs = some (v, rest)) : quotedValue escaped (cs ++ tail) = some (v, rest ++ tail) := by
  induction cs generalizing escaped v with
  | nil => cases read
  | cons c cs ih =>
    simp only [List.cons_append, quotedValue] at read ⊢
    split
    · rename_i stop
      rw [if_pos stop] at read
      cases read
      rfl
    · rename_i goes
      rw [if_neg goes] at read
      split
      · rename_i backslash
        rw [if_pos backslash] at read
        exact ih read
      · rename_i other
        rw [if_neg other] at read
        obtain ⟨⟨w, r⟩, later, same⟩ := Option.map_eq_some_iff.1 read
        cases same
        rw [ih later]
        rfl

/-- A value that ends before a text does is the same with more behind the text. -/
theorem value_append {cs v rest : List Char} (tail : List Char) (ends : rest ≠ [])
    (read : value cs = some (v, rest)) : value (cs ++ tail) = some (v, rest ++ tail) := by
  unfold value at read
  split at read
  · exact quotedValue_append tail read
  · rename_i unquoted
    split at read
    · cases read
    · rename_i some_
      obtain ⟨rfl, rest_⟩ := Prod.mk.inj (Option.some.inj read)
      have longer := plainValue_append tail ends rest_
      unfold value
      split
      · rename_i body atQuote
        cases cs with
        | nil => exact absurd rest_.symm ends
        | cons c cs =>
          obtain ⟨rfl, -⟩ := List.cons.inj atQuote
          exact absurd rfl (unquoted cs)
      · rw [longer, if_neg some_]

theorem dropWhile_append_of_ne_nil {p : Char → Bool} {cs : List Char} (tail : List Char)
    (ne : cs.dropWhile p ≠ []) :
    (cs ++ tail).dropWhile p = cs.dropWhile p ++ tail ∧ (cs ++ tail).takeWhile p = cs.takeWhile p := by
  constructor
  · rw [List.dropWhile_append, if_neg (by simpa using ne)]
  · have whole := List.takeWhile_append_dropWhile (p := p) (l := cs)
    have shorter : (cs.takeWhile p).length ≠ cs.length := by
      have total := congrArg List.length whole
      have positive := List.length_pos_iff.2 ne
      rw [List.length_append] at total
      omega
    rw [List.takeWhile_append, if_neg shorter]

/-- A setting that ends before a text does is the same with more behind the text. -/
theorem next_append {cs key v rest : List Char} (tail : List Char) (ends : rest ≠ [])
    (read : next cs = some (some (key, v, rest))) : next (cs ++ tail) = some (some (key, v, rest ++ tail)) := by
  unfold next at read
  dsimp only at read
  split at read
  · cases read
  · rename_i named
    split at read
    · rename_i behind atEquals
      obtain ⟨⟨w, r⟩, atValue, same⟩ := Option.map_eq_some_iff.1 read
      cases same
      have start : skipBlanks cs ≠ [] := by
        intro empty
        rw [empty] at named
        exact named rfl
      have afterKey : (skipBlanks cs).dropWhile isKeyChar ≠ [] := by
        intro empty
        rw [empty] at atEquals
        cases atEquals
      have someValue : skipBlanks behind ≠ [] := by
        intro empty
        rw [empty] at atValue
        cases atValue
      have equals : skipBlanks ((skipBlanks cs).dropWhile isKeyChar ++ tail) = '=' :: (behind ++ tail) := by
        have found := (dropWhile_append_of_ne_nil (p := Text.isBlank) tail
          (by rw [← skipBlanks, atEquals]; simp)).1
        rw [skipBlanks, found, ← skipBlanks, atEquals]
        rfl
      have toValue : skipBlanks (behind ++ tail) = skipBlanks behind ++ tail :=
        (dropWhile_append_of_ne_nil tail someValue).1
      obtain ⟨rest_, key_⟩ := dropWhile_append_of_ne_nil (p := isKeyChar) tail afterKey
      have begins : skipBlanks (cs ++ tail) = skipBlanks cs ++ tail := (dropWhile_append_of_ne_nil tail start).1
      simp only [next, begins, key_, rest_, named, if_false, equals, toValue, value_append tail ends atValue,
        Option.map_some]
    · cases read

/-- A text is read whole on top of settings, and every value in it ends before the text does. -/
inductive ReadsWhole : ConnectionSettings → List Char → ConnectionSettings → Prop
  | blank {c cs} : (∀ x ∈ cs, Text.isBlank x = true) → ReadsWhole c cs c
  | setting {c c' c'' cs key v rest} : next cs = some (some (key, v, rest)) → rest ≠ [] →
      c.set (String.ofList key) (String.ofList v) = some c' → ReadsWhole c' rest c'' → ReadsWhole c cs c''

theorem ReadsWhole.readFrom_append {c c' : ConnectionSettings} {cs : List Char} (reads : ReadsWhole c cs c')
    (tail : List Char) : readFrom c (cs ++ tail) = readFrom c' tail := by
  induction reads with
  | blank blank => rw [readFrom_eq, next_blanks blank, ← readFrom_eq]
  | setting read ends set_ _ ih =>
    rw [readFrom_eq, next_append tail ends read]
    simp only [set_, Option.bind_some, ih]

/-- A text that names no database, as far as it is read. -/
inductive NamesNone : List Char → Prop
  | finished {cs} : (∀ s, next cs ≠ some (some s)) → NamesNone cs
  | setting {cs key v rest} : next cs = some (some (key, v, rest)) → String.ofList key ≠ "dbname" →
      NamesNone rest → NamesNone cs

/-- What is read behind the name of a database does not depend on it. -/
theorem NamesNone.readFrom_withDatabase {cs : List Char} (none_ : NamesNone cs) (c : ConnectionSettings)
    (name : String) : readFrom (c.withDatabase name) cs = (readFrom c cs).map (·.withDatabase name) := by
  induction none_ generalizing c with
  | finished ended =>
    rw [readFrom_eq, readFrom_eq]
    split <;> rename_i read
    · rfl
    · rfl
    · exact absurd read (ended _)
  | @setting cs key v rest read other _ ih =>
    rw [readFrom_eq, readFrom_eq, read]
    simp only [ConnectionSettings.set_withDatabase c other]
    cases c.set (String.ofList key) (String.ofList v) with
    | none => rfl
    | some c' => exact ih c'

end KeyValue

namespace Dsn

/-- The database that a connection string selects. -/
def database? (dsn : String) : Option String :=
  (settings? dsn).bind (·.dbname)

/-- The name of the setting that selects a database. -/
def databaseKey : List Char := "dbname".toList

theorem borderless_databaseKey : Borderless databaseKey where
  ne := by decide
  begins := by
    rintro c ⟨⟩
    decide
  borderless := by decide

/-- A text that is no URL is none with more behind it, if that begins with a character that no scheme has. -/
theorem url?_append {cs : List Char} {x : Char} (bare : url? (String.ofList cs) = none)
    (without : ∀ scheme ∈ schemes, x ∉ scheme ++ "://".toList) (tail : List Char) :
    url? (String.ofList (cs ++ x :: tail)) = none := by
  unfold url? at bare ⊢
  rw [List.findSome?_eq_none_iff] at bare ⊢
  intro scheme known
  have absent := bare scheme known
  simp only [String.toList_ofList, behindScheme?, ite_eq_right_iff, reduceCtorEq, imp_false,
    List.isPrefixOf_iff_prefix] at absent ⊢
  intro found
  refine absent ?_
  by_cases inside : (scheme ++ "://".toList).length ≤ cs.length
  · exact List.prefix_of_prefix_length_le found (List.prefix_append ..) inside
  · obtain ⟨rest, whole⟩ := List.prefix_of_prefix_length_le (List.prefix_append cs _) found (by omega)
    rw [← whole, List.prefix_append_right_inj] at found
    cases rest with
    | nil => exact absurd (by rw [← whole, List.append_nil]) inside
    | cons y rest =>
      have same : y = x := (List.cons_prefix_cons.1 found).1
      exact absurd (by rw [← whole, same]; simp) (without scheme known)

/-- The search finds the written form of any value whole. -/
theorem delimited_quote (cs : List Char) : Delimited (KeyValue.quote cs) := by
  have closed (cs : List Char) : behindQuoted? false (KeyValue.escape cs ++ ['\'']) = some [] := by
    induction cs with
    | nil => rfl
    | cons c cs ih =>
      rw [KeyValue.escape, List.flatMap_cons, ← KeyValue.escape, List.append_assoc]
      by_cases special : c = '\'' ∨ c = '\\'
      · rw [if_pos special]
        rcases special with rfl | rfl <;> exact ih
      · rw [if_neg special]
        simp only [not_or] at special
        have other : (c == '\\') = false := beq_eq_false_iff_ne.2 special.2
        simpa [behindQuoted?, special.1, other] using ih
  unfold KeyValue.quote
  split
  · exact .quoted (closed cs)
  · rename_i bare
    obtain ⟨some_, plain⟩ := KeyValue.plain_of_needsQuotes (Bool.eq_false_iff.2 bare)
    refine .plain some_ (fun first => ?_) fun c member => (plain c member).1
    exact (plain _ (List.mem_of_mem_head? first)).2.1 rfl

/-- Where a connection string says which database it selects. -/
structure DatabasePlace where
  before : List Char
  after : List Char
  deriving DecidableEq, Repr

namespace DatabasePlace

variable {p : DatabasePlace} {c : ConnectionSettings}

/-- The connection string with the name of a database at its place, in its general form. -/
def fill (p : DatabasePlace) (name : String) : String :=
  String.ofList (p.before ++ (assignment databaseKey [] [] ++ (KeyValue.quote name.toList ++ p.after)))

/-- It is at this place that the settings select a database, and nowhere behind it; nor does the search take anything
before it for the place. -/
structure Sole (p : DatabasePlace) (c : ConnectionSettings) : Prop where
  keyValue : url? (String.ofList p.before) = none
  apart : ∀ x, p.before.getLast? = some x → Text.isBlank x = true
  ends : EndsValue p.after
  read : KeyValue.ReadsWhole {} p.before c
  quiet : Unassigned databaseKey p.before
  none_ : KeyValue.NamesNone p.after
  fits : (KeyValue.readFrom c p.after).isSome

theorem url?_fill (bare : url? (String.ofList p.before) = none) (name : String) : url? (p.fill name) = none :=
  url?_append bare (by decide) _

/-- The text with another database reads as before the place and behind it, but for the database. -/
theorem settings?_fill (bare : url? (String.ofList p.before) = none) (read : KeyValue.ReadsWhole {} p.before c)
    (ends : EndsValue p.after) (none_ : KeyValue.NamesNone p.after) (name : String) :
    settings? (p.fill name) = (KeyValue.readFrom c p.after).map (·.withDatabase name) := by
  have plain : ∀ c ∈ databaseKey, KeyValue.isKeyChar c = true := List.all_eq_true.1 (by decide)
  have atPlace : KeyValue.next (assignment databaseKey [] [] ++ (KeyValue.quote name.toList ++ p.after)) =
      some (some (databaseKey, name.toList, p.after)) :=
    KeyValue.next_assignment (by decide) plain (by simp) (by simp) (KeyValue.spelled_quote_iff.2 (.inr ends))
  rw [settings?, url?_fill bare name]
  simp only [fill, String.toList_ofList, KeyValue.read]
  rw [read.readFrom_append, KeyValue.readFrom_eq, atPlace]
  have set_ : c.set (String.ofList databaseKey) (String.ofList name.toList) = some (c.withDatabase name) := by
    rw [String.ofList_toList]
    rfl
  simp only [set_, Option.bind_some, none_.readFrom_withDatabase]

theorem Sole.database?_fill (sole : p.Sole c) (name : String) :
    database? (p.fill name) = some name := by
  obtain ⟨s, behind⟩ := Option.isSome_iff_exists.1 sole.fits
  rw [database?, settings?_fill sole.keyValue sole.read sole.ends sole.none_, behind]
  rfl

/-- The search finds the place. -/
theorem replaceDatabase?_place {before after written value : List Char} {start : Bool}
    (quiet : Unassigned databaseKey before) (apart : ∀ x, before.getLast? = some x → Text.isBlank x = true)
    (first : before = [] → start = true) (delimited : Delimited written) (ends : EndsValue after) :
    replaceDatabase? value start (before ++ (assignment databaseKey [] [] ++ (written ++ after))) =
      some (before ++ (assignment databaseKey [] [] ++ (value ++ after))) := by
  induction before generalizing start with
  | nil =>
    have found : assigned? "dbname".toList (assignment databaseKey [] [] ++ (written ++ after)) = _ :=
      assigned?_assignment (by simp) (by simp) delimited ends
    obtain ⟨c, cs, atC⟩ : ∃ c cs, assignment databaseKey [] [] ++ (written ++ after) = c :: cs := ⟨_, _, rfl⟩
    rw [List.nil_append, first rfl]
    rw [atC] at found ⊢
    rw [replaceDatabase?, if_pos rfl, found]
    rfl
  | cons x before ih =>
    have absent :
        assigned? databaseKey (x :: before ++ (assignment databaseKey [] [] ++ (written ++ after))) = none := by
      rw [assigned?, assignment, List.append_assoc,
        assignment?_append_name borderless_databaseKey (by simp) (quiet _ (List.suffix_refl _))]
    have later := @ih (Text.isBlank x) (fun tail suffix => quiet tail (suffix.trans (List.suffix_cons x before)))
      (fun y last => apart y (by rw [List.getLast?_cons, last]; rfl))
      (fun none => apart x (by rw [none]; rfl))
    rw [List.cons_append] at absent ⊢
    unfold replaceDatabase?
    have skipped : (if start then assigned? "dbname".toList
        (x :: (before ++ (assignment databaseKey [] [] ++ (written ++ after)))) else none) = none := by
      split
      · exact absent
      · rfl
    rw [skipped, later]
    rfl

/-- For another database the connection string differs in the name alone. -/
theorem Sole.selectDatabase_fill (sole : p.Sole c) (name other : String) :
    selectDatabase (p.fill name) other = .ok (p.fill other) := by
  rw [selectDatabase, url?_fill sole.keyValue name]
  simp only [fill, String.toList_ofList]
  rw [replaceDatabase?_place sole.quiet sole.apart (fun _ => rfl) (delimited_quote _) sole.ends]
  rfl

end DatabasePlace

end Dsn

end PgMetrics
