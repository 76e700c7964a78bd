import PgMetrics.Dsn.Settings
import PgMetrics.Text.Blank

namespace PgMetrics.KeyValue

/-- The characters up to a blank, and the rest; `escaped` says that a backslash came before. -/
def plainValue (escaped : Bool) : List Char → List Char × List Char
  | [] => ([], [])
  | c :: cs =>
    if !escaped && Text.isBlank c then ([], c :: cs)
    else if !escaped && c == '\\' then plainValue true cs
    else (c :: (plainValue false cs).1, (plainValue false cs).2)

/-- The characters up to a quote, and what is behind it; nothing without a quote. -/
def quotedValue (escaped : Bool) : List Char → Option (List Char × List Char)
  | [] => none
  | c :: cs =>
    if !escaped && c == '\'' then some ([], cs)
    else if !escaped && c == '\\' then quotedValue true cs
    else (quotedValue false cs).map fun (v, rest) => (c :: v, rest)

/-- A value and the rest. Only a quoted one may be empty. -/
def value : List Char → Option (List Char × List Char)
  | '\'' :: cs => quotedValue false cs
  | cs => if (plainValue false cs).1.isEmpty then none else some (plainValue false cs)

def isKeyChar (c : Char) : Bool :=
  !Text.isBlank c && c != '='

def skipBlanks (cs : List Char) : List Char :=
  cs.dropWhile Text.isBlank

theorem plainValue_length (escaped : Bool) (cs : List Char) :
    (plainValue escaped cs).2.length ≤ cs.length := by
  induction cs generalizing escaped with
  | nil => simp [plainValue]
  | cons c cs ih =>
    have h1 := ih true
    have h2 := ih false
    simp only [plainValue]
    split
    · simp
    · split <;> simp only [List.length_cons] <;> omega

theorem quotedValue_length {escaped : Bool} {cs v rest : List Char}
    (h : quotedValue escaped cs = some (v, rest)) : rest.length ≤ cs.length := by
  induction cs generalizing escaped v with
  | nil => simp [quotedValue] at h
  | cons c cs ih =>
    simp only [quotedValue] at h
    split at h
    · simp only [Option.some.injEq, Prod.mk.injEq] at h
      simp [← h.2]
    · split at h
      · exact Nat.le_succ_of_le (ih h)
      · obtain ⟨⟨w, r⟩, hr, he⟩ := Option.map_eq_some_iff.1 h
        simp only [Prod.mk.injEq] at he
        exact Nat.le_succ_of_le (ih (he.2 ▸ hr))

theorem value_length {cs v rest : List Char} (h : value cs = some (v, rest)) :
    rest.length ≤ cs.length := by
  unfold value at h
  split at h
  · have := quotedValue_length h
    grind
  · have := plainValue_length false cs
    grind

theorem skipBlanks_length (cs : List Char) : (skipBlanks cs).length ≤ cs.length :=
  (List.dropWhile_suffix _).length_le

/-- A setting in the text, or the end of the settings. -/
inductive Step (cs : List Char) where
  | finished
  | malformed
  | setting (key value rest : List Char) (shorter : rest.length < cs.length)

/-- The next setting of a text. -/
def step (cs : List Char) : Step cs :=
  let start := skipBlanks cs
  let key := start.takeWhile isKeyChar
  if h : key = [] then .finished
  else
    match hr : skipBlanks (start.dropWhile isKeyChar) with
    | '=' :: behind =>
      match hv : value (skipBlanks behind) with
      | some (v, rest) =>
        .setting key v rest (by
          have h1 := value_length hv
          have h2 := skipBlanks_length behind
          have h3 := skipBlanks_length (start.dropWhile isKeyChar)
          have h4 : (start.dropWhile isKeyChar).length ≤ start.length :=
            (List.dropWhile_suffix _).length_le
          have h5 := skipBlanks_length cs
          grind)
      | none => .malformed
    | _ => .malformed

/-- The settings of a text on top of others. -/
def readFrom (c : ConnectionSettings) (cs : List Char) : Option ConnectionSettings :=
  match step cs with
  | .finished => some c
  | .malformed => none
  | .setting key v rest _ =>
    match c.set (String.ofList key) (String.ofList v) with
    | some c => readFrom c rest
    | none => none
termination_by cs.length

/-- The settings of a text `key = value`, with blanks between them. A text that goes on without a key is left unread. -/
def read (cs : List Char) : Option ConnectionSettings :=
  readFrom {} cs

/-- Whether a value needs quotes to be read back. -/
def needsQuotes (cs : List Char) : Bool :=
  cs.isEmpty || cs.any fun c => Text.isBlank c || c == '\'' || c == '\\'

def escape (cs : List Char) : List Char :=
  cs.flatMap fun c => if c = '\'' ∨ c = '\\' then ['\\', c] else [c]

/-- The written form of a value. -/
def quote (cs : List Char) : List Char :=
  if needsQuotes cs then '\'' :: escape cs ++ ['\''] else cs

example : value "'a\\'b c' d".toList = some ("a'b c".toList, " d".toList) := by decide +kernel
example : quote "a'b".toList = "'a\\'b'".toList := by decide +kernel

end PgMetrics.KeyValue
