import Mathlib.Data.List.TakeWhile
import PgMetrics.Proofs.Text.Cuts
import PgMetrics.Report.Json
import PgMetrics.Url.Percent

namespace PgMetrics

/-- What a JSON text says. Words and numbers are kept as they are written. -/
inductive JsonTree where
  | literal (word : String)
  | string (value : String)
  | array (elements : List JsonTree)
  | object (fields : List (String × JsonTree))

namespace JsonTree

def isSpace (c : Char) : Bool :=
  c == ' ' || c == '\n' || c == '\r' || c == '\t'

def skipSpace (cs : List Char) : List Char :=
  cs.dropWhile isSpace

/-- A character of a word or a number. -/
def isLiteral (c : Char) : Bool :=
  c.isAlphanum || c == '+' || c == '-' || c == '.'

/-- The character that two hexadecimal digits and two zeros before them name. -/
def codePoint? (high low : Char) : Option Char :=
  match Percent.hexValue? high, Percent.hexValue? low with
  | some h, some l => some (Char.ofNat (h * 16 + l))
  | _, _ => none

/-- A string behind its opening quote, and the text behind the closing one. Of the escapes by number only those of the
first 256 characters are taken. -/
def readString : List Char → Option (List Char × List Char)
  | [] => none
  | '"' :: rest => some ([], rest)
  | '\\' :: 'u' :: '0' :: '0' :: high :: low :: cs =>
    match codePoint? high low with
    | some c => (readString cs).map fun (s, rest) => (c :: s, rest)
    | none => none
  | '\\' :: c :: cs =>
    match [('"', '"'), ('\\', '\\'), ('/', '/'), ('n', '\n'), ('r', '\r'), ('t', '\t'), ('b', '\x08'),
      ('f', '\x0c')].lookup c with
    | some c => (readString cs).map fun (s, rest) => (c :: s, rest)
    | none => none
  | c :: cs => (readString cs).map fun (s, rest) => (c :: s, rest)

mutual

/-- A value, and the text behind it. The count bounds the depth of what is read. -/
def readValue : Nat → List Char → Option (JsonTree × List Char)
  | 0, _ => none
  | count + 1, cs =>
    match skipSpace cs with
    | '"' :: cs => (readString cs).map fun (s, rest) => (string (String.ofList s), rest)
    | '[' :: cs =>
      match skipSpace cs with
      | ']' :: rest => some (array [], rest)
      | cs => (readElements count cs).map fun (ts, rest) => (array ts, rest)
    | '\x7b' :: cs =>
      match skipSpace cs with
      | '\x7d' :: rest => some (object [], rest)
      | cs => (readFields count cs).map fun (fs, rest) => (object fs, rest)
    | cs =>
      if cs.takeWhile isLiteral = [] then none
      else some (literal (String.ofList (cs.takeWhile isLiteral)), cs.dropWhile isLiteral)

def readElements : Nat → List Char → Option (List JsonTree × List Char)
  | 0, _ => none
  | count + 1, cs =>
    match readValue count cs with
    | none => none
    | some (t, rest) =>
      match skipSpace rest with
      | ',' :: cs => (readElements count cs).map fun (ts, rest) => (t :: ts, rest)
      | ']' :: rest => some ([t], rest)
      | _ => none

def readFields : Nat → List Char → Option (List (String × JsonTree) × List Char)
  | 0, _ => none
  | count + 1, cs =>
    match skipSpace cs with
    | '"' :: cs =>
      match readString cs with
      | none => none
      | some (name, rest) =>
        match skipSpace rest with
        | ':' :: cs =>
          match readValue count cs with
          | none => none
          | some (t, rest) =>
            match skipSpace rest with
            | ',' :: cs => (readFields count cs).map fun (fs, rest) => ((String.ofList name, t) :: fs, rest)
            | '\x7d' :: rest => some ([(String.ofList name, t)], rest)
            | _ => none
        | _ => none
    | _ => none

end

/-- The tree of a whole text. -/
def read (text : String) : Option JsonTree :=
  match readValue text.length text.toList with
  | some (t, rest) => if skipSpace rest = [] then some t else none
  | none => none

/-- The value under a name in an object. -/
def field? (t : JsonTree) (name : String) : Option JsonTree :=
  match t with
  | object fields => fields.lookup name
  | _ => none

end JsonTree

namespace JsonValue

mutual

/-- What the text of a value says. -/
def tree : JsonValue → JsonTree
  | bool b => .literal (if b then "true" else "false")
  | number x => .literal (Decimal.write numbers x)
  | string s => .string s
  | array elements => .array (treeElements elements)
  | object fields => .object (treeFields fields)

def treeElements : List JsonValue → List JsonTree
  | [] => []
  | v :: vs => tree v :: treeElements vs

def treeFields : List (String × JsonValue) → List (String × JsonTree)
  | [] => []
  | (name, v) :: fields => (name, tree v) :: treeFields fields

end

end JsonValue

namespace JsonTree

open JsonValue

theorem skipSpace_cons {c : Char} (visible : isSpace c = false) (cs : List Char) : skipSpace (c :: cs) = c :: cs :=
  List.dropWhile_cons_of_neg (by simp [visible])

theorem skipSpace_append {gap : List Char} (blank : ∀ c ∈ gap, isSpace c = true) {c : Char}
    (visible : isSpace c = false) (cs : List Char) : skipSpace (gap ++ c :: cs) = c :: cs := by
  rw [skipSpace, List.dropWhile_append_of_pos blank]
  exact skipSpace_cons visible cs

theorem isSpace_lineStart (indent : Nat) : ∀ c ∈ (lineStart indent).toList, isSpace c = true := by
  intro c member
  simp only [lineStart, String.toList_append, String.toList_ofList, List.mem_append, List.mem_replicate] at member
  rcases member with first | ⟨-, rfl⟩
  · rw [List.mem_singleton.1 first]
    decide
  · decide

/-- A text that does not go on with a word or a number. -/
def Stops (rest : List Char) : Prop :=
  ∀ c, rest.head? = some c → isLiteral c = false

theorem readString_escape (c : Char) (cs : List Char) :
    readString (escapeChar c ++ cs) = (readString cs).map fun (s, rest) => (c :: s, rest) := by
  unfold escapeChar
  iterate 7
    split
    · subst c
      rfl
  split
  · rename_i low
    have table : ∀ n : Fin 0x20,
        codePoint? (hexDigit (n.val / 16)) (hexDigit (n.val % 16)) = some (Char.ofNat n.val) := by
      decide +kernel
    have named := table ⟨c.toNat, low⟩
    rw [Char.ofNat_toNat] at named
    simp only [List.cons_append, List.nil_append, readString, named]
  · rename_i quote backslash _ _ _ _ _ _
    rw [List.singleton_append, readString.eq_def]
    split <;> simp_all

theorem readString_quoted (s rest : List Char) :
    readString (s.flatMap escapeChar ++ '"' :: rest) = some (s, rest) := by
  induction s with
  | nil => rfl
  | cons c s ih =>
    rw [List.flatMap_cons, List.append_assoc, readString_escape, ih]
    rfl

theorem isLiteral_digits (n : Nat) : ∀ c ∈ Decimal.digitChars n, isLiteral c = true := by
  intro c member
  have digit := Nat.isDigit_of_mem_toDigits (by decide) (by decide) member
  simp [isLiteral, Char.isAlphanum, digit]

theorem isLiteral_layOut {whole : Bool} {digits : List Char} {point : Int}
    (literal : ∀ c ∈ digits, isLiteral c = true) : ∀ c ∈ Decimal.layOut whole digits point, isLiteral c = true := by
  have zeros (n : Nat) : ∀ c ∈ List.replicate n '0', isLiteral c = true := by
    intro c member
    rw [List.eq_of_mem_replicate member]
    decide
  have taken (n : Nat) : ∀ c ∈ digits.take n, isLiteral c = true := fun c member => literal c (List.mem_of_mem_take member)
  have dropped (n : Nat) : ∀ c ∈ digits.drop n, isLiteral c = true := fun c member => literal c (List.mem_of_mem_drop member)
  have mark : isLiteral '.' = true := by decide
  have zero : isLiteral '0' = true := by decide
  unfold Decimal.layOut
  split
  · simp only [List.forall_mem_append, List.forall_mem_cons]
    exact ⟨⟨zero, mark, zeros _⟩, literal⟩
  split
  · simp only [List.forall_mem_append]
    refine ⟨⟨literal, zeros _⟩, ?_⟩
    split <;> simp [mark, zero]
  · simp only [List.forall_mem_append, List.forall_mem_cons]
    exact ⟨taken _, mark, dropped _⟩

theorem isLiteral_layOutPower {digits : List Char} {power : Int} (literal : ∀ c ∈ digits, isLiteral c = true) :
    ∀ c ∈ Decimal.layOutPower digits power, isLiteral c = true := by
  have mark : isLiteral '.' = true := by decide
  have letter : isLiteral 'e' = true := by decide
  have sign : isLiteral (if power < 0 then '-' else '+') = true := by
    split <;> decide
  unfold Decimal.layOutPower
  simp only [List.forall_mem_append, List.forall_mem_cons]
  refine ⟨⟨⟨fun c member => literal c (List.mem_of_mem_take member), ?_⟩, letter, sign, by simp⟩, isLiteral_digits _⟩
  split
  · simp
  · exact List.forall_mem_cons.2 ⟨mark, fun c member => literal c (List.mem_of_mem_drop member)⟩

theorem isLiteral_writeMagnitude (f : Decimal.NumberFormat) (m : Nat) (e : Int) :
    ∀ c ∈ Decimal.writeMagnitude f m e, isLiteral c = true := by
  unfold Decimal.writeMagnitude
  split
  · split
    · exact List.all_eq_true.1 (by decide)
    · exact List.all_eq_true.1 (by decide)
  · dsimp only
    split
    · exact isLiteral_layOut (isLiteral_digits _)
    · split
      · exact isLiteral_layOut (isLiteral_digits _)
      · exact isLiteral_layOutPower (isLiteral_digits _)

theorem writeMagnitude_ne_nil (f : Decimal.NumberFormat) (m : Nat) (e : Int) : Decimal.writeMagnitude f m e ≠ [] := by
  have positional {whole : Bool} {n : Nat} {point : Int} : Decimal.layOut whole (Decimal.digitChars n) point ≠ [] := by
    unfold Decimal.layOut
    split
    · simp
    · split
      · simp [Decimal.digitChars]
      · simp
  unfold Decimal.writeMagnitude
  split
  · split <;> simp
  · dsimp only
    split
    · exact positional
    · split
      · exact positional
      · simp [Decimal.layOutPower]

/-- A number is a word in any format whose words for what is not finite are. -/
theorem isLiteral_write {f : Decimal.NumberFormat} (words : [f.nan, f.infinity, f.negativeInfinity].all
    (fun s => !s.toList.isEmpty && s.toList.all isLiteral) = true) (x : Float) :
    (Decimal.write f x).toList ≠ [] ∧ ∀ c ∈ (Decimal.write f x).toList, isLiteral c = true := by
  have word : ∀ s ∈ [f.nan, f.infinity, f.negativeInfinity], s.toList ≠ [] ∧ ∀ c ∈ s.toList, isLiteral c = true := by
    simpa using words
  unfold Decimal.write
  split
  · exact word _ (by simp)
  · exact word _ (by simp)
  · exact word _ (by simp)
  · rename_i negative m e _
    rw [String.toList_ofList]
    refine ⟨fun empty => writeMagnitude_ne_nil _ _ _ (List.append_eq_nil_iff.1 empty).2, ?_⟩
    rw [List.forall_mem_append]
    refine ⟨?_, isLiteral_writeMagnitude _ _ _⟩
    split <;> exact List.all_eq_true.1 (by decide)

theorem isLiteral_number (x : Float) :
    (Decimal.write numbers x).toList ≠ [] ∧ ∀ c ∈ (Decimal.write numbers x).toList, isLiteral c = true :=
  isLiteral_write (by decide) x

theorem toList_quoted (s : String) : (quoted s).toList = '"' :: (s.toList.flatMap escapeChar ++ ['"']) := by
  rw [quoted, String.toList_ofList]
  rfl

theorem toList_bracketed (indent : Nat) (left right part : String) (parts : List String) :
    (bracketed indent left right (part :: parts)).toList = left.toList ++ ((lineStart (indent + 1)).toList ++
      ((',' :: (lineStart (indent + 1)).toList).intercalate ((part :: parts).map String.toList) ++
        ((lineStart indent).toList ++ right.toList))) := by
  simp [bracketed, String.toList_intercalate]

/-- No mark of the grammar is a character of a word. -/
theorem plain_of_isLiteral {c : Char} (literal_ : isLiteral c = true) :
    isSpace c = false ∧ c ∉ ['"', '[', ']', '\x7b', '\x7d'] := by
  constructor
  · by_contra space
    simp only [isSpace, Bool.not_eq_false, Bool.or_eq_true, beq_iff_eq] at space
    rcases space with ((rfl | rfl) | rfl) | rfl <;> revert literal_ <;> decide
  · intro mark
    have table : ['"', '[', ']', '\x7b', '\x7d'].all (!isLiteral ·) = true := by decide
    have plain := List.all_eq_true.1 table c mark
    rw [literal_] at plain
    cases plain

theorem readValue_literal {gap word rest : List Char} {count : Nat} (blank : ∀ c ∈ gap, isSpace c = true)
    (ne : word ≠ []) (literal_ : ∀ c ∈ word, isLiteral c = true) (stops : Stops rest) :
    readValue (count + 1) (gap ++ (word ++ rest)) = some (literal (String.ofList word), rest) := by
  obtain ⟨taken, dropped⟩ := Text.cut_append literal_ stops
  obtain ⟨c, cs, rfl⟩ := List.exists_cons_of_ne_nil ne
  obtain ⟨visible, other⟩ := plain_of_isLiteral (literal_ c (List.mem_cons_self ..))
  rw [List.cons_append] at taken dropped ⊢
  rw [readValue, skipSpace_append blank visible]
  split
  · rename_i same
    simp [(List.cons.inj same).1] at other
  · rename_i same
    simp [(List.cons.inj same).1] at other
  · rename_i same
    simp [(List.cons.inj same).1] at other
  · rw [taken, dropped, if_neg ne]

/-- What a value begins with is no blank, and does not end an array. -/
theorem write_begins (indent : Nat) (v : JsonValue) : ∃ c cs, (v.write indent).toList = c :: cs ∧
    isSpace c = false ∧ c ≠ ']' := by
  have word (s : String) (ne : s.toList ≠ []) (literal_ : ∀ c ∈ s.toList, isLiteral c = true) :
      ∃ c cs, s.toList = c :: cs ∧ isSpace c = false ∧ c ≠ ']' := by
    obtain ⟨c, cs, begins⟩ := List.exists_cons_of_ne_nil ne
    obtain ⟨visible, other⟩ := plain_of_isLiteral (literal_ c (begins ▸ List.mem_cons_self ..))
    exact ⟨c, cs, begins, visible, fun same => by simp [same] at other⟩
  have brackets (parts : List String) (left right : String)
      (visible : ∃ c, left.toList = [c] ∧ isSpace c = false ∧ c ≠ ']') :
      ∃ c cs, (bracketed indent left right parts).toList = c :: cs ∧ isSpace c = false ∧ c ≠ ']' := by
    obtain ⟨c, first, visible⟩ := visible
    cases parts with
    | nil => exact ⟨c, right.toList, by simp [bracketed, first], visible⟩
    | cons part parts =>
      rw [toList_bracketed, first]
      exact ⟨c, _, rfl, visible⟩
  cases v with
  | bool b =>
    cases b
    · exact word "false" (by decide) (List.all_eq_true.1 (by decide))
    · exact word "true" (by decide) (List.all_eq_true.1 (by decide))
  | number x => exact word _ (isLiteral_number x).1 (isLiteral_number x).2
  | string s => exact ⟨'"', _, toList_quoted s, by decide⟩
  | array elements => exact brackets _ _ _ ⟨'[', rfl, by decide⟩
  | object fields => exact brackets _ _ _ ⟨'\x7b', rfl, by decide⟩

/-- A value is read back from its text, with blanks before it and any text behind it that does not go on with it. -/
def ReadsBack (v : JsonValue) : Prop :=
  ∀ (indent count : Nat) (gap rest : List Char), (∀ c ∈ gap, isSpace c = true) → Stops rest →
    (v.write indent).toList.length ≤ count →
      readValue count (gap ++ ((v.write indent).toList ++ rest)) = some (v.tree, rest)

theorem stops_of_begins {c : Char} {gap rest : List Char} (blank : ∀ c ∈ gap, isSpace c = true)
    (first : isLiteral c = false) : Stops (gap ++ c :: rest) := by
  intro d head
  cases gap with
  | nil => exact (Option.some.inj head) ▸ first
  | cons x gap =>
    obtain rfl := Option.some.inj head
    by_contra literal_
    have visible := (plain_of_isLiteral (by simpa using literal_)).1
    rw [blank x (List.mem_cons_self ..)] at visible
    cases visible

theorem stops_of_first {c : Char} {rest : List Char} (first : isLiteral c = false) : Stops (c :: rest) := by
  intro d head
  exact (Option.some.inj head) ▸ first

/-- The parts of an array or an object behind its opening mark. -/
def joined (gap : List Char) (parts : List String) : List Char :=
  (',' :: gap).intercalate (parts.map String.toList)

theorem joined_cons_cons (gap : List Char) (part part' : String) (parts : List String) :
    joined gap (part :: part' :: parts) = part.toList ++ ',' :: (gap ++ joined gap (part' :: parts)) := by
  simp [joined]

theorem exists_joined (gap : List Char) (part : String) (parts : List String) :
    ∃ cs, joined gap (part :: parts) = part.toList ++ cs := by
  cases parts with
  | nil => exact ⟨[], by simp [joined]⟩
  | cons part' parts => exact ⟨_, joined_cons_cons ..⟩

theorem readElements_joined {vs : List JsonValue} (all : ∀ v ∈ vs, ReadsBack v) (ne : vs ≠ []) {indent count : Nat}
    {gap gap' gap'' rest : List Char} (blank : ∀ c ∈ gap, isSpace c = true) (blank' : ∀ c ∈ gap', isSpace c = true)
    (blank'' : ∀ c ∈ gap'', isSpace c = true) (bound : (joined gap' (writeElements indent vs)).length < count) :
    readElements count (gap ++ (joined gap' (writeElements indent vs) ++ (gap'' ++ ']' :: rest))) =
      some (treeElements vs, rest) := by
  induction vs generalizing count gap with
  | nil => exact absurd rfl ne
  | cons v vs ih =>
    have first := all v (List.mem_cons_self ..)
    obtain ⟨count, rfl⟩ : ∃ n, count = n + 1 := ⟨count - 1, by omega⟩
    cases vs with
    | nil =>
      have whole : joined gap' (writeElements indent [v]) = (v.write indent).toList := by
        simp [writeElements, joined]
      rw [whole] at bound ⊢
      have read := first indent count gap (gap'' ++ ']' :: rest) blank (stops_of_begins blank'' (by decide)) (by omega)
      rw [readElements, read]
      simp only [skipSpace_append blank'' (c := ']') (by decide)]
      rfl
    | cons v' vs =>
      have whole : joined gap' (writeElements indent (v :: v' :: vs)) =
          (v.write indent).toList ++ ',' :: (gap' ++ joined gap' (writeElements indent (v' :: vs))) :=
        joined_cons_cons ..
      rw [whole] at bound ⊢
      simp only [List.length_append, List.length_cons] at bound
      rw [List.append_assoc, List.cons_append, List.append_assoc]
      have read := first indent count gap
        (',' :: (gap' ++ (joined gap' (writeElements indent (v' :: vs)) ++ (gap'' ++ ']' :: rest)))) blank
        (stops_of_first (by decide)) (by omega)
      have later : readElements count
          (gap' ++ (joined gap' (writeElements indent (v' :: vs)) ++ (gap'' ++ ']' :: rest))) =
          some (treeElements (v' :: vs), rest) :=
        ih (fun v member => all v (List.mem_cons_of_mem _ member)) (by simp) blank' (by omega)
      rw [readElements, read]
      simp only [skipSpace_cons (c := ',') (by decide), later]
      rfl

theorem readFields_joined {fields : List (String × JsonValue)} (all : ∀ p ∈ fields, ReadsBack p.2) (ne : fields ≠ [])
    {indent count : Nat} {gap gap' gap'' rest : List Char} (blank : ∀ c ∈ gap, isSpace c = true)
    (blank' : ∀ c ∈ gap', isSpace c = true) (blank'' : ∀ c ∈ gap'', isSpace c = true)
    (bound : (joined gap' (writeFields indent fields)).length < count) :
    readFields count (gap ++ (joined gap' (writeFields indent fields) ++ (gap'' ++ '\x7d' :: rest))) =
      some (treeFields fields, rest) := by
  induction fields generalizing count gap with
  | nil => exact absurd rfl ne
  | cons p fields ih =>
    obtain ⟨name, v⟩ := p
    have first : ReadsBack v := all (name, v) (List.mem_cons_self ..)
    obtain ⟨count, rfl⟩ : ∃ n, count = n + 1 := ⟨count - 1, by omega⟩
    -- The field begins with its name, and the value is behind a colon and a blank.
    have begins (cs : List Char) : (quoted name ++ ": " ++ v.write indent).toList ++ cs =
        '"' :: (name.toList.flatMap escapeChar ++ '"' :: ':' :: ([' '] ++ ((v.write indent).toList ++ cs))) := by
      simp [toList_quoted]
    have named (cs : List Char) := readString_quoted name.toList cs
    have spaced : ∀ c ∈ [' '], isSpace c = true := List.all_eq_true.1 (by decide)
    cases fields with
    | nil =>
      have whole : joined gap' (writeFields indent [(name, v)]) = (quoted name ++ ": " ++ v.write indent).toList := by
        simp [writeFields, joined]
      rw [whole] at bound ⊢
      simp only [String.toList_append, List.length_append] at bound
      have read := first indent count [' '] (gap'' ++ '\x7d' :: rest) spaced (stops_of_begins blank'' (by decide))
        (by omega)
      rw [begins, readFields, skipSpace_append blank (by decide)]
      simp only [named, skipSpace_cons (c := ':') (by decide), read, skipSpace_append blank'' (c := '\x7d') (by decide)]
      rw [String.ofList_toList]
      rfl
    | cons p' fields =>
      have whole : joined gap' (writeFields indent ((name, v) :: p' :: fields)) =
          (quoted name ++ ": " ++ v.write indent).toList ++ ',' :: (gap' ++ joined gap' (writeFields indent (p' :: fields))) :=
        joined_cons_cons ..
      rw [whole] at bound ⊢
      simp only [String.toList_append, List.length_append, List.length_cons] at bound
      have read := first indent count [' ']
        (',' :: (gap' ++ (joined gap' (writeFields indent (p' :: fields)) ++ (gap'' ++ '\x7d' :: rest)))) spaced
        (stops_of_first (by decide)) (by omega)
      have later : readFields count
          (gap' ++ (joined gap' (writeFields indent (p' :: fields)) ++ (gap'' ++ '\x7d' :: rest))) =
          some (treeFields (p' :: fields), rest) :=
        ih (fun p member => all p (List.mem_cons_of_mem _ member)) (by simp) blank' (by omega)
      rw [List.append_assoc, List.cons_append, List.append_assoc, begins, readFields, skipSpace_append blank (by decide)]
      simp only [named, skipSpace_cons (c := ':') (by decide), read, skipSpace_cons (c := ',') (by decide), later]
      rw [String.ofList_toList]
      rfl

theorem readValue_array {gap gap' cs : List Char} {count : Nat} {c : Char} (blank : ∀ c ∈ gap, isSpace c = true)
    (blank' : ∀ c ∈ gap', isSpace c = true) (visible : isSpace c = false) (other : c ≠ ']') :
    readValue (count + 1) (gap ++ '[' :: (gap' ++ c :: cs)) =
      (readElements count (c :: cs)).map fun (ts, rest) => (array ts, rest) := by
  rw [readValue, skipSpace_append blank (by decide)]
  simp only [skipSpace_append blank' visible]
  split
  · rename_i same
    exact absurd (List.cons.inj same).1 other
  · rfl

theorem readValue_object {gap gap' cs : List Char} {count : Nat} {c : Char} (blank : ∀ c ∈ gap, isSpace c = true)
    (blank' : ∀ c ∈ gap', isSpace c = true) (visible : isSpace c = false) (other : c ≠ '\x7d') :
    readValue (count + 1) (gap ++ '\x7b' :: (gap' ++ c :: cs)) =
      (readFields count (c :: cs)).map fun (fs, rest) => (object fs, rest) := by
  rw [readValue, skipSpace_append blank (by decide)]
  simp only [skipSpace_append blank' visible]
  split
  · rename_i same
    exact absurd (List.cons.inj same).1 other
  · rfl

theorem readsBack_array {vs : List JsonValue} (all : ∀ v ∈ vs, ReadsBack v) : ReadsBack (.array vs) := by
  intro indent count gap rest blank stops bound
  have line := isSpace_lineStart
  cases vs with
  | nil =>
    have written : (write indent (.array [])).toList = ['[', ']'] := by
      simp [write, writeElements, bracketed]
    rw [written] at bound ⊢
    obtain ⟨count, rfl⟩ : ∃ n, count = n + 1 := ⟨count - 1, by simp at bound; omega⟩
    rw [List.cons_append, readValue, skipSpace_append blank (by decide)]
    rfl
  | cons v vs =>
    have written : (write indent (.array (v :: vs))).toList = '[' :: ((lineStart (indent + 1)).toList ++
        (joined (lineStart (indent + 1)).toList (writeElements (indent + 1) (v :: vs)) ++
          ((lineStart indent).toList ++ [']']))) := toList_bracketed ..
    rw [written] at bound ⊢
    simp only [List.length_cons, List.length_append] at bound
    obtain ⟨count, rfl⟩ : ∃ n, count = n + 1 := ⟨count - 1, by omega⟩
    have read : readElements count ([] ++ (joined (lineStart (indent + 1)).toList (writeElements (indent + 1) (v :: vs)) ++
        ((lineStart indent).toList ++ ']' :: rest))) = some (treeElements (v :: vs), rest) :=
      readElements_joined all (by simp) (by simp) (line _) (line _) (by omega)
    obtain ⟨c, cs, begins, visible, other⟩ := write_begins (indent + 1) v
    obtain ⟨more, whole⟩ := exists_joined (lineStart (indent + 1)).toList (v.write (indent + 1))
      (writeElements (indent + 1) vs)
    change joined _ (writeElements (indent + 1) (v :: vs)) = _ at whole
    rw [begins] at whole
    rw [whole] at read ⊢
    simp only [List.cons_append, List.append_assoc, List.nil_append] at read ⊢
    rw [readValue_array blank (line _) visible other, read]
    rfl

theorem readsBack_object {fields : List (String × JsonValue)} (all : ∀ p ∈ fields, ReadsBack p.2) :
    ReadsBack (.object fields) := by
  intro indent count gap rest blank stops bound
  have line := isSpace_lineStart
  cases fields with
  | nil =>
    have written : (write indent (.object [])).toList = ['\x7b', '\x7d'] := by
      simp [write, writeFields, bracketed]
    rw [written] at bound ⊢
    obtain ⟨count, rfl⟩ : ∃ n, count = n + 1 := ⟨count - 1, by simp at bound; omega⟩
    rw [List.cons_append, readValue, skipSpace_append blank (by decide)]
    rfl
  | cons p fields =>
    obtain ⟨name, v⟩ := p
    have written : (write indent (.object ((name, v) :: fields))).toList = '\x7b' :: ((lineStart (indent + 1)).toList ++
        (joined (lineStart (indent + 1)).toList (writeFields (indent + 1) ((name, v) :: fields)) ++
          ((lineStart indent).toList ++ ['\x7d']))) := toList_bracketed ..
    rw [written] at bound ⊢
    simp only [List.length_cons, List.length_append] at bound
    obtain ⟨count, rfl⟩ : ∃ n, count = n + 1 := ⟨count - 1, by omega⟩
    have read : readFields count
        ([] ++ (joined (lineStart (indent + 1)).toList (writeFields (indent + 1) ((name, v) :: fields)) ++
          ((lineStart indent).toList ++ '\x7d' :: rest))) = some (treeFields ((name, v) :: fields), rest) :=
      readFields_joined all (by simp) (by simp) (line _) (line _) (by omega)
    obtain ⟨more, whole⟩ := exists_joined (lineStart (indent + 1)).toList (quoted name ++ ": " ++ v.write (indent + 1))
      (writeFields (indent + 1) fields)
    change joined _ (writeFields (indent + 1) ((name, v) :: fields)) = _ at whole
    rw [String.toList_append, String.toList_append, toList_quoted] at whole
    rw [whole] at read ⊢
    simp only [List.cons_append, List.append_assoc, List.nil_append] at read ⊢
    rw [readValue_object blank (line _) (by decide) (by decide), read]
    rfl

theorem readsBack_literal {v : JsonValue} {word : String} (tree : v.tree = .literal word)
    (written : ∀ indent, v.write indent = word) (ne : word.toList ≠ []) (literal_ : ∀ c ∈ word.toList, isLiteral c = true) :
    ReadsBack v := by
  intro indent count gap rest blank stops bound
  rw [written] at bound ⊢
  have positive := List.length_pos_iff.2 ne
  obtain ⟨count, rfl⟩ : ∃ n, count = n + 1 := ⟨count - 1, by omega⟩
  rw [readValue_literal blank ne literal_ stops, tree, String.ofList_toList]

theorem readsBack_string (s : String) : ReadsBack (.string s) := by
  intro indent count gap rest blank stops bound
  have written : ((JsonValue.string s).write indent).toList = '"' :: (s.toList.flatMap escapeChar ++ ['"']) :=
    toList_quoted s
  rw [written] at bound ⊢
  obtain ⟨count, rfl⟩ : ∃ n, count = n + 1 := ⟨count - 1, by rw [List.length_cons] at bound; omega⟩
  rw [List.cons_append, List.append_assoc, List.singleton_append, readValue, skipSpace_append blank (by decide)]
  simp only [readString_quoted, Option.map_some]
  rw [String.ofList_toList]
  rfl

theorem readsBack (v : JsonValue) : ReadsBack v := by
  match v with
  | .bool true => exact readsBack_literal rfl (fun _ => rfl) (by decide) (List.all_eq_true.1 (by decide))
  | .bool false => exact readsBack_literal rfl (fun _ => rfl) (by decide) (List.all_eq_true.1 (by decide))
  | .number x => exact readsBack_literal rfl (fun _ => rfl) (isLiteral_number x).1 (isLiteral_number x).2
  | .string s => exact readsBack_string s
  | .array vs => exact readsBack_array fun v _ => readsBack v
  | .object fields =>
    refine readsBack_object fun p member => ?_
    have smaller := List.sizeOf_lt_of_mem member
    have part : sizeOf p.2 < sizeOf p := by
      cases p
      simp only [Prod.mk.sizeOf_spec]
      omega
    exact readsBack p.2

/-- Any value is read back from its text. -/
theorem read_text (v : JsonValue) : read v.text = some v.tree := by
  have back := readsBack v 0 v.text.length [] [] (by simp) (by simp [Stops]) (by rw [text, String.length_toList])
  rw [List.nil_append, List.append_nil] at back
  unfold JsonTree.read
  rw [show v.text.toList = (write 0 v).toList from rfl, back]
  rfl

end JsonTree

end PgMetrics
