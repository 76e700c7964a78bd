import PgMetrics.Metric.Exposition
import PgMetrics.Proofs.Report.JsonText
import PgMetrics.Proofs.Text.Cuts

namespace PgMetrics.Exposition

/-- What a character stands for behind a backslash. -/
def unescape? (c : Char) : Option Char :=
  [('\\', '\\'), ('"', '"'), ('n', '\n')].lookup c

/-- A value behind its opening quote, and the text behind the closing one. -/
def readValue : List Char → Option (List Char × List Char)
  | [] => none
  | '"' :: rest => some ([], rest)
  | '\\' :: c :: cs =>
    match unescape? c with
    | some c => (readValue cs).map fun (s, rest) => (c :: s, rest)
    | none => none
  | c :: cs => (readValue cs).map fun (s, rest) => (c :: s, rest)

/-- A name up to the equals sign with a value in quotes, and the text behind them. -/
def readLabel (cs : List Char) : Option ((String × String) × List Char) :=
  match cs.dropWhile (· != '=') with
  | '=' :: '"' :: behind =>
    (readValue behind).map fun (s, rest) =>
      ((String.ofList (cs.takeWhile (· != '=')), String.ofList s), rest)
  | _ => none

theorem readValue_length {cs s rest : List Char} (read : readValue cs = some (s, rest)) :
    rest.length < cs.length := by
  induction cs using readValue.induct generalizing s rest with
  | case1 => cases read
  | case2 behind =>
    obtain ⟨rfl, rfl⟩ := Prod.mk.inj (Option.some.inj read)
    exact Nat.lt_succ_self _
  | case3 c cs d stands ih =>
    simp only [readValue, stands, Option.map_eq_some_iff] at read
    obtain ⟨⟨s', rest'⟩, later, same⟩ := read
    cases same
    have shorter := ih later
    simp only [List.length_cons]
    omega
  | case4 c cs none_ => simp [readValue, none_] at read
  | case5 c cs quote escape ih =>
    rw [readValue.eq_4 c cs quote escape, Option.map_eq_some_iff] at read
    obtain ⟨⟨s', rest'⟩, later, same⟩ := read
    cases same
    have shorter := ih later
    simp only [List.length_cons]
    omega

theorem readLabel_length {cs rest : List Char} {l : String × String} (read : readLabel cs = some (l, rest)) :
    rest.length < cs.length := by
  unfold readLabel at read
  split at read
  · rename_i behind cut
    obtain ⟨⟨s, rest'⟩, value, same⟩ := Option.map_eq_some_iff.1 read
    cases same
    have shorter := readValue_length value
    have part := (List.dropWhile_sublist (fun c => c != '=') (l := cs)).length_le
    rw [cut] at part
    simp only [List.length_cons] at part
    omega
  · cases read

/-- Labels with commas between them up to a closing brace, and the text behind it. -/
def readJoined (cs : List Char) : Option (Labels × List Char) :=
  match read : readLabel cs with
  | some (l, ',' :: behind) =>
    have := readLabel_length read
    (readJoined behind).map fun (ls, rest) => (l :: ls, rest)
  | some (l, '\x7d' :: rest) => some ([l], rest)
  | _ => none
termination_by cs.length
decreasing_by
  simp only [List.length_cons] at this
  omega

/-- The labels that a text begins with, and the text behind them. -/
def readLabels : List Char → Option (Labels × List Char)
  | '\x7b' :: cs => readJoined cs
  | cs => some ([], cs)

/-- The labels whose text this is. -/
def read (cs : List Char) : Option Labels :=
  match readLabels cs with
  | some (ls, []) => some ls
  | _ => none

theorem readValue_escape (c : Char) (cs : List Char) :
    readValue (escapeChar c ++ cs) = (readValue cs).map fun (s, rest) => (c :: s, rest) := by
  unfold escapeChar
  iterate 3
    split
    · subst c
      rfl
  rename_i backslash quote _
  exact readValue.eq_4 c cs quote fun _ _ same _ => backslash same

theorem readValue_escaped (s rest : List Char) : readValue (s.flatMap escapeChar ++ '"' :: rest) = some (s, rest) := by
  induction s with
  | nil => rfl
  | cons c s ih =>
    rw [List.flatMap_cons, List.append_assoc, readValue_escape, ih]
    rfl

theorem readLabel_label {name : String} (plain : '=' ∉ name.toList) (value : String) (rest : List Char) :
    readLabel (label name value ++ rest) = some ((name, value), rest) := by
  have whole : label name value ++ rest =
      name.toList ++ '=' :: '"' :: (value.toList.flatMap escapeChar ++ '"' :: rest) := by
    simp [label]
  have inside : ∀ c ∈ name.toList, (c != '=') = true := by
    intro c member
    exact bne_iff_ne.2 fun same => plain (same ▸ member)
  have stops : ∀ c, ('=' :: '"' :: (value.toList.flatMap escapeChar ++ '"' :: rest)).head? = some c →
      (c != '=') = false := by
    simp
  obtain ⟨taken, dropped⟩ := Text.cut_append inside stops
  rw [whole, readLabel, taken, dropped]
  simp only [readValue_escaped, Option.map_some, String.ofList_toList]

theorem readJoined_of_comma {cs behind : List Char} {l : String × String} (read : readLabel cs = some (l, ',' :: behind)) :
    readJoined cs = (readJoined behind).map fun (ls, rest) => (l :: ls, rest) := by
  rw [readJoined]
  split <;> simp_all

theorem readJoined_of_brace {cs rest : List Char} {l : String × String} (read : readLabel cs = some (l, '\x7d' :: rest)) :
    readJoined cs = some ([l], rest) := by
  rw [readJoined]
  split <;> simp_all

theorem readJoined_joined {ls : Labels} (plain : ∀ l ∈ ls, '=' ∉ l.1.toList) (ne : ls ≠ []) (rest : List Char) :
    readJoined (joined ls ++ '\x7d' :: rest) = some (ls, rest) := by
  induction ls with
  | nil => exact absurd rfl ne
  | cons l ls ih =>
    obtain ⟨first, later⟩ := List.forall_mem_cons.1 plain
    cases ls with
    | nil => exact readJoined_of_brace (readLabel_label first l.2 _)
    | cons l' ls =>
      have whole : joined (l :: l' :: ls) ++ '\x7d' :: rest =
          label l.1 l.2 ++ ',' :: (joined (l' :: ls) ++ '\x7d' :: rest) := by
        simp [joined]
      rw [whole, readJoined_of_comma (readLabel_label first l.2 _), ih later (by simp)]
      rfl

/-- Labels are read back from their text, with anything behind it that does not begin labels of its own. -/
theorem readLabels_labels {ls : Labels} (plain : ∀ l ∈ ls, '=' ∉ l.1.toList) {rest : List Char}
    (stops : rest.head? ≠ some '\x7b') : readLabels (labels ls ++ rest) = some (ls, rest) := by
  cases ls with
  | nil =>
    rw [labels, List.nil_append, readLabels.eq_2]
    rintro cs rfl
    exact stops rfl
  | cons l ls =>
    have whole : labels (l :: ls) ++ rest = '\x7b' :: (joined (l :: ls) ++ '\x7d' :: rest) := by
      simp [labels]
    rw [whole, readLabels]
    exact readJoined_joined plain (by simp) rest

theorem read_labels {ls : Labels} (plain : ∀ l ∈ ls, '=' ∉ l.1.toList) : read (labels ls) = some ls := by
  have back : readLabels (labels ls ++ []) = some (ls, []) := readLabels_labels plain (by simp)
  rw [List.append_nil] at back
  rw [read, back]

/-- The characters around names and values, and those that escapes are made of. -/
def marks : List Char :=
  ['\x7b', '\x7d', ',', '=', '"', '\\', 'n']

theorem mem_escapeChar {c d : Char} (member : c ∈ escapeChar d) : c ∈ marks ∨ c = d ∧ c ≠ '\n' := by
  unfold escapeChar at member
  split at member
  · exact .inl (List.subset_def.1 (by simp [marks]) member)
  split at member
  · exact .inl (List.subset_def.1 (by simp [marks]) member)
  split at member
  · exact .inl (List.subset_def.1 (by simp [marks]) member)
  · rename_i plain
    obtain rfl := List.mem_singleton.1 member
    exact .inr ⟨rfl, plain⟩

theorem mem_label {name value : String} {c : Char} (member : c ∈ label name value) :
    c ∈ marks ∨ c ∈ name.toList ∨ c ∈ value.toList ∧ c ≠ '\n' := by
  simp only [label, List.mem_append, List.mem_cons, List.mem_flatMap, List.not_mem_nil, or_false] at member
  rcases member with (inName | rfl | rfl | ⟨d, inValue, escaped⟩) | rfl
  · exact .inr (.inl inName)
  · exact .inl (by decide)
  · exact .inl (by decide)
  · obtain mark | ⟨rfl, plain⟩ := mem_escapeChar escaped
    · exact .inl mark
    · exact .inr (.inr ⟨inValue, plain⟩)
  · exact .inl (by decide)

theorem mem_joined {ls : Labels} {c : Char} (member : c ∈ joined ls) :
    c ∈ marks ∨ ∃ l ∈ ls, c ∈ l.1.toList ∨ c ∈ l.2.toList ∧ c ≠ '\n' := by
  induction ls with
  | nil => cases member
  | cons l ls ih =>
    have first (inFirst : c ∈ label l.1 l.2) :
        c ∈ marks ∨ ∃ l' ∈ l :: ls, c ∈ l'.1.toList ∨ c ∈ l'.2.toList ∧ c ≠ '\n' :=
      (mem_label inFirst).imp_right fun here => ⟨l, List.mem_cons_self .., here⟩
    cases ls with
    | nil => exact first member
    | cons l' ls =>
      have parts : c ∈ label l.1 l.2 ++ ',' :: joined (l' :: ls) := member
      rw [List.mem_append, List.mem_cons] at parts
      rcases parts with inFirst | rfl | later
      · exact first inFirst
      · exact .inl (by decide)
      · exact (ih later).imp_right fun ⟨k, among, here⟩ => ⟨k, List.mem_cons_of_mem _ among, here⟩

/-- A character of the text of labels is a mark, or one of a name, or one of a value but no line feed. -/
theorem mem_labels {ls : Labels} {c : Char} (member : c ∈ labels ls) :
    c ∈ marks ∨ ∃ l ∈ ls, c ∈ l.1.toList ∨ c ∈ l.2.toList ∧ c ≠ '\n' := by
  cases ls with
  | nil => cases member
  | cons l ls =>
    have parts : c ∈ '\x7b' :: joined (l :: ls) ++ ['\x7d'] := member
    rw [List.cons_append, List.mem_cons, List.mem_append, List.mem_singleton] at parts
    rcases parts with rfl | inside | rfl
    · exact .inl (by decide)
    · exact mem_joined inside
    · exact .inl (by decide)

theorem isLiteral_value (x : Float) : ∀ c ∈ (value x).toList, JsonTree.isLiteral c = true :=
  (JsonTree.isLiteral_write (by decide) x).2

theorem not_mem_value {c : Char} (other : JsonTree.isLiteral c = false) (x : Float) : c ∉ (value x).toList := by
  intro member
  rw [isLiteral_value x c member] at other
  cases other

/-- A text in place of one character. -/
def replaced (c : Char) (text : List Char) (d : Char) : List Char :=
  if d = c then text else [d]

/-- Three replacements one after the other do the same if the backslash comes first: the later ones put backslashes in
that must not be doubled. -/
theorem escape_eq_replaced (s : List Char) : s.flatMap escapeChar =
    ((s.flatMap (replaced '\\' ['\\', '\\'])).flatMap (replaced '"' ['\\', '"'])).flatMap
      (replaced '\n' ['\\', 'n']) := by
  rw [List.flatMap_assoc, List.flatMap_assoc]
  congr 1
  funext c
  unfold escapeChar
  iterate 3
    split
    · subst c
      rfl
  simp_all [replaced]

end PgMetrics.Exposition
