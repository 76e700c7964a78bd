import Mathlib.Data.List.Forall2
import PgMetrics.Metric.ConstantLabels
import PgMetrics.Proofs.Text.Cuts

namespace PgMetrics

namespace Table

variable {α : Type} {es : List (String × α)} {name : String} {value : α}

/-- Entries behind others count before them. -/
theorem get?_ofList_append (es ds : List (String × α)) (name : String) :
    (ofList (es ++ ds)).get? name = ((ofList ds).get? name).or ((ofList es).get? name) := by
  rw [get?_ofList, get?_ofList, get?_ofList, List.reverse_append, List.lookup_append]

/-- If no name comes twice, each entry counts. -/
theorem get?_ofList_eq_some_iff (apart : (es.map (·.1)).Nodup) :
    (ofList es).get? name = some value ↔ (name, value) ∈ es := by
  refine ⟨mem_of_get?_ofList, fun member => ?_⟩
  obtain ⟨before, after, rfl⟩ := List.append_of_mem member
  refine get?_ofList_last fun again => ?_
  rw [List.map_append, List.map_cons, List.nodup_append] at apart
  exact (List.nodup_cons.1 apart.2.1).1 again

/-- A table is made of its entries in any order. -/
theorem ofList_perm {t : Table α} (perm : es.Perm t.entries) : ofList es = t := by
  have apart : (es.map (·.1)).Nodup := by
    rw [(perm.map (·.1)).nodup_iff, List.Nodup, List.pairwise_map]
    refine t.sorted.imp ?_
    intro a b lt same
    exact String.lt_irrefl _ (same ▸ lt)
  refine ext_get? fun name => Option.ext fun value => ?_
  rw [get?_ofList_eq_some_iff apart, perm.mem_iff, mem_entries_iff]

end Table

namespace ConstantLabels

open Text

/-- What may be the name or the value of a label. -/
structure IsPart (s : String) : Prop where
  ne : s ≠ ""
  head : ∀ c, s.toList.head? = some c → isBlank c = false
  last : ∀ c, s.toList.getLast? = some c → isBlank c = false
  comma : ',' ∉ s.toList
  equals : '=' ∉ s.toList

/-- A label as it may be written: its name, an equals sign and its value, with blanks around both. -/
inductive Written : String × String → List Char → Prop
  | mk {name value : String} {beforeName behindName beforeValue behindValue} :
      (∀ c ∈ beforeName, isBlank c = true) → (∀ c ∈ behindName, isBlank c = true) →
      (∀ c ∈ beforeValue, isBlank c = true) → (∀ c ∈ behindValue, isBlank c = true) →
      Written (name, value)
        (beforeName ++ name.toList ++ behindName ++ '=' :: (beforeValue ++ value.toList ++ behindValue))

/-- An entry without an equals sign, with more than one, or with nothing but blanks on one side of it. -/
def IsVoid (entry : List Char) : Prop :=
  ∀ left right, entry = left ++ '=' :: right → '=' ∈ left ∨ '=' ∈ right ∨ trimChars left = [] ∨ trimChars right = []

variable {entry left right : List Char} {name value : String}

/-- The label of a text in pieces, which must be two. -/
def labelOf? : List (List Char) → Option (String × String)
  | [name, value] => if name.isEmpty || value.isEmpty then none else some (String.ofList name, String.ofList value)
  | _ => none

theorem label?_eq (entry : List Char) : label? entry = labelOf? ((pieces '=' entry).map trimChars) := by
  rw [← map_trimChars_pieces (by decide), label?, pair?]
  match pieces '=' (trimChars entry) with
  | [] => rfl
  | [_] => rfl
  | [_, _] => rfl
  | _ :: _ :: _ :: _ => rfl

theorem label?_trimChars (entry : List Char) : label? (trimChars entry) = label? entry := by
  rw [label?_eq, label?_eq, map_trimChars_pieces (by decide)]

theorem filterMap_label?_trimChars (entries : List (List Char)) :
    (entries.map trimChars).filterMap label? = entries.filterMap label? := by
  rw [List.filterMap_map]
  exact congrArg (List.filterMap · entries) (funext label?_trimChars)

/-- The entries of a text are what its commas cut it into; that it is trimmed first makes no difference. -/
theorem read_eq (text : String) : read text = .ofList ((pieces ',' text.toList).filterMap label?) := by
  have trimmed : (entries text).filterMap label? = (pieces ',' (trimChars text.toList)).filterMap label? := by
    rw [entries]
    split
    · rename_i blank
      rw [blank]
      rfl
    · rfl
  -- Blanks at the ends of the text are blanks at the ends of entries, which are trimmed themselves.
  rw [read, trimmed, ← filterMap_label?_trimChars, map_trimChars_pieces (by decide), filterMap_label?_trimChars]

theorem get?_read_append (a b name : String) :
    (read (a ++ "," ++ b)).get? name = ((read b).get? name).or ((read a).get? name) := by
  have cut : (a ++ "," ++ b).toList = a.toList ++ ',' :: b.toList := by simp
  rw [read_eq, read_eq, read_eq, cut, pieces_append, List.filterMap_append, Table.get?_ofList_append]

theorem label?_eq_some_iff : label? entry = some (name, value) ↔ ∃ left right, entry = left ++ '=' :: right ∧
    '=' ∉ left ∧ '=' ∉ right ∧ trimChars left = name.toList ∧ trimChars right = value.toList ∧
    name ≠ "" ∧ value ≠ "" := by
  rw [label?_eq]
  constructor
  · intro found
    have whole := join_pieces '=' entry
    have apart := fun piece member => @not_mem_of_mem_pieces '=' entry piece member
    generalize pieces '=' entry = ps at found whole apart
    match ps with
    | [] => cases found
    | [_] => cases found
    | _ :: _ :: _ :: _ => cases found
    | [left, right] =>
      simp only [List.map_cons, List.map_nil, labelOf?] at found
      split at found
      · cases found
      · rename_i given
        cases found
        refine ⟨left, right, ?_, apart left (by simp), apart right (by simp), by simp, by simp, ?_⟩
        · rw [← whole, join_cons_cons]
          rfl
        · simpa using given
  · rintro ⟨left, right, rfl, first, second, atName, atValue, someName, someValue⟩
    rw [pieces_append, pieces_of_not_mem first, pieces_of_not_mem second]
    simp [labelOf?, atName, atValue, someName, someValue]

theorem label?_eq_none_iff : label? entry = none ↔ IsVoid entry := by
  constructor
  · rintro none left right rfl
    by_contra full
    simp only [not_or] at full
    obtain ⟨first, second, someName, someValue⟩ := full
    have found : label? (left ++ '=' :: right) =
        some (String.ofList (trimChars left), String.ofList (trimChars right)) :=
      label?_eq_some_iff.2 ⟨left, right, rfl, first, second, by simp, by simp, by simpa using someName,
        by simpa using someValue⟩
    rw [none] at found
    cases found
  · intro void
    cases found : label? entry with
    | none => rfl
    | some e =>
      obtain ⟨left, right, rfl, first, second, atName, atValue, someName, someValue⟩ := label?_eq_some_iff.1 found
      obtain member | member | empty | empty := void left right rfl
      · exact absurd member first
      · exact absurd member second
      · rw [empty] at atName
        exact absurd (String.toList_eq_nil_iff.1 atName.symm) someName
      · rw [empty] at atValue
        exact absurd (String.toList_eq_nil_iff.1 atValue.symm) someValue

theorem isPart_of_trimChars {half : List Char} {s : String} (trimmed : trimChars half = s.toList) (ne : s ≠ "")
    (comma : ',' ∉ half) (equals : '=' ∉ half) : IsPart s where
  ne := ne
  head _ head := trimChars_head (trimmed.symm ▸ head)
  last _ last := trimChars_getLast (trimmed.symm ▸ last)
  comma member := comma (mem_of_mem_trimChars (trimmed.symm ▸ member))
  equals member := equals (mem_of_mem_trimChars (trimmed.symm ▸ member))

theorem isPart_of_label? (comma : ',' ∉ entry) (found : label? entry = some (name, value)) :
    IsPart name ∧ IsPart value := by
  obtain ⟨left, right, rfl, first, second, atName, atValue, someName, someValue⟩ := label?_eq_some_iff.1 found
  simp only [List.mem_append, List.mem_cons, not_or] at comma
  exact ⟨isPart_of_trimChars atName someName comma.1 first, isPart_of_trimChars atValue someValue comma.2.2 second⟩

theorem isPart_of_read {text : String} (given : (read text).get? name = some value) : IsPart name ∧ IsPart value := by
  rw [read_eq] at given
  obtain ⟨entry, member, found⟩ := List.mem_filterMap.1 (Table.mem_of_get?_ofList given)
  exact isPart_of_label? (not_mem_of_mem_pieces member) found

theorem label?_of_written (written : Written (name, value) entry) (isName : IsPart name) (isValue : IsPart value) :
    ',' ∉ entry ∧ label? entry = some (name, value) := by
  cases written with
  | @mk _ _ beforeName behindName beforeValue behindValue b₁ b₂ b₃ b₄ =>
    have comma {blanks : List Char} : (∀ c ∈ blanks, isBlank c = true) → ',' ∉ blanks := not_mem_of_blank (by decide)
    have equals {blanks : List Char} : (∀ c ∈ blanks, isBlank c = true) → '=' ∉ blanks := not_mem_of_blank (by decide)
    refine ⟨?_, label?_eq_some_iff.2 ⟨_, _, rfl, ?_, ?_, ?_, ?_, isName.ne, isValue.ne⟩⟩
    · simp [comma b₁, comma b₂, comma b₃, comma b₄, isName.comma, isValue.comma]
    · simp [equals b₁, equals b₂, isName.equals]
    · simp [equals b₃, equals b₄, isValue.equals]
    · exact trimChars_between b₁ b₂ isName.head isName.last
    · exact trimChars_between b₃ b₄ isValue.head isValue.last

theorem filterMap_label?_of_written {es : List (String × String)} {written : List (List Char)}
    (each : List.Forall₂ Written es written) (parts : ∀ e ∈ es, IsPart e.1 ∧ IsPart e.2) :
    (∀ entry ∈ written, ',' ∉ entry) ∧ written.filterMap label? = es := by
  induction each with
  | nil => simp
  | @cons e entry es written first _ ih =>
    obtain ⟨⟨isName, isValue⟩, later⟩ := List.forall_mem_cons.1 parts
    obtain ⟨comma, found⟩ := label?_of_written first isName isValue
    obtain ⟨commas, rest⟩ := ih later
    exact ⟨List.forall_mem_cons.2 ⟨comma, commas⟩, by rw [List.filterMap_cons_some found, rest]⟩

/-- Blanks around a text make no difference. -/
theorem read_append_blank {before behind : List Char} (first : ∀ c ∈ before, isBlank c = true)
    (last : ∀ c ∈ behind, isBlank c = true) (text : List Char) :
    read (String.ofList (before ++ text ++ behind)) = read (String.ofList text) := by
  rw [read_eq, read_eq, String.toList_ofList, String.toList_ofList, ← filterMap_label?_trimChars,
    map_trimChars_pieces_append (by decide) first last, filterMap_label?_trimChars]

theorem read_written {es : List (String × String)} {written : List (List Char)}
    (each : List.Forall₂ Written es written) (parts : ∀ e ∈ es, IsPart e.1 ∧ IsPart e.2) :
    read (String.ofList (join [','] written)) = .ofList es := by
  obtain ⟨commas, labels⟩ := filterMap_label?_of_written each parts
  rw [read_eq, String.toList_ofList]
  cases written with
  | nil =>
    cases each
    rfl
  | cons entry written => rw [pieces_join (List.cons_ne_nil _ _) commas, labels]

theorem read_void {entry : String} (comma : ',' ∉ entry.toList) (void : IsVoid entry.toList) : read entry = .empty := by
  rw [read_eq, pieces_of_not_mem comma, List.filterMap_cons_none (label?_eq_none_iff.2 void)]
  rfl

/-- Labels are read entry by entry. Those of two texts with a comma between them are those of the second and, of other
names, those of the first; a void entry makes no difference to what stands before and behind it. All names and values
that are read can be written, and a table of such names and values is read back from its entries in any order, with
commas between them, however many blanks stand around names, values and commas. -/
theorem read_entry_by_entry :
    (∀ a b name, (read (a ++ "," ++ b)).get? name = ((read b).get? name).or ((read a).get? name)) ∧
    (∀ entry : String, ',' ∉ entry.toList → IsVoid entry.toList → ∀ a b : String,
      read (entry ++ "," ++ b) = read b ∧ read (a ++ "," ++ entry) = read a ∧
      read (a ++ "," ++ entry ++ "," ++ b) = read (a ++ "," ++ b)) ∧
    (∀ text name value, (read text).get? name = some value → IsPart name ∧ IsPart value) ∧
    ∀ t : Table String, (∀ name value, t.get? name = some value → IsPart name ∧ IsPart value) →
      ∀ es written, es.Perm t.entries → List.Forall₂ Written es written →
        ∀ before behind, (∀ c ∈ before, isBlank c = true) → (∀ c ∈ behind, isBlank c = true) →
          read (String.ofList (before ++ join [','] written ++ behind)) = t := by
  refine ⟨get?_read_append, ?_, fun _ _ _ => isPart_of_read, ?_⟩
  · intro entry comma void a b
    have none := read_void comma void
    have behind : read (a ++ "," ++ entry) = read a :=
      Table.ext_get? fun name => by rw [get?_read_append, none, Table.get?_empty, Option.none_or]
    refine ⟨Table.ext_get? fun name => ?_, behind, Table.ext_get? fun name => ?_⟩
    · rw [get?_read_append, none, Table.get?_empty, Option.or_none]
    · rw [get?_read_append, behind, get?_read_append a b]
  · intro t parts es written perm each before behind first last
    rw [read_append_blank first last, read_written each, Table.ofList_perm perm]
    intro e member
    exact parts e.1 e.2 (t.mem_entries_iff.1 (perm.mem_iff.1 member))

/-- An entry with two equals signs stands between others, and two entries are written in the other order. -/
theorem labels_around_void_entry :
    read ("a=b" ++ "," ++ "x=y=z" ++ "," ++ "c=d") = read ("a=b" ++ "," ++ "c=d") ∧
    (IsPart "a" ∧ IsPart "b") ∧ read " c = d\t, a=b" = .ofList [("a", "b"), ("c", "d")] := by
  have isPart : ∀ s ∈ ["a", "b", "c", "d"], IsPart s := by
    intro s member
    simp only [List.mem_cons, List.not_mem_nil, or_false] at member
    obtain rfl | rfl | rfl | rfl := member <;>
      exact ⟨by decide, by simp [isBlank], by simp [isBlank], by decide, by decide⟩
  obtain ⟨-, void, parts, back⟩ := read_entry_by_entry
  have none : label? "x=y=z".toList = none := by decide
  refine ⟨(void "x=y=z" (by decide) (label?_eq_none_iff.1 none) "a=b" "c=d").2.2, parts "a=b" "a" "b" (by decide), ?_⟩
  have written : List.Forall₂ Written [("c", "d"), ("a", "b")] ["c = d\t".toList, " a=b".toList] :=
    .cons (@Written.mk "c" "d" [] [' '] [' '] ['\t'] (by simp) (by simp [isBlank]) (by simp [isBlank])
      (by simp [isBlank]))
      (.cons (@Written.mk "a" "b" [' '] [] [] [] (by simp [isBlank]) (by simp) (by simp) (by simp)) .nil)
  refine back (.ofList [("a", "b"), ("c", "d")]) ?_ [("c", "d"), ("a", "b")] _ ?_ written [' '] [] (by simp [isBlank])
    (by simp)
  · intro name value given
    have member := Table.mem_of_get?_ofList given
    simp only [List.mem_cons, Prod.mk.injEq, List.not_mem_nil, or_false] at member
    obtain ⟨rfl, rfl⟩ | ⟨rfl, rfl⟩ := member <;> exact ⟨isPart _ (by simp), isPart _ (by simp)⟩
  · exact List.Perm.swap _ _ _

end ConstantLabels

end PgMetrics
