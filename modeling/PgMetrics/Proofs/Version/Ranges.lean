import Mathlib
import PgMetrics.Proofs.Text.Numerals
import PgMetrics.Proofs.Text.Words
import PgMetrics.Version.Range

namespace PgMetrics

theorem mapM_eq_ok_iff {α β ε : Type} {f : α → Except ε β} {as : List α} {bs : List β} :
    as.mapM f = .ok bs ↔ List.Forall₂ (fun a b => f a = .ok b) as bs := by
  induction as generalizing bs with
  | nil => simp [pure, Except.pure, eq_comm]
  | cons a as ih =>
    rw [List.mapM_cons, List.forall₂_cons_left_iff]
    constructor
    · intro mapped
      cases first : f a with
      | error e =>
        rw [first] at mapped
        cases mapped
      | ok b =>
        rw [first] at mapped
        cases rest : as.mapM f with
        | error e =>
          rw [rest] at mapped
          cases mapped
        | ok later =>
          rw [rest] at mapped
          cases mapped
          exact ⟨b, later, rfl, ih.1 rest, rfl⟩
    · rintro ⟨b, later, first, rest, rfl⟩
      rw [first, ih.2 rest]
      rfl

namespace Comparison

variable {comparison : Comparison} {symbol cs rest : List Char}

/-- A comparison is written by its symbol. Equality may also be left out. -/
def Spelled (symbol : List Char) (comparison : Comparison) : Prop :=
  symbol = comparison.symbol.toList ∨ symbol = [] ∧ comparison = .eq

theorem exists_of_take (taken : take cs = (comparison, rest)) :
    ∃ symbol, Spelled symbol comparison ∧ cs = symbol ++ rest := by
  unfold take at taken
  split at taken <;> cases taken
  case h_6 => exact ⟨[], .inr ⟨rfl, rfl⟩, rfl⟩
  all_goals exact ⟨_, .inl rfl, rfl⟩

/-- No symbol goes on with what is not part of one. -/
theorem take_append (spelled : Spelled symbol comparison)
    (apart : ∀ c, rest.head? = some c → c ≠ '<' ∧ c ≠ '>' ∧ c ≠ '=') :
    take (symbol ++ rest) = (comparison, rest) := by
  obtain rfl | ⟨rfl, rfl⟩ := spelled
  · cases rest with
    | nil => cases comparison <;> rfl
    | cons c cs =>
      obtain ⟨_, _, ne⟩ := apart c rfl
      cases comparison <;> simp [symbol, take, ne]
  · cases rest with
    | nil => rfl
    | cons c cs =>
      obtain ⟨lt, gt, eq⟩ := apart c rfl
      simp [take, lt, gt, eq]

end Comparison

namespace Bound

variable {word : List Char} {b : Bound} {shown : String} {room : Nat} {parts : List (List Char)}
  {components : List UInt64}

/-- A bound is written as its comparison and, directly behind it, one to three numerals below 2⁶⁴ with points between
them. Numbers that are left out are zero. -/
inductive Spelled : List Char → Bound → Prop
  | mk {symbol numerals numbers comparison} : Comparison.Spelled symbol comparison →
      List.Forall₂ Text.Numeral numerals numbers → numbers.length ∈ [1, 2, 3] → (∀ n ∈ numbers, n < 2 ^ 64) →
      Spelled (symbol ++ Text.join ['.'] numerals)
        ⟨comparison, .release (.ofNat (numbers.getD 0 0)) (.ofNat (numbers.getD 1 0)) (.ofNat (numbers.getD 2 0))⟩

theorem readComponents_eq_ok_iff : readComponents shown room parts = .ok components ↔
    parts.length ≤ room ∧ ∃ numbers, List.Forall₂ Text.Numeral parts numbers ∧ (∀ n ∈ numbers, n < 2 ^ 64) ∧
      components = numbers.map .ofNat := by
  induction parts generalizing room components with
  | nil =>
    have read : readComponents shown room [] = .ok [] := by
      cases room <;> rfl
    simp [read, eq_comm]
  | cons part parts ih =>
    cases room with
    | zero => simp [readComponents]
    | succ room =>
      have first_iff (n : Nat) :
          Text.readNatural Text.maxUInt64 part = .ok n ↔ Text.Numeral part n ∧ n < 2 ^ 64 := by
        rw [Text.readNatural_eq_ok_iff, Text.maxUInt64]
        exact and_congr_right fun _ => Nat.le_sub_one_iff_lt (Nat.two_pow_pos 64)
      unfold readComponents
      constructor
      · intro read
        cases first : Text.readNatural Text.maxUInt64 part with
        | error e =>
          rw [first] at read
          cases read
        | ok n =>
          rw [first] at read
          cases rest : readComponents shown room parts with
          | error e =>
            rw [rest] at read
            cases read
          | ok later =>
            rw [rest] at read
            cases read
            obtain ⟨numeral, small⟩ := (first_iff n).1 first
            obtain ⟨fits, numbers, numerals, smaller, rfl⟩ := ih.1 rest
            exact ⟨Nat.succ_le_succ fits, n :: numbers, .cons numeral numerals,
              List.forall_mem_cons.2 ⟨small, smaller⟩, rfl⟩
      · rintro ⟨fits, _, numerals, small, rfl⟩
        obtain ⟨n, numbers, numeral, later, rfl⟩ := List.forall₂_cons_left_iff.1 numerals
        obtain ⟨first, rest⟩ := List.forall_mem_cons.1 small
        rw [(first_iff n).2 ⟨numeral, first⟩, ih.2 ⟨Nat.le_of_succ_le_succ fits, numbers, later, rest, rfl⟩]
        rfl

section Numerals

variable {numerals : List (List Char)} {numbers : List Nat}

theorem not_mem_numeral (each : List.Forall₂ Text.Numeral numerals numbers) : ∀ numeral ∈ numerals, '.' ∉ numeral := by
  induction each with
  | nil => exact fun _ member => (by cases member)
  | cons numeral _ ih =>
    refine List.forall_mem_cons.2 ⟨?_, ih⟩
    intro point
    obtain plus | digit := numeral.mem point
    · exact absurd plus (by decide)
    · exact absurd digit (by decide)

/-- Numerals with points between them begin with a sign or a digit, if there are any. -/
theorem head_join_numerals (each : List.Forall₂ Text.Numeral numerals numbers) {c : Char}
    (head : (Text.join ['.'] numerals).head? = some c) : c ≠ '<' ∧ c ≠ '>' ∧ c ≠ '=' := by
  cases each with
  | nil => cases head
  | @cons first _ others _ numeral _ =>
    have same : first.head? = some c := by
      obtain ⟨d, ds, rfl⟩ := List.exists_cons_of_ne_nil numeral.ne_nil
      cases others <;> simpa [Text.join] using head
    obtain rfl | digit := numeral.mem (List.mem_of_mem_head? same)
    · decide
    · refine ⟨?_, ?_, ?_⟩ <;>
      · rintro rfl
        exact absurd digit (by decide)

end Numerals

theorem ofComponents_map (comparison : Comparison) {numbers : List Nat} (count : numbers.length ∈ [1, 2, 3]) :
    ofComponents comparison (numbers.map .ofNat) =
      ⟨comparison, .release (.ofNat (numbers.getD 0 0)) (.ofNat (numbers.getD 1 0)) (.ofNat (numbers.getD 2 0))⟩ := by
  match numbers, count with
  | [_], _ => rfl
  | [_, _], _ => rfl
  | [_, _, _], _ => rfl

/-- Exactly the bounds that are spelled out are read. -/
theorem read_eq_ok_iff : read word = .ok b ↔ Spelled word b := by
  constructor
  · intro reading
    unfold read at reading
    cases taken : Comparison.take word with
    | mk comparison rest =>
      simp only [taken] at reading
      cases counted : readComponents (String.ofList word) 3 (Text.pieces '.' rest) with
      | error e =>
        rw [counted] at reading
        cases reading
      | ok components =>
        rw [counted] at reading
        cases reading
        obtain ⟨symbol, spelled, rfl⟩ := Comparison.exists_of_take taken
        obtain ⟨most, numbers, numerals, small, rfl⟩ := readComponents_eq_ok_iff.1 counted
        have least := List.length_pos_iff.2 (Text.pieces_ne_nil '.' rest)
        have same := numerals.length_eq
        have count : numbers.length ∈ [1, 2, 3] := by
          simp only [List.mem_cons, List.not_mem_nil, or_false]
          omega
        have whole := Spelled.mk spelled numerals count small
        rwa [Text.join_pieces, ← ofComponents_map _ count] at whole
  · rintro ⟨spelled, each, count, small⟩
    rename_i symbol numerals numbers comparison
    have same := each.length_eq
    have ne : numerals ≠ [] := by
      rintro rfl
      simp [← same] at count
    have most : numerals.length ≤ 3 := by
      simp only [List.mem_cons, List.not_mem_nil, or_false] at count
      omega
    have taken := Comparison.take_append spelled fun c head => head_join_numerals each head
    have cut := Text.pieces_join ne (not_mem_numeral each)
    unfold read
    simp only [taken, cut]
    rw [readComponents_eq_ok_iff.2 ⟨most, numbers, each, small, rfl⟩, ← ofComponents_map comparison count]
    rfl

theorem toList_text {comparison : Comparison} {major minor patch : UInt64} :
    (text ⟨comparison, .release major minor patch⟩).toList = comparison.symbol.toList ++
      Text.join ['.'] [Nat.toDigits 10 major.toNat, Nat.toDigits 10 minor.toNat, Nat.toDigits 10 patch.toNat] := by
  simp [text, Version.text, Version.release, Version.number, Text.join]

/-- A bound without pre-release and build part is spelled out by its text. -/
theorem spelled_text (released : b.version.pre = "" ∧ b.version.build = "") : Spelled b.text.toList b := by
  obtain ⟨comparison, ⟨major, minor, patch, pre, build⟩⟩ := b
  obtain ⟨rfl, rfl⟩ : pre = "" ∧ build = "" := released
  have symbol : Comparison.Spelled comparison.symbol.toList comparison := .inl rfl
  have whole := Spelled.mk symbol
    (.cons (Text.numeral_toDigits major.toNat) (.cons (Text.numeral_toDigits minor.toNat)
      (.cons (Text.numeral_toDigits patch.toNat) .nil)))
    (by simp) (by simpa using ⟨major.toNat_lt, minor.toNat_lt, patch.toNat_lt⟩)
  rw [← toList_text] at whole
  simpa [Version.release] using whole

theorem isWord_text (released : b.version.pre = "" ∧ b.version.build = "") : Text.IsWord b.text.toList := by
  obtain ⟨comparison, ⟨major, minor, patch, pre, build⟩⟩ := b
  obtain ⟨rfl, rfl⟩ : pre = "" ∧ build = "" := released
  have text := @toList_text comparison major minor patch
  rw [Version.release] at text
  have plain (n : Nat) : ∀ c ∈ Nat.toDigits 10 n, Text.isBlank c = false := fun c member =>
    Text.isBlank_of_isDigit (Nat.isDigit_of_mem_toDigits (by decide) (by decide) member)
  have visible : comparison.symbol.toList.all (!Text.isBlank ·) = true := by
    cases comparison <;> decide
  have symbol : ∀ c ∈ comparison.symbol.toList, Text.isBlank c = false := by
    simpa using visible
  rw [text]
  have dot : Nat.toDigits 10 major.toNat ++ ['.'] ≠ [] := List.append_ne_nil_of_right_ne_nil _ (by decide)
  refine ⟨List.append_ne_nil_of_right_ne_nil _ (List.append_ne_nil_of_left_ne_nil dot _), ?_⟩
  intro c member
  simp only [Text.join, List.mem_append, List.mem_singleton] at member
  rcases member with atSymbol | (atMajor | rfl) | (atMinor | rfl) | atPatch
  · exact symbol c atSymbol
  · exact plain _ c atMajor
  · decide
  · exact plain _ c atMinor
  · decide
  · exact plain _ c atPatch

theorem released_of_spelled {words : List (List Char)} {bounds : List Bound}
    (each : List.Forall₂ Spelled words bounds) : ∀ b ∈ bounds, b.version.pre = "" ∧ b.version.build = "" := by
  induction each with
  | nil => exact fun _ member => (by cases member)
  | cons spelled _ ih =>
    refine List.forall_mem_cons.2 ⟨?_, ih⟩
    cases spelled
    exact ⟨rfl, rfl⟩

end Bound

namespace VersionRange

variable {s t : String} {r q : VersionRange}

/-- A text is read as a range when it has words and each of them spells out a bound. -/
theorem read_eq_ok_iff : read s = .ok r ↔
    Text.words s.toList ≠ [] ∧ List.Forall₂ Bound.Spelled (Text.words s.toList) r.bounds := by
  have each : (Text.words s.toList).mapM Bound.read = .ok r.bounds ↔
      List.Forall₂ Bound.Spelled (Text.words s.toList) r.bounds := by
    simp only [mapM_eq_ok_iff, Bound.read_eq_ok_iff]
  rw [← each, read]
  cases mapped : (Text.words s.toList).mapM Bound.read with
  | error e => simp
  | ok bounds =>
    have count := (mapM_eq_ok_iff.1 mapped).length_eq
    cases bounds with
    | nil => simp [List.eq_nil_of_length_eq_zero count]
    | cons b bounds =>
      have ne : Text.words s.toList ≠ [] := by
        intro none
        simp [none] at count
      obtain ⟨others⟩ := r
      simp [ne]

/-- A range of released versions is read back from its text. -/
theorem read_text (ne : r.bounds ≠ []) (released : ∀ b ∈ r.bounds, b.version.pre = "" ∧ b.version.build = "") :
    read r.text = .ok r := by
  have words : Text.words r.text.toList = r.bounds.map (·.text.toList) := by
    have written : r.text.toList = [' '].intercalate (r.bounds.map (·.text.toList)) := by
      simp [text, String.toList_intercalate]
      rfl
    rw [written, Text.words_intercalate]
    intro w member
    obtain ⟨b, atB, rfl⟩ := List.mem_map.1 member
    exact Bound.isWord_text (released b atB)
  rw [read_eq_ok_iff, words, List.forall₂_map_left_iff, List.forall₂_same]
  exact ⟨by simpa using ne, fun b member => Bound.spelled_text (released b member)⟩

theorem released_of_read (reading : read s = .ok r) :
    r.bounds ≠ [] ∧ ∀ b ∈ r.bounds, b.version.pre = "" ∧ b.version.build = "" := by
  obtain ⟨ne, each⟩ := read_eq_ok_iff.1 reading
  refine ⟨?_, Bound.released_of_spelled each⟩
  intro none
  rw [none] at each
  exact ne (List.forall₂_nil_right_iff.1 each)

/-- A blank between two ranges makes one range of the bounds of both. -/
theorem read_append_blank (first : read s = .ok r) (second : read t = .ok q) :
    read (s ++ " " ++ t) = .ok ⟨r.bounds ++ q.bounds⟩ := by
  obtain ⟨ne, bounds⟩ := read_eq_ok_iff.1 first
  obtain ⟨-, others⟩ := read_eq_ok_iff.1 second
  have apart : (s ++ " " ++ t).toList = s.toList ++ ' ' :: t.toList := by simp
  rw [read_eq_ok_iff, apart, Text.words_append_blank (by decide)]
  refine ⟨by simp [ne], ?_⟩
  exact List.rel_append bounds others

/-- A text is read as a range exactly when it consists of blanks and of words, one at least, that each spell out a
bound; the bounds are those of the words in their order. A range of released versions is read back from its text, so
reading what was read gives the same range. Two ranges with a blank between them are read as one range, which accepts
the versions that both accept. -/
theorem reads_what_is_spelled_out :
    (∀ s r, read s = .ok r ↔
      ∃ ws, ws ≠ [] ∧ Text.Worded s.toList ws ∧ List.Forall₂ Bound.Spelled ws r.bounds) ∧
    (∀ r : VersionRange, r.bounds ≠ [] → (∀ b ∈ r.bounds, b.version.pre = "" ∧ b.version.build = "") →
      read r.text = .ok r) ∧
    (∀ s r, read s = .ok r → read r.text = .ok r) ∧
    ∀ s t r q, read s = .ok r → read t = .ok q →
      ∃ p, read (s ++ " " ++ t) = .ok p ∧ ∀ v, p.accepts v = (r.accepts v && q.accepts v) := by
  refine ⟨?_, fun r => read_text, ?_, ?_⟩
  · intro s r
    rw [read_eq_ok_iff]
    constructor
    · rintro ⟨ne, each⟩
      exact ⟨_, ne, Text.words_eq_iff.1 rfl, each⟩
    · rintro ⟨ws, ne, worded, each⟩
      rw [Text.words_eq_iff.2 worded]
      exact ⟨ne, each⟩
  · intro s r reading
    obtain ⟨ne, released⟩ := released_of_read reading
    exact read_text ne released
  · intro s t r q first second
    exact ⟨_, read_append_blank first second, fun v => accepts_append r.bounds q.bounds v⟩

theorem reads_two_ranges :
    let r : VersionRange := ⟨[⟨.ge, .release 9 2 0⟩, ⟨.lt, .release 10 0 0⟩]⟩
    let q : VersionRange := ⟨[⟨.eq, .release 9 6 5⟩]⟩
    read "\u2003>=+9.02 <10\n" = .ok r ∧ read "9.6.5" = .ok q ∧ read r.text = .ok r ∧
      ∃ p, read ("\u2003>=+9.02 <10\n" ++ " " ++ "9.6.5") = .ok p ∧
        ∀ v, p.accepts v = (r.accepts v && q.accepts v) := by
  intro r q
  have first : read "\u2003>=+9.02 <10\n" = .ok r := by rfl
  have second : read "9.6.5" = .ok q := by rfl
  obtain ⟨_, back, again, both⟩ := reads_what_is_spelled_out
  have text := back r (by simp [r]) (by decide)
  exact ⟨first, second, text, both _ _ r q first second⟩

end VersionRange

end PgMetrics
