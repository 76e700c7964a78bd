import Mathlib.Data.List.TakeWhile
import PgMetrics.Text.Blank
import PgMetrics.Text.DecimalDigit
import PgMetrics.Text.Pieces

namespace PgMetrics.Text

variable {kind : Char → Bool} {run rest before behind cs : List Char} {sep c : Char}

/-- Characters of one kind, at least one of them, where no more of them follow. -/
structure IsRun (kind : Char → Bool) (run rest : List Char) : Prop where
  ne : run ≠ []
  all : ∀ c ∈ run, kind c = true
  stop : ∀ c, rest.head? = some c → kind c = false

/-- A text is cut where its characters stop to be of one kind. -/
theorem cut_append (inside : ∀ c ∈ run, kind c = true) (stops : ∀ c, rest.head? = some c → kind c = false) :
    (run ++ rest).takeWhile kind = run ∧ (run ++ rest).dropWhile kind = rest := by
  have left : rest.dropWhile kind = rest := dropWhile_eq_self_of_head stops
  have whole := List.takeWhile_append_dropWhile (p := kind) (l := rest)
  rw [left, List.append_left_eq_self] at whole
  rw [List.takeWhile_append_of_pos inside, List.dropWhile_append_of_pos inside, left, whole, List.append_nil]
  exact ⟨rfl, rfl⟩

theorem isRun_takeWhile (ne : cs.takeWhile kind ≠ []) : IsRun kind (cs.takeWhile kind) (cs.dropWhile kind) where
  ne := ne
  all _ member := List.mem_takeWhile_imp member
  stop _ head := head_dropWhile head

/-- The codes of blank characters, as the first and the last of each row of them. -/
def blankRanges : List (Nat × Nat) :=
  [(9, 13), (0x20, 0x20), (0x85, 0x85), (0xA0, 0xA0), (0x1680, 0x1680), (0x2000, 0x200A), (0x2028, 0x2029),
   (0x202F, 0x202F), (0x205F, 0x205F), (0x3000, 0x3000)]

theorem isBlank_eq (c : Char) : isBlank c = blankRanges.any fun r => r.1 ≤ c.toNat && c.toNat ≤ r.2 := by
  rw [Bool.eq_iff_iff]
  simp [isBlank, blankRanges]
  omega

theorem isBlank_of_isDecimalDigit (digit : isDecimalDigit c = true) : isBlank c = false := by
  have apart : ∀ r ∈ blankRanges, ∀ d ∈ decimalDigitRanges, r.2 < d.1 ∨ d.2 < r.1 := by decide
  obtain ⟨d, atDigit, within⟩ := List.any_eq_true.1 digit
  rw [isBlank_eq, List.any_eq_false]
  intro r atBlank
  have := apart r atBlank d atDigit
  simp only [Bool.and_eq_true, decide_eq_true_eq] at within ⊢
  omega

theorem not_mem_of_blank (visible : isBlank c = false) (blank : ∀ c ∈ cs, isBlank c = true) : c ∉ cs := by
  intro member
  rw [blank c member] at visible
  cases visible

theorem exists_trimChars (cs : List Char) : ∃ before behind, (∀ c ∈ before, isBlank c = true) ∧
    (∀ c ∈ behind, isBlank c = true) ∧ cs = before ++ trimChars cs ++ behind := by
  refine ⟨cs.takeWhile isBlank, ((trimStartChars cs).reverse.takeWhile isBlank).reverse,
    fun _ member => List.mem_takeWhile_imp member,
    fun _ member => List.mem_takeWhile_imp (List.mem_reverse.1 member), ?_⟩
  rw [trimChars, trimEndChars, List.append_assoc, ← List.reverse_append, List.takeWhile_append_dropWhile,
    List.reverse_reverse, trimStartChars, List.takeWhile_append_dropWhile]

theorem mem_of_mem_trimChars (member : c ∈ trimChars cs) : c ∈ cs := by
  obtain ⟨before, behind, -, -, whole⟩ := exists_trimChars cs
  rw [whole]
  exact List.mem_append_left _ (List.mem_append_right _ member)

theorem trimChars_of_blank (blank : ∀ c ∈ cs, isBlank c = true) : trimChars cs = [] := by
  rw [trimChars, trimStartChars, List.dropWhile_eq_nil_iff.2 blank]
  rfl

/-- A text without a blank at either end is what trimming leaves of it with blanks around. -/
theorem trimChars_between (first : ∀ c ∈ before, isBlank c = true) (last : ∀ c ∈ behind, isBlank c = true)
    (head : ∀ c, cs.head? = some c → isBlank c = false) (tail : ∀ c, cs.getLast? = some c → isBlank c = false) :
    trimChars (before ++ cs ++ behind) = cs := by
  cases cs with
  | nil =>
    rw [List.append_nil]
    exact trimChars_of_blank fun c member => (List.mem_append.1 member).elim (first c) (last c)
  | cons c cs =>
    have visible : ∀ d, (c :: cs ++ behind).head? = some d → isBlank d = false := head
    have started : trimStartChars (before ++ (c :: cs ++ behind)) = c :: cs ++ behind := (cut_append first visible).2
    have reversed : ∀ d, (c :: cs).reverse.head? = some d → isBlank d = false := by
      rwa [List.head?_reverse]
    rw [List.append_assoc, trimChars, started, trimEndChars, List.reverse_append,
      (cut_append (by simpa using last) reversed).2, List.reverse_reverse]

/-- Blanks around a text make no difference to its trimming. -/
theorem trimChars_append (first : ∀ c ∈ before, isBlank c = true) (last : ∀ c ∈ behind, isBlank c = true)
    (cs : List Char) : trimChars (before ++ cs ++ behind) = trimChars cs := by
  obtain ⟨before', behind', first', last', whole⟩ := exists_trimChars cs
  have around : before ++ cs ++ behind = before ++ before' ++ trimChars cs ++ (behind' ++ behind) := by
    rw [congrArg (before ++ · ++ behind) whole]
    simp only [List.append_assoc]
  rw [around]
  exact trimChars_between (fun c member => (List.mem_append.1 member).elim (first c) (first' c))
    (fun c member => (List.mem_append.1 member).elim (last' c) (last c)) (fun _ => trimChars_head)
    fun _ => trimChars_getLast

theorem pieces_append_of_not_mem {sep : Char} {as bs p : List Char} {ps : List (List Char)} (apart : sep ∉ as)
    (cut : pieces sep bs = p :: ps) : pieces sep (as ++ bs) = (as ++ p) :: ps := by
  induction as with
  | nil => exact cut
  | cons a as ih =>
    simp only [List.mem_cons, not_or] at apart
    simp [pieces, ih apart.2, Ne.symm apart.1]

theorem mem_of_mem_pieces {sep c : Char} {cs p : List Char} (among : p ∈ pieces sep cs) (inside : c ∈ p) :
    c ∈ cs := by
  rw [← join_pieces sep cs]
  generalize pieces sep cs = ps at among ⊢
  induction ps with
  | nil => cases among
  | cons q ps ih =>
    obtain rfl | later := List.mem_cons.1 among
    · cases ps <;> simp [join, inside]
    · cases ps with
      | nil => cases later
      | cons r ps => exact List.mem_append_right _ (ih later)

/-- Blanks around a text go to its first and to its last piece, which are trimmed. -/
theorem map_trimChars_pieces_append {before behind : List Char} (visible : isBlank sep = false)
    (first : ∀ c ∈ before, isBlank c = true) (last : ∀ c ∈ behind, isBlank c = true) (cs : List Char) :
    (pieces sep (before ++ cs ++ behind)).map trimChars = (pieces sep cs).map trimChars := by
  by_cases cut : sep ∈ cs
  · -- Each half is shorter and has blanks on its outer side only.
    obtain ⟨left, right, rfl⟩ := List.append_of_mem cut
    have around : before ++ (left ++ sep :: right) ++ behind =
        before ++ left ++ [] ++ sep :: ([] ++ right ++ behind) := by simp
    have none : ∀ c ∈ ([] : List Char), isBlank c = true := fun _ member => absurd member List.not_mem_nil
    rw [around, pieces_append, pieces_append, List.map_append, List.map_append]
    congr 1
    · exact map_trimChars_pieces_append visible first none left
    · exact map_trimChars_pieces_append visible none last right
  · have whole : sep ∉ before ++ cs ++ behind := by
      simp [not_mem_of_blank visible first, not_mem_of_blank visible last, cut]
    rw [pieces_of_not_mem whole, pieces_of_not_mem cut, List.map_singleton, List.map_singleton,
      trimChars_append first last]
termination_by cs.length
decreasing_by all_goals grind

theorem map_trimChars_pieces (visible : isBlank sep = false) (cs : List Char) :
    (pieces sep (trimChars cs)).map trimChars = (pieces sep cs).map trimChars := by
  obtain ⟨before, behind, first, last, whole⟩ := exists_trimChars cs
  have around := map_trimChars_pieces_append visible first last (trimChars cs)
  rw [← whole] at around
  exact around.symm

end PgMetrics.Text
