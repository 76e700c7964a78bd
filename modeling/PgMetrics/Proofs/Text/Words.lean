import PgMetrics.Text.Blank

namespace PgMetrics.Text

/-- A word has at least one character, and no blank among them. -/
def IsWord (w : List Char) : Prop :=
  w ≠ [] ∧ ∀ c ∈ w, isBlank c = false

/-- A text that consists of some words, in their order, and of blanks. Behind a word comes a blank or nothing. -/
inductive Worded : List Char → List (List Char) → Prop
  | nil : Worded [] []
  | blank {c cs ws} : isBlank c = true → Worded cs ws → Worded (c :: cs) ws
  | word {w cs ws} : IsWord w → (∀ c, cs.head? = some c → isBlank c = true) → Worded cs ws →
      Worded (w ++ cs) (w :: ws)

variable {w cs as bs : List Char} {ws vs : List (List Char)} {b : Char}

theorem exists_worded (cs : List Char) : ∃ ws, Worded cs ws := by
  induction cs with
  | nil => exact ⟨[], .nil⟩
  | cons c cs ih =>
    obtain ⟨ws, worded⟩ := ih
    cases here : isBlank c with
    | true => exact ⟨ws, .blank here worded⟩
    | false =>
      have alone : IsWord [c] := ⟨List.cons_ne_nil _ _, by simpa using here⟩
      -- The character begins a word of its own unless a word follows at once.
      cases worded with
      | nil => exact ⟨[[c]], .word alone (by simp) .nil⟩
      | @blank d ds _ blank rest =>
        have first : ∀ e, (d :: ds).head? = some e → isBlank e = true := by simpa using blank
        exact ⟨[c] :: ws, .word alone first (.blank blank rest)⟩
      | @word w cs ws isWord first rest =>
        have longer : IsWord (c :: w) := ⟨List.cons_ne_nil _ _, List.forall_mem_cons.2 ⟨here, isWord.2⟩⟩
        exact ⟨(c :: w) :: ws, .word longer first rest⟩

theorem cutWords_append (plain : ∀ c ∈ w, isBlank c = false) (cs : List Char) :
    cutWords (w ++ cs) = (w ++ (cutWords cs).1, (cutWords cs).2) := by
  induction w with
  | nil => rfl
  | cons c w ih =>
    obtain ⟨here, later⟩ := List.forall_mem_cons.1 plain
    simp [cutWords, ih later, here]

theorem words_append_of_word (isWord : IsWord w) (first : ∀ c, cs.head? = some c → isBlank c = true) :
    words (w ++ cs) = w :: words cs := by
  obtain ⟨c, w, rfl⟩ := List.exists_cons_of_ne_nil isWord.1
  rw [words, cutWords_append isWord.2]
  cases cs with
  | nil => simp [words, cutWords, closeWord]
  | cons d cs => simp [words, cutWords, closeWord, first d rfl]

/-- The words are those of which the text consists. -/
theorem words_eq_iff : words cs = ws ↔ Worded cs ws := by
  have unique {cs ws} (worded : Worded cs ws) : words cs = ws := by
    induction worded with
    | nil => rfl
    | blank here _ ih => rw [words_cons_blank _ here, ih]
    | word isWord first _ ih => rw [words_append_of_word isWord first, ih]
  refine ⟨?_, unique⟩
  rintro rfl
  obtain ⟨ws, worded⟩ := exists_worded cs
  rwa [unique worded]

theorem Worded.append (first : Worded as ws) (blank : isBlank b = true) (second : Worded bs vs) :
    Worded (as ++ b :: bs) (ws ++ vs) := by
  induction first with
  | nil => exact .blank blank second
  | blank here _ ih => exact .blank here ih
  | @word w cs ws isWord next _ ih =>
    rw [List.append_assoc]
    refine .word isWord ?_ ih
    intro c head
    cases cs with
    | nil =>
      cases head
      exact blank
    | cons d ds => exact next c head

/-- A blank between two texts keeps their words apart. -/
theorem words_append_blank (blank : isBlank b = true) (as bs : List Char) :
    words (as ++ b :: bs) = words as ++ words bs :=
  words_eq_iff.2 ((words_eq_iff.1 rfl).append blank (words_eq_iff.1 rfl))

theorem words_of_word (isWord : IsWord w) : words w = [w] := by
  have alone := @words_append_of_word w [] isWord (by simp)
  rwa [List.append_nil] at alone

theorem words_intercalate (areWords : ∀ w ∈ ws, IsWord w) : words ([' '].intercalate ws) = ws := by
  induction ws with
  | nil => rfl
  | cons w ws ih =>
    obtain ⟨first, later⟩ := List.forall_mem_cons.1 areWords
    cases ws with
    | nil => simpa [List.intercalate] using words_of_word first
    | cons v vs =>
      have apart : [' '].intercalate (w :: v :: vs) = w ++ ' ' :: [' '].intercalate (v :: vs) := by
        simp [List.intercalate]
      rw [apart, words_append_blank (by decide), words_of_word first, ih later]
      rfl

end PgMetrics.Text
