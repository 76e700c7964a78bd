namespace PgMetrics.Text

/-- A character of Unicode's property White_Space. -/
def isBlank (c : Char) : Bool :=
  let n := c.toNat
  (9 ≤ n && n ≤ 13) || n == 0x20 || n == 0x85 || n == 0xA0 || n == 0x1680 ||
    (0x2000 ≤ n && n ≤ 0x200A) || n == 0x2028 || n == 0x2029 || n == 0x202F || n == 0x205F ||
    n == 0x3000

theorem isBlank_of_isDigit {c : Char} (h : c.isDigit = true) : isBlank c = false := by
  have bounds : 48 ≤ c.toNat ∧ c.toNat ≤ 57 := by
    simp only [Char.isDigit, Bool.and_eq_true, decide_eq_true_eq, ge_iff_le] at h
    exact ⟨UInt32.le_iff_toNat_le.1 h.1, UInt32.le_iff_toNat_le.1 h.2⟩
  simp [isBlank]
  omega

/-- The blanks at the end are dropped by dropping those at the front of the reversed text. -/
def trimEndChars (cs : List Char) : List Char :=
  (cs.reverse.dropWhile isBlank).reverse

def trimStartChars (cs : List Char) : List Char :=
  cs.dropWhile isBlank

def trimChars (cs : List Char) : List Char :=
  trimEndChars (trimStartChars cs)

/-- The text without the blanks at its two ends. -/
def trim (s : String) : String :=
  String.ofList (trimChars s.toList)

/-- Adds a word to those after it, unless it is empty. -/
def closeWord : List Char → List (List Char) → List (List Char)
  | [], ws => ws
  | c :: w, ws => (c :: w) :: ws

/-- The word that the text begins with, empty at a blank, and the words after it. -/
def cutWords : List Char → List Char × List (List Char)
  | [] => ([], [])
  | c :: cs =>
    let (w, ws) := cutWords cs
    if isBlank c then ([], closeWord w ws) else (c :: w, ws)

/-- The maximal runs of non-blank characters, in order. -/
def words (cs : List Char) : List (List Char) :=
  closeWord (cutWords cs).1 (cutWords cs).2

theorem dropWhile_eq_self_of_head {p : Char → Bool} :
    ∀ {cs : List Char}, (∀ c, cs.head? = some c → p c = false) → cs.dropWhile p = cs
  | [], _ => rfl
  | c :: cs, h => by simp [h c rfl]

theorem head_dropWhile {p : Char → Bool} :
    ∀ {cs : List Char} {c : Char}, (cs.dropWhile p).head? = some c → p c = false
  | [], _, h => by simp at h
  | d :: ds, c, h => by
    by_cases hd : p d = true
    · rw [List.dropWhile_cons_of_pos hd] at h
      exact head_dropWhile h
    · rw [List.dropWhile_cons_of_neg hd] at h
      simp only [List.head?_cons, Option.some.injEq] at h
      simpa [h] using hd

theorem trimEndChars_getLast {cs : List Char} {c : Char}
    (h : (trimEndChars cs).getLast? = some c) : isBlank c = false := by
  rw [trimEndChars, List.getLast?_reverse] at h
  exact head_dropWhile h

theorem trimEndChars_prefix (cs : List Char) : trimEndChars cs <+: cs := by
  rw [trimEndChars, ← List.reverse_suffix, List.reverse_reverse]
  exact List.dropWhile_suffix _

theorem trimChars_getLast {cs : List Char} {c : Char}
    (h : (trimChars cs).getLast? = some c) : isBlank c = false :=
  trimEndChars_getLast h

theorem trimChars_head {cs : List Char} {c : Char}
    (h : (trimChars cs).head? = some c) : isBlank c = false := by
  obtain ⟨t, ht⟩ := trimEndChars_prefix (trimStartChars cs)
  refine @head_dropWhile isBlank cs c ?_
  change (trimStartChars cs).head? = some c
  rw [← ht]
  change (trimEndChars (trimStartChars cs)).head? = some c at h
  rw [List.head?_append, h]
  rfl

theorem trimEndChars_eq_self {cs : List Char}
    (h : ∀ c, cs.getLast? = some c → isBlank c = false) : trimEndChars cs = cs := by
  rw [trimEndChars, dropWhile_eq_self_of_head, List.reverse_reverse]
  intro c hc
  exact h c (by rwa [List.head?_reverse] at hc)

/-- A text with no blank at either end is its own trimming. -/
theorem trimChars_eq_self {cs : List Char} (first : ∀ c, cs.head? = some c → isBlank c = false)
    (last : ∀ c, cs.getLast? = some c → isBlank c = false) : trimChars cs = cs := by
  rw [trimChars, trimStartChars, dropWhile_eq_self_of_head first, trimEndChars_eq_self last]

theorem trimChars_trimChars (cs : List Char) : trimChars (trimChars cs) = trimChars cs :=
  trimChars_eq_self (fun _ h => trimChars_head h) (fun _ h => trimChars_getLast h)

theorem trim_trim (s : String) : trim (trim s) = trim s := by
  rw [trim, trim, String.toList_ofList, trimChars_trimChars]

theorem words_cons_blank {c : Char} (cs : List Char) (h : isBlank c = true) :
    words (c :: cs) = words cs := by
  simp [words, cutWords, h, closeWord]

end PgMetrics.Text
