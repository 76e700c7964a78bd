namespace PgMetrics.Text

/-- The parts of a text between the separators, empty ones included. -/
def pieces (sep : Char) : List Char → List (List Char)
  | [] => [[]]
  | c :: cs =>
    if c = sep then [] :: pieces sep cs
    else
      match pieces sep cs with
      | [] => [[c]]
      | p :: ps => (c :: p) :: ps

/-- Puts the separator between the parts. -/
def join (sep : List Char) : List (List Char) → List Char
  | [] => []
  | [p] => p
  | p :: ps => p ++ sep ++ join sep ps

/-- The parts of a text between the separators. -/
def split (sep : Char) (s : String) : List String :=
  (pieces sep s.toList).map String.ofList

theorem pieces_ne_nil (sep : Char) (cs : List Char) : pieces sep cs ≠ [] := by
  cases cs with
  | nil => simp [pieces]
  | cons c cs => grind [pieces]

theorem join_pieces (sep : Char) (cs : List Char) : join [sep] (pieces sep cs) = cs := by
  induction cs with
  | nil => rfl
  | cons c cs ih =>
    simp only [pieces]
    by_cases hc : c = sep
    · obtain ⟨p, ps, hp⟩ := List.exists_cons_of_ne_nil (pieces_ne_nil sep cs)
      rw [if_pos hc, hc, hp]
      rw [hp] at ih
      simp [join, ih]
    · rw [if_neg hc]
      obtain ⟨p, ps, hp⟩ := List.exists_cons_of_ne_nil (pieces_ne_nil sep cs)
      rw [hp] at ih ⊢
      cases ps <;> simp_all [join]

theorem not_mem_of_mem_pieces {sep : Char} {cs p : List Char} (h : p ∈ pieces sep cs) :
    sep ∉ p := by
  induction cs generalizing p with
  | nil => simp_all [pieces]
  | cons c cs ih =>
    simp only [pieces] at h
    split at h
    · rcases List.mem_cons.1 h with rfl | h
      · simp
      · exact ih h
    · rename_i hc
      obtain ⟨q, qs, hq⟩ := List.exists_cons_of_ne_nil (pieces_ne_nil sep cs)
      rw [hq] at h ih
      simp only at h
      rcases List.mem_cons.1 h with rfl | h
      · have := ih (List.mem_cons_self ..)
        grind
      · exact ih (List.mem_cons_of_mem _ h)

/-- A separator between two texts cuts them apart. -/
theorem pieces_append (sep : Char) (as bs : List Char) :
    pieces sep (as ++ sep :: bs) = pieces sep as ++ pieces sep bs := by
  induction as with
  | nil => simp [pieces]
  | cons a as ih =>
    simp only [List.cons_append, pieces, ih]
    split
    · rfl
    · obtain ⟨q, qs, hq⟩ := List.exists_cons_of_ne_nil (pieces_ne_nil sep as)
      simp [hq]

theorem pieces_of_not_mem {sep : Char} {cs : List Char} (apart : sep ∉ cs) : pieces sep cs = [cs] := by
  induction cs with
  | nil => rfl
  | cons c cs ih =>
    simp only [List.mem_cons, not_or] at apart
    simp [pieces, ih apart.2, Ne.symm apart.1]

theorem join_cons_cons (sep : Char) (p q : List Char) (ps : List (List Char)) :
    join [sep] (p :: q :: ps) = p ++ sep :: join [sep] (q :: ps) := by
  simp [join]

/-- Parts without the separator are the pieces of the text that they make up. -/
theorem pieces_join {sep : Char} {ps : List (List Char)} (ne : ps ≠ []) (apart : ∀ p ∈ ps, sep ∉ p) :
    pieces sep (join [sep] ps) = ps := by
  induction ps with
  | nil => exact absurd rfl ne
  | cons p ps ih =>
    obtain ⟨first, later⟩ := List.forall_mem_cons.1 apart
    cases ps with
    | nil => exact pieces_of_not_mem first
    | cons q ps =>
      rw [join_cons_cons, pieces_append, pieces_of_not_mem first, ih (by simp) later, List.singleton_append]

end PgMetrics.Text
