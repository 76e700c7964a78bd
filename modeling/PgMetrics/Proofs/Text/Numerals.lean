import PgMetrics.Text.Integer

namespace PgMetrics.Text

/-- Digits, of which there must be one, write the number that they are in base ten. A plus sign may stand before
them. -/
inductive Numeral : List Char → Nat → Prop
  | plain {cs} : cs ≠ [] → (∀ c ∈ cs, c.isDigit = true) → Numeral cs (Nat.ofDigitChars 10 cs 0)
  | signed {cs} : cs ≠ [] → (∀ c ∈ cs, c.isDigit = true) → Numeral ('+' :: cs) (Nat.ofDigitChars 10 cs 0)

variable {limit n m : Nat} {excess : IntegerError} {cs : List Char} {c : Char}

theorem le_ofDigitChars (cs : List Char) (n : Nat) : n ≤ Nat.ofDigitChars 10 cs n := by
  induction cs generalizing n with
  | nil => simp
  | cons c cs ih =>
    rw [Nat.ofDigitChars_cons]
    have step := ih (10 * n + (c.toNat - '0'.toNat))
    omega

/-- The digits that are read from the left never pass the limit if the whole number does not. -/
theorem readDigits_eq_ok_iff (start : n ≤ limit) : readDigits limit excess n cs = .ok m ↔
    (∀ c ∈ cs, c.isDigit = true) ∧ Nat.ofDigitChars 10 cs n = m ∧ m ≤ limit := by
  induction cs generalizing n with
  | nil =>
    simp only [readDigits, Nat.ofDigitChars_nil, Except.ok.injEq]
    constructor
    · rintro rfl
      exact ⟨by simp, rfl, start⟩
    · exact fun ⟨_, same, _⟩ => same
  | cons c cs ih =>
    have next : n * 10 + (c.toNat - 48) = 10 * n + (c.toNat - '0'.toNat) := by
      rw [Nat.mul_comm]
      rfl
    rw [readDigits, Nat.ofDigitChars_cons, List.forall_mem_cons]
    cases digit : c.isDigit with
    | false => simp
    | true =>
      dsimp only
      rw [if_pos rfl, next]
      split
      · rename_i within
        rw [ih within]
        simp
      · rename_i beyond
        have grows := le_ofDigitChars cs (10 * n + (c.toNat - '0'.toNat))
        constructor
        · intro failed
          cases failed
        · rintro ⟨_, rfl, le⟩
          exact absurd (Nat.le_trans grows le) beyond

theorem Numeral.ne_nil (numeral : Numeral cs n) : cs ≠ [] := by
  cases numeral with
  | plain ne => exact ne
  | signed => exact List.cons_ne_nil _ _

theorem Numeral.mem (numeral : Numeral cs n) (member : c ∈ cs) : c = '+' ∨ c.isDigit = true := by
  cases numeral with
  | plain _ digits => exact .inr (digits c member)
  | signed _ digits =>
    obtain rfl | later := List.mem_cons.1 member
    · exact .inl rfl
    · exact .inr (digits c later)

theorem numeral_toDigits (n : Nat) : Numeral (Nat.toDigits 10 n) n := by
  have numeral := Numeral.plain (@Nat.toDigits_ne_nil n 10)
    fun c member => Nat.isDigit_of_mem_toDigits (by decide) (by decide) member
  rwa [Nat.ofDigitChars_ten_toDigits] at numeral

/-- Exactly the numerals are read whose numbers are within the limit. -/
theorem readNatural_eq_ok_iff : readNatural limit cs = .ok n ↔ Numeral cs n ∧ n ≤ limit := by
  unfold readNatural
  split
  · simp only [reduceCtorEq, false_iff]
    rintro ⟨numeral, _⟩
    exact numeral.ne_nil rfl
  · simp only [reduceCtorEq, false_iff]
    rintro ⟨numeral, _⟩
    cases numeral with
    | plain _ digits => exact absurd (digits '+' (List.mem_singleton_self _)) (by decide)
    | signed ne => exact ne rfl
  · rename_i cs ne
    rw [readDigits_eq_ok_iff (Nat.zero_le _)]
    constructor
    · rintro ⟨digits, rfl, le⟩
      exact ⟨.signed ne digits, le⟩
    · rintro ⟨numeral, le⟩
      cases numeral with
      | plain _ digits => exact absurd (digits '+' (List.mem_cons_self ..)) (by decide)
      | signed _ digits => exact ⟨digits, rfl, le⟩
  · rename_i ne _ unsigned
    rw [readDigits_eq_ok_iff (Nat.zero_le _)]
    constructor
    · rintro ⟨digits, rfl, le⟩
      exact ⟨.plain ne digits, le⟩
    · rintro ⟨numeral, le⟩
      cases numeral with
      | plain _ digits => exact ⟨digits, rfl, le⟩
      | signed => exact absurd rfl (unsigned _)

end PgMetrics.Text
