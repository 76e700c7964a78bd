import PgMetrics.Proofs.Dsn.Credentials
import PgMetrics.Proofs.Text.Cuts

namespace PgMetrics

theorem Locator.upTo_append_of_not_mem {mark : Char} {as : List Char} (apart : mark ∉ as) (bs : List Char) :
    upTo [mark] (as ++ bs) = (as ++ (upTo [mark] bs).1, (upTo [mark] bs).2) := by
  have kept : ∀ c ∈ as, (!([mark].contains c)) = true := fun c member => by
    simpa using fun same : c = mark => apart (same ▸ member)
  rw [upTo, List.takeWhile_append_of_pos kept, List.dropWhile_append_of_pos kept]
  rfl

theorem Locator.upTo_of_not_mem {mark : Char} {cs : List Char} (apart : mark ∉ cs) : upTo [mark] cs = (cs, []) := by
  have whole : upTo [mark] (cs ++ []) = (cs ++ [], []) := upTo_append_of_not_mem apart []
  rwa [List.append_nil] at whole

theorem Locator.upTo_optional {mark : Char} {before : List Char} (apart : mark ∉ before) (behind : Option (List Char)) :
    upTo [mark] (before ++ Url.optional mark behind) = (before, Url.optional mark behind) := by
  rw [upTo_append_of_not_mem apart]
  cases behind <;> simp [Url.optional, upTo]

/-- A text is cut at its first mark, if it has one. -/
theorem Locator.exists_cut (mark : Char) (cs : List Char) :
    ∃ before behind, cs = before ++ Url.optional mark behind ∧ mark ∉ before := by
  obtain ⟨whole, apart, rest⟩ := @eq_of_upTo cs mark _ _ rfl
  obtain none_ | ⟨behind, atMark⟩ := rest
  · exact ⟨_, none, by rwa [none_] at whole, apart⟩
  · exact ⟨_, some behind, by rwa [atMark] at whole, apart⟩

theorem Locator.upTo_cons_of_ne {mark c : Char} (ne : c ≠ mark) (cs : List Char) :
    upTo [mark] (c :: cs) = (c :: (upTo [mark] cs).1, (upTo [mark] cs).2) :=
  upTo_append_of_not_mem (by simpa using Ne.symm ne : mark ∉ [c]) cs

namespace Percent

/-- Some characters of the text are written as their bytes in the second spelling, but none of the marks. -/
inductive Respells (marks : List Char) : List Char → List Char → Prop
  | nil : Respells marks [] []
  | kept {c cs ds} : Respells marks cs ds → Respells marks (c :: cs) (c :: ds)
  | encoded {c cs ds} : c ∉ marks → c ≠ '%' → hexValue? c = none → Respells marks cs ds →
      Respells marks (c :: cs) ((String.utf8EncodeChar c).flatMap encodeByte ++ ds)

variable {marks : List Char} {mark : Char} {cs ds cs' ds' : List Char}

theorem exists_encodeBytes (c : Char) :
    ∃ high low more, (String.utf8EncodeChar c).flatMap encodeByte = '%' :: high :: low :: more := by
  have some_ : String.utf8EncodeChar c ≠ [] := by
    intro empty
    have size := String.length_utf8EncodeChar c
    rw [empty] at size
    have positive := c.utf8Size_pos
    simp at size
    omega
  obtain ⟨b, bs, bytes⟩ := List.exists_cons_of_ne_nil some_
  rw [bytes]
  exact ⟨_, _, _, rfl⟩

/-- A percent sign stands for itself unless two digits follow. -/
theorem decode_percent (apart : ∀ high low rest, cs = high :: low :: rest → byte? high low = none) :
    decode ('%' :: cs) = String.utf8EncodeChar '%' ++ decode cs := by
  obtain _ | ⟨high, _ | ⟨low, rest⟩⟩ := cs
  · simp [decode]
  · simp [decode]
  · rw [decode, apart high low rest rfl]

theorem decodeText_eq_some_iff {s : String} : decodeText cs = some s ↔ decode cs = ConnectionSettings.bytesOf s := by
  constructor
  · exact decode_of_decodeText
  · intro bytes
    rw [decodeText, bytes]
    exact Text.decode_encode s

theorem flatMap_utf8EncodeChar_injective :
    Function.Injective (List.flatMap String.utf8EncodeChar) := by
  intro cs ds same
  have bytes : ConnectionSettings.bytesOf (String.ofList cs) = ConnectionSettings.bytesOf (String.ofList ds) := by
    rw [bytesOf_eq, bytesOf_eq, String.toList_ofList, String.toList_ofList, same]
  have text (s : String) : Text.decode ⟨(ConnectionSettings.bytesOf s).toArray⟩ = some s := Text.decode_encode s
  have texts := text (String.ofList cs)
  rw [bytes, text] at texts
  exact (String.ofList_injective (Option.some.inj texts)).symm

/-- Reading escapes makes a text shorter, if there are any. -/
theorem decode_length_le (cs : List Char) : (decode cs).length ≤ (cs.flatMap String.utf8EncodeChar).length ∧
    ((decode cs).length = (cs.flatMap String.utf8EncodeChar).length → decode cs = cs.flatMap String.utf8EncodeChar) := by
  have positive (c : Char) : 0 < (String.utf8EncodeChar c).length := by
    rw [String.length_utf8EncodeChar]
    exact c.utf8Size_pos
  fun_induction decode cs with
  | case1 => simp
  | case2 high low rest b digits ih =>
    have atSign := positive '%'
    have atHigh := positive high
    have atLow := positive low
    simp only [List.flatMap_cons, List.length_append, List.length_cons]
    exact ⟨by omega, fun same => by omega⟩
  | case3 high low rest digits ih =>
    rw [List.flatMap_cons, List.length_append, List.length_append, List.append_cancel_left_eq]
    exact ⟨by omega, fun same => ih.2 (by omega)⟩
  | case4 c cs other ih =>
    rw [List.flatMap_cons, List.length_append, List.length_append, List.append_cancel_left_eq]
    exact ⟨by omega, fun same => ih.2 (by omega)⟩

theorem lt_of_hexValue? {c : Char} (digit : hexValue? c ≠ none) : c.toNat < 128 := by
  by_contra high
  refine digit ?_
  have le {d : Char} (low : d.toNat < 128) : ¬c ≤ d := fun le => high (Nat.lt_of_le_of_lt le low)
  unfold hexValue?
  rw [if_neg, if_neg, if_neg]
  · exact fun h => le (by decide) h.2
  · exact fun h => le (by decide) h.2
  · exact fun h => high (Nat.lt_of_le_of_lt (Char.isDigit_iff_toNat.1 h).2 (by decide))

/-- Bytes are written with percent signs and digits of base sixteen. -/
theorem of_mem_signs {c : Char} (member : c ∈ "%0123456789ABCDEF".toList) : c = '%' ∨ hexValue? c ≠ none := by
  have table : "%0123456789ABCDEF".toList.all (fun c => c = '%' ∨ hexValue? c ≠ none) = true := by decide
  exact of_decide_eq_true (List.all_eq_true.1 table c member)

/-- Neither the percent sign nor a digit of base sixteen is in the largest set of characters to encode. -/
theorem apart_of_userSet {c : Char} (encoded : userSet c = true) : c ≠ '%' ∧ hexValue? c = none := by
  have table : ∀ n : Fin 128, Char.ofNat n = '%' ∨ hexValue? (Char.ofNat n) ≠ none → userSet (Char.ofNat n) = false := by
    decide
  by_contra other
  rw [not_and_or, not_not] at other
  have low : c.toNat < 128 := other.elim (fun sign => sign ▸ by decide) lt_of_hexValue?
  have plain := table ⟨c.toNat, low⟩
  simp only [Char.ofNat_toNat] at plain
  rw [plain other] at encoded
  cases encoded

theorem userSet_of_pathSet {c : Char} (encoded : pathSet c = true) : userSet c = true := by
  simp [userSet, encoded]

theorem userSet_of_fragmentSet {c : Char} (encoded : fragmentSet c = true) : userSet c = true := by
  simp [userSet, pathSet, encoded]

theorem userSet_of_hostSet {c : Char} (encoded : hostSet c = true) : userSet c = true := by
  simp [userSet, pathSet, fragmentSet, encoded]

theorem userSet_of_querySet {c : Char} (encoded : querySet c = true) : userSet c = true := by
  simp only [userSet, querySet, pathSet, fragmentSet, Bool.or_eq_true, decide_eq_true_eq] at encoded ⊢
  grind

namespace Respells

theorem refl (marks cs : List Char) : Respells marks cs cs := by
  induction cs with
  | nil => exact .nil
  | cons c cs ih => exact .kept ih

theorem append (first : Respells marks cs ds) (later : Respells marks cs' ds') :
    Respells marks (cs ++ cs') (ds ++ ds') := by
  induction first with
  | nil => exact later
  | kept _ ih => exact .kept ih
  | encoded other sign digit _ ih =>
    rw [List.append_assoc]
    exact .encoded other sign digit ih

theorem eq_nil_iff (respells : Respells marks cs ds) : ds = [] ↔ cs = [] := by
  cases respells with
  | nil => simp
  | kept => simp
  | @encoded c =>
    obtain ⟨high, low, more, bytes⟩ := exists_encodeBytes c
    simp [bytes]

/-- Every character is there in both spellings, but for the percent signs before encoded bytes. -/
theorem of_cons {d : Char} (respells : Respells marks cs (d :: ds)) :
    d = '%' ∨ ∃ cs', cs = d :: cs' ∧ Respells marks cs' ds := by
  generalize spelled : d :: ds = whole at respells
  cases respells with
  | nil => cases spelled
  | kept respells =>
    obtain ⟨rfl, rfl⟩ := List.cons.inj spelled
    exact .inr ⟨_, rfl, respells⟩
  | @encoded c cs ds' _ _ _ respells =>
    obtain ⟨high, low, more, bytes⟩ := exists_encodeBytes c
    rw [bytes] at spelled
    exact .inl (List.cons.inj spelled).1

theorem mem {c : Char} (respells : Respells marks cs ds) (member : c ∈ ds) : c ∈ cs ∨ c ∈ "%0123456789ABCDEF".toList := by
  induction respells with
  | nil => cases member
  | kept _ ih =>
    obtain rfl | later := List.mem_cons.1 member
    · exact .inl (List.mem_cons_self ..)
    · exact (ih later).imp_left (List.mem_cons_of_mem _)
  | encoded _ _ _ _ ih =>
    obtain bytes | later := List.mem_append.1 member
    · exact .inr (mem_encodeBytes bytes)
    · exact (ih later).imp_left (List.mem_cons_of_mem _)

/-- Marks, percent signs and digits are never encoded. -/
theorem of_plain {c : Char} (respells : Respells marks (c :: cs) ds)
    (plain : c ∈ marks ∨ c = '%' ∨ hexValue? c ≠ none) : ∃ ds', ds = c :: ds' ∧ Respells marks cs ds' := by
  cases respells with
  | kept respells => exact ⟨_, rfl, respells⟩
  | encoded notMark sign none_ _ => exact absurd none_ ((plain.resolve_left notMark).resolve_left sign)

/-- Where no two digits are in one spelling, there are none in the other. -/
theorem byte?_eq_none (respells : Respells marks cs ds)
    (apart : ∀ high low rest, cs = high :: low :: rest → byte? high low = none) (high low : Char) (rest : List Char)
    (begins : ds = high :: low :: rest) : byte? high low = none := by
  subst begins
  obtain rfl | ⟨cs', rfl, later⟩ := respells.of_cons
  · rfl
  · obtain rfl | ⟨cs'', rfl, -⟩ := later.of_cons
    · unfold byte?
      split <;> rename_i digit
      · cases digit
      · rfl
    · exact apart high low cs'' rfl

/-- Both spellings stand for the same bytes. -/
theorem decode_eq (respells : Respells marks cs ds) : decode ds = decode cs := by
  fun_induction decode cs generalizing ds with
  | case1 =>
    rw [respells.eq_nil_iff.2 rfl]
    rfl
  | case2 high low rest b digits ih =>
    obtain ⟨digit, digit'⟩ : hexValue? high ≠ none ∧ hexValue? low ≠ none := by
      unfold byte? at digits
      constructor <;> intro none_ <;> simp [none_] at digits
    obtain ⟨ds, rfl, atHigh⟩ := respells.of_plain (.inr (.inl rfl))
    obtain ⟨ds, rfl, atLow⟩ := atHigh.of_plain (.inr (.inr digit))
    obtain ⟨ds, rfl, behind⟩ := atLow.of_plain (.inr (.inr digit'))
    rw [decode, digits, ih behind]
  | case3 high low rest digits ih =>
    obtain ⟨ds, rfl, behind⟩ := respells.of_plain (.inr (.inl rfl))
    rw [decode_percent (behind.byte?_eq_none ?_), ih behind]
    rintro _ _ _ ⟨⟩
    exact digits
  | case4 c cs other ih =>
    cases respells with
    | encoded _ _ _ behind => rw [decode_encodeBytes, ih behind]
    | kept behind =>
      by_cases sign : c = '%'
      · subst sign
        rw [decode_percent (behind.byte?_eq_none ?_), ih behind]
        rintro high low rest rfl
        exact absurd rfl (other high low rest rfl)
      · rw [decode_cons _ sign, ih behind]

/-- Both spellings are cut at the same place. -/
theorem upTo (respells : Respells marks cs ds) (isMark : mark ∈ marks) (other : mark ∉ "%0123456789ABCDEF".toList) :
    Respells marks (Locator.upTo [mark] cs).1 (Locator.upTo [mark] ds).1 ∧
      Respells marks (Locator.upTo [mark] cs).2 (Locator.upTo [mark] ds).2 := by
  induction respells with
  | nil => exact ⟨.nil, .nil⟩
  | @kept c cs ds behind ih =>
    by_cases same : c = mark
    · simpa [Locator.upTo, same] using ⟨Respells.nil, behind.kept⟩
    · rw [Locator.upTo_cons_of_ne same, Locator.upTo_cons_of_ne same]
      exact ⟨ih.1.kept, ih.2⟩
  | @encoded c cs ds notMark sign digit _ ih =>
    have apart : mark ∉ (String.utf8EncodeChar c).flatMap encodeByte := fun member => other (mem_encodeBytes member)
    have ne : c ≠ mark := fun same => notMark (same ▸ isMark)
    rw [Locator.upTo_append_of_not_mem apart, Locator.upTo_cons_of_ne ne]
    exact ⟨.encoded notMark sign digit ih.1, ih.2⟩

/-- What is behind the first mark. -/
theorem behind (respells : Respells marks cs ds) (isMark : mark ∈ marks) (other : mark ∉ "%0123456789ABCDEF".toList) :
    Respells marks ((Locator.upTo [mark] cs).2.drop 1) ((Locator.upTo [mark] ds).2.drop 1) := by
  obtain ⟨-, rest⟩ := respells.upTo isMark other
  have begins : (Locator.upTo [mark] cs).2 = [] ∨ ∃ more, (Locator.upTo [mark] cs).2 = mark :: more :=
    (@Locator.eq_of_upTo cs mark _ _ rfl).2.2
  obtain empty | ⟨more, atMark⟩ := begins
  · rw [empty] at rest ⊢
    rw [rest.eq_nil_iff.2 rfl]
    exact .nil
  · rw [atMark] at rest ⊢
    obtain ⟨more', atMark', later⟩ := rest.of_plain (.inl isMark)
    rw [atMark']
    exact later

/-- Encoding respells a text. -/
theorem of_encode {encoded : Char → Bool} (plain : ∀ c ∈ marks, encoded c = false)
    (within : ∀ c, encoded c = true → userSet c = true) (cs : List Char) :
    Respells marks cs (encode encoded cs) := by
  induction cs with
  | nil => exact .nil
  | cons c cs ih =>
    rw [encode, List.flatMap_cons, ← encode, encodeChar]
    split
    · rename_i written
      obtain ⟨sign, digit⟩ := apart_of_userSet (within c written)
      refine .encoded (fun isMark => ?_) sign digit ih
      rw [plain c isMark] at written
      cases written
    · exact .kept ih

end Respells

end Percent

end PgMetrics
