import PgMetrics.Text.Utf8

namespace PgMetrics.Percent

def hexDigit (n : Nat) : Char :=
  if n < 10 then Char.ofNat (48 + n) else Char.ofNat (55 + n)

def hexValue? (c : Char) : Option Nat :=
  if c.isDigit then some (c.toNat - 48)
  else if 'a' ≤ c ∧ c ≤ 'f' then some (c.toNat - 87)
  else if 'A' ≤ c ∧ c ≤ 'F' then some (c.toNat - 55)
  else none

def encodeByte (b : UInt8) : List Char :=
  ['%', hexDigit (b.toNat / 16), hexDigit (b.toNat % 16)]

/-- A character, or its bytes if the set asks for it. -/
def encodeChar (encoded : Char → Bool) (c : Char) : List Char :=
  if encoded c then (String.utf8EncodeChar c).flatMap encodeByte else [c]

def encode (encoded : Char → Bool) (cs : List Char) : List Char :=
  cs.flatMap (encodeChar encoded)

/-- The byte that two digits write. -/
def byte? (high low : Char) : Option UInt8 :=
  match hexValue? high, hexValue? low with
  | some h, some l => some (UInt8.ofNat (h * 16 + l))
  | _, _ => none

/-- The bytes of a text; a percent sign without two digits stands for itself. -/
def decode : List Char → List UInt8
  | [] => []
  | c :: cs =>
    match c, cs with
    | '%', high :: low :: rest =>
      match byte? high low with
      | some b => b :: decode rest
      | none => String.utf8EncodeChar '%' ++ decode (high :: low :: rest)
    | c, cs => String.utf8EncodeChar c ++ decode cs

/-- The text that percent-encoding hides, if its bytes are one. -/
def decodeText (cs : List Char) : Option String :=
  Text.decode ⟨(decode cs).toArray⟩

def isControl (c : Char) : Bool :=
  c.toNat < 0x20 || c.toNat == 0x7F

/-- Control characters and everything outside of ASCII. -/
def hostSet (c : Char) : Bool :=
  isControl c || 0x7F < c.toNat

def fragmentSet (c : Char) : Bool :=
  hostSet c || c ∈ [' ', '"', '<', '>', '\x60']

def querySet (c : Char) : Bool :=
  hostSet c || c ∈ [' ', '"', '#', '<', '>']

def pathSet (c : Char) : Bool :=
  fragmentSet c || c ∈ ['#', '?', '\x7b', '\x7d']

def userSet (c : Char) : Bool :=
  pathSet c || c ∈ ['/', ':', ';', '=', '@', '[', '\\', ']', '^', '|']

theorem byte?_hexDigit (b : UInt8) :
    byte? (hexDigit (b.toNat / 16)) (hexDigit (b.toNat % 16)) = some b := by
  have table : ∀ n : Fin 256,
      byte? (hexDigit (n.val / 16)) (hexDigit (n.val % 16)) = some (UInt8.ofNat n.val) := by
    decide +kernel
  have := table ⟨b.toNat, b.toNat_lt⟩
  simpa using this

theorem decode_encodeByte (b : UInt8) (cs : List Char) :
    decode (encodeByte b ++ cs) = b :: decode cs := by
  simp only [encodeByte, List.cons_append, List.nil_append]
  rw [decode, byte?_hexDigit]

theorem decode_encodeBytes (bs : List UInt8) (cs : List Char) :
    decode (bs.flatMap encodeByte ++ cs) = bs ++ decode cs := by
  induction bs with
  | nil => rfl
  | cons b bs ih =>
    simp only [List.flatMap_cons, List.append_assoc, List.cons_append, decode_encodeByte, ih]

theorem decode_cons {c : Char} (cs : List Char) (h : c ≠ '%') :
    decode (c :: cs) = String.utf8EncodeChar c ++ decode cs := by
  rw [decode]
  intro _ _ _ hc
  exact absurd hc h

/-- What is encoded with the percent sign in the set is read back, with anything behind it. -/
theorem decode_encode_append {encoded : Char → Bool} (percent : encoded '%' = true)
    (cs rest : List Char) :
    decode (encode encoded cs ++ rest) = cs.flatMap String.utf8EncodeChar ++ decode rest := by
  induction cs with
  | nil => rfl
  | cons c cs ih =>
    simp only [encode, List.flatMap_cons, List.append_assoc] at ih ⊢
    by_cases h : encoded c = true
    · rw [encodeChar, if_pos h, decode_encodeBytes, ih]
    · have ne : c ≠ '%' := fun e => h (e ▸ percent)
      rw [encodeChar, if_neg h, List.cons_append, List.nil_append, decode_cons _ ne, ih]

theorem decode_encode {encoded : Char → Bool} (percent : encoded '%' = true) (cs : List Char) :
    decode (encode encoded cs) = cs.flatMap String.utf8EncodeChar := by
  have := decode_encode_append percent cs []
  simpa [decode] using this

end PgMetrics.Percent
