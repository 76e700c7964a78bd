namespace PgMetrics.Text

/-- The bytes of a text. -/
def encode (s : String) : ByteArray :=
  s.toUTF8

/-- The text whose bytes these are, if they are well formed. -/
def decode (bytes : ByteArray) : Option String :=
  String.fromUTF8? bytes

theorem decode_encode (s : String) : decode (encode s) = some s := by
  simp only [decode, encode, String.fromUTF8?, String.toUTF8_eq_toByteArray, s.isValidUTF8, dif_pos]
  rfl

theorem encode_of_decode {bytes : ByteArray} {s : String} (h : decode bytes = some s) :
    encode s = bytes := by
  simp only [decode, String.fromUTF8?] at h
  split at h
  · simp only [Option.some.injEq] at h
    subst h
    rfl
  · simp at h

/-- The rest of a character whose first byte asks for one further byte in each range, six bits from
each. Bytes from the first that does not fit stay unread. -/
def continuation : List (Nat × Nat) → Nat → List UInt8 → Option Char × List UInt8
  | [], code, bytes => (some (Char.ofNat code), bytes)
  | _ :: _, _, [] => (none, [])
  | (low, high) :: ranges, code, byte :: bytes =>
    if low ≤ byte.toNat ∧ byte.toNat ≤ high then
      continuation ranges (code * 64 + byte.toNat % 64) bytes
    else (none, byte :: bytes)

/-- The character that starts with a byte, or nothing for the longest run that could have begun one. -/
def nextChar (byte : UInt8) (bytes : List UInt8) : Option Char × List UInt8 :=
  let n := byte.toNat
  let tail := (0x80, 0xBF)
  if n < 0x80 then (some (Char.ofNat n), bytes)
  else if 0xC2 ≤ n ∧ n ≤ 0xDF then continuation [tail] (n % 32) bytes
  else if n = 0xE0 then continuation [(0xA0, 0xBF), tail] 0 bytes
  else if n = 0xED then continuation [(0x80, 0x9F), tail] 0xD bytes
  else if 0xE1 ≤ n ∧ n ≤ 0xEF then continuation [tail, tail] (n % 16) bytes
  else if n = 0xF0 then continuation [(0x90, 0xBF), tail, tail] 0 bytes
  else if 0xF1 ≤ n ∧ n ≤ 0xF3 then continuation [tail, tail, tail] (n % 8) bytes
  else if n = 0xF4 then continuation [(0x80, 0x8F), tail, tail] 4 bytes
  else (none, bytes)

theorem continuation_length (ranges : List (Nat × Nat)) (code : Nat) (bytes : List UInt8) :
    (continuation ranges code bytes).2.length ≤ bytes.length := by
  fun_induction continuation ranges code bytes <;> grind

theorem nextChar_length (byte : UInt8) (bytes : List UInt8) :
    (nextChar byte bytes).2.length ≤ bytes.length := by
  simp only [nextChar]
  grind [continuation_length]

/-- The text of bytes, with U+FFFD for each longest run that begins a character and is none. It is for messages that
must show bytes which are no text. -/
def decodeReplacing : List UInt8 → List Char
  | [] => []
  | byte :: bytes =>
    have := nextChar_length byte bytes
    (nextChar byte bytes).1.getD '\uFFFD' :: decodeReplacing (nextChar byte bytes).2
termination_by bytes => bytes.length

end PgMetrics.Text
