import Mathlib
import PgMetrics.Postgres.Decode
import PgMetrics.Proofs.Decimal.Exact
import PgMetrics.Proofs.Text.Cuts
import PgMetrics.Proofs.Time.Calendar

namespace PgMetrics

open Calendar

namespace Text

variable {w n : Nat} {ds rest : List Char} {c : Char}

/-- A number with zeros before it up to a width. -/
def padded (w n : Nat) : List Char :=
  (Nat.toDigits 10 n).leftpad w '0'

theorem isDigit_of_mem_padded (member : c ∈ padded w n) : c.isDigit = true := by
  obtain zero | digit := List.mem_append.1 member
  · rw [List.eq_of_mem_replicate zero]
    decide
  · exact Nat.isDigit_of_mem_toDigits (by decide) (by decide) digit

theorem length_padded (pos : 0 < w) (fits : n < 10 ^ w) : (padded w n).length = w := by
  rw [padded, List.length_leftpad]
  exact Nat.max_eq_left ((Nat.length_toDigits_le_iff (by decide) pos).2 fits)

theorem ofDigitChars_padded (w n : Nat) : Nat.ofDigitChars 10 (padded w n) 0 = n := by
  rw [padded, List.leftpad, Nat.ofDigitChars_append, Nat.ofDigitChars_replicate_zero, Nat.mul_zero,
    Nat.ofDigitChars_ten_toDigits]

theorem padded_ne_nil (w n : Nat) : padded w n ≠ [] :=
  List.append_ne_nil_of_right_ne_nil _ Nat.toDigits_ne_nil

theorem padded_begins (w n : Nat) : ∃ c cs, padded w n = c :: cs ∧ c.isDigit = true := by
  obtain ⟨c, cs, begins⟩ := List.exists_cons_of_ne_nil (padded_ne_nil w n)
  exact ⟨c, cs, begins, isDigit_of_mem_padded (begins ▸ List.mem_cons_self ..)⟩

theorem ofDigitChars_lt (digits : ∀ c ∈ ds, c.isDigit = true) (n : Nat) :
    Nat.ofDigitChars 10 ds n < (n + 1) * 10 ^ ds.length := by
  induction ds generalizing n with
  | nil => simp
  | cons c cs ih =>
    obtain ⟨digit, later⟩ := List.forall_mem_cons.1 digits
    have value : c.toNat - '0'.toNat ≤ 9 := by
      simp only [Char.isDigit, Bool.and_eq_true, decide_eq_true_eq, UInt32.le_iff_toNat_le] at digit
      have code : c.toNat = c.val.toNat := rfl
      have nine : '9'.val.toNat = 57 := rfl
      have zero : '0'.toNat = 48 := rfl
      omega
    calc Nat.ofDigitChars 10 (c :: cs) n = Nat.ofDigitChars 10 cs (10 * n + (c.toNat - '0'.toNat)) :=
          Nat.ofDigitChars_cons
      _ < (10 * n + (c.toNat - '0'.toNat) + 1) * 10 ^ cs.length := ih later _
      _ ≤ (10 * (n + 1)) * 10 ^ cs.length := Nat.mul_le_mul_right _ (by omega)
      _ = (n + 1) * 10 ^ (c :: cs).length := by rw [List.length_cons, Nat.pow_succ]; ring

end Text

/-- A date and a time of day, with the digits behind the point of a second. -/
structure Moment where
  date : Date
  hour : Nat
  minute : Nat
  second : Nat
  fraction : List Char
  isValid : date.isValid = true
  years : 1 ≤ date.year ∧ date.year ≤ 9999
  withinDay : hour < 24 ∧ minute < 60 ∧ second < 60
  digits : ∀ c ∈ fraction, c.isDigit = true
  precision : fraction.length ≤ 6

/-- How far clocks are before those of UTC, or behind them if it is to the west. -/
structure Offset where
  west : Bool
  hour : Nat
  minute : Option Nat
  hours : hour < 24
  minutes : ∀ n ∈ minute, n < 60

namespace Moment

/-- The point and the digits behind it, if there are any. -/
def point : List Char → List Char
  | [] => []
  | d :: ds => '.' :: d :: ds

def written (m : Moment) : List Char :=
  Text.padded 4 m.date.year.toNat ++ '-' :: (Text.padded 2 m.date.month ++ '-' :: (Text.padded 2 m.date.day ++
    ' ' :: (Text.padded 2 m.hour ++ ':' :: (Text.padded 2 m.minute ++ ':' :: (Text.padded 2 m.second ++
      point m.fraction)))))

/-- The instant at that time in UTC. -/
def timestamp (m : Moment) : Timestamp where
  seconds := m.date.dayNumber * 86400 + Timestamp.secondsOfDay m.hour m.minute m.second
  nanos := Nat.ofDigitChars 10 m.fraction 0 * 10 ^ (9 - m.fraction.length)

/-- The seconds that have passed since midnight. -/
def sinceMidnight (m : Moment) : ℚ :=
  m.hour * 3600 + m.minute * 60 + m.second + Nat.ofDigitChars 10 m.fraction 0 / 10 ^ m.fraction.length

end Moment

namespace Offset

def written (o : Offset) : List Char :=
  (if o.west then '-' else '+') :: (Text.padded 2 o.hour ++ (o.minute.elim [] fun n => ':' :: Text.padded 2 n))

def seconds (o : Offset) : Int :=
  (if o.west then -1 else 1) * (o.hour * 3600 + o.minute.getD 0 * 60)

theorem natAbs_seconds_lt (o : Offset) : o.seconds.natAbs < 86400 := by
  have hours := o.hours
  have minutes : o.minute.getD 0 < 60 := by
    cases given : o.minute with
    | none => decide
    | some n => exact o.minutes n given
  unfold seconds
  split <;> omega

end Offset

namespace Timestamp

open Text

variable {w n low high : Nat} {ds rest cs : List Char}

theorem digitsValue_eq (ds : List Char) : digitsValue ds = Nat.ofDigitChars 10 ds 0 := by
  rw [digitsValue, Nat.ofDigitChars_eq_foldl]
  simp only [Nat.mul_comm]
  rfl

theorem number_padded (pos : 0 < w) (fits : n < 10 ^ w) : number w (padded w n ++ rest) = some (n, rest) := by
  have length := length_padded pos fits
  have digits : ((padded w n ++ rest).takeWhile Char.isDigit).take w = padded w n := by
    rw [List.takeWhile_append_of_pos fun c => isDigit_of_mem_padded, List.take_left' length]
  have some_ : (padded w n).isEmpty = false := by simpa using padded_ne_nil w n
  simp only [number, digits, some_, digitsValue_eq, ofDigitChars_padded, List.drop_left]
  rfl

theorem dropWhile_padded {kind : Char → Bool} (other : ∀ c, c.isDigit = true → kind c = false) (w n : Nat)
    (rest : List Char) : (padded w n ++ rest).dropWhile kind = padded w n ++ rest := by
  obtain ⟨c, cs, begins, digit⟩ := padded_begins w n
  rw [begins, List.cons_append, List.dropWhile_cons_of_neg (by simp [other c digit])]

theorem skipBlanks_padded (w n : Nat) (rest : List Char) : skipBlanks (padded w n ++ rest) = padded w n ++ rest :=
  dropWhile_padded (fun _ => isBlank_of_isDigit) w n rest

theorem year_padded (fits : n < 10 ^ 4) : year (padded 4 n ++ rest) = some ((n : Int), rest) := by
  have number := @number_padded 4 n rest (by decide) fits
  have unsigned (sign : Char) (other : sign.isDigit = false) (cs) : padded 4 n ++ rest ≠ sign :: cs := by
    obtain ⟨c, ds, begins, digit⟩ := padded_begins 4 n
    rw [begins]
    rintro ⟨⟩
    simp [digit] at other
  unfold year
  split
  case h_1 cs same => exact absurd same (unsigned '-' (by decide) cs)
  case h_2 cs same => exact absurd same (unsigned '+' (by decide) cs)
  case h_3 => rw [number]; rfl

theorem part_padded (mark : Char) (lower : low ≤ n) (upper : n ≤ high) (fits : n < 10 ^ 2) :
    part (some mark) low high (mark :: (padded 2 n ++ rest)) = some (n, rest) := by
  simp only [part, if_true, skipBlanks_padded, number_padded (by decide) fits, if_pos (And.intro lower upper)]

theorem part_blank (lower : low ≤ n) (upper : n ≤ high) (fits : n < 10 ^ 2) :
    part none low high (' ' :: (padded 2 n ++ rest)) = some (n, rest) := by
  have blank : skipBlanks (' ' :: (padded 2 n ++ rest)) = padded 2 n ++ rest := skipBlanks_padded ..
  simp only [part, blank, number_padded (by decide) fits, if_pos (And.intro lower upper)]

theorem fraction_point (digits : ∀ c ∈ ds, c.isDigit = true) (precision : ds.length ≤ 9)
    (stops : ∀ c, rest.head? = some c → c.isDigit = false ∧ c ≠ '.') :
    fraction (Moment.point ds ++ rest) = some (Nat.ofDigitChars 10 ds 0 * 10 ^ (9 - ds.length), rest) := by
  cases ds with
  | nil =>
    cases rest with
    | nil => rfl
    | cons c cs => simp [Moment.point, fraction, (stops c rfl).2]
  | cons d ds =>
    have run : ((d :: ds) ++ rest).takeWhile Char.isDigit = d :: ds :=
      (cut_append digits fun c first => (stops c first).1).1
    have all : (d :: ds).take 9 = d :: ds := List.take_of_length_le precision
    change fraction ('.' :: ((d :: ds) ++ rest)) = _
    simp only [fraction, run, all, digitsValue_eq, List.drop_left, Nat.pow_eq]
    rfl

/-- A date and a time of day are read up to an offset. -/
theorem readLocal_written (m : Moment) (stops : ∀ c, rest.head? = some c → c.isDigit = false ∧ c ≠ '.') :
    readLocal (m.written ++ rest) = some (m.timestamp, rest) := by
  obtain ⟨⟨y, m, d⟩, hour, minute, second, ds, isValid, ⟨first, last⟩, ⟨hours, minutes, seconds⟩, digits, short⟩ := m
  obtain ⟨month, december, day, within⟩ := Date.isValid_iff.1 isValid
  have most := (daysInMonth_bounds y m).2
  dsimp only at first last month december day within
  obtain ⟨y, rfl⟩ := Int.eq_ofNat_of_zero_le (by omega : 0 ≤ y)
  simp only [readLocal, Moment.written, List.append_assoc, List.cons_append, skipBlanks_padded, Int.toNat_natCast,
    Option.bind_eq_bind, Option.bind_some, year_padded (by omega : y < 10 ^ 4),
    part_padded '-' month december (by omega), part_padded '-' day (by omega : d ≤ 31) (by omega),
    part_blank (Nat.zero_le hour) (by omega : hour ≤ 23) (by omega),
    part_padded ':' (Nat.zero_le minute) (by omega : minute ≤ 59) (by omega),
    part_padded ':' (Nat.zero_le second) (by omega : second ≤ 60) (by omega), fraction_point digits (by omega) stops]
  rw [if_pos ⟨by unfold firstYear; omega, by unfold lastYear; omega, isValid⟩, ofParts, if_neg (by omega)]
  rfl

/-- Two digits are read where they are looked for. -/
theorem padded_eq (fits : n < 10 ^ 2) : ∃ a b, padded 2 n = [a, b] ∧ a.isDigit = true ∧ b.isDigit = true ∧
    digitsValue [a, b] = n := by
  obtain ⟨a, b, two⟩ := List.length_eq_two.1 (length_padded (by decide) fits)
  have digits : ∀ c ∈ [a, b], c.isDigit = true := two ▸ fun c => isDigit_of_mem_padded
  have value := ofDigitChars_padded 2 n
  rw [two, ← digitsValue_eq] at value
  exact ⟨a, b, two, digits a (by simp), digits b (by simp), value⟩

theorem offsetMinutes_padded (fits : n < 60) : offsetMinutes (padded 2 n) = some (n, []) := by
  obtain ⟨a, b, two, digit, digit', value⟩ := @padded_eq n (by omega)
  have tens : a.toNat < 54 := by
    simp only [digitsValue, List.foldl_cons, List.foldl_nil] at value
    omega
  rw [two, offsetMinutes, if_pos ⟨digit, digit', tens⟩, value]

theorem offsetSize_written (o : Offset) :
    offsetSize (padded 2 o.hour ++ (o.minute.elim [] fun n => ':' :: padded 2 n)) =
      some ((o.hour * 60 + o.minute.getD 0) * 60, []) := by
  obtain ⟨a, b, two, digit, digit', value⟩ := @padded_eq o.hour (by have := o.hours; omega)
  simp only [two, List.cons_append, List.nil_append, offsetSize, digit, digit', and_self, if_true, value]
  cases given : o.minute with
  | none => rfl
  | some n =>
    have apart (c : Char) (digit : c.isDigit = true) : (c == ':' || isBlank c) = false := by
      rw [isBlank_of_isDigit digit, Bool.or_false, beq_eq_false_iff_ne]
      rintro rfl
      cases digit
    have mark : (':' :: padded 2 n).dropWhile (fun c => c == ':' || isBlank c) = padded 2 n := by
      have behind := dropWhile_padded apart 2 n []
      rwa [List.append_nil] at behind
    simp only [Option.elim_some, mark, offsetMinutes_padded (o.minutes n given), Option.map_some, Option.getD_some]

theorem offset_written (o : Offset) : offset o.written = some (o.seconds, []) := by
  have size := offsetSize_written o
  unfold Offset.written Offset.seconds
  cases o.west with
  | true =>
    change (offsetSize _).map _ = _
    rw [size, Option.map_some, Option.some.injEq, Prod.mk.injEq, if_pos rfl]
    exact ⟨by push_cast; ring, rfl⟩
  | false =>
    change (offsetSize _).map _ = _
    rw [size, Option.map_some, Option.some.injEq, Prod.mk.injEq, if_neg (by decide)]
    exact ⟨by push_cast; ring, rfl⟩

variable {t : Timestamp}

theorem isInRange_timestamp (m : Moment) {n : Int} (near : n.natAbs < 86400) :
    isInRange ⟨m.timestamp.seconds - n, m.timestamp.nanos⟩ = true := by
  have years := m.years
  have time := m.withinDay
  -- The years that dates may have go on for more than a day before the year 1 and after the year 9999.
  have first : (Date.mk firstYear 1 1).dayNumber < m.date.dayNumber :=
    Date.dayNumber_lt (by decide) m.isValid (.inl (by unfold firstYear; dsimp only; omega))
  have last : m.date.dayNumber < (Date.mk lastYear 12 31).dayNumber :=
    Date.dayNumber_lt m.isValid (by decide) (.inl (by unfold lastYear; dsimp only; omega))
  rw [isInRange, Bool.and_eq_true, decide_eq_true_eq, decide_eq_true_eq]
  simp only [Moment.timestamp, secondsOfDay]
  omega

theorem natAbs_seconds_lt (inRange : t.isInRange = true) : t.seconds.natAbs < 2 ^ 53 := by
  have first : (Date.mk firstYear 1 1).dayNumber = -96465292 := by decide +kernel
  have last : (Date.mk lastYear 12 31).dayNumber = 95026236 := by decide +kernel
  simp only [isInRange, Bool.and_eq_true, decide_eq_true_eq, first, last] at inRange
  omega

theorem read_written (m : Moment) : read (String.ofList m.written) = some m.timestamp := by
  have whole := @readLocal_written [] m (by rintro c ⟨⟩)
  rw [List.append_nil] at whole
  rw [read, String.toList_ofList, whole]

theorem readWithOffset_written (m : Moment) (o : Offset) : readWithOffset (String.ofList (m.written ++ o.written)) =
    some ⟨m.timestamp.seconds - o.seconds, m.timestamp.nanos⟩ := by
  have stops (c : Char) (first : o.written.head? = some c) : c.isDigit = false ∧ c ≠ '.' := by
    rw [Offset.written, List.head?_cons, Option.some.injEq] at first
    subst first
    split <;> decide
  have small := o.natAbs_seconds_lt
  rw [readWithOffset, String.toList_ofList, readLocal_written m stops]
  simp only [offset_written, isInRange_timestamp m small, small, and_self, if_true]

end Timestamp

/-- A cell that holds an instant, so many seconds after the start of 1970 in UTC. As a number and as a label it is the
whole seconds, rounded down. -/
structure Cell.IsInstant (c : Cell) (x : ℚ) : Prop where
  instant : ∃ nanos : Nat, c = .timestamp ⌊x⌋ nanos ∧ nanos < 10 ^ 9 ∧ x = ⌊x⌋ + nanos / 10 ^ 9
  number : ∃ v, c.toNumber = .ok v ∧ (Binary64.ofFloat v).toRat? = some (⌊x⌋ : ℚ)
  label : c.toLabel = .ok ⌊x⌋.repr

theorem Cell.isInstant_timestamp {t : Timestamp} {s : String} (inRange : t.isInRange = true) (proper : t.nanos < 10 ^ 9) :
    (ofTimestamp s (some t)).IsInstant (t.seconds + t.nanos / 10 ^ 9) := by
  have floor : ⌊(t.seconds + t.nanos / 10 ^ 9 : ℚ)⌋ = t.seconds := by
    have below : (t.nanos / 10 ^ 9 : ℚ) < 1 := by
      rw [div_lt_one (by positivity)]
      exact_mod_cast proper
    rw [Int.floor_eq_iff]
    exact ⟨le_add_of_nonneg_right (by positivity), by linarith⟩
  refine ⟨⟨t.nanos, ?_, proper, ?_⟩, ⟨_, rfl, ?_⟩, ?_⟩
  · rw [floor]
    rfl
  · rw [floor]
  · rw [floor, Binary64.toRat?_ofInt (Timestamp.natAbs_seconds_lt inRange)]
  · rw [floor]
    rfl

namespace Moment

theorem nanos_lt (m : Moment) : m.timestamp.nanos < 10 ^ 9 := by
  have value := Text.ofDigitChars_lt m.digits 0
  have short := m.precision
  rw [Nat.zero_add, Nat.one_mul] at value
  calc m.timestamp.nanos < 10 ^ m.fraction.length * 10 ^ (9 - m.fraction.length) :=
        Nat.mul_lt_mul_of_pos_right value (Nat.pow_pos (by decide))
    _ = 10 ^ 9 := by rw [← Nat.pow_add]; congr 1; omega

theorem timestamp_eq (m : Moment) :
    (m.timestamp.seconds + m.timestamp.nanos / 10 ^ 9 : ℚ) = m.date.dayNumber * 86400 + m.sinceMidnight := by
  have short := m.precision
  have scale : (10 : ℚ) ^ (9 : Nat) = 10 ^ (9 - m.fraction.length) * 10 ^ m.fraction.length := by
    rw [← pow_add]
    congr 1
    omega
  have nanos : (m.timestamp.nanos / 10 ^ 9 : ℚ) = Nat.ofDigitChars 10 m.fraction 0 / 10 ^ m.fraction.length := by
    rw [timestamp, scale]
    push_cast
    field_simp
  rw [nanos, sinceMidnight, timestamp, Timestamp.secondsOfDay]
  push_cast
  ring

/-- A date and a time of day as they are written are the instant at that time in UTC, and with an offset behind them
the instant that is that much earlier. The days of it are those that pass from the start of 1970 to the date. -/
theorem decode_written (m : Moment) : ∃ days : Int, (∀ n, m.date.Elapsed n ↔ n = days) ∧
    (Cell.decode "timestamp" (some (String.ofList m.written))).IsInstant (days * 86400 + m.sinceMidnight) ∧
    ∀ o : Offset, (Cell.decode "timestamptz" (some (String.ofList (m.written ++ o.written)))).IsInstant
      (days * 86400 + m.sinceMidnight - o.seconds) := by
  refine ⟨m.date.dayNumber, fun n => Date.elapsed_iff m.isValid, ?_, fun o => ?_⟩
  · have inRange := Timestamp.isInRange_timestamp m (n := 0) (by decide)
    rw [Int.sub_zero] at inRange
    change (Cell.ofTimestamp _ (Timestamp.read _)).IsInstant _
    rw [Timestamp.read_written, ← m.timestamp_eq]
    exact Cell.isInstant_timestamp inRange m.nanos_lt
  · have earlier : (m.date.dayNumber * 86400 + m.sinceMidnight - o.seconds : ℚ) =
        (m.timestamp.seconds - o.seconds : Int) + m.timestamp.nanos / 10 ^ 9 := by
      rw [← m.timestamp_eq]
      push_cast
      ring
    change (Cell.ofTimestamp _ (Timestamp.readWithOffset _)).IsInstant _
    rw [Timestamp.readWithOffset_written, earlier]
    exact Cell.isInstant_timestamp (Timestamp.isInRange_timestamp m o.natAbs_seconds_lt) m.nanos_lt

/-- A quarter of a second after half past six on a leap day: in UTC, and three and a half hours later where clocks are
so far behind. -/
theorem decode_leap_day :
    let m : Moment :=
      { date := ⟨44, 2, 29⟩, hour := 6, minute := 30, second := 0, fraction := ['2', '5'], isValid := by decide
        years := by decide, withinDay := by decide, digits := by simp, precision := by decide }
    let o : Offset := { west := true, hour := 3, minute := some 30, hours := by decide, minutes := by simp }
    String.ofList (m.written ++ o.written) = "0044-02-29 06:30:00.25-03:30" ∧ m.date.Elapsed (-703398) ∧
      (Cell.decode "timestamp" (some "0044-02-29 06:30:00.25")).IsInstant (-703398 * 86400 + 23400.25) ∧
      (Cell.decode "timestamptz" (some "0044-02-29 06:30:00.25-03:30")).IsInstant (-703398 * 86400 + 36000.25) := by
  intro m o
  obtain ⟨days, elapsed, inUtc, west⟩ := decode_written m
  have day : m.date.Elapsed (-703398) := (Date.elapsed_iff m.isValid).2 (by decide)
  obtain rfl : -703398 = days := (elapsed _).1 day
  have text : String.ofList m.written = "0044-02-29 06:30:00.25" := by decide
  have text' : String.ofList (m.written ++ o.written) = "0044-02-29 06:30:00.25-03:30" := by decide
  have digits : Nat.ofDigitChars 10 m.fraction 0 = 25 := by decide
  have since : m.sinceMidnight = 23400.25 := by
    rw [sinceMidnight, digits]
    norm_num [m]
  have seconds : o.seconds = -12600 := by decide
  refine ⟨text', day, ?_, ?_⟩
  · rw [text, since] at inUtc
    exact_mod_cast inUtc
  · have later : ((-703398 : Int) * 86400 + m.sinceMidnight - o.seconds : ℚ) = -703398 * 86400 + 36000.25 := by
      rw [since, seconds]
      norm_num
    have atOffset := west o
    rwa [text', later] at atOffset

end Moment

end PgMetrics
