namespace PgMetrics.Text

/-- Why a text is no integer of the wanted range. -/
inductive IntegerError where
  | empty
  | invalidDigit
  | tooLarge
  | tooSmall
  deriving DecidableEq, Repr

def IntegerError.message : IntegerError → String
  | empty => "cannot parse integer from empty string"
  | invalidDigit => "invalid digit found in string"
  | tooLarge => "number too large to fit in target type"
  | tooSmall => "number too small to fit in target type"

/-- Continues a number with further digits; `excess` is the error for passing the limit. The first fault from the left
decides the error. -/
def readDigits (limit : Nat) (excess : IntegerError) : Nat → List Char → Except IntegerError Nat
  | n, [] => .ok n
  | n, c :: cs =>
    if c.isDigit then
      let m := n * 10 + (c.toNat - 48)
      if m ≤ limit then readDigits limit excess m cs else .error excess
    else .error .invalidDigit

/-- A number up to the limit, with an optional plus sign. -/
def readNatural (limit : Nat) : List Char → Except IntegerError Nat
  | [] => .error .empty
  | ['+'] => .error .invalidDigit
  | '+' :: cs => readDigits limit .tooLarge 0 cs
  | cs => readDigits limit .tooLarge 0 cs

/-- A number from `-(limit + 1)` to `limit`, with an optional sign. -/
def readInteger (limit : Nat) : List Char → Except IntegerError Int
  | ['-'] => .error .invalidDigit
  | '-' :: cs => (readDigits (limit + 1) .tooSmall 0 cs).map fun n => -(n : Int)
  | cs => (readNatural limit cs).map fun n => (n : Int)

def maxUInt16 : Nat := 0xFFFF
def maxUInt32 : Nat := 0xFFFFFFFF
def maxUInt64 : Nat := 0xFFFFFFFFFFFFFFFF
def maxInt64 : Nat := 0x7FFFFFFFFFFFFFFF

end PgMetrics.Text
