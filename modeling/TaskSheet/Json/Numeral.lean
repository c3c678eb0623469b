import TaskSheet.Decimal.Notation
import TaskSheet.Decimal.Rounding
import TaskSheet.Json.Basic

/-!
# Numbers

A number is written as an integer or in the notation of doubles. Which of the two is read
depends on how the number is written: without fraction and exponent it is an integer, as
long as it fits into sixty-four bits.
-/

namespace TaskSheet.Json

/-- The decimal digits of an integer, with a minus sign before a negative one. -/
def renderInt : Int → Text
  | .ofNat n => Text.ofNat n
  | .negSucc n => '-' :: Text.ofNat (n + 1)

/-- The text of a number. -/
def Number.render : Number → Text
  | int value => renderInt value
  | double bits => Decimal.render bits

/-- The parts of a number as they are written. -/
structure Numeral where
  /-- Whether a minus sign comes first. -/
  negative : Bool
  /-- The digits before the point. -/
  whole : Text
  /-- The digits behind the point. -/
  fraction : Text
  /-- The power of ten, if one is given. -/
  exponent : Option Int

namespace Numeral

/-- The decimal digits at the start of a text, and what follows them. -/
def readDigits (text : Text) : Text × Text :=
  (text.takeWhile Char.isDigit, text.dropWhile Char.isDigit)

/-- The fraction behind a point, if the text begins with a point. -/
def readFraction? : Text → Option (Text × Text)
  | '.' :: text =>
    match readDigits text with
    | ([], _) => none
    | (digits, rest) => some (digits, rest)
  | text => some ([], text)

/-- The number that decimal digits stand for. -/
def digitsValue (digits : Text) : Nat :=
  digits.foldl (fun n c => n * 10 + (c.toNat - '0'.toNat)) 0

/-- Whether a text begins with a minus sign, and what follows it. -/
def readMinus : Text → Bool × Text
  | '-' :: text => (true, text)
  | text => (false, text)

/-- Like `readMinus`, but passes over a plus sign too. -/
def readSign : Text → Bool × Text
  | '+' :: text => (false, text)
  | text => readMinus text

/-- The exponent behind the letter, with its sign. -/
def readSigned? (text : Text) : Option (Int × Text) :=
  let (negative, unsigned) := readSign text
  match readDigits unsigned with
  | ([], _) => none
  | (digits, rest) =>
    let value := Int.ofNat (digitsValue digits)
    some (if negative then -value else value, rest)

/-- The exponent, if the text begins with its letter. -/
def readExponent? : Text → Option (Option Int × Text)
  | 'e' :: text => (readSigned? text).map fun (exponent, rest) => (some exponent, rest)
  | 'E' :: text => (readSigned? text).map fun (exponent, rest) => (some exponent, rest)
  | text => some (none, text)

/-- The value of each digit. -/
def digitValues (digits : Text) : List Nat := digits.map fun c => c.toNat - '0'.toNat

/-- The double that a numeral stands for, if it is finite. -/
def double? (n : Numeral) : Option Number :=
  let whole := Decimal.gather 0 0 (digitValues n.whole)
  let all := Decimal.gather whole.1 0 (digitValues n.fraction)
  let missing := Int.ofNat (n.whole.length - whole.2)
  let exponent := missing - Int.ofNat all.2 + n.exponent.getD 0
  (Decimal.toBits? n.negative all.1 exponent).map .double

/-- The greatest magnitude of a negative integer, `2 ^ 63`. -/
def greatestNegative : Nat := 0x8000000000000000

/-- The number that a numeral stands for. One without fraction and exponent is an integer
as long as it fits into sixty-four bits; a negative zero is a double. -/
def value? (n : Numeral) : Option Number :=
  let value := digitsValue n.whole
  if n.fraction.isEmpty && n.exponent.isNone then
    if n.negative then
      if 0 < value && value ≤ greatestNegative then some (.int (-Int.ofNat value)) else n.double?
    else if value < UInt64.size then some (.int (Int.ofNat value))
    else n.double?
  else n.double?

/-- The parts of a number, of which the whole part has no superfluous zero. -/
def read? (text : Text) : Option (Numeral × Text) :=
  let (negative, unsigned) := readMinus text
  match readDigits unsigned with
  | ([], _) => none
  | ('0' :: _ :: _, _) => none
  | (whole, rest) =>
    match readFraction? rest with
    | none => none
    | some (fraction, rest) =>
      match readExponent? rest with
      | none => none
      | some (exponent, rest) => some (⟨negative, whole, fraction, exponent⟩, rest)

/-- The digits and what follows them are the whole text. -/
theorem readDigits_append (text : Text) : (readDigits text).1 ++ (readDigits text).2 = text := by
  simp [readDigits, List.takeWhile_append_dropWhile]

/-- Digits take as many characters as there are. -/
theorem length_readDigits {text digits rest : Text} (h : readDigits text = (digits, rest)) :
    digits.length + rest.length = text.length := by
  have happend := readDigits_append text
  rw [h] at happend
  simp [← happend]

/-- A fraction is only ever taken from the front. -/
theorem length_of_readFraction? {text digits rest : Text}
    (h : readFraction? text = some (digits, rest)) : rest.length ≤ text.length := by
  unfold readFraction? at h
  split at h
  · split at h
    · simp at h
    · rename_i hread
      have hlen := length_readDigits hread
      simp only [Option.some.injEq, Prod.mk.injEq] at h
      simp only [List.length_cons, ← h.2]
      omega
  · simp only [Option.some.injEq, Prod.mk.injEq] at h
    simp [h.2]

/-- A minus sign is only ever taken from the front. -/
theorem length_readMinus (text : Text) : (readMinus text).2.length ≤ text.length := by
  fun_cases readMinus text <;> simp

/-- A sign is only ever taken from the front. -/
theorem length_readSign (text : Text) : (readSign text).2.length ≤ text.length := by
  fun_cases readSign text with
  | case1 => simp
  | case2 => exact length_readMinus text

/-- A signed exponent is only ever taken from the front. -/
theorem length_of_readSigned? {text rest : Text} {exponent : Int}
    (h : readSigned? text = some (exponent, rest)) : rest.length ≤ text.length := by
  unfold readSigned? at h
  dsimp only at h
  split at h
  · simp at h
  · rename_i hread
    have hlen := length_readDigits hread
    have hsign := length_readSign text
    simp only [Option.some.injEq, Prod.mk.injEq] at h
    rw [← h.2]
    omega

/-- An exponent is only ever taken from the front. -/
theorem length_of_readExponent? {text rest : Text} {exponent : Option Int}
    (h : readExponent? text = some (exponent, rest)) : rest.length ≤ text.length := by
  unfold readExponent? at h
  split at h
  case h_3 =>
    simp only [Option.some.injEq, Prod.mk.injEq] at h
    simp [h.2]
  all_goals
    obtain ⟨⟨value, after⟩, hread, heq⟩ := Option.map_eq_some_iff.mp h
    have hlen := length_of_readSigned? hread
    simp only [Prod.mk.injEq] at heq
    simp only [List.length_cons, ← heq.2]
    omega

/-- A numeral takes at least one digit. -/
theorem length_of_read? {text rest : Text} {numeral : Numeral}
    (h : read? text = some (numeral, rest)) : rest.length < text.length := by
  unfold read? at h
  dsimp only at h
  split at h
  · simp at h
  · simp at h
  · rename_i whole after hempty _ hdigits
    have hwhole := length_readDigits hdigits
    have hminus := length_readMinus text
    have hpos : 0 < whole.length := List.length_pos_iff.mpr (fun hnil => by simp_all)
    split at h
    · simp at h
    · rename_i hfraction
      have hlen := length_of_readFraction? hfraction
      split at h
      · simp at h
      · rename_i hexponent
        have hlen' := length_of_readExponent? hexponent
        simp only [Option.some.injEq, Prod.mk.injEq] at h
        rw [← h.2]
        omega

end Numeral

/-- A number. -/
def Number.read? (text : Text) : Option (Number × Text) :=
  match Numeral.read? text with
  | none => none
  | some (numeral, rest) => numeral.value?.map fun value => (value, rest)

/-- A number takes at least one digit. -/
theorem Number.length_of_read? {text rest : Text} {value : Number}
    (h : read? text = some (value, rest)) : rest.length < text.length := by
  unfold read? at h
  split at h
  · simp at h
  · rename_i hnumeral
    obtain ⟨_, _, heq⟩ := Option.map_eq_some_iff.mp h
    simp only [Prod.mk.injEq] at heq
    rw [← heq.2]
    exact Numeral.length_of_read? hnumeral

end TaskSheet.Json
