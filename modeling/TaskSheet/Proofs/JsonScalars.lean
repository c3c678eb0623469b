import TaskSheet.Json.Token
import TaskSheet.Proofs.Blanks

/-!
# Scalars are read back

A quoted string is read back character by character: each escape stands for the character
that it was written for, and all other characters stand for themselves. An integer is read
back as long as it fits into sixty-four bits and nothing follows that could belong to a
number.
-/

namespace TaskSheet

namespace Text

/-- Numbers are written without leading zeros. -/
theorem head?_ofNat_ne_zero {n : Nat} (h : 0 < n) : (ofNat n).head? ≠ some '0' := by
  have hsmall : ∀ d : Fin 10, 0 < d.val → Nat.digitChar d ≠ '0' := by decide
  induction n using Nat.strong_induction_on with
  | _ n ih =>
    rw [ofNat, Nat.toDigits_eq_if (by decide)]
    split
    · rename_i hlt
      simpa using hsmall ⟨n, hlt⟩ h
    · rw [List.head?_append_of_ne_nil _ Nat.toDigits_ne_nil]
      exact ih (n / 10) (by omega) (by omega)

/-- Zero is written with one digit. -/
theorem ofNat_zero : ofNat 0 = ['0'] := rfl

end Text

namespace Json

namespace Quoted

/-- A hexadecimal digit is read as its value. -/
theorem hexValue?_hexDigit (n : Nat) : hexValue? (Text.hexDigit n) = some (n % 16) := by
  have hfin : ∀ k : Fin 16, hexValue? (Nat.digitChar k) = some k.val := by decide
  exact hfin ⟨n % 16, Nat.mod_lt n (by decide)⟩

/-- Two zeros and two hexadecimal digits are read as a number of one byte. -/
theorem readUnit?_hexPair {n : Nat} (h : n < 256) (rest : Text) :
    readUnit? ('0' :: '0' :: (Text.hexPair n ++ rest)) = some (n, rest) := by
  have hzero : hexValue? '0' = some 0 := by decide
  have hvalue : ((0 * 16 + 0) * 16 + n / 16 % 16) * 16 + n % 16 = n := by omega
  simp only [Text.hexPair, List.cons_append, List.nil_append, readUnit?, hzero,
    hexValue?_hexDigit, hvalue]

/-- An escaped control character is read as that character. -/
theorem readEscape?_control {c : Char} (h : c.toNat < 0x20) (rest : Text) :
    readEscape? ('u' :: '0' :: '0' :: (Text.hexPair c.toNat ++ rest)) = some (c, rest) := by
  have hlow : decide (c.toNat < 0xD800) = true := decide_eq_true (by omega)
  simp only [readEscape?, readCodePoint?, readUnit?_hexPair (Nat.lt_trans h (by decide)), hlow,
    Bool.true_or, if_true, Char.ofNat_toNat]

/-- Behind a backslash an escape is read. -/
theorem read?_backslash {read text rest : Text} {c : Char}
    (h : readEscape? text = some (c, rest)) :
    read? read ('\\' :: text) = read? (c :: read) rest := by
  rw [read?, if_neg (by decide), if_pos rfl]
  split
  · rename_i hnone
    rw [h] at hnone
    contradiction
  · rename_i hsome
    rw [h] at hsome
    obtain ⟨rfl, rfl⟩ := Prod.mk.inj (Option.some.inj hsome)
    rfl

/-- Whatever stands for a character is read as that character. -/
theorem read?_escape (c : Char) (read rest : Text) :
    read? read (escape c ++ rest) = read? (c :: read) rest := by
  fun_cases escape c with
  | case8 c _ _ _ _ _ _ _ hcontrol => exact read?_backslash (readEscape?_control hcontrol rest)
  | case9 c hquote hslash _ _ _ _ _ hplain =>
    rw [List.singleton_append, read?, if_neg hquote, if_neg hslash, if_neg hplain]
  | _ => exact read?_backslash rfl

/-- A text is read back up to its closing quote. -/
theorem read?_flatMap_escape (text read rest : Text) :
    read? read (text.flatMap escape ++ '"' :: rest) = some (read.reverse ++ text, rest) := by
  induction text generalizing read with
  | nil => rw [List.flatMap_nil, List.nil_append, read?, if_pos rfl, List.append_nil]
  | cons c text ih =>
    rw [List.flatMap_cons, List.append_assoc, read?_escape, ih, List.reverse_cons,
      List.append_assoc]
    rfl

end Quoted

namespace Numeral

/-- What follows a number does not continue it. -/
def Ends (rest : Text) : Prop :=
  ∀ c ∈ rest.head?, c.isDigit = false ∧ c ≠ '.' ∧ c ≠ 'e' ∧ c ≠ 'E'

/-- Nothing does not continue a number. -/
theorem ends_nil : Ends [] := by simp [Ends]

/-- Another character does not continue a number. -/
theorem ends_cons {c : Char} {rest : Text} :
    Ends (c :: rest) ↔ c.isDigit = false ∧ c ≠ '.' ∧ c ≠ 'e' ∧ c ≠ 'E' := by
  simp [Ends]

/-- The digits of a number stand for that number. -/
theorem digitsValue_ofNat (n : Nat) : digitsValue (Text.ofNat n) = n := by
  have h := Nat.ofDigitChars_ten_toDigits (n := n)
  simp only [Nat.ofDigitChars, Nat.mul_comm 10] at h
  exact h

/-- All digits of a number are read, if what follows does not continue it. -/
theorem readDigits_ofNat (n : Nat) {rest : Text} (h : Ends rest) :
    readDigits (Text.ofNat n ++ rest) = (Text.ofNat n, rest) := by
  have hdigits : ∀ c ∈ Text.ofNat n, c.isDigit = true := fun c => Text.isDigit_of_mem_ofNat
  have hstop : ∀ c ∈ rest.head?, c.isDigit = false := fun c hc => (h c hc).1
  rw [readDigits, takeWhile_append_of_stop hdigits hstop, dropWhile_append_of_stop hdigits hstop]

/-- There is no fraction where the number ends. -/
theorem readFraction?_of_ends {rest : Text} (h : Ends rest) :
    readFraction? rest = some ([], rest) := by
  unfold readFraction?
  split
  · exact absurd rfl (ends_cons.mp h).2.1
  · rfl

/-- There is no exponent where the number ends. -/
theorem readExponent?_of_ends {rest : Text} (h : Ends rest) :
    readExponent? rest = some (none, rest) := by
  unfold readExponent?
  split
  · exact absurd rfl (ends_cons.mp h).2.2.1
  · exact absurd rfl (ends_cons.mp h).2.2.2
  · rfl

/-- The digits of a number, with or without a sign, are read as its whole part. -/
theorem read?_of_readMinus {text rest : Text} {negative : Bool} {n : Nat}
    (hminus : readMinus text = (negative, Text.ofNat n ++ rest)) (h : Ends rest) :
    read? text = some (⟨negative, Text.ofNat n, [], none⟩, rest) := by
  rw [read?, hminus]
  simp only [readDigits_ofNat n h]
  split
  · rename_i hnil
    exact absurd (Prod.mk.inj hnil).1 Nat.toDigits_ne_nil
  · rename_i hzeros
    -- More than one digit is written only for positive numbers.
    have hdigits := (Prod.mk.inj hzeros).1
    cases n with
    | zero => simp [Text.ofNat_zero] at hdigits
    | succ n => exact absurd (by rw [hdigits]; rfl) (Text.head?_ofNat_ne_zero (Nat.succ_pos n))
  · rename_i hwhole
    obtain ⟨rfl, rfl⟩ := Prod.mk.inj hwhole
    simp only [readFraction?_of_ends h, readExponent?_of_ends h]

end Numeral

/-- The integers that are read as integers: from `-2 ^ 63` up to `2 ^ 64 - 1`. -/
def FitsWord (value : Int) : Prop :=
  -(Numeral.greatestNegative : Int) ≤ value ∧ value < (UInt64.size : Int)

/-- Whether an integer fits is decided by its two bounds. -/
instance (value : Int) : Decidable (FitsWord value) := inferInstanceAs (Decidable (_ ∧ _))

/-- An integer is read back. -/
theorem Number.read?_renderInt {value : Int} (hfits : FitsWord value) {rest : Text}
    (h : Numeral.Ends rest) :
    Number.read? (renderInt value ++ rest) = some (.int value, rest) := by
  cases value with
  | ofNat n =>
    have hminus : Numeral.readMinus (Text.ofNat n ++ rest) = (false, Text.ofNat n ++ rest) := by
      obtain ⟨d, digits, hdigits, hd⟩ := Text.exists_digit_ofNat n
      rw [hdigits, List.cons_append, Numeral.readMinus]
      rintro tail htail
      obtain ⟨rfl, -⟩ := List.cons.inj htail
      exact absurd hd (by decide)
    have hsize : n < UInt64.size := Int.ofNat_lt.mp hfits.2
    rw [renderInt, Number.read?, Numeral.read?_of_readMinus hminus h]
    simp only [Numeral.value?, Numeral.digitsValue_ofNat, List.isEmpty_nil, Option.isNone_none,
      Bool.and_self, if_true, Bool.false_eq_true, if_false, if_pos hsize, Option.map_some]
  | negSucc n =>
    have hminus : Numeral.readMinus ('-' :: Text.ofNat (n + 1) ++ rest) =
        (true, Text.ofNat (n + 1) ++ rest) := rfl
    have hlow : n + 1 ≤ Numeral.greatestNegative := by
      have hlower : -(Numeral.greatestNegative : Int) ≤ Int.negSucc n := hfits.1
      rw [Int.negSucc_eq] at hlower
      omega
    have hbounds : (decide (0 < n + 1) && decide (n + 1 ≤ Numeral.greatestNegative)) = true := by
      rw [decide_eq_true (Nat.succ_pos n), decide_eq_true hlow, Bool.and_self]
    rw [renderInt, Number.read?, Numeral.read?_of_readMinus hminus h]
    simp only [Numeral.value?, Numeral.digitsValue_ofNat, List.isEmpty_nil, Option.isNone_none,
      Bool.and_self, if_true, hbounds, Option.map_some]
    rfl

end Json

end TaskSheet
