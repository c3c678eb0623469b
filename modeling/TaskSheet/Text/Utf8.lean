import TaskSheet.Text.Basic

/-!
# UTF-8

Files, paths and arguments are bytes, and the library works on texts. Reading is strict:
bytes that are not well formed are no text at all, and every text is read back from its
own bytes. For showing a path whatever it holds there is a second reading, in which each
malformed run of bytes becomes one replacement character.
-/

namespace TaskSheet

/-- Bytes as the system hands them over. They need not be those of a text. -/
abbrev Bytes := List UInt8

namespace Text

/-- The UTF-8 bytes of a text. -/
def bytes (text : Text) : Bytes := text.flatMap String.utf8EncodeChar

/-- Texts one after the other have their bytes one after the other. -/
theorem bytes_append (first second : Text) :
    bytes (first ++ second) = bytes first ++ bytes second :=
  List.flatMap_append

/-- The UTF-8 bytes of a text, as the content of a file. -/
def encode (text : Text) : ByteArray := (String.ofList text).toUTF8

/-- The text whose UTF-8 bytes these are, if there is one. -/
def decode? (bytes : ByteArray) : Option Text := (String.fromUTF8? bytes).map String.toList

/-- The text whose UTF-8 bytes the system has handed over, if there is one. -/
def ofBytes? (bytes : Bytes) : Option Text := decode? bytes.toByteArray

/-- Every text is read back from its own bytes. -/
@[simp] theorem decode?_encode (text : Text) : decode? (encode text) = some text := by
  have h : (encode text).IsValidUTF8 := (String.ofList text).isValidUTF8
  rw [decode?, String.fromUTF8?, dif_pos h]
  exact congrArg some (String.toList_ofList (l := text))

/-- The character that stands for a malformed run of bytes. -/
def replacement : Char := '\uFFFD'

/-- What a first byte announces: the bits it carries, how many further bytes follow,
and the range from which the first of these is taken. -/
structure LeadByte where
  /-- The bits of the code point that the first byte carries. -/
  bits : Nat
  /-- The number of bytes that follow. -/
  following : Nat
  /-- The least second byte. -/
  low : Nat
  /-- The greatest second byte. -/
  high : Nat

/-- The ranges of a second byte leave out overlong forms, surrogates and everything
beyond the last code point. -/
def LeadByte.ofByte? (byte : Nat) : Option LeadByte :=
  if byte < 0xC2 then none
  else if byte < 0xE0 then some ⟨byte - 0xC0, 1, 0x80, 0xBF⟩
  else if byte < 0xF0 then
    some ⟨byte - 0xE0, 2, if byte = 0xE0 then 0xA0 else 0x80, if byte = 0xED then 0x9F else 0xBF⟩
  else if byte < 0xF5 then
    some ⟨byte - 0xF0, 3, if byte = 0xF0 then 0x90 else 0x80, if byte = 0xF4 then 0x8F else 0xBF⟩
  else none

/-- Adds up to `count` continuation bytes to a code point, the first of them taken from
the given range. There is no code point if a byte is missing, and what was read before
the gap is used up. -/
def continueCode : (count low high code : Nat) → List UInt8 → Option Nat × List UInt8
  | 0, _, _, code, bytes => (some code, bytes)
  | _ + 1, _, _, _, [] => (none, [])
  | count + 1, low, high, code, byte :: bytes =>
    if low ≤ byte.toNat && byte.toNat ≤ high then
      continueCode count 0x80 0xBF (code * 64 + (byte.toNat - 0x80)) bytes
    else (none, byte :: bytes)

/-- Continuation bytes are only ever taken from the front. -/
theorem continueCode_suffix (count low high code : Nat) (bytes : Bytes) :
    (continueCode count low high code bytes).2 <:+ bytes := by
  fun_induction continueCode count low high code bytes with
  | case1 => exact List.suffix_rfl
  | case2 => exact List.suffix_rfl
  | case3 _ _ _ _ byte bytes _ ih => exact ih.trans (List.suffix_cons byte bytes)
  | case4 => exact List.suffix_rfl

/-- The first character that a byte and the bytes behind it are read as, and the bytes that
are left. -/
def firstChar (byte : UInt8) (bytes : Bytes) : Char × Bytes :=
  if byte.toNat < 0x80 then (Char.ofNat byte.toNat, bytes)
  else match LeadByte.ofByte? byte.toNat with
    | none => (replacement, bytes)
    | some lead =>
      let read := continueCode lead.following lead.low lead.high lead.bits bytes
      ((read.1.map Char.ofNat).getD replacement, read.2)

/-- A character is read from the front. -/
theorem firstChar_suffix (byte : UInt8) (bytes : Bytes) : (firstChar byte bytes).2 <:+ bytes := by
  rw [firstChar]
  split
  · exact List.suffix_rfl
  · split
    · exact List.suffix_rfl
    · exact continueCode_suffix ..

/-- The characters of a byte sequence, a replacement for each malformed run. -/
def decodeLossy : Bytes → Text
  | [] => []
  | byte :: bytes => (firstChar byte bytes).1 :: decodeLossy (firstChar byte bytes).2
  termination_by bytes => bytes.length
  decreasing_by exact Nat.lt_succ_of_le (firstChar_suffix ..).length_le

end Text

/-- A string literal stands for the bytes of its characters. -/
instance : Coe String Bytes := ⟨fun literal => Text.bytes literal.toList⟩

end TaskSheet
