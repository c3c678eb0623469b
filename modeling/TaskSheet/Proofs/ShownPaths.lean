import TaskSheet.Proofs.AbsolutePaths
import Mathlib.Algebra.Group.Nat.Defs
import Mathlib.Tactic.SplitIfs

/-!
# What is shown of a path

A path is shown as text, and malformed bytes are replaced by a character of which the path may
know nothing. What is shown of text is the text itself. And whatever a path is, every byte below
the continuation bytes stands for itself, and nothing else is shown as one of these. So the slashes
of a path are those of what is shown, and a path that is text is not changed by being shown.
-/

namespace TaskSheet

namespace Text

/-! ## One character -/

/-- A byte below the continuation bytes ends a character that is being read. -/
theorem continueCode_append {low : Nat} (hlow : 0x80 ≤ low) {byte : UInt8}
    (hbyte : byte.toNat < 0x80) (count high code : Nat) (bytes rest : Bytes) :
    continueCode count low high code (bytes ++ byte :: rest) =
      ((continueCode count low high code bytes).1,
        (continueCode count low high code bytes).2 ++ byte :: rest) := by
  fun_induction continueCode count low high code bytes with
  | case1 low high code bytes => rfl
  | case2 low high code count =>
    have hrange : ¬low ≤ byte.toNat := by omega
    simp [continueCode, hrange]
  | case3 low high code count next bytes hrange ih =>
    rw [List.cons_append, continueCode, if_pos hrange, ih (Nat.le_refl _)]
  | case4 low high code count next bytes hrange =>
    rw [List.cons_append, continueCode, if_neg hrange]

/-- The first of the continuation bytes that lead to a code point decides about its leading
digits. -/
theorem div_of_continueCode {count low high code result : Nat} {bytes rest : Bytes}
    (h : continueCode (count + 1) low high code bytes = (some result, rest)) :
    ∃ byte, low ≤ byte ∧ byte ≤ high ∧ result / 64 ^ count = code * 64 + (byte - 0x80) := by
  cases bytes with
  | nil => simp [continueCode] at h
  | cons byte bytes =>
    rw [continueCode] at h
    split at h
    · rename_i hrange
      simp only [Bool.and_eq_true, decide_eq_true_eq] at hrange
      refine ⟨byte.toNat, hrange.1, hrange.2, ?_⟩
      cases count with
      | zero => simpa [continueCode] using (congrArg Prod.fst h).symm
      | succ count =>
        -- The further bytes fill up the digits behind this one.
        obtain ⟨next, hlow, hhigh, hnext⟩ := div_of_continueCode h
        rw [Nat.pow_succ, ← Nat.div_div_eq_div_mul, hnext]
        omega
    · simp at h

/-- What a first byte announces is a code point beyond the single bytes. -/
theorem LeadByte.isValidChar_of_continueCode {byte : Nat} {lead : LeadByte} {result : Nat}
    {bytes rest : Bytes} (hlead : ofByte? byte = some lead)
    (h : continueCode lead.following lead.low lead.high lead.bits bytes = (some result, rest)) :
    0x80 ≤ result ∧ result.isValidChar := by
  rw [ofByte?] at hlead
  rw [Nat.isValidChar]
  split_ifs at hlead
  all_goals
    obtain rfl := Option.some.inj hlead
    obtain ⟨second, hlow, hhigh, hdigits⟩ := div_of_continueCode h
    dsimp only at hlow hhigh hdigits
    omega

/-- The second byte of a character is a continuation byte. -/
theorem LeadByte.le_low {byte : Nat} {lead : LeadByte} (h : ofByte? byte = some lead) :
    0x80 ≤ lead.low := by
  rw [ofByte?] at h
  split_ifs at h
  all_goals
    obtain rfl := Option.some.inj h
    simp

/-- The first of two bytes carries five bits. -/
theorem LeadByte.ofByte?_two {bits : Nat} (h : 2 ≤ bits ∧ bits < 32) :
    ofByte? (bits + 192) = some ⟨bits, 1, 0x80, 0xBF⟩ := by
  rw [ofByte?, if_neg (by omega), if_pos (by omega), Nat.add_sub_cancel]

/-- The first of three bytes carries four bits. -/
theorem LeadByte.ofByte?_three {bits : Nat} (h : bits < 16) :
    ofByte? (bits + 224) = some ⟨bits, 2, if bits + 224 = 0xE0 then 0xA0 else 0x80,
      if bits + 224 = 0xED then 0x9F else 0xBF⟩ := by
  rw [ofByte?, if_neg (by omega), if_neg (by omega), if_pos (by omega), Nat.add_sub_cancel]

/-- The first of four bytes carries three bits, and no more than the last code point needs. -/
theorem LeadByte.ofByte?_four {bits : Nat} (h : bits < 5) :
    ofByte? (bits + 240) = some ⟨bits, 3, if bits + 240 = 0xF0 then 0x90 else 0x80,
      if bits + 240 = 0xF4 then 0x8F else 0xBF⟩ := by
  rw [ofByte?, if_neg (by omega), if_neg (by omega), if_neg (by omega), if_pos (by omega),
    Nat.add_sub_cancel]

/-- A byte below the continuation bytes is read for itself. -/
theorem firstChar_of_lt {byte : UInt8} (h : byte.toNat < 0x80) (bytes : Bytes) :
    firstChar byte bytes = (Char.ofNat byte.toNat, bytes) := by
  rw [firstChar, if_pos h]

/-- No other character is read as one of those that a single byte stands for. -/
theorem le_toNat_firstChar {byte : UInt8} (h : 0x80 ≤ byte.toNat) (bytes : Bytes) :
    0x80 ≤ (firstChar byte bytes).1.toNat := by
  have hreplacement : 0x80 ≤ replacement.toNat := by decide
  rw [firstChar, if_neg (Nat.not_lt.mpr h)]
  split
  · exact hreplacement
  · rename_i lead hlead
    dsimp only
    cases hread : (continueCode lead.following lead.low lead.high lead.bits bytes).1 with
    | none => exact hreplacement
    | some result =>
      obtain ⟨hle, hvalid⟩ := LeadByte.isValidChar_of_continueCode hlead (Prod.ext hread rfl)
      rw [Option.map_some, Option.getD_some, Char.ofNat, dif_pos hvalid]
      exact hle

/-- A byte below the continuation bytes ends the character before it. -/
theorem firstChar_append (first : UInt8) (bytes : Bytes) {byte : UInt8} (h : byte.toNat < 0x80)
    (rest : Bytes) :
    firstChar first (bytes ++ byte :: rest) =
      ((firstChar first bytes).1, (firstChar first bytes).2 ++ byte :: rest) := by
  rw [firstChar, firstChar]
  split
  · rfl
  · split
    · rfl
    · rename_i lead hlead
      simp only [continueCode_append (LeadByte.le_low hlead) h]

/-- A continuation byte within the range adds its digit. -/
theorem continueCode_ofNat {count low high code digit : Nat} (hdigit : digit < 64)
    (hlow : low ≤ digit + 128) (hhigh : digit + 128 ≤ high) (bytes : Bytes) :
    continueCode (count + 1) low high code (UInt8.ofNat (digit + 128) :: bytes) =
      continueCode count 0x80 0xBF (code * 64 + digit) bytes := by
  have hbyte : (UInt8.ofNat (digit + 128)).toNat = digit + 128 := by simp; omega
  rw [continueCode, hbyte, if_pos (by simp [hlow, hhigh]), Nat.add_sub_cancel]

/-- A code point is read if a first byte announces it. -/
theorem firstChar_ofNat {byte result : Nat} {lead : LeadByte} {bytes rest : Bytes}
    (hbyte : 0x80 ≤ byte ∧ byte < 256) (hlead : LeadByte.ofByte? byte = some lead)
    (h : continueCode lead.following lead.low lead.high lead.bits bytes = (some result, rest)) :
    firstChar (UInt8.ofNat byte) bytes = (Char.ofNat result, rest) := by
  have htoNat : (UInt8.ofNat byte).toNat = byte := by simp; omega
  rw [firstChar, htoNat, if_neg (Nat.not_lt.mpr hbyte.1), hlead]
  simp only [h, Option.map_some, Option.getD_some]

/-- A character is read from its own bytes, whatever follows. -/
theorem firstChar_utf8EncodeChar (c : Char) (rest : Bytes) :
    ∃ byte bytes, String.utf8EncodeChar c = byte :: bytes ∧
      firstChar byte (bytes ++ rest) = (c, rest) := by
  obtain ⟨n, hn⟩ : ∃ n, n = c.val.toNat := ⟨_, rfl⟩
  have hc : Char.ofNat n = c := by rw [hn]; exact Char.ofNat_toNat c
  have hvalid : n.isValidChar := hn ▸ c.valid
  rw [Nat.isValidChar] at hvalid
  rw [String.utf8EncodeChar, ← hn, ← hc]
  split_ifs with hone htwo hthree
  · refine ⟨_, _, rfl, ?_⟩
    have hbyte : (UInt8.ofNat n).toNat = n := by simp; omega
    rw [firstChar_of_lt (by omega), hbyte]
    rfl
  · have hbits : n / 64 % 32 = n / 64 := by omega
    have hcode : n / 64 * 64 + n % 64 = n := by omega
    rw [hbits]
    refine ⟨_, _, rfl, firstChar_ofNat (by omega) (LeadByte.ofByte?_two (by omega)) ?_⟩
    dsimp only [List.cons_append, List.nil_append]
    rw [continueCode_ofNat (by omega) (by omega) (by omega), hcode, continueCode]
  · have hbits : n / 4096 % 16 = n / 4096 := by omega
    have hcode : (n / 4096 * 64 + n / 64 % 64) * 64 + n % 64 = n := by omega
    rw [hbits]
    refine ⟨_, _, rfl, firstChar_ofNat (by omega) (LeadByte.ofByte?_three (by omega)) ?_⟩
    dsimp only [List.cons_append, List.nil_append]
    rw [continueCode_ofNat (by omega) (by split_ifs <;> omega) (by split_ifs <;> omega),
      continueCode_ofNat (by omega) (by omega) (by omega), hcode, continueCode]
  · have hbits : n / 262144 % 8 = n / 262144 := by omega
    have hcode : ((n / 262144 * 64 + n / 4096 % 64) * 64 + n / 64 % 64) * 64 + n % 64 = n := by
      omega
    rw [hbits]
    refine ⟨_, _, rfl, firstChar_ofNat (by omega) (LeadByte.ofByte?_four (by omega)) ?_⟩
    dsimp only [List.cons_append, List.nil_append]
    rw [continueCode_ofNat (by omega) (by split_ifs <;> omega) (by split_ifs <;> omega),
      continueCode_ofNat (by omega) (by omega) (by omega),
      continueCode_ofNat (by omega) (by omega) (by omega), hcode, continueCode]

/-! ## All characters -/

/-- Reading goes on behind the first character. -/
theorem decodeLossy_cons (byte : UInt8) (bytes : Bytes) :
    decodeLossy (byte :: bytes) =
      (firstChar byte bytes).1 :: decodeLossy (firstChar byte bytes).2 := by
  rw [decodeLossy]

/-- Where there are bytes, something is read. -/
theorem decodeLossy_eq_nil_iff {bytes : Bytes} : decodeLossy bytes = [] ↔ bytes = [] := by
  cases bytes with
  | nil => simp [decodeLossy]
  | cons byte bytes => simp [decodeLossy_cons]

/-- A text is read from its own bytes. -/
@[simp] theorem decodeLossy_bytes (text : Text) : decodeLossy (bytes text) = text := by
  induction text with
  | nil => exact decodeLossy_eq_nil_iff.mpr rfl
  | cons c text ih =>
    obtain ⟨byte, rest, hbytes, hfirst⟩ := firstChar_utf8EncodeChar c (bytes text)
    have hcons : bytes (c :: text) = byte :: (rest ++ bytes text) := by
      rw [bytes, List.flatMap_cons, hbytes]
      rfl
    rw [hcons, decodeLossy_cons, hfirst, ih]

/-- Different texts have different bytes. -/
theorem bytes_injective : Function.Injective bytes :=
  Function.LeftInverse.injective decodeLossy_bytes

/-- What stands before a byte below the continuation bytes and what stands behind it are read
separately. -/
theorem decodeLossy_append {byte : UInt8} (h : byte.toNat < 0x80) (first rest : Bytes) :
    decodeLossy (first ++ byte :: rest) =
      decodeLossy first ++ Char.ofNat byte.toNat :: decodeLossy rest := by
  fun_induction decodeLossy first with
  | case1 => rw [List.nil_append, decodeLossy_cons, firstChar_of_lt h, List.nil_append]
  | case2 next bytes ih =>
    rw [List.cons_append, decodeLossy_cons, firstChar_append next bytes h, ih, List.cons_append]

/-- The character of a byte below the continuation bytes has the code point of the byte. -/
theorem toNat_ofNat_toNat {byte : UInt8} (h : byte.toNat < 0x80) :
    (Char.ofNat byte.toNat).toNat = byte.toNat := by
  have hvalid : byte.toNat.isValidChar := .inl (Nat.lt_trans h (by decide))
  rw [Char.ofNat, dif_pos hvalid]
  rfl

/-- A byte below the continuation bytes is there if its character is read. -/
theorem mem_of_mem_decodeLossy {byte : UInt8} (hbyte : byte.toNat < 0x80) {bytes : Bytes}
    (h : Char.ofNat byte.toNat ∈ decodeLossy bytes) : byte ∈ bytes := by
  fun_induction decodeLossy bytes with
  | case1 => exact absurd h List.not_mem_nil
  | case2 first bytes ih =>
    rcases List.mem_cons.mp h with heq | h
    · have hread : byte.toNat = (firstChar first bytes).1.toNat := by
        rw [← heq, toNat_ofNat_toNat hbyte]
      have hfirst : first.toNat < 0x80 := by
        by_contra hwide
        have hle := le_toNat_firstChar (Nat.not_lt.mp hwide) bytes
        omega
      rw [firstChar_of_lt hfirst, toNat_ofNat_toNat hfirst] at hread
      exact UInt8.toNat_inj.mp hread ▸ List.mem_cons_self
    · exact List.mem_cons_of_mem first ((firstChar_suffix first bytes).subset (ih h))

/-- Only a byte below the continuation bytes is read as its character. -/
theorem eq_singleton_of_decodeLossy {byte : UInt8} (hbyte : byte.toNat < 0x80) {bytes : Bytes}
    (h : decodeLossy bytes = [Char.ofNat byte.toNat]) : bytes = [byte] := by
  have hmem : byte ∈ bytes :=
    mem_of_mem_decodeLossy hbyte (by rw [h]; exact List.mem_singleton_self _)
  obtain ⟨first, rest, rfl⟩ := List.append_of_mem hmem
  rw [decodeLossy_append hbyte, List.append_eq_singleton_iff] at h
  obtain ⟨hfirst, hrest⟩ | ⟨-, hnil⟩ := h
  · have hrest := (List.cons.inj hrest).2
    rw [decodeLossy_eq_nil_iff.mp hfirst, decodeLossy_eq_nil_iff.mp hrest, List.nil_append]
  · contradiction

end Text

namespace Path

/-! ## Paths -/

/-- A slash separates what is shown of the pieces on both sides. -/
theorem display_append_slash (first rest : Bytes) :
    display (first ++ slash :: rest) = display first ++ '/' :: display rest :=
  Text.decodeLossy_append (by decide) first rest

/-- What is shown of a path, taken for a path. -/
def shown (path : Bytes) : Bytes := Text.bytes (display path)

/-- A path is what is shown of it exactly if it is text. -/
theorem shown_eq_self_iff {path : Bytes} : shown path = path ↔ ∃ text, path = Text.bytes text := by
  constructor
  · exact fun h => ⟨display path, h.symm⟩
  · rintro ⟨text, rfl⟩
    rw [shown, display, Text.decodeLossy_bytes]

/-- Nothing changes if a path is shown that is already what was shown. -/
theorem display_shown (path : Bytes) : display (shown path) = display path :=
  Text.decodeLossy_bytes (display path)

/-- The slashes of a path stay where they are. -/
theorem shown_append_slash (first rest : Bytes) :
    shown (first ++ slash :: rest) = shown first ++ slash :: shown rest := by
  rw [shown, display_append_slash, Text.bytes_append]
  rfl

/-- Behind any path, the pieces are shown one by one. -/
theorem shown_append_flatMap (front : Bytes) (names : List Bytes) :
    shown (front ++ names.flatMap (slash :: ·)) =
      shown front ++ (names.map shown).flatMap (slash :: ·) := by
  induction names generalizing front with
  | nil => simp
  | cons name names ih =>
    have hgroup : front ++ (name :: names).flatMap (slash :: ·) =
        (front ++ slash :: name) ++ names.flatMap (slash :: ·) := by simp
    rw [hgroup, ih, shown_append_slash]
    simp

/-- What is shown of an absolute path starts with a slash. -/
theorem head?_display {path : Bytes} (h : path.head? = some slash) :
    (display path).head? = some '/' := by
  obtain ⟨rest, rfl⟩ := List.head?_eq_some_iff.mp h
  have hnothing : display [] = [] := Text.decodeLossy_eq_nil_iff.mpr rfl
  have hdisplay := display_append_slash [] rest
  rw [hnothing, List.nil_append, List.nil_append] at hdisplay
  rw [hdisplay]
  rfl

/-- Where a slash is shown there is one. -/
theorem slash_mem_of_mem_display {path : Bytes} (h : '/' ∈ display path) : slash ∈ path :=
  Text.mem_of_mem_decodeLossy (by decide) h

/-- Where a single dot is shown there is nothing else. -/
theorem eq_here_of_display {path : Bytes} (h : display path = ['.']) : path = here :=
  Text.eq_singleton_of_decodeLossy (by decide) h

/-- What is shown of a step is a step. -/
theorem IsStep.shown {piece : Bytes} (h : IsStep piece) : IsStep (shown piece) := by
  refine ⟨fun hnil => h.ne_nil ?_, fun hslash => h.slash_not_mem ?_, fun hhere => h.ne_here ?_⟩
  · have hdisplay : display piece = [] := Text.bytes_injective hnil
    exact Text.decodeLossy_eq_nil_iff.mp hdisplay
  · obtain ⟨first, rest, hsplit⟩ := List.append_of_mem hslash
    have hdisplay := congrArg display hsplit
    rw [display_shown, display_append_slash] at hdisplay
    apply slash_mem_of_mem_display
    rw [hdisplay]
    exact List.mem_append_right _ List.mem_cons_self
  · have hdisplay : display piece = ['.'] := Text.bytes_injective hhere
    exact eq_here_of_display hdisplay

/-- Behind a path that ends with a slash, the first step comes without another one. -/
theorem extend_append_slash (front : Bytes) {more : List Bytes} (hne : more ≠ [])
    (hmore : ∀ piece ∈ more, IsStep piece) :
    extend (front ++ [slash]) more = front ++ more.flatMap (slash :: ·) := by
  obtain ⟨piece, more, rfl⟩ := List.exists_cons_of_ne_nil hne
  obtain ⟨hpiece, hmore⟩ := List.forall_mem_cons.mp hmore
  have hpush : push (front ++ [slash]) piece = front ++ slash :: piece := by
    rw [push, if_pos (endsWithSlash_iff.mpr ⟨front, rfl⟩), List.append_assoc]
    rfl
  have hextend := extend_eq_append (endsWithSlash_push (front ++ [slash]) hpiece) hmore
  rw [hpush] at hextend
  calc extend (front ++ [slash]) (piece :: more)
      = extend (push (front ++ [slash]) piece) more := rfl
    _ = front ++ slash :: piece ++ more.flatMap (slash :: ·) := by rw [hpush, hextend]
    _ = front ++ (piece :: more).flatMap (slash :: ·) := by simp

/-- What is shown of steps are steps. -/
theorem forall_isStep_map_shown {more : List Bytes} (h : ∀ piece ∈ more, IsStep piece) :
    ∀ piece ∈ more.map shown, IsStep piece :=
  List.forall_mem_map.mpr fun piece hpiece => (h piece hpiece).shown

/-- A path that goes on from a root is shown as one that goes on through what is shown of its
steps. -/
theorem IsRoot.shown_extend {start : Bytes} (h : IsRoot start) {more : List Bytes}
    (hne : more ≠ []) (hmore : ∀ piece ∈ more, IsStep piece) :
    shown (extend start more) = extend start (more.map shown) := by
  obtain ⟨front, hfront, rfl⟩ : ∃ front, shown front = front ∧ start = front ++ [slash] := by
    rcases h with rfl | rfl
    · exact ⟨[], shown_eq_self_iff.mpr ⟨[], rfl⟩, rfl⟩
    · exact ⟨[slash], shown_eq_self_iff.mpr ⟨['/'], rfl⟩, rfl⟩
  rw [extend_append_slash front hne hmore, shown_append_flatMap, hfront,
    extend_append_slash front (by simpa using hne) (forall_isStep_map_shown hmore)]

/-- What is shown of an absolute path is its own absolute form. -/
theorem IsRoot.absolute_shown_extend {start : Bytes} (h : IsRoot start) (directory : Bytes)
    {more : List Bytes} (hne : more ≠ []) (hmore : ∀ piece ∈ more, IsStep piece) :
    absolute directory (shown (extend start more)) = shown (extend start more) := by
  rw [h.shown_extend hne hmore]
  exact h.absolute_extend directory (by simpa using hne) (forall_isStep_map_shown hmore)

end Path

end TaskSheet
