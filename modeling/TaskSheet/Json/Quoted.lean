import TaskSheet.Json.Basic

/-!
# Quoted strings

A text stands between quotes in a JSON file. Writing escapes the quote, the backslash and
the control characters below the space. Reading accepts every escape there is, and any
other character from the space on. Every reader takes a text and returns what it has read
together with the rest, which is always shorter.
-/

namespace TaskSheet.Json.Quoted

/-- What stands for a character inside a quoted string. The quote, the backslash and the
control characters below the space are escaped, and nothing else is. -/
def escape (c : Char) : Text :=
  match c with
  | '"' => ['\\', '"']
  | '\\' => ['\\', '\\']
  | '\x08' => ['\\', 'b']
  | '\x0c' => ['\\', 'f']
  | '\n' => ['\\', 'n']
  | '\r' => ['\\', 'r']
  | '\t' => ['\\', 't']
  | c =>
    if c.toNat < 0x20 then ['\\', 'u', '0', '0'] ++ Text.hexPair c.toNat else [c]

/-- A text as a JSON string, with its quotes. -/
def write (text : Text) : Text := '"' :: text.flatMap escape ++ ['"']

/-- The value of a hexadecimal digit of either case. -/
def hexValue? (c : Char) : Option Nat :=
  if c.isDigit then some (c.toNat - '0'.toNat)
  else if 'a' ≤ c && c ≤ 'f' then some (c.toNat - 'a'.toNat + 10)
  else if 'A' ≤ c && c ≤ 'F' then some (c.toNat - 'A'.toNat + 10)
  else none

/-- Four hexadecimal digits. -/
def readUnit? : Text → Option (Nat × Text)
  | a :: b :: c :: d :: rest =>
    match hexValue? a, hexValue? b, hexValue? c, hexValue? d with
    | some a, some b, some c, some d => some (((a * 16 + b) * 16 + c) * 16 + d, rest)
    | _, _, _, _ => none
  | _ => none

/-- One unit, or a high surrogate with the low one that has to follow it. -/
def readCodePoint? (text : Text) : Option (Char × Text) :=
  match readUnit? text with
  | none => none
  | some (code, rest) =>
    if code < 0xD800 || 0xDFFF < code then some (Char.ofNat code, rest)
    else if 0xDC00 ≤ code then none
    else match rest with
      | '\\' :: 'u' :: rest =>
        match readUnit? rest with
        | some (low, rest) =>
          if 0xDC00 ≤ low && low ≤ 0xDFFF then
            some (Char.ofNat (0x10000 + (code - 0xD800) * 0x400 + (low - 0xDC00)), rest)
          else none
        | none => none
      | _ => none

/-- The character for which the text after a backslash stands. -/
def readEscape? : Text → Option (Char × Text)
  | '"' :: rest => some ('"', rest)
  | '\\' :: rest => some ('\\', rest)
  | '/' :: rest => some ('/', rest)
  | 'b' :: rest => some ('\x08', rest)
  | 'f' :: rest => some ('\x0c', rest)
  | 'n' :: rest => some ('\n', rest)
  | 'r' :: rest => some ('\r', rest)
  | 't' :: rest => some ('\t', rest)
  | 'u' :: rest => readCodePoint? rest
  | _ => none

/-- A unit takes its four digits. -/
theorem length_of_readUnit? {text rest : Text} {code : Nat}
    (h : readUnit? text = some (code, rest)) : rest.length + 4 = text.length := by
  unfold readUnit? at h
  split at h
  · split at h
    · simp only [Option.some.injEq, Prod.mk.injEq] at h
      simp [← h.2]
    · simp at h
  · simp at h

/-- A code point takes at least one unit. -/
theorem length_of_readCodePoint? {text rest : Text} {c : Char}
    (h : readCodePoint? text = some (c, rest)) : rest.length < text.length := by
  unfold readCodePoint? at h
  split at h
  · simp at h
  · rename_i code after hunit
    have hlen := length_of_readUnit? hunit
    split at h
    · simp only [Option.some.injEq, Prod.mk.injEq] at h
      rw [← h.2]
      omega
    · split at h
      · simp at h
      · split at h
        · split at h
          · rename_i hlow
            have hlen' := length_of_readUnit? hlow
            split at h
            · simp only [Option.some.injEq, Prod.mk.injEq] at h
              rw [← h.2]
              simp only [List.length_cons] at hlen
              omega
            · simp at h
          · simp at h
        · simp at h

/-- An escape takes at least one character. -/
theorem length_of_readEscape? {text rest : Text} {c : Char}
    (h : readEscape? text = some (c, rest)) : rest.length < text.length := by
  unfold readEscape? at h
  split at h
  case h_9 => exact Nat.lt_succ_of_lt (length_of_readCodePoint? h)
  all_goals first
    | (simp only [Option.some.injEq, Prod.mk.injEq] at h; simp [← h.2])
    | simp at h

/-- The characters up to the closing quote, put behind those already `read` in reverse. -/
def read? (read : Text) : Text → Option (Text × Text)
  | [] => none
  | c :: text =>
    if c = '"' then some (read.reverse, text)
    else if c = '\\' then
      match _h : readEscape? text with
      | none => none
      | some (escaped, rest) => read? (escaped :: read) rest
    else if c.toNat < 0x20 then none
    else read? (c :: read) text
  termination_by text => text.length
  decreasing_by
    · exact Nat.lt_succ_of_lt (length_of_readEscape? (by assumption))
    · simp

/-- A string takes at least its closing quote. -/
theorem length_of_read? {read text rest : Text} {value : Text}
    (h : read? read text = some (value, rest)) : rest.length < text.length := by
  fun_induction read? read text with
  | case1 => simp at h
  | case2 read text =>
    simp only [Option.some.injEq, Prod.mk.injEq] at h
    simp [← h.2]
  | case3 => simp at h
  | case4 _ _ _ _ hescape _ ih =>
    have hlen := length_of_readEscape? hescape
    have hrest := ih h
    simp only [List.length_cons]
    omega
  | case5 => simp at h
  | case6 read c text _ _ _ ih =>
    have hrest := ih h
    simp only [List.length_cons]
    omega

end TaskSheet.Json.Quoted
