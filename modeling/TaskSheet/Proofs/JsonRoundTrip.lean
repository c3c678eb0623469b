import TaskSheet.Json.Printer
import TaskSheet.Json.Reader
import TaskSheet.Proofs.JsonScalars

/-!
# Written values are read back

A value that is laid out over several lines is cut into the tokens from which it was made,
and the tokens build up the same value again, with the members of every object sorted by
key. This holds as long as every integer fits into sixty-four bits and no more containers
are open at once than the reader allows. Doubles are left out: which decimal notation is read
as which double is not treated here.
-/

namespace TaskSheet.Json

mutual

/-- A value without doubles that fits where `room` further containers may be opened. -/
def Fits (room : Nat) : Json → Prop
  | null => True
  | bool _ => True
  | number (.int value) => FitsWord value
  | number (.double _) => False
  | string _ => True
  | array items => 0 < room ∧ FitItems (room - 1) items
  | object members => 0 < room ∧ FitMembers (room - 1) members

/-- Items that fit one by one. -/
def FitItems (room : Nat) : List Json → Prop
  | [] => True
  | item :: items => Fits room item ∧ FitItems room items

/-- Members whose values fit one by one. -/
def FitMembers (room : Nat) : List (Text × Json) → Prop
  | [] => True
  | (_, value) :: members => Fits room value ∧ FitMembers room members

end

mutual

/-- A value with the members of every object as they are read: sorted by key, and of equal
keys the last one. -/
def sorted : Json → Json
  | array items => array (sortedItems items)
  | object members => object (sortedMembers [] members)
  | value => value

/-- Items with sorted members. -/
def sortedItems : List Json → List Json
  | [] => []
  | item :: items => sorted item :: sortedItems items

/-- Members added one by one to those already read. -/
def sortedMembers (read : List (Text × Json)) : List (Text × Json) → List (Text × Json)
  | [] => read
  | (key, value) :: members => sortedMembers (insertMember key (sorted value) read) members

end

mutual

/-- The tokens of a value. -/
def tokens : Json → List Token
  | null => [.null]
  | bool value => [.bool value]
  | number value => [.number value]
  | string value => [.string value]
  | array [] => [.openArray, .closeArray]
  | array (item :: items) => .openArray :: tokens item ++ itemTokens items ++ [.closeArray]
  | object [] => [.openObject, .closeObject]
  | object ((key, value) :: members) =>
    .openObject :: .string key :: .colon :: tokens value ++ memberTokens members ++ [.closeObject]

/-- The tokens of further items. -/
def itemTokens : List Json → List Token
  | [] => []
  | item :: items => .comma :: tokens item ++ itemTokens items

/-- The tokens of further members. -/
def memberTokens : List (Text × Json) → List Token
  | [] => []
  | (key, value) :: members =>
    .comma :: .string key :: .colon :: tokens value ++ memberTokens members

end

/-! ## Cutting a layout into tokens -/

namespace Token

/-- A blank between tokens is passed over. -/
theorem ofText?_blank {c : Char} (h : isBlank c = true) (text : Text) :
    ofText? (c :: text) = ofText? text := by
  rw [ofText?, if_pos h]

/-- A token is cut off, and the search for tokens goes on behind it. -/
theorem ofText?_read {c : Char} {text rest : Text} {token : Token} (hblank : isBlank c = false)
    (h : read? c text = some (token, rest)) :
    ofText? (c :: text) = (ofText? rest).map (token :: ·) := by
  rw [ofText?, if_neg (by simp [hblank])]
  split
  · rename_i hnone
    rw [h] at hnone
    contradiction
  · rename_i hsome
    rw [h] at hsome
    obtain ⟨rfl, rfl⟩ := Prod.mk.inj (Option.some.inj hsome)
    rfl

/-- A new line is passed over, with its indentation. -/
theorem ofText?_newline (depth : Nat) (text : Text) :
    ofText? (newline depth ++ text) = ofText? text := by
  have hspaces : ∀ count, ofText? (List.replicate count ' ' ++ text) = ofText? text := by
    intro count
    induction count with
    | zero => rfl
    | succ count ih => rw [List.replicate_succ, List.cons_append, ofText?_blank (by decide), ih]
  rw [newline, List.cons_append, ofText?_blank (by decide), hspaces]

/-- A quoted text is one token. -/
theorem ofText?_write (text rest : Text) :
    ofText? (Quoted.write text ++ rest) = (ofText? rest).map (string text :: ·) := by
  have hread :
      read? '"' (text.flatMap Quoted.escape ++ '"' :: rest) = some (string text, rest) := by
    rw [read?, Quoted.read?_flatMap_escape]
    rfl
  have hshape : Quoted.write text ++ rest =
      '"' :: (text.flatMap Quoted.escape ++ '"' :: rest) := by simp [Quoted.write]
  rw [hshape, ofText?_read (by decide) hread]

/-- A number begins with a minus sign or a digit, and no other token does. -/
theorem read?_number {c : Char} {text rest : Text} {value : Number}
    (hc : c = '-' ∨ c.isDigit = true) (h : Number.read? (c :: text) = some (value, rest)) :
    read? c text = some (number value, rest) := by
  unfold read?
  split
  case h_11 =>
    rw [h]
    rfl
  all_goals exact absurd hc (by decide)

/-- An integer is one token, if what follows does not continue it. -/
theorem ofText?_renderInt {value : Int} (hfits : FitsWord value) {rest : Text}
    (h : Numeral.Ends rest) :
    ofText? (renderInt value ++ rest) = (ofText? rest).map (number (.int value) :: ·) := by
  obtain ⟨c, text, htext, hc⟩ :
      ∃ c text, renderInt value = c :: text ∧ (c = '-' ∨ c.isDigit = true) := by
    cases value with
    | ofNat n =>
      obtain ⟨d, digits, hdigits, hd⟩ := Text.exists_digit_ofNat n
      exact ⟨d, digits, hdigits, Or.inr hd⟩
    | negSucc n => exact ⟨'-', Text.ofNat (n + 1), rfl, Or.inl rfl⟩
  have hread := Number.read?_renderInt hfits h
  have hblank : isBlank c = false := by
    simp only [isBlank, Bool.or_eq_false_iff, beq_eq_false_iff_ne]
    refine ⟨⟨⟨?_, ?_⟩, ?_⟩, ?_⟩ <;> rintro rfl <;> exact absurd hc (by decide)
  rw [htext, List.cons_append] at hread ⊢
  exact ofText?_read hblank (read?_number hc hread)

end Token

/-- A new line does not continue a number. -/
theorem ends_newline (depth : Nat) (rest : Text) : Numeral.Ends (newline depth ++ rest) :=
  Numeral.ends_cons.mpr (by decide)

/-- Further items do not continue a number. -/
theorem ends_indentedItems (depth : Nat) (items : List Json) {rest : Text}
    (h : Numeral.Ends rest) : Numeral.Ends (indentedItems depth items ++ rest) := by
  cases items with
  | nil => exact h
  | cons item items =>
    rw [indentedItems]
    exact Numeral.ends_cons.mpr (by decide)

/-- Further members do not continue a number. -/
theorem ends_indentedMembers (depth : Nat) (members : List (Text × Json)) {rest : Text}
    (h : Numeral.Ends rest) : Numeral.Ends (indentedMembers depth members ++ rest) := by
  cases members with
  | nil => exact h
  | cons member members =>
    obtain ⟨key, value⟩ := member
    rw [indentedMembers]
    exact Numeral.ends_cons.mpr (by decide)

/-- A colon and a space separate a key from its value. -/
theorem ofText?_colon (rest : Text) :
    Token.ofText? ((": " : Text) ++ rest) = (Token.ofText? rest).map (Token.colon :: ·) := by
  have hcolon : (": " : Text) = [':', ' '] := by decide
  rw [hcolon, List.cons_append, Token.ofText?_read (by decide) rfl, List.cons_append,
    Token.ofText?_blank (by decide), List.nil_append]

mutual

/-- The layout of a value is cut into the tokens of the value. -/
theorem ofText?_indented (depth room : Nat) {rest : Text} (hrest : Numeral.Ends rest) :
    (value : Json) → Fits room value →
      Token.ofText? (indented depth value ++ rest) = (Token.ofText? rest).map (tokens value ++ ·)
  | .null, _ => by
    have hnull : ("null" : Text) = ['n', 'u', 'l', 'l'] := by decide
    rw [indented, hnull]
    exact Token.ofText?_read (by decide) rfl
  | .bool true, _ => by
    have htrue : ("true" : Text) = ['t', 'r', 'u', 'e'] := by decide
    rw [indented, htrue]
    exact Token.ofText?_read (by decide) rfl
  | .bool false, _ => by
    have hfalse : ("false" : Text) = ['f', 'a', 'l', 's', 'e'] := by decide
    rw [indented, hfalse]
    exact Token.ofText?_read (by decide) rfl
  | .number (.int value), hfits => Token.ofText?_renderInt hfits hrest
  | .number (.double _), hfits => absurd hfits (by simp [Fits])
  | .string value, _ => Token.ofText?_write value rest
  | .array [], _ => by
    have hempty : ("[]" : Text) = ['[', ']'] := by decide
    rw [indented, hempty, List.cons_append, Token.ofText?_read (by decide) rfl, List.cons_append,
      Token.ofText?_read (by decide) rfl, Option.map_map]
    rfl
  | .array (item :: items), hfits => by
    rw [Fits, FitItems] at hfits
    have hclose := ends_newline depth (']' :: rest)
    have hitem := ofText?_indented (depth + 1) (room - 1)
      (ends_indentedItems (depth + 1) items hclose) item hfits.2.1
    have hitems := ofText?_indentedItems (depth + 1) (room - 1) hclose items hfits.2.2
    rw [indented]
    simp only [List.append_assoc, List.cons_append, List.nil_append]
    rw [Token.ofText?_read (by decide) rfl, Token.ofText?_newline, hitem, hitems,
      Token.ofText?_newline, Token.ofText?_read (by decide) rfl]
    cases Token.ofText? rest <;> simp [tokens]
  | .object [], _ => by
    rw [indented, List.cons_append, Token.ofText?_read (by decide) rfl, List.cons_append,
      Token.ofText?_read (by decide) rfl, Option.map_map]
    rfl
  | .object ((key, value) :: members), hfits => by
    rw [Fits, FitMembers] at hfits
    have hclose := ends_newline depth ('\x7d' :: rest)
    have hvalue := ofText?_indented (depth + 1) (room - 1)
      (ends_indentedMembers (depth + 1) members hclose) value hfits.2.1
    have hmembers := ofText?_indentedMembers (depth + 1) (room - 1) hclose members hfits.2.2
    rw [indented]
    generalize hcolon : (": " : Text) = colon
    simp only [List.append_assoc, List.cons_append, List.nil_append]
    rw [Token.ofText?_read (by decide) rfl, Token.ofText?_newline, Token.ofText?_write, ← hcolon,
      ofText?_colon, hvalue, hmembers, Token.ofText?_newline, Token.ofText?_read (by decide) rfl]
    cases Token.ofText? rest <;> simp [tokens]

/-- The layout of further items is cut into their tokens. -/
theorem ofText?_indentedItems (depth room : Nat) {rest : Text} (hrest : Numeral.Ends rest) :
    (items : List Json) → FitItems room items →
      Token.ofText? (indentedItems depth items ++ rest) =
        (Token.ofText? rest).map (itemTokens items ++ ·)
  | [], _ => by simp [indentedItems, itemTokens]
  | item :: items, hfits => by
    rw [FitItems] at hfits
    have hitem := ofText?_indented depth room (ends_indentedItems depth items hrest) item hfits.1
    have hitems := ofText?_indentedItems depth room hrest items hfits.2
    rw [indentedItems]
    simp only [List.append_assoc, List.cons_append]
    rw [Token.ofText?_read (by decide) rfl, Token.ofText?_newline, hitem, hitems]
    cases Token.ofText? rest <;> simp [itemTokens]

/-- The layout of further members is cut into their tokens. -/
theorem ofText?_indentedMembers (depth room : Nat) {rest : Text} (hrest : Numeral.Ends rest) :
    (members : List (Text × Json)) → FitMembers room members →
      Token.ofText? (indentedMembers depth members ++ rest) =
        (Token.ofText? rest).map (memberTokens members ++ ·)
  | [], _ => by simp [indentedMembers, memberTokens]
  | (key, value) :: members, hfits => by
    rw [FitMembers] at hfits
    have hvalue := ofText?_indented depth room (ends_indentedMembers depth members hrest) value
      hfits.1
    have hmembers := ofText?_indentedMembers depth room hrest members hfits.2
    rw [indentedMembers]
    generalize hcolon : (": " : Text) = colon
    simp only [List.append_assoc, List.cons_append]
    rw [Token.ofText?_read (by decide) rfl, Token.ofText?_newline, Token.ofText?_write, ← hcolon,
      ofText?_colon, hvalue, hmembers]
    cases Token.ofText? rest <;> simp [memberTokens]

end

/-! ## Building a value from its tokens -/

namespace Reader

/-- Behind the bracket of an array a first item may begin. -/
theorem step?_opened {token : Token} (h : token ≠ .closeArray) (frames : List Frame) :
    step? ⟨frames, .opened⟩ token = step? ⟨.items [] :: frames, .value⟩ token := by
  cases token with
  | closeArray => contradiction
  | _ => rfl

/-- The first token of a value closes nothing. -/
theorem exists_tokens_cons (value : Json) :
    ∃ token rest, tokens value = token :: rest ∧ token ≠ .closeArray := by
  match value with
  | .null | .bool _ | .number _ | .string _ | .array [] | .object [] =>
    exact ⟨_, _, by rw [tokens], by simp⟩
  | .array (_ :: _) | .object ((_, _) :: _) => exact ⟨_, _, by rw [tokens]; rfl, by simp⟩

/-- Behind the bracket of an array the tokens of the first item are read as those of a value. -/
theorem foldlM_opened (value : Json) (frames : List Frame) (rest : List Token) :
    (tokens value ++ rest).foldlM step? ⟨frames, .opened⟩ =
      (tokens value ++ rest).foldlM step? ⟨.items [] :: frames, .value⟩ := by
  obtain ⟨token, more, htokens, hne⟩ := exists_tokens_cons value
  rw [htokens, List.cons_append, List.foldlM_cons, List.foldlM_cons, step?_opened hne]

/-- The bracket of an array is read where a further container may be opened. -/
theorem foldlM_openArray {frames : List Frame} (h : frames.length < greatestDepth)
    (rest : List Token) :
    (Token.openArray :: rest).foldlM step? ⟨frames, .value⟩ =
      rest.foldlM step? ⟨frames, .opened⟩ := by
  have hopen : step? ⟨frames, .value⟩ .openArray = some ⟨frames, .opened⟩ := if_pos h
  rw [List.foldlM_cons, hopen]
  rfl

/-- The brace of an object is read where a further container may be opened. -/
theorem foldlM_openObject {frames : List Frame} (h : frames.length < greatestDepth)
    (rest : List Token) :
    (Token.openObject :: rest).foldlM step? ⟨frames, .value⟩ =
      rest.foldlM step? ⟨frames, .key [] false⟩ := by
  have hopen : step? ⟨frames, .value⟩ .openObject = some ⟨frames, .key [] false⟩ := if_pos h
  rw [List.foldlM_cons, hopen]
  rfl

/-- Behind a key and its colon a value has to come. -/
theorem foldlM_key (frames : List Frame) (read : List (Text × Json)) (more : Bool) (key : Text)
    (rest : List Token) :
    (Token.string key :: .colon :: rest).foldlM step? ⟨frames, .key read more⟩ =
      rest.foldlM step? ⟨.member read key :: frames, .value⟩ := rfl

/-- Behind an item and a comma a value has to come. -/
theorem foldlM_comma_items (frames : List Frame) (read : List Json) (value : Json)
    (rest : List Token) :
    (Token.comma :: rest).foldlM step? ⟨.items read :: frames, .complete value⟩ =
      rest.foldlM step? ⟨.items (value :: read) :: frames, .value⟩ := rfl

/-- Behind a member and a comma a key has to come. -/
theorem foldlM_comma_member (frames : List Frame) (read : List (Text × Json)) (key : Text)
    (value : Json) (rest : List Token) :
    (Token.comma :: rest).foldlM step? ⟨.member read key :: frames, .complete value⟩ =
      rest.foldlM step? ⟨frames, .key (insertMember key value read) true⟩ := rfl

mutual

/-- The tokens of a value build it up, with sorted members. -/
theorem foldlM_tokens {room : Nat} {frames : List Frame} (rest : List Token)
    (hroom : room + frames.length = greatestDepth) :
    (value : Json) → Fits room value →
      (tokens value ++ rest).foldlM step? ⟨frames, .value⟩ =
        rest.foldlM step? ⟨frames, .complete (sorted value)⟩
  | .null, _ => rfl
  | .bool _, _ => rfl
  | .number _, _ => rfl
  | .string _, _ => rfl
  | .array [], hfits => by
    rw [Fits] at hfits
    rw [tokens, List.cons_append, foldlM_openArray (by omega)]
    rfl
  | .array (item :: items), hfits => by
    rw [Fits, FitItems] at hfits
    have hinner : room - 1 + (Frame.items [] :: frames).length = greatestDepth := by
      rw [List.length_cons]
      omega
    rw [tokens, List.append_assoc, List.append_assoc, List.cons_append,
      foldlM_openArray (by omega), foldlM_opened, foldlM_tokens _ hinner item hfits.2.1,
      List.singleton_append, foldlM_itemTokens [] (sorted item) rest hinner items hfits.2.2,
      sorted, sortedItems]
    rfl
  | .object [], hfits => by
    rw [Fits] at hfits
    rw [tokens, List.cons_append, foldlM_openObject (by omega)]
    rfl
  | .object ((key, value) :: members), hfits => by
    rw [Fits, FitMembers] at hfits
    have hinner : room - 1 + (Frame.member [] key :: frames).length = greatestDepth := by
      rw [List.length_cons]
      omega
    rw [tokens, List.append_assoc, List.append_assoc, List.cons_append, List.cons_append,
      List.cons_append, foldlM_openObject (by omega), foldlM_key,
      foldlM_tokens _ hinner value hfits.2.1, List.singleton_append,
      foldlM_memberTokens [] (sorted value) rest hinner members hfits.2.2, sorted, sortedMembers]

/-- The tokens of further items, and the bracket behind them, complete an array. -/
theorem foldlM_itemTokens {room : Nat} {frames : List Frame} (read : List Json) (value : Json)
    (rest : List Token) (hroom : room + (Frame.items [] :: frames).length = greatestDepth) :
    (items : List Json) → FitItems room items →
      (itemTokens items ++ .closeArray :: rest).foldlM step?
          ⟨.items read :: frames, .complete value⟩ =
        rest.foldlM step?
          ⟨frames, .complete (.array ((value :: read).reverse ++ sortedItems items))⟩
  | [], _ => by
    rw [itemTokens, sortedItems, List.append_nil, List.nil_append, List.foldlM_cons]
    rfl
  | item :: items, hfits => by
    rw [FitItems] at hfits
    have hinner : room + (Frame.items (value :: read) :: frames).length = greatestDepth := hroom
    rw [itemTokens, List.append_assoc, List.cons_append, foldlM_comma_items,
      foldlM_tokens _ hinner item hfits.1,
      foldlM_itemTokens (value :: read) (sorted item) rest hroom items hfits.2, sortedItems,
      List.reverse_cons, List.append_assoc, List.singleton_append]

/-- The tokens of further members, and the brace behind them, complete an object. -/
theorem foldlM_memberTokens {room : Nat} {frames : List Frame} {key : Text}
    (read : List (Text × Json)) (value : Json) (rest : List Token)
    (hroom : room + (Frame.member [] key :: frames).length = greatestDepth) :
    (members : List (Text × Json)) → FitMembers room members →
      (memberTokens members ++ .closeObject :: rest).foldlM step?
          ⟨.member read key :: frames, .complete value⟩ =
        rest.foldlM step?
          ⟨frames, .complete (.object (sortedMembers (insertMember key value read) members))⟩
  | [], _ => by
    rw [memberTokens, sortedMembers, List.nil_append, List.foldlM_cons]
    rfl
  | (next, item) :: members, hfits => by
    rw [FitMembers] at hfits
    have hinner : room + (Frame.member (insertMember key value read) next :: frames).length =
        greatestDepth := hroom
    have hnext : room + (Frame.member [] next :: frames).length = greatestDepth := hroom
    rw [memberTokens, List.append_assoc, List.cons_append, List.cons_append, List.cons_append,
      foldlM_comma_member, foldlM_key, foldlM_tokens _ hinner item hfits.1,
      foldlM_memberTokens (insertMember key value read) (sorted item) rest hnext members hfits.2,
      sortedMembers]

end

end Reader

/-- A value that fits is read back from its layout, with sorted members. -/
theorem parse?_pretty {value : Json} (h : Fits greatestDepth value) :
    parse? (pretty value) = some (sorted value) := by
  have htokens : Token.ofText? (pretty value) = some (tokens value) := by
    have hcut := ofText?_indented 0 greatestDepth Numeral.ends_nil value h
    have hnil : Token.ofText? [] = some [] := by rw [Token.ofText?]
    rw [hnil, Option.map_some, List.append_nil, List.append_nil] at hcut
    exact hcut
  have hroom : greatestDepth + ([] : List Reader.Frame).length = greatestDepth := rfl
  have hbuild := Reader.foldlM_tokens [] hroom value h
  rw [List.append_nil] at hbuild
  rw [parse?, htokens, Option.bind_some, ofTokens?, Reader.start, hbuild]
  rfl

end TaskSheet.Json
