import Mathlib.Data.List.Basic
import RecordMapper.Url.Basic
import RecordMapper.Url.Reading

/-!
Percent encodings of texts. Which characters are escaped is open beyond those that must be, and so is the
case of the digits; every encoding is decoded to the text, and is the text itself exactly if it has no
percent sign.
-/

set_option autoImplicit false

namespace RecordMapper.Url

inductive Escapes : List UInt8 → List Char → Prop
  | nil : Escapes [] []
  | byte {b : UInt8} {bytes : List UInt8} {high low : Char} {escapes : List Char}
      (first : hexValue? high = some (b.toNat / 16)) (second : hexValue? low = some (b.toNat % 16))
      (later : Escapes bytes escapes) : Escapes (b :: bytes) ('%' :: high :: low :: escapes)

/-- A percent encoding of a text. A character stands for itself or is escaped; those that are `hidden`
and the percent sign are escaped always. -/
inductive Encodes (hidden : Char → Bool) : List Char → List Char → Prop
  | nil : Encodes hidden [] []
  | plain {c : Char} {cs written : List Char} (shown : hidden c = false) (unsigned : c ≠ '%')
      (later : Encodes hidden cs written) : Encodes hidden (c :: cs) (c :: written)
  | escaped {c : Char} {cs escapes written : List Char}
      (bytes : Escapes (String.utf8EncodeChar c) escapes) (later : Encodes hidden cs written) :
      Encodes hidden (c :: cs) (escapes ++ written)

variable {hidden : Char → Bool} {cs written escapes : List Char} {bytes : List UInt8}

/-! ## Decoding -/

private theorem decodeBytes_cons_of_ne {c : Char} (unsigned : c ≠ '%') (rest : List Char) :
    decodeBytes (c :: rest) = String.utf8EncodeChar c ++ decodeBytes rest := by
  rw [decodeBytes]
  rintro high low _ rfl
  exact absurd rfl unsigned

private theorem decodeBytes_escaped {b : UInt8} {high low : Char}
    (first : hexValue? high = some (b.toNat / 16))
    (second : hexValue? low = some (b.toNat % 16)) (rest : List Char) :
    decodeBytes ('%' :: high :: low :: rest) = b :: decodeBytes rest := by
  rw [decodeBytes, first, second]
  have whole : b.toNat / 16 * 16 + b.toNat % 16 = b.toNat := by omega
  simp only [whole, UInt8.ofNat_toNat]

private theorem Escapes.decodeBytes (written : Escapes bytes escapes) (rest : List Char) :
    decodeBytes (escapes ++ rest) = bytes ++ Url.decodeBytes rest := by
  induction written with
  | nil => rfl
  | byte first second _ ih =>
      rw [List.cons_append, List.cons_append, List.cons_append, decodeBytes_escaped first second, ih]
      rfl

theorem Encodes.decodeBytes (encodes : Encodes hidden cs written) :
    decodeBytes written = cs.flatMap String.utf8EncodeChar := by
  induction encodes with
  | nil => rfl
  | plain _ unsigned _ ih => rw [decodeBytes_cons_of_ne unsigned, ih, List.flatMap_cons]
  | escaped bytes _ ih => rw [bytes.decodeBytes, ih, List.flatMap_cons]

def decode? (written : String) : Option String :=
  String.fromUTF8? (Url.decodeBytes written.toList).toByteArray

private theorem toByteArray_bytes (text : String) :
    (text.toList.flatMap String.utf8EncodeChar).toByteArray = text.toByteArray := by
  rw [← List.utf8Encode, ← String.toByteArray_ofList, String.ofList_toList]

theorem Encodes.decode? {text written : String}
    (encodes : Encodes hidden text.toList written.toList) : decode? written = some text := by
  rw [Url.decode?, encodes.decodeBytes, toByteArray_bytes]
  exact dif_pos text.isValidUTF8

/-- A text is told by the bytes of its encoding. -/
theorem Encodes.eq_of_decodeBytes (encodes : Encodes hidden cs written) (cs' : List Char)
    (bytes : Url.decodeBytes written = cs'.flatMap String.utf8EncodeChar) : cs = cs' := by
  rw [encodes.decodeBytes] at bytes
  have same := congrArg List.toByteArray bytes
  rw [← List.utf8Encode, ← List.utf8Encode, ← String.toByteArray_ofList, ← String.toByteArray_ofList,
    String.toByteArray_inj] at same
  exact String.ofList_injective same

/-! ## The characters of an encoding -/

theorem lt_of_hexValue {c : Char} {n : Nat} (digit : hexValue? c = some n) : c.toNat < 0x80 := by
  have below {last : Char} (small : last.toNat < 0x80) (upTo : c ≤ last) : c.toNat < 0x80 :=
    Nat.lt_of_le_of_lt (UInt32.le_iff_toNat_le.mp (Char.le_def.mp upTo)) small
  unfold hexValue? at digit
  split at digit
  · rename_i range
    exact below (by decide) range.2
  · split at digit
    · rename_i range
      exact below (by decide) range.2
    · split at digit
      · rename_i range
        exact below (by decide) range.2
      · cases digit

private theorem shown_of_digit_ascii :
    ∀ point < 0x80, (hexValue? (Char.ofNat point)).isSome = true →
    encodesInUser (Char.ofNat point) = false := by
  decide +kernel

/-- No part of a URL escapes the percent sign or a hexadecimal digit. -/
theorem shown_of_escape {c : Char} (escape : c = '%' ∨ (hexValue? c).isSome = true) :
    encodesInUser c = false := by
  rcases escape with rfl | digit
  · decide
  · obtain ⟨n, value⟩ := Option.isSome_iff_exists.mp digit
    have ascii := shown_of_digit_ascii c.toNat (lt_of_hexValue value)
    rw [Char.ofNat_toNat] at ascii
    exact ascii digit

private theorem Escapes.length (written : Escapes bytes escapes) :
    escapes.length = 3 * bytes.length := by
  induction written with
  | nil => rfl
  | byte _ _ _ ih =>
      simp only [List.length_cons, ih]
      omega

private theorem Escapes.mem (written : Escapes bytes escapes) {d : Char} (member : d ∈ escapes) :
    d = '%' ∨ (hexValue? d).isSome = true := by
  induction written with
  | nil => cases member
  | byte first second _ ih =>
      simp only [List.mem_cons] at member
      rcases member with rfl | rfl | rfl | later
      · exact .inl rfl
      · exact .inr (by rw [first]; rfl)
      · exact .inr (by rw [second]; rfl)
      · exact ih later

theorem Encodes.mem (encodes : Encodes hidden cs written) {d : Char} (member : d ∈ written) :
    (d ∈ cs ∧ hidden d = false) ∨ d = '%' ∨ (hexValue? d).isSome = true := by
  induction encodes with
  | nil => cases member
  | plain shown _ _ ih =>
      rcases List.mem_cons.mp member with rfl | later
      · exact .inl ⟨List.mem_cons_self, shown⟩
      · exact (ih later).imp_left fun ⟨held, shown⟩ => ⟨List.mem_cons_of_mem _ held, shown⟩
  | escaped bytes _ ih =>
      rcases List.mem_append.mp member with here | later
      · exact .inr (bytes.mem here)
      · exact (ih later).imp_left fun ⟨held, shown⟩ => ⟨List.mem_cons_of_mem _ held, shown⟩

theorem Encodes.shown (encodes : Encodes hidden cs written)
    (narrow : ∀ c, encodesInUser c = false → hidden c = false) : ∀ c ∈ written, hidden c = false := by
  intro c member
  rcases encodes.mem member with ⟨_, shown⟩ | escape
  · exact shown
  · exact narrow c (shown_of_escape escape)

private theorem Escapes.percent_mem (written : Escapes bytes escapes) (escaped : escapes ≠ []) :
    '%' ∈ escapes := by
  cases written with
  | nil => exact absurd rfl escaped
  | byte => exact List.mem_cons_self

theorem Escapes.two_lt_length {c : Char} (bytes : Escapes (String.utf8EncodeChar c) escapes) :
    2 < escapes.length := by
  have size := Char.utf8Size_pos c
  rw [bytes.length, String.length_utf8EncodeChar]
  omega

theorem Encodes.length_le (encodes : Encodes hidden cs written) : cs.length ≤ written.length := by
  induction encodes with
  | nil => exact Nat.le_refl _
  | plain _ _ _ ih => exact Nat.succ_le_succ ih
  | escaped bytes _ ih =>
      have more := bytes.two_lt_length
      rw [List.length_cons, List.length_append]
      omega

private theorem Encodes.length_lt (encodes : Encodes hidden cs written) (signed : '%' ∈ written) :
    cs.length < written.length := by
  induction encodes with
  | nil => cases signed
  | plain _ unsigned _ ih =>
      rcases List.mem_cons.mp signed with same | later
      · exact absurd same.symm unsigned
      · exact Nat.succ_lt_succ (ih later)
  | escaped bytes later _ =>
      have more := bytes.two_lt_length
      have few := later.length_le
      rw [List.length_cons, List.length_append]
      omega

/-- An encoding is the text itself exactly if nothing is escaped. -/
theorem Encodes.eq_iff (encodes : Encodes hidden cs written) : written = cs ↔ '%' ∉ written := by
  constructor
  · intro same signed
    subst same
    exact absurd (encodes.length_lt signed) (Nat.lt_irrefl _)
  · intro unsigned
    induction encodes with
    | nil => rfl
    | plain _ _ _ ih => rw [ih (List.not_mem_of_not_mem_cons unsigned)]
    | escaped bytes _ _ =>
        have escaped := List.ne_nil_of_length_pos (Nat.zero_lt_of_lt bytes.two_lt_length)
        exact absurd (List.mem_append_left _ (bytes.percent_mem escaped)) unsigned

/-! ## An encoding of each text -/

private theorem hexValue_hexDigit : ∀ n < 16, hexValue? (hexDigit n) = some n := by decide

private theorem escapes_encodeByte (bytes : List UInt8) :
    Escapes bytes (bytes.flatMap encodeByte) := by
  induction bytes with
  | nil => exact .nil
  | cons b bytes ih =>
      have small := b.toNat_lt
      exact .byte (hexValue_hexDigit _ (by omega)) (hexValue_hexDigit _ (by omega)) ih

/-- Where the percent sign is escaped too, the characters that a part of a URL must not show are all that
need to be. -/
theorem encodes_encode (hidden : Char → Bool) (cs : List Char) :
    Encodes hidden cs (encode (fun c => hidden c || c == '%') cs) := by
  induction cs with
  | nil => exact .nil
  | cons c cs ih =>
      rw [encode, List.flatMap_cons, ← encode]
      split
      · exact .escaped (escapes_encodeByte _) ih
      · rename_i bare
        simp only [Bool.or_eq_true, beq_iff_eq, not_or, Bool.not_eq_true] at bare
        exact .plain bare.1 bare.2 ih

/-!
## Segments of dots

Segments of dots. A segment stands for the path itself or the one above it exactly if it encodes one dot
or two, however the dots are written.
-/

def dotForms : List (List Char) := [['.'], ['%', '2', 'e'], ['%', '2', 'E']]

/-! ## Segments that encode dots -/

private theorem eq_of_hexValue_ascii : ∀ point < 0x80,
    (hexValue? (Char.ofNat point) = some 2 → Char.ofNat point = '2') ∧
      (hexValue? (Char.ofNat point) = some 14 → Char.ofNat point = 'e' ∨ Char.ofNat point = 'E') := by
  decide +kernel

/-- The first dot of a text is written in one of its forms, and the rest behind it. -/
theorem exists_dotForm (encodes : Encodes hidden ('.' :: cs) written) :
    ∃ form ∈ dotForms, ∃ rest, written = form ++ rest ∧ Encodes hidden cs rest := by
  cases encodes with
  | @plain _ _ rest _ _ later => exact ⟨['.'], by decide, rest, rfl, later⟩
  | @escaped _ _ escapes rest bytes later =>
      have single : String.utf8EncodeChar '.' = [0x2E] := by decide
      rw [single] at bytes
      cases bytes with
      | @byte _ _ high low _ first second none =>
          cases none
          have two := eq_of_hexValue_ascii high.toNat (lt_of_hexValue first)
          have fourteen := eq_of_hexValue_ascii low.toNat (lt_of_hexValue second)
          rw [Char.ofNat_toNat] at two fourteen
          obtain rfl := two.1 first
          rcases fourteen.2 second with rfl | rfl
          · exact ⟨['%', '2', 'e'], by decide, rest, rfl, later⟩
          · exact ⟨['%', '2', 'E'], by decide, rest, rfl, later⟩

theorem eq_nil_of_encodes_nil (encodes : Encodes hidden [] written) : written = [] := by
  cases encodes
  rfl

private theorem isSingleDot_of_mem : ∀ form ∈ dotForms, isSingleDot form = true := by decide

private theorem isDoubleDot_of_mem : ∀ form ∈ dotForms, ∀ form' ∈ dotForms,
    isDoubleDot (form ++ form') = true := by decide

/-! ## Dots that segments encode -/

private theorem lt_of_toLower {c : Char} (small : c.toLower.toNat < 0x80) : c.toNat < 0x80 := by
  unfold Char.toLower at small
  split at small
  · rename_i capital
    exact Nat.lt_of_le_of_lt (UInt32.le_iff_toNat_le.mp capital.2) (by decide : 'Z'.toNat < 0x80)
  · exact small

private theorem eq_of_toLower_ascii : ∀ point < 0x80,
    ((Char.ofNat point).toLower = '.' → Char.ofNat point = '.') ∧
      ((Char.ofNat point).toLower = '%' → Char.ofNat point = '%') ∧
      ((Char.ofNat point).toLower = '2' → Char.ofNat point = '2') ∧
      ((Char.ofNat point).toLower = 'e' → Char.ofNat point = 'e' ∨ Char.ofNat point = 'E') := by
  decide +kernel

private theorem eq_of_toLower (c : Char) :
    (c.toLower = '.' → c = '.') ∧ (c.toLower = '%' → c = '%') ∧ (c.toLower = '2' → c = '2') ∧
      (c.toLower = 'e' → c = 'e' ∨ c = 'E') := by
  by_cases small : c.toNat < 0x80
  · have ascii := eq_of_toLower_ascii c.toNat small
    rwa [Char.ofNat_toNat] at ascii
  · have wide {d : Char} (ascii : d.toNat < 0x80) : c.toLower ≠ d := by
      rintro rfl
      exact small (lt_of_toLower ascii)
    exact ⟨fun same => absurd same (wide (by decide)), fun same => absurd same (wide (by decide)),
      fun same => absurd same (wide (by decide)), fun same => absurd same (wide (by decide))⟩

/-- Text that starts with a dot in small letters starts with one of its forms. -/
theorem exists_dotForm_of_map {form rest : List Char} (dot : form ∈ [['.'], ['%', '2', 'e']])
    (lower : written.map Char.toLower = form ++ rest) :
    ∃ form ∈ dotForms, ∃ others, written = form ++ others ∧ others.map Char.toLower = rest := by
  simp only [List.mem_cons, List.not_mem_nil, or_false] at dot
  rcases dot with rfl | rfl
  · obtain ⟨c, others, rfl, dot, same⟩ := List.map_eq_cons_iff.mp lower
    obtain rfl := (eq_of_toLower c).1 dot
    exact ⟨['.'], by decide, others, rfl, same⟩
  · obtain ⟨sign, _, rfl, percent, lower⟩ := List.map_eq_cons_iff.mp lower
    obtain ⟨high, _, rfl, two, lower⟩ := List.map_eq_cons_iff.mp lower
    obtain ⟨low, others, rfl, fourteen, same⟩ := List.map_eq_cons_iff.mp lower
    obtain rfl := (eq_of_toLower sign).2.1 percent
    obtain rfl := (eq_of_toLower high).2.2.1 two
    rcases (eq_of_toLower low).2.2.2 fourteen with rfl | rfl
    · exact ⟨['%', '2', 'e'], by decide, others, rfl, same⟩
    · exact ⟨['%', '2', 'E'], by decide, others, rfl, same⟩

private theorem mem_dotForms_of_isSingleDot (dot : isSingleDot written = true) :
    written ∈ dotForms := by
  unfold isSingleDot at dot
  simp only [List.contains_iff_mem, List.mem_cons, List.not_mem_nil, or_false] at dot
  have lower : ∃ form ∈ [['.'], ['%', '2', 'e']], written.map Char.toLower = form ++ [] := by
    rcases dot with same | same
    · exact ⟨['.'], by decide, String.ofList_injective same⟩
    · exact ⟨['%', '2', 'e'], by decide, String.ofList_injective same⟩
  obtain ⟨form, member, lower⟩ := lower
  obtain ⟨form, member, others, rfl, none⟩ := exists_dotForm_of_map member lower
  rw [List.map_eq_nil_iff.mp none, List.append_nil]
  exact member

private theorem exists_dotForms_of_isDoubleDot (dots : isDoubleDot written = true) :
    ∃ form ∈ dotForms, ∃ form' ∈ dotForms, written = form ++ form' := by
  unfold isDoubleDot at dots
  simp only [List.contains_iff_mem, List.mem_cons, List.not_mem_nil, or_false] at dots
  have lower : ∃ form ∈ [['.'], ['%', '2', 'e']], ∃ form' ∈ [['.'], ['%', '2', 'e']],
      written.map Char.toLower = form ++ (form' ++ []) := by
    rcases dots with same | same | same | same
    · exact ⟨['.'], by decide, ['.'], by decide, String.ofList_injective same⟩
    · exact ⟨['%', '2', 'e'], by decide, ['.'], by decide, String.ofList_injective same⟩
    · exact ⟨['.'], by decide, ['%', '2', 'e'], by decide, String.ofList_injective same⟩
    · exact ⟨['%', '2', 'e'], by decide, ['%', '2', 'e'], by decide, String.ofList_injective same⟩
  obtain ⟨form, member, form', member', lower⟩ := lower
  obtain ⟨form, member, others, rfl, later⟩ := exists_dotForm_of_map member lower
  obtain ⟨form', member', others, rfl, none⟩ := exists_dotForm_of_map member' later
  rw [List.map_eq_nil_iff.mp none, List.append_nil]
  exact ⟨form, member, form', member', rfl⟩

private theorem decodeBytes_dotForm : ∀ form ∈ dotForms, decodeBytes form = [0x2E] := by decide

private theorem decodeBytes_dotForms : ∀ form ∈ dotForms, ∀ form' ∈ dotForms,
    decodeBytes (form ++ form') = [0x2E, 0x2E] := by decide

theorem Encodes.isSingleDot_iff (encodes : Encodes hidden cs written) :
    isSingleDot written = true ↔ cs = ['.'] := by
  constructor
  · intro dot
    have bytes := decodeBytes_dotForm written (mem_dotForms_of_isSingleDot dot)
    exact encodes.eq_of_decodeBytes ['.'] bytes
  · rintro rfl
    obtain ⟨form, member, rest, rfl, none⟩ := exists_dotForm encodes
    rw [eq_nil_of_encodes_nil none, List.append_nil]
    exact isSingleDot_of_mem form member

theorem Encodes.isDoubleDot_iff (encodes : Encodes hidden cs written) :
    isDoubleDot written = true ↔ cs = ['.', '.'] := by
  constructor
  · intro dots
    obtain ⟨form, member, form', member', rfl⟩ := exists_dotForms_of_isDoubleDot dots
    exact encodes.eq_of_decodeBytes ['.', '.']
      (decodeBytes_dotForms form member form' member')
  · rintro rfl
    obtain ⟨form, member, rest, rfl, later⟩ := exists_dotForm encodes
    obtain ⟨form', member', rest, rfl, none⟩ := exists_dotForm later
    rw [eq_nil_of_encodes_nil none, List.append_nil]
    exact isDoubleDot_of_mem form member form' member'

end RecordMapper.Url
