import Mathlib.Tactic.IntervalCases
import RecordMapper.Proofs.Sql.Lexeme
import RecordMapper.Sql.Render

/-!
Values as they stand in SQL text. Texts, booleans and bytes are one literal that reads back as the
value; in PostgreSQL bytes are a text with a cast behind it. Numbers are one token behind their sign.
-/

set_option autoImplicit false

namespace RecordMapper

open Sql

namespace Sql

def numberTokens (text : String) : List Token :=
  match text.toList with
  | '-' :: digits => [.symbol "-", .number (.ofList digits)]
  | digits => [.number (.ofList digits)]

def byteaText (content : List UInt8) : String :=
  .ofList ('\\' :: 'x' :: content.flatMap hexByte)

def readBytea (text : String) : Option (List UInt8) :=
  match text.toList with
  | '\\' :: 'x' :: digits => readHex digits
  | _ => none

end Sql

def Value.tokens (d : Dialect) : Value → List Token
  | .null => [.keyword "null"]
  | .bool b => [.text (if b then "1" else "0")]
  | .int n => numberTokens (toString n.toInt)
  | .float x =>
    match x.datum with
    | .finite .. => numberTokens x.plainText
    | _ => [.keyword "null"]
  | .text s => [.text s]
  | .bytes b =>
    match d with
    | .mysql => [.bytes b]
    | .postgresql => [.text (byteaText b), .symbol "::", .name "bytea"]

namespace Sql

/-! ## Texts -/

/-- One character of a text, as it stands in a literal, is read as that character. -/
theorem growAll_escapeChar (d : Dialect) (c : Char) (read : List Char) :
    growAll d (.inside .text .single read) (d.escapeChar c) =
      some (.inside .text .single (c :: read)) := by
  cases d with
  | postgresql =>
      simp only [Dialect.escapeChar]
      split
      · rename_i same; subst same; rfl
      · rename_i notQuote
        simp [growAll, grow, Quote.char, notQuote, hasEscapes]
  | mysql =>
      simp only [Dialect.escapeChar]
      split
      · rename_i null
        obtain rfl : c = '\x00' := Char.toNat_inj.mp null
        rfl
      split
      · rename_i same; subst same; rfl
      split
      · rename_i same; subst same; rfl
      split
      · rename_i same; subst same; rfl
      split
      · rename_i same; subst same; rfl
      split
      · rename_i same; subst same; rfl
      split
      · rename_i last
        obtain rfl : c = '\x1a' := Char.toNat_inj.mp last
        rfl
      · rename_i notBackslash notQuote _ _
        simp [growAll, grow, Quote.char, notBackslash, notQuote]

theorem growAll_escaped (d : Dialect) (cs read : List Char) :
    growAll d (.inside .text .single read) (cs.flatMap d.escapeChar ++ ['\'']) =
      some (.closed .text .single (cs.reverse ++ read)) := by
  induction cs generalizing read with
  | nil => rfl
  | cons c cs ih =>
      rw [List.flatMap_cons, List.append_assoc, growAll_append (growAll_escapeChar d c read), ih]
      simp

theorem toList_escapeLiteral (d : Dialect) (text : String) :
    (d.escapeLiteral text).toList = '\'' :: (text.toList.flatMap d.escapeChar ++ ['\'']) := by
  rw [Dialect.escapeLiteral, String.toList_ofList, Dialect.escapeChars, List.cons_append]

private theorem lex_escapeLiteral (d : Dialect) (text : String) :
    lex d (d.escapeLiteral text).toList = some [.text text] := by
  have begins : begin? d '\'' = some (.inside .text .single []) := by cases d <;> rfl
  have scanned := scan_append_growAll (growAll_escaped d text.toList []) []
  rw [List.append_nil] at scanned
  rw [toList_escapeLiteral, lex_cons, begins, Option.bind_some, scanned]
  simp [scan, finish]

/-! ## Bytes -/

private theorem hexValue_digitChar {n : Nat} (small : n < 16) : hexValue? n.digitChar = some n := by
  revert n; decide

theorem readHex_hexBytes (content : List UInt8) :
    readHex (content.flatMap hexByte) = some content := by
  induction content with
  | nil => rfl
  | cons byte content ih =>
      have bound : byte.toNat < 256 := byte.toNat_lt
      have high := hexValue_digitChar (n := byte.toNat / 16) (by omega)
      have low := hexValue_digitChar (n := byte.toNat % 16) (by omega)
      simp only [List.flatMap_cons, hexByte, List.cons_append, List.nil_append, readHex, high, low,
        ih, Option.bind_eq_bind, Option.bind_some, Option.pure_def]
      rw [Nat.div_add_mod, UInt8.ofNat_toNat]

theorem readBytea_byteaText (content : List UInt8) :
    readBytea (byteaText content) = some content := by
  rw [readBytea, byteaText, String.toList_ofList]
  exact readHex_hexBytes content

private theorem ne_quote_of_mem_hexBytes {content : List UInt8} {c : Char}
    (member : c ∈ content.flatMap hexByte) : c ≠ '\'' := by
  have digit : ∀ n < 16, n.digitChar ≠ '\'' := by decide
  obtain ⟨byte, _, inside⟩ := List.mem_flatMap.mp member
  have bound : byte.toNat < 256 := byte.toNat_lt
  simp only [hexByte, List.mem_cons, List.not_mem_nil, or_false] at inside
  rcases inside with rfl | rfl
  · exact digit _ (by omega)
  · exact digit _ (by omega)

/-- Between quotes without escapes, characters other than the quote are read as they are. -/
theorem scan_inside_append {d : Dialect} {kind : Quotation} (plain : hasEscapes d kind = false)
    {quote : Quote} {cs : List Char} (inner : ∀ c ∈ cs, c ≠ quote.char) (read rest : List Char) :
    scan d (.inside kind quote read) (cs ++ rest) =
      scan d (.inside kind quote (cs.reverse ++ read)) rest := by
  induction cs generalizing read with
  | nil => rfl
  | cons c cs ih =>
      obtain ⟨first, others⟩ := List.forall_mem_cons.mp inner
      rw [List.cons_append, scan_cons_grow (.inside kind quote (c :: read))
        (by simp [grow, first, plain]), ih others]
      simp

/-- Bytes read back as the bytes; PostgreSQL has a text and a cast for them. -/
theorem lex_bytes (d : Dialect) (content : List UInt8) :
    lex d (Value.literal d (.bytes content)).toList = some (Value.tokens d (.bytes content)) := by
  have inner : ∀ c ∈ content.flatMap hexByte, c ≠ Quote.single.char := fun _ member =>
    ne_quote_of_mem_hexBytes member
  cases d with
  | mysql =>
      have chars : (Value.literal .mysql (.bytes content)).toList =
          'X' :: '\'' :: (content.flatMap hexByte ++ ['\'']) := by
        simp [Value.literal]
      rw [chars, lex_cons, begin_word rfl, Option.bind_some,
        scan_cons_grow (.inside .bytes .single []) rfl, scan_inside_append rfl inner,
        scan_cons_grow (.closed .bytes .single _) rfl]
      simp [scan, finish, readHex_hexBytes, Value.tokens]
  | postgresql =>
      have chars : (Value.literal .postgresql (.bytes content)).toList =
          '\'' :: (('\\' :: 'x' :: content.flatMap hexByte) ++ '\'' :: "::bytea".toList) := by
        simp [Value.literal]
      have outer : ∀ c ∈ '\\' :: 'x' :: content.flatMap hexByte, c ≠ Quote.single.char := by
        simpa [Quote.char] using inner
      have cast : lex .postgresql "::bytea".toList = some [.symbol "::", .name "bytea"] := by
        decide
      have begins : begin? .postgresql '\'' = some (.inside .text .single []) := rfl
      have apart : ∀ c ∈ "::bytea".toList.head?, c ≠ '\'' := by
        intro c member
        cases member
        decide
      rw [chars, lex_cons, begins, Option.bind_some, scan_inside_append rfl outer,
        scan_cons_grow (.closed .text .single _) rfl,
        scan_stopped rfl (fun c member => by simp [grow, Quote.char, apart c member]), cast]
      simp [Value.tokens, byteaText]

/-! ## Numbers -/

def isNumeral (cs : List Char) : Bool :=
  cs.head?.any Name.isAsciiDigit && cs.all fun c => Name.isAsciiDigit c || c == '.'

theorem mem_digits_of_isAsciiDigit {c : Char} (digit : Name.isAsciiDigit c = true) :
    c ∈ "0123456789".toList := by
  simp only [Name.isAsciiDigit, Bool.and_eq_true, decide_eq_true_eq, Char.le_def,
    UInt32.le_iff_toNat_le] at digit
  obtain ⟨low, high⟩ := digit
  have point : Char.ofNat c.val.toNat = c := Char.ofNat_toNat c
  rw [← point]
  generalize c.val.toNat = n at low high
  have low : 48 ≤ n := low
  have high : n ≤ 57 := high
  interval_cases n <;> decide

private theorem begin_digit {d : Dialect} {c : Char} (digit : Name.isAsciiDigit c = true) :
    begin? d c = some (.number [c]) := by
  have all : "0123456789".toList.all (fun c => begin? d c == some (.number [c])) = true := by
    cases d <;> decide
  exact beq_iff_eq.mp (List.all_eq_true.mp all c (mem_digits_of_isAsciiDigit digit))

private theorem not_inOperator_of_isAsciiDigit {c : Char} (digit : Name.isAsciiDigit c = true) :
    inOperator c = false := by
  have none : "0123456789".toList.any inOperator = false := by decide
  exact Bool.eq_false_iff.mpr (List.any_eq_false.mp none c (mem_digits_of_isAsciiDigit digit))

private theorem scan_number {d : Dialect} {cs : List Char}
    (digits : ∀ c ∈ cs, Name.isAsciiDigit c = true ∨ c = '.')
    (read : List Char) :
    scan d (.number read) cs = some [.number (.ofList (read.reverse ++ cs))] := by
  induction cs generalizing read with
  | nil => simp [scan, finish]
  | cons c cs ih =>
      obtain ⟨first, others⟩ := List.forall_mem_cons.mp digits
      have grows : (inWord c || c == '.') = true := by
        rcases first with digit | rfl
        · simp [inWord, digit]
        · rfl
      rw [scan_cons_grow (.number (c :: read)) (by rw [grow, if_pos grows]), ih others]
      simp

theorem lex_numeral {d : Dialect} {cs : List Char} (numeral : isNumeral cs = true) :
    lex d cs = some [.number (.ofList cs)] := by
  simp only [isNumeral, Bool.and_eq_true, List.all_eq_true, Bool.or_eq_true, beq_iff_eq] at numeral
  cases cs with
  | nil => simp at numeral
  | cons c cs =>
      obtain ⟨first, all⟩ := numeral
      rw [lex_cons, begin_digit (by simpa using first), Option.bind_some,
        scan_number (fun x member => all x (List.mem_cons_of_mem c member))]
      rfl

def isSignedNumeral (cs : List Char) : Bool :=
  match cs with
  | '-' :: digits => isNumeral digits
  | digits => isNumeral digits

private theorem lex_numberTokens {d : Dialect} {text : String}
    (signed : isSignedNumeral text.toList = true) :
    lex d text.toList = some (numberTokens text) := by
  unfold isSignedNumeral at signed
  unfold numberTokens
  split at signed
  · rename_i digits chars
    have begins : begin? d '-' = some (.symbol ['-']) := by cases d <;> rfl
    have ends : finish d (.symbol ['-']) = some [.symbol "-"] := by cases d <;> rfl
    have stops : ∀ c ∈ digits.head?, grow d (.symbol ['-']) c = none := by
      intro c member
      have digit : Name.isAsciiDigit c = true := by
        simpa [isNumeral, Option.mem_def.mp member] using (Bool.and_eq_true_iff.mp signed).1
      simp [grow, not_inOperator_of_isAsciiDigit digit]
    rw [chars, lex_cons, begins, Option.bind_some, scan_stopped ends stops, lex_numeral signed]
    rfl
  · rw [lex_numeral signed]

theorem isAsciiDigit_of_mem_toDigits {n : Nat} {c : Char} (member : c ∈ Nat.toDigits 10 n) :
    Name.isAsciiDigit c = true := by
  have digit := Nat.isDigit_of_mem_toDigits (by decide) (by decide) member
  simpa [Name.isAsciiDigit, Char.isDigit, Char.le_def] using digit

/-- Digits and points behind a digit are a numeral. -/
theorem isNumeral_cons {c : Char} {cs : List Char} (first : Name.isAsciiDigit c = true)
    (others : ∀ x ∈ cs, Name.isAsciiDigit x = true ∨ x = '.') : isNumeral (c :: cs) = true := by
  simpa [isNumeral, first] using others

theorem isNumeral_toDigits (n : Nat) : isNumeral (Nat.toDigits 10 n) = true := by
  have digits : ∀ c ∈ Nat.toDigits 10 n, Name.isAsciiDigit c = true := fun _ member =>
    isAsciiDigit_of_mem_toDigits member
  cases chars : Nat.toDigits 10 n with
  | nil => exact absurd chars Nat.toDigits_ne_nil
  | cons c cs =>
      rw [chars] at digits
      obtain ⟨first, others⟩ := List.forall_mem_cons.mp digits
      exact isNumeral_cons first fun x member => .inl (others x member)

theorem isSignedNumeral_of_isNumeral {cs : List Char} (numeral : isNumeral cs = true) :
    isSignedNumeral cs = true := by
  unfold isSignedNumeral
  split
  · simp [isNumeral, Name.isAsciiDigit] at numeral
  · exact numeral

theorem toList_toString_ofNat (n : Nat) : (toString (Int.ofNat n)).toList = Nat.toDigits 10 n :=
  Nat.toList_repr

theorem toList_toString_negSucc (n : Nat) :
    (toString (Int.negSucc n)).toList = '-' :: Nat.toDigits 10 (n + 1) := by
  change ("-" ++ (n + 1).repr).toList = _
  rw [String.toList_append, Nat.toList_repr]
  rfl

theorem isSignedNumeral_toString (n : Int) : isSignedNumeral (toString n).toList = true := by
  cases n with
  | ofNat n =>
      rw [toList_toString_ofNat]
      exact isSignedNumeral_of_isNumeral (isNumeral_toDigits n)
  | negSucc n =>
      rw [toList_toString_negSucc]
      exact isNumeral_toDigits (n + 1)

private theorem isNumeral_positional (decimal : Binary64.Decimal) :
    isNumeral (decimal.positional "").toList = true := by
  have digits : ∀ c ∈ Nat.toDigits 10 decimal.digits, Name.isAsciiDigit c = true ∨ c = '.' :=
    fun _ member => .inl (isAsciiDigit_of_mem_toDigits member)
  have zeros (n : Nat) : ∀ c ∈ List.replicate n '0', Name.isAsciiDigit c = true ∨ c = '.' := by
    intro c member
    rw [List.eq_of_mem_replicate member]
    exact .inl rfl
  simp only [Binary64.Decimal.positional, Binary64.decimalDigits, Nat.toList_repr]
  cases chars : Nat.toDigits 10 decimal.digits with
  | nil => exact absurd chars Nat.toDigits_ne_nil
  | cons c cs =>
      have first : Name.isAsciiDigit c = true :=
        isAsciiDigit_of_mem_toDigits (n := decimal.digits) (by simp [chars])
      rw [chars] at digits
      obtain ⟨_, others⟩ := List.forall_mem_cons.mp digits
      split
      · simp only [String.append_empty, String.toList_ofList, List.cons_append]
        exact isNumeral_cons first (List.forall_mem_append.mpr ⟨others, zeros _⟩)
      split
      · rename_i short
        obtain ⟨whole, width⟩ : ∃ whole, (c :: cs).length - (-decimal.power).toNat = whole + 1 :=
          ⟨_, (Nat.succ_pred_eq_of_pos (by omega)).symm⟩
        have fraction : ∀ x ∈ cs.drop whole, Name.isAsciiDigit x = true ∨ x = '.' :=
          fun x member => others x (List.mem_of_mem_drop member)
        rw [width, String.toList_ofList, List.take_succ_cons, List.cons_append,
          List.drop_succ_cons]
        refine isNumeral_cons first (List.forall_mem_append.mpr ⟨fun x member => ?_, ?_⟩)
        · exact others x (List.mem_of_mem_take member)
        · exact List.forall_mem_cons.mpr ⟨.inr rfl, fraction⟩
      · rw [String.toList_ofList, List.cons_append]
        refine isNumeral_cons rfl (List.forall_mem_cons.mpr ⟨.inr rfl, ?_⟩)
        exact List.forall_mem_append.mpr ⟨zeros _, digits⟩

private theorem isSignedNumeral_plainText {x : Binary64} {negative : Bool} {mantissa : Nat}
    {exponent : Int} (finite : x.datum = .finite negative mantissa exponent) :
    isSignedNumeral x.plainText.toList = true := by
  have signed {text : String} (numeral : isNumeral text.toList = true) :
      isSignedNumeral (if negative then "-" ++ text else text).toList = true := by
    cases negative with
    | false => exact isSignedNumeral_of_isNumeral numeral
    | true =>
        have chars : ("-" ++ text).toList = '-' :: text.toList := by
          rw [String.toList_append]
          rfl
        rw [if_pos rfl, chars]
        exact numeral
  simp only [Binary64.plainText, Binary64.write, finite]
  split
  · exact signed (show isNumeral "0".toList = true from rfl)
  · exact signed (isNumeral_positional _)

theorem lex_literal (d : Dialect) (v : Value) : lex d (v.literal d).toList = some (v.tokens d) := by
  have null : lex d "NULL".toList = some [.keyword "null"] := by cases d <;> decide
  cases v with
  | null => exact null
  | bool b => cases d <;> cases b <;> decide
  | int n => exact lex_numberTokens (isSignedNumeral_toString n.toInt)
  | float x =>
      simp only [Value.literal, Value.tokens]
      cases datum : x.datum with
      | nan => exact null
      | infinite negative => exact null
      | finite negative mantissa exponent =>
          exact lex_numberTokens (isSignedNumeral_plainText datum)
  | text s => exact lex_escapeLiteral d s
  | bytes b => exact lex_bytes d b

end Sql

/-!
## Literals in front of other SQL

Text literals in front of other SQL. A literal is read from its opening quote for as long as its
characters belong to it, so that two quotes in a row stand for one and do not end it.
-/

namespace Sql

def readOn (d : Dialect) : Scan → List Char → Scan × List Char
  | s, [] => (s, [])
  | s, c :: rest =>
    match grow d s c with
    | some longer => readOn d longer rest
    | none => (s, c :: rest)

/-- Reads a text literal at the beginning of SQL: the text that it stands for, and the SQL behind
it. A literal that is left open is none. -/
def readTextLiteral (d : Dialect) : List Char → Option (String × List Char)
  | '\'' :: cs =>
    match readOn d (.inside .text .single []) cs with
    | (.closed .text .single read, rest) => some (.ofList read.reverse, rest)
    | _ => none
  | _ => none

private theorem readOn_append_growAll {d : Dialect} {s longer : Scan} {cs : List Char}
    (grown : growAll d s cs = some longer) (rest : List Char) :
    readOn d s (cs ++ rest) = readOn d longer rest := by
  induction cs generalizing s with
  | nil => cases grown; rfl
  | cons c cs ih =>
      obtain ⟨next, first, others⟩ := Option.bind_eq_some_iff.mp grown
      rw [List.cons_append, readOn, first]
      exact ih others

theorem readOn_stopped {d : Dialect} {s : Scan} {cs : List Char}
    (stops : ∀ c ∈ cs.head?, grow d s c = none) : readOn d s cs = (s, cs) := by
  cases cs with
  | nil => rfl
  | cons c cs => rw [readOn, stops c rfl]

private theorem readOn_suffix (d : Dialect) (s : Scan) (cs : List Char) :
    (readOn d s cs).2 <:+ cs := by
  induction cs generalizing s with
  | nil => exact List.suffix_rfl
  | cons c cs ih =>
      rw [readOn]
      split
      · rename_i longer _
        exact (ih longer).trans (List.suffix_cons c cs)
      · exact List.suffix_rfl

/-- What is read of a literal and the SQL behind it: the scan reaches the closing quote with the
whole text, and goes on from there. -/
theorem readTextLiteral_append (d : Dialect) (text : String) (rest : List Char) :
    readTextLiteral d ((d.escapeLiteral text).toList ++ rest) =
      match readOn d (.closed .text .single text.toList.reverse) rest with
      | (.closed .text .single read, rest) => some (.ofList read.reverse, rest)
      | _ => none := by
  have reached := readOn_append_growAll (growAll_escaped d text.toList []) rest
  rw [List.append_nil] at reached
  rw [toList_escapeLiteral, List.cons_append, readTextLiteral, reached]

theorem readTextLiteral_apart (d : Dialect) (text : String) (rest : List Char)
    (apart : rest.head? ≠ some '\'') :
    readTextLiteral d ((d.escapeLiteral text).toList ++ rest) = some (text, rest) := by
  have stops : ∀ c ∈ rest.head?, grow d (.closed .text .single text.toList.reverse) c = none := by
    intro c member
    have other : c ≠ '\'' := fun quote => apart (by rw [← quote]; exact member)
    simp [grow, Quote.char, other]
  rw [readTextLiteral_append, readOn_stopped stops]
  simp

/-- Whatever follows a literal, a reading of it does not end before its closing quote. -/
theorem readTextLiteral_suffix {d : Dialect} {text got : String} {rest left : List Char}
    (reads : readTextLiteral d ((d.escapeLiteral text).toList ++ rest) = some (got, left)) :
    left <:+ rest := by
  have behind := readOn_suffix d (.closed .text .single text.toList.reverse) rest
  rw [readTextLiteral_append] at reads
  split at reads
  · rename_i read after stopped
    cases reads
    rw [stopped] at behind
    exact behind
  · cases reads

end Sql

namespace Dialect

open Sql

/-- A literal in front of SQL that does not begin with a quote is read as its text, and exactly the
literal is consumed. So no two texts have one literal, and no text ends its literal early. -/
theorem readTextLiteral_escapeLiteral (d : Dialect) :
    (∀ (text : String) (rest : List Char), rest.head? ≠ some '\'' →
      readTextLiteral d ((d.escapeLiteral text).toList ++ rest) = some (text, rest)) ∧
    Function.Injective d.escapeLiteral ∧
    ∀ (text got : String) (rest left : List Char),
      readTextLiteral d ((d.escapeLiteral text).toList ++ rest) = some (got, left) → left <:+ rest := by
  refine ⟨readTextLiteral_apart d, fun text other same => ?_,
    fun text got rest left reads => readTextLiteral_suffix reads⟩
  have here := readTextLiteral_apart d text [] (by simp)
  have there := readTextLiteral_apart d other [] (by simp)
  rw [same, there] at here
  cases here
  rfl

theorem readTextLiteral_escapeLiteral_quoted :
    let rest := " OR 1 = 1; --".toList
    let quoted := "'s mine' OR 1".toList
    rest.head? ≠ some '\'' ∧
      readTextLiteral .mysql ((mysql.escapeLiteral "it's \\").toList ++ rest) =
        some ("it's \\", rest) ∧
      readTextLiteral .postgresql ((postgresql.escapeLiteral "it").toList ++ quoted) =
        some ("it's mine", " OR 1".toList) ∧
      " OR 1".toList <:+ quoted := by
  intro rest quoted
  have apart : rest.head? ≠ some '\'' := by decide
  have reads : readTextLiteral .postgresql ((postgresql.escapeLiteral "it").toList ++ quoted) =
      some ("it's mine", " OR 1".toList) := by
    decide
  exact ⟨apart, (readTextLiteral_escapeLiteral .mysql).1 "it's \\" rest apart, reads,
    (readTextLiteral_escapeLiteral .postgresql).2.2 "it" "it's mine" quoted _ reads⟩

end Dialect

end RecordMapper
