import RecordMapper.Proofs.Sql.ExprTokens

/-!
The clause that limits the rows of a query, read as the rows that it lets through. The dialects put
its two numbers in opposite orders, and MySQL writes a row count even where there is none.
-/

set_option autoImplicit false

namespace RecordMapper

namespace Sql

structure Span where
  skipped : Nat
  most : Option Nat

def Span.rows {α : Type} (span : Span) (all : List α) : List α :=
  match span.most with
  | none => all.drop span.skipped
  | some most => (all.drop span.skipped).take most

def readDigits? (digits : String) : Option Nat :=
  if digits.toList.all Name.isAsciiDigit then some (Nat.ofDigitChars 10 digits.toList 0) else none

/-- The span that a clause stands for. Nothing written lets all rows through. -/
def spanOf? : Dialect → List Token → Option Span
  | _, [] => some ⟨0, none⟩
  | _, [.keyword "limit", .number most] => do return ⟨0, some (← readDigits? most)⟩
  | .mysql, [.keyword "limit", .number skipped, .symbol ",", .number most] => do
    return ⟨← readDigits? skipped, some (← readDigits? most)⟩
  | .postgresql, [.keyword "limit", .number most, .keyword "offset", .number skipped] => do
    return ⟨← readDigits? skipped, some (← readDigits? most)⟩
  | .postgresql, [.keyword "offset", .number skipped] => do return ⟨← readDigits? skipped, none⟩
  | _, _ => none

def readSpan? (d : Dialect) (text : String) : Option Span := (lex d text.toList).bind (spanOf? d)

private theorem readSpan_of_lex {d : Dialect} {text : String} {tokens : List Token}
    (lexed : lex d text.toList = some tokens) : readSpan? d text = spanOf? d tokens := by
  rw [readSpan?, lexed, Option.bind_some]

@[simp] theorem readDigits_repr (n : Nat) : readDigits? n.repr = some n := by
  have digits : (Nat.toDigits 10 n).all Name.isAsciiDigit = true :=
    List.all_eq_true.mpr fun _ member => isAsciiDigit_of_mem_toDigits member
  rw [readDigits?, Nat.toList_repr, if_pos digits, Nat.ofDigitChars_ten_toDigits]

theorem lex_toString_nat (d : Dialect) (n : Nat) :
    lex d (toString n).toList = some [.number (toString n)] := by
  have numeral : isNumeral (toString n).toList = true := by
    rw [Nat.toString_eq_repr, Nat.toList_repr]
    exact isNumeral_toDigits n
  rw [lex_numeral numeral, String.ofList_toList]

private theorem startsClosed_comma (text : String) : startsClosed ("," ++ text).toList = true := by
  rw [String.toList_append]
  rfl

private theorem lex_comma_nat (d : Dialect) (n : Nat) :
    lex d ("," ++ toString n).toList = some [.symbol ",", .number (toString n)] := by
  have begins : begin? d ',' = some (.symbol [',']) := by cases d <;> rfl
  have ends : finish d (.symbol [',']) = some [.symbol ","] := by cases d <;> rfl
  have stops : ∀ c ∈ (toString n).toList.head?, grow d (.symbol [',']) c = none := by
    intro c _
    simp [grow, show inOperator ',' = false from rfl]
  rw [String.toList_append, show ",".toList = [','] from rfl, List.singleton_append, lex_cons,
    begins, Option.bind_some, scan_stopped ends stops, lex_toString_nat]
  rfl

end Sql

namespace Window

open Sql

def rows {α : Type} (w : Window) (all : List α) : List α :=
  let behind := all.drop (w.offset.getD 0).toNat
  match w.limit with
  | none => behind
  | some limit => behind.take limit.toNat

def span (d : Dialect) (w : Window) : Span where
  skipped := (w.offset.getD 0).toNat
  most :=
    match d, w.offset, w.limit with
    | .mysql, some _, none => some (UInt64.size - 1)
    | _, _, limit => limit.map UInt64.toNat

theorem readSpan_render (d : Dialect) (w : Window) : readSpan? d (w.render d) = some (w.span d) := by
  have limit : lex d " LIMIT ".toList = some [.keyword "limit"] := by cases d <;> decide
  have offset : lex d " OFFSET ".toList = some [.keyword "offset"] := by cases d <;> decide
  have limited (n : Nat) := lex_opened limit (lex_toString_nat d n) rfl
  have behind (n : Nat) := lex_opened offset (lex_toString_nat d n) rfl
  obtain ⟨skipped, most⟩ := w
  cases skipped with
  | none =>
      cases most with
      | none => cases d <;> rfl
      | some most =>
          have text : render d ⟨none, some most⟩ = " LIMIT " ++ toString most.toNat := by
            cases d <;> rfl
          rw [text, readSpan_of_lex (limited most.toNat)]
          cases d <;> simp [spanOf?, span]
  | some skipped =>
      cases d with
      | mysql =>
          have tokens (n : Nat) := lex_closed (limited skipped.toNat) (lex_comma_nat .mysql n)
            (startsClosed_comma _)
          have text : render .mysql ⟨some skipped, most⟩ = " LIMIT " ++ toString skipped.toNat ++
              ("," ++ toString (most.getD 18446744073709551615).toNat) :=
            String.append_assoc ..
          rw [text, readSpan_of_lex (tokens _)]
          cases most <;> simp [spanOf?, span]
      | postgresql =>
          cases most with
          | none =>
              have text : render .postgresql ⟨some skipped, none⟩ =
                  " OFFSET " ++ toString skipped.toNat := rfl
              rw [text, readSpan_of_lex (behind skipped.toNat)]
              simp [spanOf?, span]
          | some most =>
              have tokens := lex_closed (limited most.toNat) (behind skipped.toNat)
                (by rw [String.toList_append]; rfl)
              have text : render .postgresql ⟨some skipped, some most⟩ =
                  " LIMIT " ++ toString most.toNat ++ (" OFFSET " ++ toString skipped.toNat) :=
                String.append_assoc ..
              rw [text, readSpan_of_lex tokens]
              simp [spanOf?, span]

/-- No result is so long that the row count that MySQL writes cuts it off. -/
theorem rows_span {α : Type} (d : Dialect) (w : Window) {all : List α}
    (bounded : w.limit = none → all.length < UInt64.size) : (w.span d).rows all = w.rows all := by
  obtain ⟨skipped, most⟩ := w
  cases most with
  | some most => cases d <;> cases skipped <;> rfl
  | none =>
      cases skipped with
      | none => cases d <;> rfl
      | some skipped =>
          cases d with
          | postgresql => rfl
          | mysql =>
              have bounded := bounded rfl
              refine List.take_of_length_le ?_
              rw [List.length_drop]
              omega

end Window

end RecordMapper
