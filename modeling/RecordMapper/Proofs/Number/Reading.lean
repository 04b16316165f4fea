import RecordMapper.Proofs.Schema.Name
import RecordMapper.Proofs.Sql.Literal

/-!
Integers read back from the text that they are written as, whatever their sign and size.
-/

set_option autoImplicit false

namespace RecordMapper

open Sql

namespace Number

private theorem digit?_digitChar {n : Nat} (small : n < 10) : digit? n.digitChar = some n := by
  revert n; decide

private theorem readMagnitude_append (limit : Nat) (beyond : NumberFault) (read : Nat)
    (first second : List Char) :
    readMagnitude limit beyond read (first ++ second) =
      (readMagnitude limit beyond read first).bind fun n =>
        readMagnitude limit beyond n second := by
  induction first generalizing read with
  | nil => rfl
  | cons c first ih =>
      rw [List.cons_append, readMagnitude, readMagnitude]
      cases digit? c with
      | none => rfl
      | some digit =>
          dsimp only
          split
          · rfl
          · exact ih _

theorem readMagnitude_toDigits {limit n : Nat} (beyond : NumberFault) (small : n ≤ limit) :
    readMagnitude limit beyond 0 (Nat.toDigits 10 n) = .ok n := by
  have last {read digit : Nat} (short : digit < 10) (below : read * 10 + digit ≤ limit) :
      readMagnitude limit beyond read [digit.digitChar] = .ok (read * 10 + digit) := by
    simp [readMagnitude, digit?_digitChar short, Nat.not_lt.mpr below]
  induction n using Nat.strongRecOn with
  | ind n ih =>
      rw [Nat.toDigits_eq_if (by decide)]
      split
      · rename_i short
        rw [last short (by omega), Nat.zero_mul, Nat.zero_add]
      · have whole : n / 10 * 10 + n % 10 = n := Nat.div_add_mod' n 10
        rw [readMagnitude_append, ih (n / 10) (by omega) (by omega)]
        change readMagnitude limit beyond (n / 10) [(n % 10).digitChar] = .ok n
        rw [last (by omega) (by omega), whole]

private theorem readInt64_toDigits {n : Nat} (small : n < 2 ^ 63) :
    readInt64 (Nat.toDigits 10 n) = .ok (Int64.ofInt n) := by
  have digits : ∀ c ∈ Nat.toDigits 10 n, Name.isAsciiDigit c = true := fun _ member =>
    isAsciiDigit_of_mem_toDigits member
  have magnitude : readMagnitude (Nat.pow 2 63 - 1) .tooLarge 0 (Nat.toDigits 10 n) = .ok n :=
    readMagnitude_toDigits _ (Nat.le_pred_of_lt small)
  unfold readInt64
  split
  · rename_i empty
    exact absurd empty Nat.toDigits_ne_nil
  case h_6 => rw [magnitude]; rfl
  all_goals
    rename_i signed
    exact absurd (digits _ (signed ▸ List.mem_cons_self)) (by decide)

private theorem readInt64_neg_toDigits {n : Nat} (small : n ≤ 2 ^ 63) :
    readInt64 ('-' :: Nat.toDigits 10 n) = .ok (Int64.ofInt (-n)) := by
  have magnitude : readMagnitude (Nat.pow 2 63) .tooSmall 0 (Nat.toDigits 10 n) = .ok n :=
    readMagnitude_toDigits _ small
  cases chars : Nat.toDigits 10 n with
  | nil => exact absurd chars Nat.toDigits_ne_nil
  | cons c cs =>
      rw [chars] at magnitude
      rw [readInt64, magnitude]
      · rfl
      · rintro ⟨⟩

theorem readInt64_toString (n : Int64) : readInt64 (toString n.toInt).toList = .ok n := by
  have low := n.le_toInt
  have high := n.toInt_lt
  have same : Int64.ofInt n.toInt = n := Int64.ofInt_toInt n
  cases number : n.toInt with
  | ofNat m =>
      rw [number] at low high same
      rw [toList_toString_ofNat, readInt64_toDigits (Int.ofNat_lt.mp high)]
      exact congrArg Except.ok same
  | negSucc m =>
      rw [number] at low high same
      rw [toList_toString_negSucc, readInt64_neg_toDigits (by omega)]
      exact congrArg Except.ok same

end Number

private theorem Text.isBlank_of_isAsciiDigit {c : Char} (digit : Name.isAsciiDigit c = true) :
    Text.isBlank c = false := by
  have none : "0123456789".toList.any Text.isBlank = false := by decide
  exact Bool.eq_false_iff.mpr (List.any_eq_false.mp none c (mem_digits_of_isAsciiDigit digit))

private theorem Text.trimmed_toString (n : Int) :
    Text.Trimmed Text.isBlank (toString n).toList := by
  have unblank : ∀ c ∈ (toString n).toList, Text.isBlank c = false := by
    intro c member
    cases n with
    | ofNat n =>
        rw [toList_toString_ofNat] at member
        exact Text.isBlank_of_isAsciiDigit (isAsciiDigit_of_mem_toDigits member)
    | negSucc n =>
        rw [toList_toString_negSucc] at member
        rcases List.mem_cons.mp member with rfl | digit
        · rfl
        · exact Text.isBlank_of_isAsciiDigit (isAsciiDigit_of_mem_toDigits digit)
  exact ⟨fun c first => unblank c (List.mem_of_head? first),
    fun c last => unblank c (List.mem_of_getLast? last)⟩

/-- An integer is read back from its text. -/
theorem Value.toInt64_text_toString (n : Int64) :
    (Value.text (toString n.toInt)).toInt64 = .ok n := by
  unfold toInt64
  dsimp only
  rw [Text.trimBoth_of_trimmed (Text.trimmed_toString n.toInt), Number.readInt64_toString]
  rfl

end RecordMapper
