import Mathlib.Data.List.Infix
import RecordMapper.Sql.Render

/-!
The comment behind the first word of a statement. Its text loses its opening marks first and its
closing marks then, each in one pass from the left; what stood around a dropped mark may come
together as a new one, which no pass sees again. The comment is read by both rules: by one it ends
with the first closing mark, by the other comments nest.
-/

set_option autoImplicit false

namespace RecordMapper

namespace Sql

/-! ## Dropping pairs -/

def pairs (a b : Char) (n : Nat) : List Char := (List.replicate n [a, b]).flatten

section

variable {a b c x y : Char} {cs : List Char}

theorem pairs_succ (a b : Char) (n : Nat) : pairs a b (n + 1) = a :: b :: pairs a b n := rfl

theorem pairs_succ' (a b : Char) (n : Nat) : pairs a b (n + 1) = pairs a b n ++ [a, b] := by
  rw [pairs, List.replicate_succ', List.flatten_concat, ← pairs]

private theorem getLast?_pairs_ne (apart : a ≠ b) (n : Nat) : (pairs a b n).getLast? ≠ some a := by
  cases n with
  | zero => simp [pairs]
  | succ n => simp [pairs_succ', apart.symm]

theorem dropPairs_kept {rest : List Char} (kept : ¬ (c = a ∧ rest.head? = some b)) :
    dropPairs a b (c :: rest) = c :: dropPairs a b rest := by
  cases rest with
  | nil => rfl
  | cons next rest => rw [dropPairs, if_neg (by simpa using kept)]

/-- Texts side by side are stripped each on its own, unless a pair stands across them. -/
theorem dropPairs_append {front back : List Char}
    (apart : ¬ (front.getLast? = some a ∧ back.head? = some b)) :
    dropPairs a b (front ++ back) = dropPairs a b front ++ dropPairs a b back := by
  fun_induction dropPairs a b front with
  | case1 x y rest pair ih =>
      rw [List.cons_append, List.cons_append, dropPairs, if_pos pair]
      cases rest with
      | nil => rfl
      | cons next rest => exact ih (by simpa using apart)
  | case2 x y rest kept ih =>
      rw [List.cons_append, dropPairs_kept (by simpa using kept), ih (by simpa using apart),
        List.cons_append]
  | case3 cs single =>
      cases cs with
      | nil => rfl
      | cons c cs =>
          cases cs with
          | nil => exact dropPairs_kept (by simpa using apart)
          | cons next cs => exact absurd rfl (single c next cs)

private theorem dropPairs_pairs_append (a b : Char) (n : Nat) (cs : List Char) :
    dropPairs a b (pairs a b n ++ cs) = dropPairs a b cs := by
  induction n with
  | zero => rfl
  | succ n ih => simp [pairs_succ, dropPairs, ih]

/-- In front of the first character that is left there stand only pairs. -/
theorem exists_of_dropPairs_eq_cons {left : List Char} (stripped : dropPairs a b cs = c :: left) :
    ∃ n rest, cs = pairs a b n ++ c :: rest ∧ ¬ (c = a ∧ rest.head? = some b) ∧
      dropPairs a b rest = left := by
  fun_induction dropPairs a b cs with
  | case1 x y rest pair ih =>
      obtain ⟨rfl, rfl⟩ := pair
      obtain ⟨n, behind, rfl, kept, others⟩ := ih stripped
      exact ⟨n + 1, behind, rfl, kept, others⟩
  | case2 x y rest kept ih =>
      obtain ⟨rfl, others⟩ := List.cons.inj stripped
      exact ⟨0, y :: rest, rfl, by simpa using kept, others⟩
  | case3 cs single =>
      subst stripped
      cases left with
      | nil => exact ⟨0, [], rfl, by simp, rfl⟩
      | cons next left => exact absurd rfl (single c next left)

/-- Two characters come to stand side by side where only pairs stood between them, and neither was
part of a pair itself. -/
theorem infix_dropPairs_iff (apart : a ≠ b) :
    [x, y] <:+: dropPairs a b cs ↔
      ∃ before n after, cs = before ++ x :: (pairs a b n ++ y :: after) ∧
        ¬ (before.getLast? = some a ∧ x = b) ∧
        ¬ (x = a ∧ (pairs a b n ++ y :: after).head? = some b) ∧
        ¬ (y = a ∧ after.head? = some b) := by
  constructor
  · rintro ⟨front, back, split⟩
    rw [List.append_assoc] at split
    induction front generalizing cs with
    | nil =>
        obtain ⟨m, rest, rfl, first, others⟩ := exists_of_dropPairs_eq_cons split.symm
        obtain ⟨n, after, rfl, second, _⟩ := exists_of_dropPairs_eq_cons others
        exact ⟨pairs a b m, n, after, rfl, fun both => getLast?_pairs_ne apart m both.1, first,
          second⟩
    | cons c front ih =>
        obtain ⟨m, rest, rfl, kept, others⟩ := exists_of_dropPairs_eq_cons split.symm
        obtain ⟨before, n, after, rfl, outside, first, second⟩ := ih others.symm
        refine ⟨pairs a b m ++ c :: before, n, after, by simp, ?_, first, second⟩
        cases before with
        | nil => simpa using kept
        | cons next before => simpa using outside
  · rintro ⟨before, n, after, rfl, outside, first, second⟩
    refine ⟨dropPairs a b before, dropPairs a b after, ?_⟩
    rw [dropPairs_append (by simpa using outside), dropPairs_kept first, dropPairs_pairs_append,
      dropPairs_kept second]
    simp

/-- A pair is left where its two characters stood around other pairs. -/
theorem pair_infix_dropPairs_iff (apart : a ≠ b) :
    [a, b] <:+: dropPairs a b cs ↔ ∃ n, a :: (pairs a b (n + 1) ++ [b]) <:+: cs := by
  rw [infix_dropPairs_iff apart]
  constructor
  · rintro ⟨before, n, after, rfl, _, first, _⟩
    cases n with
    | zero => simp [pairs] at first
    | succ n => exact ⟨n, before, after, by simp⟩
  · rintro ⟨n, before, after, rfl⟩
    exact ⟨before, n + 1, after, by simp, by simp [apart], by simp [pairs_succ, apart],
      by simp [apart.symm]⟩

/-- The two characters in the other order are left unless one of them is part of a pair. -/
theorem reversed_infix_dropPairs_iff (apart : a ≠ b) :
    [b, a] <:+: dropPairs a b cs ↔
      ∃ before n after, cs = before ++ b :: (pairs a b n ++ a :: after) ∧
        before.getLast? ≠ some a ∧ after.head? ≠ some b := by
  simp [infix_dropPairs_iff apart, apart.symm]

private theorem doubled_of_pairs {n : Nat} (around : a :: (pairs a b (n + 1) ++ [b]) <:+: cs) :
    [a, a] <:+: cs ∧ [b, b] <:+: cs := by
  obtain ⟨before, after, rfl⟩ := around
  constructor
  · exact ⟨before, b :: pairs a b n ++ b :: after, by simp [pairs_succ]⟩
  · exact ⟨before ++ a :: pairs a b n ++ [a], after, by simp [pairs_succ']⟩

private theorem double_infix_of_dropPairs (apart : a ≠ b) (either : c = a ∨ c = b)
    (found : [c, c] <:+: dropPairs a b cs) : [c, c] <:+: cs := by
  obtain ⟨before, n, after, rfl, _⟩ := (infix_dropPairs_iff apart).mp found
  cases n with
  | zero => exact ⟨before, after, by simp [pairs]⟩
  | succ n =>
      rcases either with rfl | rfl
      · exact ⟨before, b :: pairs c b n ++ c :: after, by simp [pairs_succ]⟩
      · exact ⟨before ++ c :: pairs a c n ++ [a], after, by simp [pairs_succ']⟩

end

/-! ## The body of a comment -/

section

variable {drops : Char → Bool} {x y : Char} {word cs : List Char}

private theorem infix_dropWhile_iff (keeps : drops x = false) :
    x :: word <:+: cs.dropWhile drops ↔ x :: word <:+: cs := by
  induction cs with
  | nil => simp
  | cons c cs ih =>
      rw [List.dropWhile_cons]
      split
      · rename_i dropped
        rw [ih, List.infix_cons_iff]
        refine ⟨.inr, fun found => found.resolve_left fun start => ?_⟩
        rw [(List.cons_prefix_cons.mp start).1, dropped] at keeps
        cases keeps
      · exact Iff.rfl

private theorem infix_trimBoth_iff (keepsFirst : drops x = false) (keepsSecond : drops y = false) :
    [x, y] <:+: Text.trimBoth drops cs ↔ [x, y] <:+: cs := by
  rw [Text.trimBoth, ← List.reverse_infix, List.reverse_reverse, List.reverse_cons,
    List.reverse_singleton, List.singleton_append, infix_dropWhile_iff keepsSecond,
    ← List.reverse_infix, List.reverse_reverse, List.reverse_cons, List.reverse_singleton,
    List.singleton_append, infix_dropWhile_iff keepsFirst]

end

theorem infix_commentBody_iff {x y : Char} (first : Text.isBlank x = false)
    (second : Text.isBlank y = false) (text : String) :
    [x, y] <:+: (commentBody text).toList ↔
      [x, y] <:+: dropPairs '*' '/' (dropPairs '/' '*' text.toList) := by
  rw [commentBody, String.toList_ofList, infix_trimBoth_iff first second]

/-- A closing mark is left in a comment where closing marks stood inside of another one. -/
theorem closing_infix_commentBody_iff (text : String) :
    ['*', '/'] <:+: (commentBody text).toList ↔
      ∃ n, '*' :: (pairs '*' '/' (n + 1) ++ ['/']) <:+: dropPairs '/' '*' text.toList := by
  rw [infix_commentBody_iff rfl rfl, pair_infix_dropPairs_iff (by decide)]

/-- An opening mark is left in a comment unless one of its characters belongs to a closing mark. -/
theorem opening_infix_commentBody_iff (text : String) :
    ['/', '*'] <:+: (commentBody text).toList ↔
      ∃ before n after,
        dropPairs '/' '*' text.toList = before ++ '/' :: (pairs '*' '/' n ++ '*' :: after) ∧
          before.getLast? ≠ some '*' ∧ after.head? ≠ some '/' := by
  rw [infix_commentBody_iff rfl rfl, reversed_infix_dropPairs_iff (by decide)]

/-- Only a text with two slashes in a row and two stars in a row leaves a mark in its comment. -/
theorem doubled_of_mark_infix_commentBody {text : String}
    (left : ['*', '/'] <:+: (commentBody text).toList ∨ ['/', '*'] <:+: (commentBody text).toList) :
    ['/', '/'] <:+: text.toList ∧ ['*', '*'] <:+: text.toList := by
  rcases left with closing | opening
  · obtain ⟨n, around⟩ := (closing_infix_commentBody_iff text).mp closing
    obtain ⟨stars, slashes⟩ := doubled_of_pairs around
    exact ⟨double_infix_of_dropPairs (by decide) (.inl rfl) slashes,
      double_infix_of_dropPairs (by decide) (.inr rfl) stars⟩
  · obtain ⟨before, n, after, stripped, _⟩ := (opening_infix_commentBody_iff text).mp opening
    have pair : ['/', '*'] <:+: dropPairs '/' '*' text.toList := by
      rw [stripped]
      cases n with
      | zero => exact ⟨before, after, by simp [pairs]⟩
      | succ n => exact ⟨before, '/' :: pairs '*' '/' n ++ '*' :: after, by simp [pairs_succ]⟩
    obtain ⟨n, around⟩ := (pair_infix_dropPairs_iff (by decide)).mp pair
    exact doubled_of_pairs around

/-! ## Reading a comment -/

/-- The text behind a comment of which the opening mark has been read, inside of `depth` others.
Where comments nest, an opening mark inside of one opens another. -/
def closeComment (nests : Bool) : Nat → List Char → Option (List Char)
  | depth, x :: y :: rest =>
    if x = '*' ∧ y = '/' then
      if depth = 0 then some rest else closeComment nests (depth - 1) rest
    else if nests = true ∧ x = '/' ∧ y = '*' then closeComment nests (depth + 1) rest
    else closeComment nests depth (y :: rest)
  | _, _ => none

/-- The text of a statement outside of the comment behind its first word. A comment that is left
open has no outside. -/
def outsideComment (nests : Bool) (sql : List Char) : Option (List Char) :=
  match sql.dropWhile (· != ' ') with
  | ' ' :: '/' :: '*' :: inside =>
    (closeComment nests 0 inside).map fun behind => sql.takeWhile (· != ' ') ++ behind
  | _ => some sql

section

variable {nests : Bool} {depth : Nat} {c : Char} {cs body rest behind : List Char}

theorem closeComment_skip (notClosing : ¬ (c = '*' ∧ cs.head? = some '/'))
    (notOpening : ¬ (nests = true ∧ c = '/' ∧ cs.head? = some '*')) :
    closeComment nests depth (c :: cs) = closeComment nests depth cs := by
  cases cs with
  | nil => rfl
  | cons next cs =>
      rw [closeComment, if_neg (by simpa using notClosing), if_neg (by simpa using notOpening)]

private theorem length_lt_of_closeComment (closes : closeComment nests depth cs = some behind) :
    behind.length < cs.length := by
  fun_induction closeComment nests depth cs with
  | case1 x y rest closing =>
      cases closes
      rw [List.length_cons, List.length_cons]
      omega
  | case2 depth x y rest closing inside ih =>
      have shorter := ih closes
      rw [List.length_cons, List.length_cons]
      omega
  | case3 depth x y rest _ opening ih =>
      have shorter := ih closes
      rw [List.length_cons, List.length_cons]
      omega
  | case4 depth x y rest _ _ ih =>
      have shorter := ih closes
      simp only [List.length_cons] at shorter ⊢
      omega
  | case5 => cases closes

/-- Without a closing mark, a text opens as many comments as it has opening marks, where comments
nest; behind a blank the reading goes on from there. -/
theorem exists_closeComment_append (nests : Bool) (body : List Char)
    (unclosed : ¬ ['*', '/'] <:+: body) :
    ∃ opened, (0 < opened ↔ nests = true ∧ ['/', '*'] <:+: body) ∧
      ∀ depth rest, closeComment nests depth (body ++ ' ' :: rest) =
        closeComment nests (depth + opened) rest := by
  -- An opening mark is read with its two characters at once, so the induction is on the length.
  induction body using List.twoStepInduction with
  | nil =>
      refine ⟨0, by simp, fun depth rest => closeComment_skip (by simp) (by simp)⟩
  | singleton c =>
      refine ⟨0, by simp [List.infix_cons_iff], fun depth rest => ?_⟩
      rw [List.singleton_append, closeComment_skip (by simp) (by simp),
        closeComment_skip (by simp) (by simp), Nat.add_zero]
  | cons_cons c next body ihTwo ihOne =>
      rw [List.infix_cons_iff, not_or] at unclosed
      obtain ⟨notClosing, unclosed⟩ := unclosed
      by_cases opens : nests = true ∧ c = '/' ∧ next = '*'
      · obtain ⟨rfl, rfl, rfl⟩ := opens
        obtain ⟨opened, _, reads⟩ := ihTwo fun inside => unclosed (List.infix_cons inside)
        refine ⟨opened + 1, ⟨fun _ => ⟨rfl, [], body, rfl⟩, fun _ => by omega⟩, fun depth rest => ?_⟩
        rw [List.cons_append, List.cons_append, closeComment, if_neg (by decide), if_pos (by simp),
          reads]
        congr 1
        omega
      · obtain ⟨opened, counts, reads⟩ := ihOne next unclosed
        refine ⟨opened, ?_, fun depth rest => ?_⟩
        · rw [counts]
          refine and_congr_right fun nested => ⟨List.infix_cons, fun found => ?_⟩
          refine (List.infix_cons_iff.mp found).resolve_left fun start => opens ⟨nested, ?_⟩
          simpa [eq_comm] using start
        · rw [List.cons_append, closeComment_skip _ (by simpa using opens), reads]
          simpa [eq_comm] using notClosing

/-- Where comments do not nest, a closing mark ends the comment inside of its body. -/
theorem exists_closeComment_of_closing (closing : ['*', '/'] <:+: body) (rest : List Char) :
    ∃ left, closeComment false 0 (body ++ rest) = some (left ++ rest) := by
  induction body with
  | nil => simp at closing
  | cons c body ih =>
      by_cases start : ['*', '/'] <+: c :: body
      · obtain ⟨left, rfl, rfl⟩ := start
        exact ⟨left, by simp [closeComment]⟩
      · have inside := (List.infix_cons_iff.mp closing).resolve_left start
        obtain ⟨left, reads⟩ := ih inside
        refine ⟨left, ?_⟩
        cases body with
        | nil => simp at inside
        | cons next body =>
            rw [List.cons_append, closeComment_skip _ (by simp), reads]
            simpa [eq_comm] using start

private theorem closeComment_commentBody (unclosed : ¬ ['*', '/'] <:+: body) :
    closeComment nests 0 (body ++ ' ' :: '*' :: '/' :: rest) = some rest ↔
      ¬ (nests = true ∧ ['/', '*'] <:+: body) := by
  obtain ⟨opened, counts, reads⟩ := exists_closeComment_append nests body unclosed
  rw [reads, Nat.zero_add, closeComment, if_pos ⟨rfl, rfl⟩, ← counts]
  split
  · rename_i none
    simp [none]
  · rename_i some
    refine iff_of_false (fun closes => ?_) (by omega)
    exact absurd (length_lt_of_closeComment closes) (Nat.lt_irrefl _)

private theorem closeComment_ne_of_closing (closing : ['*', '/'] <:+: body) :
    closeComment false 0 (body ++ ' ' :: '*' :: '/' :: rest) ≠ some rest := by
  obtain ⟨left, reads⟩ := exists_closeComment_of_closing closing (' ' :: '*' :: '/' :: rest)
  rw [reads]
  intro same
  have lengths := congrArg List.length (Option.some.inj same)
  simp only [List.length_append, List.length_cons] at lengths
  omega

private theorem outsideComment_word {word : List Char} (whole : ∀ c ∈ word, c ≠ ' ')
    (inside : List Char) :
    outsideComment nests (word ++ ' ' :: '/' :: '*' :: inside) =
      (closeComment nests 0 inside).map (word ++ ·) := by
  have before : (word ++ ' ' :: '/' :: '*' :: inside).takeWhile (· != ' ') = word := by
    rw [List.takeWhile_append_of_pos (by simpa using whole)]
    simp
  have behind : (word ++ ' ' :: '/' :: '*' :: inside).dropWhile (· != ' ') =
      ' ' :: '/' :: '*' :: inside := by
    rw [List.dropWhile_append_of_pos (by simpa using whole)]
    simp
  simp only [outsideComment, behind, before]

end

/-! ## Statements with a comment -/

end Sql

open Sql

namespace Statement

def keyword : Statement → String
  | .select _ => "SELECT"
  | .insert _ => "INSERT"
  | .update _ => "UPDATE"
  | .delete _ => "DELETE"

def withComment (comment : Option String) : Statement → Statement
  | .select s => .select { s with comment }
  | .insert s => .insert { s with comment }
  | .update s => .update { s with comment }
  | .delete s => .delete { s with comment }

def behindComment (d : Dialect) (s : Statement) : String :=
  .ofList (((s.withComment none).render d).toList.drop (s.keyword.toList.length + 1))

/-- A comment stands right behind the first word, and nothing else depends on it. -/
theorem render_withComment (d : Dialect) (s : Statement) (comment : Option String) :
    (s.withComment comment).render d =
      s.keyword ++ " " ++ commentText comment ++ s.behindComment d := by
  rw [String.ext_iff]
  cases s <;> simp [behindComment, withComment, render, Select.render, Insert.render, Update.render,
    Delete.render, keyword, commentText]

theorem outsideComment_iff_closeComment (d : Dialect) (s : Statement) (text : String)
    (nests : Bool) :
    outsideComment nests ((s.withComment (some text)).render d).toList =
        some ((s.withComment none).render d).toList ↔
      closeComment nests 0
        (' ' :: (commentBody text).toList ++ ' ' :: '*' :: '/' :: ' ' :: (s.behindComment d).toList) =
          some (' ' :: (s.behindComment d).toList) := by
  have word : ∀ c ∈ s.keyword.toList, c ≠ ' ' := by cases s <;> simp [keyword]
  have chars : ((s.withComment (some text)).render d).toList = s.keyword.toList ++
      ' ' :: '/' :: '*' ::
        (' ' :: (commentBody text).toList ++
          ' ' :: '*' :: '/' :: ' ' :: (s.behindComment d).toList) := by
    rw [render_withComment]
    simp [commentText]
  rw [chars, outsideComment_word word, render_withComment]
  simp [commentText, Option.map_eq_some_iff]

private theorem outsideComment_of_unclosed (d : Dialect) (s : Statement) {text : String}
    (unclosed : ¬ ['*', '/'] <:+: (commentBody text).toList) (nests : Bool) :
    outsideComment nests ((s.withComment (some text)).render d).toList =
        some ((s.withComment none).render d).toList ↔
      ¬ (nests = true ∧ ['/', '*'] <:+: (commentBody text).toList) := by
  rw [s.outsideComment_iff_closeComment d text nests,
    closeComment_commentBody (by simpa [List.infix_cons_iff] using unclosed)]
  simp [List.infix_cons_iff]

private theorem outsideComment_ne_of_closing (d : Dialect) (s : Statement) {text : String}
    (closing : ['*', '/'] <:+: (commentBody text).toList) :
    outsideComment false ((s.withComment (some text)).render d).toList ≠
      some ((s.withComment none).render d).toList := by
  rw [Ne, s.outsideComment_iff_closeComment d text false]
  exact closeComment_ne_of_closing (List.infix_cons closing)

/-- Outside of its comment a statement is the same as without one, by both rules, exactly if no mark
is left in the body of the comment. A mark is left where it stood around others of its kind in the
text, or, for an opening mark, around closing ones; so only where the text has two slashes in a row
and two stars in a row. -/
theorem outsideComment_eq_iff (d : Dialect) (s : Statement) (text : String) :
    let body := (commentBody text).toList
    let stripped := dropPairs '/' '*' text.toList
    let outside nests := outsideComment nests ((s.withComment (some text)).render d).toList
    let plain := ((s.withComment none).render d).toList
    ((∀ nests, outside nests = some plain) ↔
        ¬ ['*', '/'] <:+: body ∧ ¬ ['/', '*'] <:+: body) ∧
      (outside false = some plain ↔ ¬ ['*', '/'] <:+: body) ∧
      (['*', '/'] <:+: body ↔ ∃ n, '*' :: (pairs '*' '/' (n + 1) ++ ['/']) <:+: stripped) ∧
      (['/', '*'] <:+: body ↔
        ∃ before n after, stripped = before ++ '/' :: (pairs '*' '/' n ++ '*' :: after) ∧
          before.getLast? ≠ some '*' ∧ after.head? ≠ some '/') ∧
      (['*', '/'] <:+: body ∨ ['/', '*'] <:+: body →
        ['/', '/'] <:+: text.toList ∧ ['*', '*'] <:+: text.toList) := by
  intro body stripped outside plain
  have flat : outside false = some plain ↔ ¬ ['*', '/'] <:+: body := by
    constructor
    · exact fun same closing => outsideComment_ne_of_closing d s closing same
    · intro unclosed
      simp [outside, plain, outsideComment_of_unclosed d s unclosed]
  refine ⟨⟨fun same => ?_, fun ⟨unclosed, unopened⟩ nests => ?_⟩, flat,
    closing_infix_commentBody_iff text, opening_infix_commentBody_iff text,
    doubled_of_mark_infix_commentBody⟩
  · have unclosed := flat.mp (same false)
    have nested := (outsideComment_of_unclosed d s unclosed true).mp (same true)
    exact ⟨unclosed, fun opening => nested ⟨rfl, opening⟩⟩
  · exact (outsideComment_of_unclosed d s unclosed nests).mpr fun opens => unopened opens.2

theorem outsideComment_eq_iff_around :
    ['*', '/'] <:+: (commentBody "a **// b").toList ∧
      ['/', '/'] <:+: "a **// b".toList ∧ ['*', '*'] <:+: "a **// b".toList := by
  have closing : ['*', '/'] <:+: (commentBody "a **// b").toList := by decide +kernel
  exact ⟨closing, (outsideComment_eq_iff .mysql (.delete { table := "customer" })
    "a **// b").2.2.2.2 (.inl closing)⟩

/-- A comment of two stars and two slashes ends inside of its body; with the slashes in front it is
never closed where comments nest. -/
theorem starred_comment_ends_early :
    let s : Statement := .select
      { distinct := true, returning := [.count "count"], tables := ["customer"] }
    let ended := (s.withComment (some "**//")).render .mysql
    let opened := (s.withComment (some "//**")).render .postgresql
    ended = "SELECT /* */ */ DISTINCT COUNT(*) AS count FROM customer;" ∧
      (outsideComment false ended.toList).map String.ofList =
        some "SELECT */ DISTINCT COUNT(*) AS count FROM customer;" ∧
      opened = "SELECT /* /* */ DISTINCT COUNT(*) AS count FROM customer;" ∧
      outsideComment true opened.toList = none := by
  decide +kernel

end Statement

end RecordMapper
