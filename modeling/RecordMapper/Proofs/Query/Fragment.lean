import RecordMapper.Proofs.Query.ConditionLeaves
import RecordMapper.Proofs.Query.Session
import RecordMapper.Proofs.Sql.Literal

/-!
Fragments of SQL in filters. A fragment is its pieces between the question marks, and it is filled by
the literals of its values between those pieces, whatever the values contain.
-/

set_option autoImplicit false

namespace RecordMapper

open Sql

/-! ## Pieces and texts between them -/

namespace Fragment

def placeholders (sql : String) : Nat := sql.toList.count '?'

/-- What stands between the question marks of a fragment, before the first and behind the last. -/
def pieces (sql : String) : List (List Char) := sql.toList.splitOn '?'

def weave : List (List Char) → List (List Char) → List Char
  | piece :: pieces, text :: texts => piece ++ text ++ weave pieces texts
  | pieces, [] => pieces.flatten
  | [], texts => texts.flatten

def literals (d : Dialect) (values : List Value) : List (List Char) :=
  values.map fun value => ((Expr.value value).render d).toList

def filled (d : Dialect) (sql : String) (values : List Value) : List Char :=
  weave (pieces sql) (literals d values)

private theorem length_splitOn (mark : Char) (cs : List Char) :
    (cs.splitOn mark).length = cs.count mark + 1 := by
  induction cs with
  | nil => rfl
  | cons c cs ih =>
      rw [List.splitOn_cons_eq_if_modifyHead, List.count_cons]
      split <;> simp [ih]

private theorem not_mem_of_mem_splitOn {mark : Char} {cs piece : List Char}
    (member : piece ∈ cs.splitOn mark) : mark ∉ piece := by
  induction cs generalizing piece with
  | nil => simp_all
  | cons c cs ih =>
      rw [List.splitOn_cons_eq_if_modifyHead] at member
      cases split : cs.splitOn mark with
      | nil => exact absurd split (List.splitOn_ne_nil mark cs)
      | cons first rest =>
          rw [split] at member ih
          split at member
          · rcases List.mem_cons.mp member with rfl | member
            · exact List.not_mem_nil
            · exact ih member
          · rename_i other
            rcases List.mem_cons.mp member with rfl | member
            · have apart : mark ≠ c := fun same => other (beq_iff_eq.mpr same.symm)
              exact List.not_mem_cons_of_ne_of_not_mem apart (ih List.mem_cons_self)
            · exact ih (List.mem_cons_of_mem first member)

private theorem weave_modifyHead {pieces : List (List Char)} (some : pieces ≠ []) (c : Char)
    (texts : List (List Char)) :
    weave (pieces.modifyHead (c :: ·)) texts = c :: weave pieces texts := by
  cases pieces with
  | nil => exact absurd rfl some
  | cons piece pieces => cases texts <;> simp [weave]

/-- The pieces and texts before a text, the text, and the pieces and texts behind it. -/
theorem weave_eq_append {pieces texts : List (List Char)} {text : List Char} {i : Nat}
    (enough : texts.length < pieces.length) (here : texts[i]? = some text) :
    weave pieces texts = weave (pieces.take (i + 1)) (texts.take i) ++ text ++
      weave (pieces.drop (i + 1)) (texts.drop (i + 1)) := by
  induction i generalizing pieces texts with
  | zero =>
      cases pieces with
      | nil => cases enough
      | cons piece pieces =>
          cases texts with
          | nil => cases here
          | cons first texts =>
              cases here
              simp [weave]
  | succ i ih =>
      cases pieces with
      | nil => cases enough
      | cons piece pieces =>
          cases texts with
          | nil => cases here
          | cons first texts =>
              have rest := ih (Nat.lt_of_succ_lt_succ enough) here
              simp only [weave, List.take_succ_cons, List.drop_succ_cons, List.append_assoc] at rest ⊢
              rw [rest]

/-- The text of a connection and the expression of a filter have one literal for a value. -/
theorem filled_eq_render (d : Dialect) (value : Value) :
    value.filled d = (Expr.value value).render d := by
  cases value <;> rfl

end Fragment

open Fragment

/-! ## Filling -/

private theorem Filter.fill_eq_ok_iff {d : Dialect} {sql : String} {cs : List Char}
    {values : List Value}
    {text : List Char} :
    fill d sql cs values = .ok text ↔
      cs.count '?' = values.length ∧ text = weave (cs.splitOn '?') (literals d values) := by
  induction cs generalizing values text with
  | nil =>
      cases values with
      | nil => simp [fill, literals, weave, eq_comm]
      | cons value values => simp [fill]
  | cons c cs ih =>
      by_cases mark : c = '?'
      · subst mark
        have split : ('?' :: cs).splitOn '?' = [] :: cs.splitOn '?' := by
          rw [List.splitOn_cons_eq_if_modifyHead, if_pos (beq_self_eq_true _)]
        rw [split, List.count_cons_self]
        cases values with
        | nil => simp [fill]
        | cons value values =>
            rw [fill, if_pos rfl, bind_eq_ok]
            simp only [ih, List.length_cons, Nat.add_right_cancel_iff]
            constructor
            · rintro ⟨rest, ⟨same, rfl⟩, returned⟩
              cases returned
              exact ⟨same, by rw [filled_eq_render]; rfl⟩
            · rintro ⟨same, rfl⟩
              exact ⟨_, ⟨same, rfl⟩, by rw [filled_eq_render]; rfl⟩
      · have split : (c :: cs).splitOn '?' = (cs.splitOn '?').modifyHead (c :: ·) := by
          rw [List.splitOn_cons_eq_if_modifyHead, if_neg (by simpa using mark)]
        rw [split, weave_modifyHead (List.splitOn_ne_nil _ _),
          List.count_cons_of_ne mark, fill.eq_def]
        simp only [if_neg mark, bind_eq_ok, ih]
        constructor
        · rintro ⟨rest, ⟨same, rfl⟩, returned⟩
          cases returned
          exact ⟨same, rfl⟩
        · rintro ⟨same, rfl⟩
          exact ⟨_, ⟨same, rfl⟩, rfl⟩

theorem Filter.lower_raw_eq_ok_iff {d : Dialect} {scope : Scope} {sql : String}
    {values : List Value} {e : Expr} :
    Filter.lower d scope (.raw sql values) = .ok e ↔
      placeholders sql = values.length ∧ e = .raw (.ofList (filled d sql values)) := by
  rw [Filter.lower, bind_eq_ok]
  simp only [Filter.fill_eq_ok_iff]
  constructor
  · rintro ⟨text, ⟨same, rfl⟩, returned⟩
    cases returned
    exact ⟨same, rfl⟩
  · rintro ⟨same, rfl⟩
    exact ⟨_, ⟨same, rfl⟩, rfl⟩

/-! ## Literals in the text around them -/

namespace Fragment

/-- A value that is filled in before other SQL stands there as one literal. It is lexed as the value;
a text is read back up to the end of its literal, unless a quote follows at once, and whatever
follows, no reading ends before that. -/
structure Stands (d : Dialect) (value : Value) (after : List Char) : Prop where
  lexed : lex d ((Expr.value value).render d).toList = some (value.tokens d)
  read (text : String) (isText : value = .text text) (apart : after.head? ≠ some '\'') :
    readTextLiteral d (((Expr.value value).render d).toList ++ after) = some (text, after)
  notEarlier (text got : String) (left : List Char) (isText : value = .text text)
    (reads : readTextLiteral d (((Expr.value value).render d).toList ++ after) = some (got, left)) :
    left <:+ after

private theorem stands (d : Dialect) (value : Value) (after : List Char) :
    Stands d value after where
  lexed := lex_literal d value
  read := by
    rintro text rfl apart
    exact readTextLiteral_apart d text after apart
  notEarlier := by
    rintro text got left rfl reads
    exact readTextLiteral_suffix reads

private theorem literals_getElem? {d : Dialect} {values : List Value} {i : Nat} {value : Value}
    (here : values[i]? = some value) :
    (literals d values)[i]? = some ((Expr.value value).render d).toList := by
  rw [literals, List.getElem?_map, here]
  rfl

end Fragment

/-! ## Fragments that are not filled -/

namespace Query

private theorem Terminal.condition_of_statements {t : Terminal} {q : Query} {d : Dialect}
    {scope : Scope}
    {statements : List Statement} (compiled : t.statements q d scope = .ok statements) :
    ∃ whole, q.condition d scope = .ok whole := by
  cases t with
  | find | findPage | selectText =>
      obtain ⟨select, compiled, _⟩ := bind_eq_ok.mp compiled
      exact ⟨select.filter, (Compiles.select compiled).condition⟩
  | countText =>
      obtain ⟨select, compiled, _⟩ := bind_eq_ok.mp compiled
      exact ⟨select.filter, (Compiles.count compiled).condition⟩
  | update | updateText =>
      obtain ⟨update, compiled, _⟩ := bind_eq_ok.mp compiled
      exact ⟨update.filter, (Compiles.update compiled).condition⟩
  | delete | deleteText =>
      obtain ⟨delete, compiled, _⟩ := bind_eq_ok.mp compiled
      exact ⟨delete.filter, (Compiles.delete compiled).condition⟩

/-- A fragment without a value for each question mark leaves its query without a condition, wherever
it stands among the calls. -/
theorem condition_ne_ok_of_mismatch {start q : Query} (fresh : start.filter = {})
    {calls : List Call} (built : q.filter = (start.built calls).filter) {sql : String}
    {values : List Value} (member : .whereRaw sql values ∈ calls)
    (mismatch : placeholders sql ≠ values.length) (d : Dialect) (scope : Scope)
    (whole : Option Expr) : q.condition d scope ≠ .ok whole := by
  intro compiled
  obtain ⟨filter, finished, _⟩ := bind_eq_ok.mp compiled
  obtain ⟨lowered, lowers, _⟩ := leaves_of_condition finished compiled
  rw [built] at finished
  have pushed : Filter.raw sql values ∈ (filter.map Filter.leaves).getD [] := by
    rw [(leaves_of_finish fresh finished).1]
    exact List.mem_flatMap.mpr ⟨_, member, List.mem_singleton_self _⟩
  obtain ⟨e, _, leaf⟩ := exists_result_of_mapM_eq_ok lowers pushed
  exact mismatch (Filter.lower_raw_eq_ok_iff.mp leaf).1

section

variable {σ : Type} [Connection σ]

def Step.call? : Step → Option Call
  | .call c => some c
  | .run _ => none

theorem Terminal.filter_asked (t : Terminal) (q : Query) : (t.asked q).filter = q.filter := by
  cases t <;> rfl

private theorem Terminal.filter_run (t : Terminal) (registry : Registry) (q : Query) (c : σ) :
    ((t.run registry).runOn (q, c)).2.1.filter = q.filter := by
  obtain ⟨lastError, same⟩ := t.query_run registry q c
  rw [same]
  exact t.filter_asked q

/-- The filter of a query is that of its calls, whatever was run in between. -/
theorem filter_performed (registry : Registry) (state : Query × σ) (steps : List Step) :
    (performed registry state steps).1.filter =
      (state.1.built (steps.filterMap Step.call?)).filter := by
  rw [filter_built_eq_foldl]
  induction steps generalizing state with
  | nil => rfl
  | cons step steps ih =>
      rw [performed, List.foldl_cons, ← performed, ih]
      cases step with
      | call c =>
          simp only [List.filterMap_cons, Step.call?, List.foldl_cons, Step.perform, c.filter_apply]
      | run t => simp only [List.filterMap_cons, Step.call?, Step.perform, t.filter_run]

/-- A query without a condition answers every operation with an error, and executes nothing. -/
theorem Terminal.refused {q : Query}
    (unmet : ∀ d scope whole, q.condition d scope ≠ .ok whole) (t : Terminal) (registry : Registry)
    (c : Logged σ) :
    (∃ e, ((t.run registry).runOn (q, c)).1 = .error e) ∧
      ((t.run registry).runOn (q, c)).2.2.executed = c.executed := by
  have silent := t.keeps_prepared registry q c
  cases ran : (t.prepared registry q).runOn c with
  | mk outcome c' =>
      rw [ran] at silent
      cases outcome with
      | error e =>
          rw [t.run_error ran]
          exact ⟨⟨e, rfl⟩, silent⟩
      | ok statements =>
          obtain ⟨scope, c₁, _, ran⟩ := Action.runOn_bind_eq_ok.mp ran
          rw [Action.runOn_bind_ok (runOn_currentDialect c₁), Action.runOn_ofExcept] at ran
          obtain ⟨whole, compiled⟩ := t.condition_of_statements (Prod.mk.inj ran).1
          rw [condition, t.filter_asked] at compiled
          exact absurd compiled (unmet (Connection.dialect c₁) scope whole)

end

/-- A fragment compiles exactly when it has as many question marks as values. It is then its pieces
with the literals of the values between them, and each literal stands there for its value, whatever
the value contains. Otherwise no statement of its query compiles, and whatever is asked of the query
executes none. -/
theorem fragment_filled_iff (d : Dialect) (sql : String) (values : List Value) :
    ((pieces sql).length = placeholders sql + 1 ∧ (∀ piece ∈ pieces sql, '?' ∉ piece) ∧
      ['?'].intercalate (pieces sql) = sql.toList) ∧
    (∀ scope, (∃ e, Filter.lower d scope (.raw sql values) = .ok e) ↔
      placeholders sql = values.length) ∧
    (∀ scope e, Filter.lower d scope (.raw sql values) = .ok e →
      (e.render d).toList = weave (pieces sql) (literals d values) ∧
      ∀ i value, values[i]? = some value →
        ∃ before after, before = weave ((pieces sql).take (i + 1)) (literals d (values.take i)) ∧
          after = weave ((pieces sql).drop (i + 1)) (literals d (values.drop (i + 1))) ∧
          (e.render d).toList = before ++ ((Expr.value value).render d).toList ++ after ∧
          Stands d value after) ∧
    (placeholders sql ≠ values.length →
      ∀ {σ : Type} [Connection σ] (registry : Registry) (start : Query) (initial : Logged σ)
        (steps : List Step), start.filter = {} → .call (.whereRaw sql values) ∈ steps →
        let state := performed registry (start, initial) steps
        (∀ d scope whole, ¬ state.1.Compiles d scope whole) ∧
          ∀ t : Terminal, (∃ e, ((t.run registry).runOn state).1 = .error e) ∧
            ((t.run registry).runOn state).2.2.executed = state.2.executed) := by
  refine ⟨⟨length_splitOn _ _, fun _ => not_mem_of_mem_splitOn, List.intercalate_splitOn _⟩,
    fun scope => ?_, fun scope e lowered => ?_, ?_⟩
  · simp only [Filter.lower_raw_eq_ok_iff, exists_and_left, exists_eq, and_true]
  · obtain ⟨same, rfl⟩ := Filter.lower_raw_eq_ok_iff.mp lowered
    have text : ((Expr.raw (.ofList (filled d sql values))).render d).toList =
        weave (pieces sql) (literals d values) := String.toList_ofList
    rw [text]
    refine ⟨rfl, fun i value here => ⟨_, _, rfl, rfl, ?_, stands d value _⟩⟩
    have enough : (literals d values).length < (pieces sql).length := by
      rw [literals, List.length_map, pieces, length_splitOn, ← placeholders, same]
      exact Nat.lt_succ_self _
    rw [weave_eq_append enough (literals_getElem? here)]
    simp only [literals, List.map_take, List.map_drop]
  · intro mismatch σ _ registry start initial steps fresh member state
    have unmet := condition_ne_ok_of_mismatch fresh
      (filter_performed registry (start, initial) steps)
      (List.mem_filterMap.mpr ⟨_, member, rfl⟩) mismatch
    exact ⟨fun d scope whole compiles => unmet d scope whole compiles.condition,
      fun t => t.refused unmet registry state.2⟩

theorem fragment_filled_iff_note :
    let sql := "note = ? AND open = ?"
    let values : List Value := [.text "why? it's \\", .bool true]
    let initial : Logged Scripted := { connection := { dialect := .mysql, database := "d" } }
    let steps : List Step := [.call (.whereRaw sql [.bool true]), .run .delete]
    Filter.lower .mysql {} (.raw sql values) =
        .ok (.raw "note = 'why? it\\'s \\\\' AND open = '1'") ∧
      Stands .mysql (.text "why? it's \\") " AND open = '1'".toList ∧
      placeholders sql ≠ [Value.bool true].length ∧
      ((Terminal.find.run {}).runOn
        (performed {} (.ofTable "t" none, initial) steps)).2.2.executed = [] := by
  intro sql values initial steps
  have lowered : Filter.lower .mysql {} (.raw sql values) =
      .ok (.raw "note = 'why? it\\'s \\\\' AND open = '1'") :=
    Filter.lower_raw_eq_ok_iff.mpr ⟨by decide, congrArg Expr.raw (by decide)⟩
  obtain ⟨_, _, filled, _⟩ := fragment_filled_iff .mysql sql values
  obtain ⟨before, after, _, behind, _, stands⟩ := (filled {} _ lowered).2 0 _ rfl
  obtain ⟨_, _, _, refused⟩ := fragment_filled_iff .mysql sql [.bool true]
  have mismatch : placeholders sql ≠ [Value.bool true].length := by decide
  have silent := refused mismatch {} (.ofTable "t" none) initial steps rfl (by simp [steps])
  have rest : after = " AND open = '1'".toList := behind.trans (by decide)
  rw [rest] at stands
  exact ⟨lowered, stands, mismatch, ((silent.2 .find).2).trans (by rfl)⟩

end Query

end RecordMapper
