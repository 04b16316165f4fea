import RecordMapper.Query.Basic

/-!
The calls that build a query, as data: what each does to the filter that is being read, what it adds
to it, and when it fails.
-/

set_option autoImplicit false

namespace RecordMapper.Query

theorem error_kept (q : Query) : q.error = (q.error <|> none) := by simp

def errorOf {α : Type} : Except Error α → Option Error
  | .ok _ => none
  | .error e => some e

inductive Call where
  | whereOperator (column : String) (op : Operator) (operand : Operand)
  | whereText (column op : String) (operand : Operand)
  | whereRaw (sql : String) (values : List Value)
  | combine (how : Combinator)
  | negateNext
  | openGroup
  | closeGroup
  | join (table : String)
  | select (name : String)
  | selectRaw (sql : String)
  | includeTable (table : String)
  | inMode (mode : Mode)
  | withDistinct (distinct : Bool)
  | withComment (text : String)
  | startingAt (row : UInt64)
  | limitedTo (rows : UInt64)
  | ordered (columns : List (String × Direction))
  | grouped (columns : List String)

namespace Call

def apply (q : Query) : Call → Query
  | .whereOperator column op operand => q.whereOperator column op operand
  | .whereText column op operand => q.whereText column op operand
  | .whereRaw sql values => q.whereRaw sql values
  | .combine how => q.combine how
  | .negateNext => q.negateNext
  | .openGroup => q.openGroup
  | .closeGroup => q.closeGroup
  | .join table => q.join table
  | .select name => q.select name
  | .selectRaw sql => q.selectRaw sql
  | .includeTable table => q.includeTable table
  | .inMode mode => q.inMode mode
  | .withDistinct distinct => q.withDistinct distinct
  | .withComment text => q.withComment text
  | .startingAt row => q.startingAt row
  | .limitedTo rows => q.limitedTo rows
  | .ordered columns => q.ordered columns
  | .grouped columns => q.grouped columns

def testLeaf (column : String) (op : Operator) (operand : Operand) : Except Error (List Filter) :=
  match Test.make column op operand with
  | .ok test => .ok [.leaf (Text.trim column) test]
  | .error e => .error e

def spelledLeaf (column op : String) (operand : Operand) : Except Error (List Filter) :=
  match Operator.ofText op with
  | .ok op => testLeaf column op operand
  | .error e => .error e

def leaves : Call → Except Error (List Filter)
  | .whereOperator column op operand => testLeaf column op operand
  | .whereText column op operand => spelledLeaf column op operand
  | .whereRaw sql values => .ok [.raw sql values]
  | _ => .ok []

def pushed (c : Call) : List Filter := c.leaves.toOption.getD []

def isNegation : Call → Bool
  | .negateNext => true
  | _ => false

def failure? (b : FilterBuilder) : Call → Option Error
  | .closeGroup => errorOf b.closeGroup
  | c => errorOf c.leaves

def build (b : FilterBuilder) : Call → FilterBuilder
  | .combine how => b.combine how
  | .negateNext => b.negateNext
  | .openGroup => b.openGroup
  | .closeGroup =>
    match b.closeGroup with
    | .error _ => b
    | .ok closed => closed
  | c => c.pushed.foldl FilterBuilder.push b

theorem filter_whereOperator (q : Query) (column : String) (op : Operator) (operand : Operand) :
    (q.whereOperator column op operand).filter =
      ((testLeaf column op operand).toOption.getD []).foldl FilterBuilder.push q.filter := by
  unfold Query.whereOperator testLeaf
  cases Test.make column op operand <;> rfl

theorem error_whereOperator (q : Query) (column : String) (op : Operator) (operand : Operand) :
    (q.whereOperator column op operand).error =
      (q.error <|> errorOf (testLeaf column op operand)) := by
  unfold Query.whereOperator testLeaf
  cases Test.make column op operand with
  | ok test => exact error_kept q
  | error e => rfl

private theorem filter_whereText (q : Query) (column op : String) (operand : Operand) :
    (q.whereText column op operand).filter =
      ((spelledLeaf column op operand).toOption.getD []).foldl FilterBuilder.push q.filter := by
  unfold Query.whereText spelledLeaf
  cases Operator.ofText op with
  | ok op => exact filter_whereOperator q column op operand
  | error e => rfl

private theorem error_whereText (q : Query) (column op : String) (operand : Operand) :
    (q.whereText column op operand).error =
      (q.error <|> errorOf (spelledLeaf column op operand)) := by
  unfold Query.whereText spelledLeaf
  cases Operator.ofText op with
  | ok op => exact error_whereOperator q column op operand
  | error e => rfl

theorem filter_apply (q : Query) (c : Call) : (c.apply q).filter = c.build q.filter := by
  cases c with
  | whereOperator column op operand => exact filter_whereOperator q column op operand
  | whereText column op operand => exact filter_whereText q column op operand
  | closeGroup =>
      unfold apply Query.closeGroup build
      cases q.filter.closeGroup <;> rfl
  | includeTable table =>
      unfold apply Query.includeTable
      dsimp only
      split <;> rfl
  | _ => rfl

/-- The first error of building stays; without one, the failure of the call is kept. -/
theorem error_apply (q : Query) (c : Call) :
    (c.apply q).error = (q.error <|> c.failure? q.filter) := by
  cases c with
  | whereOperator column op operand => exact error_whereOperator q column op operand
  | whereText column op operand => exact error_whereText q column op operand
  | closeGroup =>
      unfold apply Query.closeGroup failure?
      cases q.filter.closeGroup with
      | ok closed => exact error_kept q
      | error e => rfl
  | includeTable table =>
      unfold apply Query.includeTable
      dsimp only
      split <;> exact error_kept q
  | _ => exact error_kept q

end Call

def built (q : Query) (calls : List Call) : Query := calls.foldl Call.apply q

theorem filter_built_eq_foldl (q : Query) (calls : List Call) :
    (q.built calls).filter = calls.foldl Call.build q.filter := by
  induction calls generalizing q with
  | nil => rfl
  | cons c calls ih => rw [built, List.foldl_cons, ← built, ih, c.filter_apply, List.foldl_cons]

end RecordMapper.Query
