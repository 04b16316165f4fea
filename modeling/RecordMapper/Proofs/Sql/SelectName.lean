import RecordMapper.Proofs.Query.Groups
import RecordMapper.Proofs.Sql.Literal
import RecordMapper.Proofs.Sql.StatementTokens

/-!
The names under which columns are selected. Such a name stands between double quotes, which enclose a
name in PostgreSQL and a text in MySQL, where a backslash begins an escape that nobody wrote.
-/

set_option autoImplicit false

namespace RecordMapper

namespace Sql

def doubleQuoted : Dialect → Quotation
  | .mysql => .text
  | .postgresql => .name

private theorem hasEscapes_doubleQuoted (d : Dialect) :
    hasEscapes d (doubleQuoted d) = true ↔ d = .mysql := by
  cases d <;> decide

def readDoubleQuoted (d : Dialect) : List Char → Option (String × List Char)
  | '"' :: cs =>
    match readOn d (.inside (doubleQuoted d) .double []) cs with
    | (.closed _ .double read, rest) => some (.ofList read.reverse, rest)
    | _ => none
  | _ => none

/-- Every backslash stands in front of a wildcard, where it is kept. -/
def EscapesWildcards (cs : List Char) : Prop :=
  ∀ after, '\\' :: after <:+ cs → after.head? = some '%' ∨ after.head? = some '_'

def doubled (quote : Char) (cs : List Char) : List Char :=
  cs.flatMap fun c => if c = quote then [quote, quote] else [c]

theorem escapesWildcards_cons_of_ne {c : Char} (plain : c ≠ '\\') (cs : List Char) :
    EscapesWildcards (c :: cs) ↔ EscapesWildcards cs := by
  simp [EscapesWildcards, List.suffix_cons_iff, Ne.symm plain]

theorem escapesWildcards_backslash (cs : List Char) :
    EscapesWildcards ('\\' :: cs) ↔
      (cs.head? = some '%' ∨ cs.head? = some '_') ∧ EscapesWildcards cs := by
  simp [EscapesWildcards, List.suffix_cons_iff, or_imp, forall_and]

/-! ## What a scan has read -/

/-- An escape stands for one character, and for a backslash only if it is doubled; that of a wildcard
stands for itself. -/
theorem unescaped_cases (c : Char) :
    (∃ read, unescaped c = [read] ∧ (read = '\\' → c = '\\')) ∨
      (c = '%' ∨ c = '_') ∧ unescaped c = [c, '\\'] := by
  by_cases wildcard : c = '%' ∨ c = '_'
  · refine .inr ⟨wildcard, ?_⟩
    rcases wildcard with rfl | rfl <;> decide
  · refine .inl ?_
    unfold unescaped
    rw [if_neg wildcard]
    repeat' split
    all_goals exact ⟨_, rfl, by simp⟩

namespace Scan

def content : Scan → List Char
  | .inside _ _ read | .escaped _ _ read | .closed _ _ read => read
  | .start | .word _ | .number _ | .symbol _ => []

/-- The length of what has been read between quotes, as it would be written without escapes. -/
def spread : Scan → Nat
  | .inside _ quote read => read.length + read.count quote.char
  | .escaped _ quote read | .closed _ quote read => read.length + read.count quote.char + 1
  | .start | .word _ | .number _ | .symbol _ => 0

variable {d : Dialect} {s longer : Scan} {c : Char}

private theorem content_suffix_of_grow (grown : grow d s c = some longer) :
    s.content <:+ longer.content := by
  cases s with
  | start => cases grown
  | word read => exact List.nil_suffix
  | number read => exact List.nil_suffix
  | symbol read => exact List.nil_suffix
  | inside kind quote read =>
      simp only [grow] at grown
      split at grown
      · cases grown
        exact List.suffix_rfl
      · split at grown
        · cases grown
          exact List.suffix_rfl
        · cases grown
          exact List.suffix_cons c read
  | escaped kind quote read =>
      cases grown
      exact List.suffix_append _ _
  | closed kind quote read =>
      simp only [grow] at grown
      split at grown
      · cases grown
        exact List.suffix_cons c read
      · cases grown

private theorem spread_unescaped_le (quote : Quote) (c : Char) :
    (unescaped c).length + (unescaped c).count quote.char ≤ 2 := by
  rcases unescaped_cases c with ⟨read, single, _⟩ | ⟨wildcard, kept⟩
  · have few := List.count_le_length (l := unescaped c) (a := quote.char)
    simp only [single, List.length_singleton] at few ⊢
    omega
  · rw [kept]
    rcases wildcard with rfl | rfl <;> cases quote <;> decide

private theorem spread_le_of_grow (grown : grow d s c = some longer) :
    longer.spread ≤ s.spread + 1 := by
  cases s with
  | start => cases grown
  | word read =>
      simp only [grow] at grown
      split at grown
      · cases grown
        exact Nat.zero_le _
      · split at grown
        · obtain ⟨kind, _, rfl⟩ := Option.map_eq_some_iff.mp grown
          exact Nat.zero_le _
        · cases grown
  | number read =>
      simp only [grow] at grown
      split at grown
      · cases grown
        exact Nat.zero_le _
      · cases grown
  | symbol read =>
      simp only [grow] at grown
      split at grown
      · cases grown
        exact Nat.zero_le _
      · cases grown
  | inside kind quote read =>
      simp only [grow] at grown
      split at grown
      · cases grown
        exact Nat.le_refl _
      · rename_i other
        split at grown
        · cases grown
          exact Nat.le_refl _
        · cases grown
          simp [spread, other]
          omega
  | escaped kind quote read =>
      cases grown
      have short := spread_unescaped_le quote c
      simp only [spread, List.length_append, List.count_append]
      omega
  | closed kind quote read =>
      simp only [grow] at grown
      split at grown
      · rename_i same
        cases grown
        simp [spread, same]
        omega
      · cases grown

private theorem content_suffix_readOn (d : Dialect) (s : Scan) (cs : List Char) :
    s.content <:+ (readOn d s cs).1.content := by
  induction cs generalizing s with
  | nil => exact List.suffix_rfl
  | cons c cs ih =>
      rw [readOn]
      split
      · rename_i longer grown
        exact (content_suffix_of_grow grown).trans (ih longer)
      · exact List.suffix_rfl

private theorem spread_readOn_le (d : Dialect) (s : Scan) (cs : List Char) :
    (readOn d s cs).1.spread + (readOn d s cs).2.length ≤ s.spread + cs.length := by
  induction cs generalizing s with
  | nil => exact Nat.le_refl _
  | cons c cs ih =>
      rw [readOn]
      split
      · rename_i longer grown
        have grows := spread_le_of_grow grown
        have later := ih longer
        simp only [List.length_cons]
        omega
      · exact Nat.le_refl _

end Scan

/-! ## Names between double quotes -/

section

variable {d : Dialect} {kind kind' : Quotation} {c : Char} {cs read rest : List Char}

private theorem length_doubled (quote : Char) (cs : List Char) :
    (doubled quote cs).length = cs.length + cs.count quote := by
  induction cs with
  | nil => rfl
  | cons c cs ih =>
      have length : (doubled quote (c :: cs)).length =
          (if c = quote then [quote, quote] else [c]).length + (doubled quote cs).length := by
        simp [doubled]
      rw [length, ih]
      by_cases same : c = quote
      · simp [same]
        omega
      · simp [same]
        omega

theorem doubled_cons_of_ne {quote : Char} (other : c ≠ quote) (cs : List Char) :
    doubled quote (c :: cs) = c :: doubled quote cs := by
  simp [doubled, other]

theorem readOn_doubled_cons (plain : c ≠ '\\') :
    readOn d (.inside kind .double read) (doubled '"' (c :: cs) ++ rest) =
      readOn d (.inside kind .double (c :: read)) (doubled '"' cs ++ rest) := by
  by_cases same : c = '"'
  · simp [doubled, same, readOn, grow, Quote.char]
  · simp [doubled, same, readOn, grow, Quote.char, plain]

/-- In front of a wildcard a backslash is kept, with escapes or without. -/
theorem readOn_backslash (wildcard : c = '%' ∨ c = '_') :
    readOn d (.inside kind .double read) ('\\' :: c :: rest) =
      readOn d (.inside kind .double ('\\' :: read)) (c :: rest) := by
  cases escapes : hasEscapes d kind with
  | false => simp [readOn, grow, Quote.char, escapes]
  | true => rcases wildcard with rfl | rfl <;> simp [readOn, grow, Quote.char, escapes, unescaped]

private theorem readOn_doubled (kept : hasEscapes d kind = true → EscapesWildcards cs) :
    readOn d (.inside kind .double read) (doubled '"' cs ++ '"' :: rest) =
      readOn d (.closed kind .double (cs.reverse ++ read)) rest := by
  induction cs generalizing read with
  | nil => simp [doubled, readOn, grow, Quote.char]
  | cons c cs ih =>
      by_cases plain : c = '\\'
      · subst plain
        have text : doubled '"' ('\\' :: cs) = '\\' :: doubled '"' cs :=
          doubled_cons_of_ne (by decide) cs
        have step : readOn d (.inside kind .double read) (doubled '"' ('\\' :: cs) ++ '"' :: rest) =
            readOn d (.inside kind .double ('\\' :: read)) (doubled '"' cs ++ '"' :: rest) := by
          rw [text, List.cons_append]
          cases escapes : hasEscapes d kind with
          | false => simp [readOn, grow, Quote.char, escapes]
          | true =>
              obtain ⟨wildcard, _⟩ := (escapesWildcards_backslash cs).mp (kept escapes)
              cases cs with
              | nil => simp at wildcard
              | cons next cs =>
                  have wildcard : next = '%' ∨ next = '_' := by simpa using wildcard
                  have unquoted : next ≠ '"' := by rcases wildcard with rfl | rfl <;> decide
                  rw [doubled_cons_of_ne unquoted, List.cons_append, readOn_backslash wildcard]
        rw [step, ih fun escapes => ((escapesWildcards_backslash cs).mp (kept escapes)).2]
        simp
      · rw [readOn_doubled_cons plain,
          ih fun escapes => (escapesWildcards_cons_of_ne plain cs).mp (kept escapes)]
        simp

/-- An escape that is no wildcard's loses its backslash or, where the backslash is doubled, one of
the two: then fewer characters are read than were written. -/
theorem wildcard_of_readOn (escapes : hasEscapes d kind = true)
    (reads : readOn d (.inside kind .double read) ('\\' :: (doubled '"' cs ++ '"' :: rest)) =
      (.closed kind' .double (cs.reverse ++ '\\' :: read), rest)) :
    cs.head? = some '%' ∨ cs.head? = some '_' := by
  obtain ⟨next, more, text, first⟩ : ∃ next more, doubled '"' cs ++ '"' :: rest = next :: more ∧
      (cs.head? = some next ∨ next = '"') := by
    cases cs with
    | nil => exact ⟨'"', rest, rfl, .inr rfl⟩
    | cons next cs =>
        by_cases same : next = '"'
        · exact ⟨'"', '"' :: doubled '"' cs ++ '"' :: rest, by simp [doubled, same], .inr rfl⟩
        · exact ⟨next, _, by rw [doubled_cons_of_ne same, List.cons_append], .inl rfl⟩
  have step : readOn d (.inside kind .double read) ('\\' :: next :: more) =
      readOn d (.inside kind .double (unescaped next ++ read)) more := by
    simp [readOn, grow, Quote.char, escapes]
  rcases unescaped_cases next with ⟨c, single, doubles⟩ | ⟨wildcard, _⟩
  · have suffix := Scan.content_suffix_readOn d (.inside kind .double (unescaped next ++ read)) more
    have spread := Scan.spread_readOn_le d (.inside kind .double (unescaped next ++ read)) more
    rw [← step, ← text, reads, single] at suffix spread
    have same : c :: read = '\\' :: read :=
      List.IsSuffix.eq_of_length (List.suffix_of_suffix_length_le suffix
        (List.suffix_append cs.reverse ('\\' :: read)) (by simp)) (by simp)
    obtain rfl : c = '\\' := (List.cons.inj same).1
    obtain rfl := doubles rfl
    have head : cs.head? = some '\\' := first.resolve_right (by decide)
    cases cs with
    | nil => cases head
    | cons other cs =>
        cases head
        have rest' : more = doubled '"' cs ++ '"' :: rest := by
          simpa [doubled] using text.symm
        subst rest'
        simp [Scan.spread, Quote.char, length_doubled] at spread
        omega
  · have unquoted : next ≠ '"' := by rcases wildcard with rfl | rfl <;> decide
    have head := first.resolve_right unquoted
    rcases wildcard with rfl | rfl
    · exact .inl head
    · exact .inr head

/-- The text of a name is read as the name, up to its own closing quote, only if each of its
backslashes is kept. -/
theorem escapesWildcards_of_readOn (escapes : hasEscapes d kind = true)
    (reads : readOn d (.inside kind .double read) (doubled '"' cs ++ '"' :: rest) =
      (.closed kind' .double (cs.reverse ++ read), rest)) : EscapesWildcards cs := by
  induction cs generalizing read with
  | nil => simp [EscapesWildcards]
  | cons c cs ih =>
      by_cases plain : c = '\\'
      · subst plain
        rw [doubled_cons_of_ne (by decide), List.cons_append, List.reverse_cons,
          List.append_assoc, List.singleton_append] at reads
        have wildcard := wildcard_of_readOn escapes reads
        refine (escapesWildcards_backslash cs).mpr ⟨wildcard, ?_⟩
        cases cs with
        | nil => simp [EscapesWildcards]
        | cons next cs =>
            have wildcard : next = '%' ∨ next = '_' := by simpa using wildcard
            have unquoted : next ≠ '"' := by rcases wildcard with rfl | rfl <;> decide
            refine @ih ('\\' :: read) ?_
            rw [doubled_cons_of_ne unquoted, List.cons_append] at reads ⊢
            rw [← readOn_backslash wildcard, reads]
      · rw [readOn_doubled_cons plain] at reads
        exact (escapesWildcards_cons_of_ne plain cs).mpr (ih (by simpa using reads))

/-- A name between double quotes, in front of SQL that does not begin with one, reads back exactly
where no escape is taken for more than a kept backslash. -/
theorem readDoubleQuoted_aliasName_iff (d : Dialect) (name : String)
    (apart : rest.head? ≠ some '"') :
    readDoubleQuoted d ((aliasName name).toList ++ rest) = some (name, rest) ↔
      (d = .mysql → EscapesWildcards name.toList) := by
  have text : (aliasName name).toList ++ rest =
      '"' :: (doubled '"' name.toList ++ '"' :: rest) := by
    simp [aliasName, enclose, doubled]
  rw [text, readDoubleQuoted]
  constructor
  · intro reads mysql
    have escapes := (hasEscapes_doubleQuoted d).mpr mysql
    split at reads
    · rename_i kind read left stopped
      obtain ⟨named, rfl⟩ : .ofList read.reverse = name ∧ left = rest := by simpa using reads
      have reads : readOn d (.inside (doubleQuoted d) .double [])
          (doubled '"' name.toList ++ '"' :: left) =
            (.closed kind .double (name.toList.reverse ++ []), left) := by
        simpa [← named] using stopped
      exact escapesWildcards_of_readOn escapes reads
    · cases reads
  · intro kept
    have whole : readOn d (.inside (doubleQuoted d) .double [])
        (doubled '"' name.toList ++ '"' :: rest) =
          readOn d (.closed (doubleQuoted d) .double (name.toList.reverse ++ [])) rest :=
      readOn_doubled fun escapes => kept ((hasEscapes_doubleQuoted d).mp escapes)
    have stops : ∀ c ∈ rest.head?,
        grow d (.closed (doubleQuoted d) .double (name.toList.reverse ++ [])) c = none := by
      intro c member
      have other : c ≠ '"' := fun quote => apart (by rw [← quote]; exact member)
      simp [grow, Quote.char, other]
    rw [whole, readOn_stopped stops]
    simp

end

/-! ## Selected columns in a statement -/

private theorem startsClosed_join {first second : List Char} (left : startsClosed first = true)
    (right : startsClosed second = true) : startsClosed (first ++ second) = true := by
  cases first with
  | nil => exact right
  | cons c first => exact left

private theorem exists_intercalate_comma (texts others : List String) (text : String) :
    ∃ after, (", ".intercalate (texts ++ text :: others)).toList =
      (texts.flatMap fun first => (first ++ ", ").toList) ++ text.toList ++ after ∧
        startsClosed after = true := by
  induction texts with
  | nil =>
      cases others with
      | nil => exact ⟨[], by simp, rfl⟩
      | cons other others =>
          refine ⟨(", " ++ ", ".intercalate (other :: others)).toList, ?_, ?_⟩
          · rw [List.nil_append, String.intercalate_cons_cons]
            simp
          · rw [String.toList_append]
            rfl
  | cons first texts ih =>
      obtain ⟨after, split, closed⟩ := ih
      refine ⟨after, ?_, closed⟩
      cases texts with
      | nil =>
          rw [List.nil_append] at split
          rw [List.singleton_append, String.intercalate_cons_cons, String.toList_append, split]
          simp
      | cons second texts =>
          rw [List.cons_append, List.cons_append, String.intercalate_cons_cons,
            String.toList_append, ← List.cons_append, split]
          simp

end Sql

open Sql

private theorem Window.startsClosed_render (d : Dialect) (w : Window) :
    startsClosed (w.render d).toList = true := by
  unfold render
  split
  · rfl
  all_goals
    simp only [String.toList_append, List.append_assoc]
    rfl

def Select.textBefore (d : Dialect) (s : Select) (items : List SelectItem) : List Char :=
  ("SELECT " ++ commentText s.comment ++ (if s.distinct then "DISTINCT " else "")).toList ++
    items.flatMap fun item => (item.render d ++ ", ").toList

/-- A selected item stands in front of a comma, a space or the semicolon. -/
theorem Select.exists_render_item (d : Dialect) {s : Select} {items others : List SelectItem}
    {item : SelectItem} (selected : s.returning = items ++ item :: others) :
    ∃ after, ((Statement.select s).render d).toList =
      s.textBefore d items ++ (item.render d).toList ++ after ∧ startsClosed after = true := by
  obtain ⟨after, listed, closed⟩ := exists_intercalate_comma
    (items.map (SelectItem.render d)) (others.map (SelectItem.render d)) (item.render d)
  rw [← List.map_cons, ← List.map_append, ← selected, List.flatMap_map] at listed
  have tables : startsClosed
      (if s.tables.isEmpty then "" else " FROM " ++ identifiers d s.tables).toList = true := by
    split
    · rfl
    · simp [startsClosed, isCloser]
  have groups : startsClosed (if s.groupBy.isEmpty then ""
      else " GROUP BY " ++ ", ".intercalate (s.groupBy.map (ColumnRef.render d))).toList = true := by
    split
    · rfl
    · simp [startsClosed, isCloser]
  have order : startsClosed (if s.orderBy.isEmpty then ""
      else " ORDER BY " ++ ", ".intercalate (s.orderBy.map fun entry =>
        entry.1.render d ++ entry.2.render)).toList = true := by
    split
    · rfl
    · simp [startsClosed, isCloser]
  have window : startsClosed (s.window.elim "" (Window.render d)).toList = true := by
    cases s.window with
    | none => rfl
    | some window => exact window.startsClosed_render d
  have tail := startsClosed_join closed <| startsClosed_join tables <|
    startsClosed_join (startsClosed_condition d s.filter) <| startsClosed_join groups <|
    startsClosed_join order <| startsClosed_join window (show startsClosed [';'] = true from rfl)
  refine ⟨_, ?_, tail⟩
  simp only [Statement.render, Select.render, textBefore, String.toList_append, listed,
    List.append_assoc]
  cases s.window <;> rfl

namespace SelectItem

/-- The name of a selected column. In PostgreSQL it reads back always, and in MySQL exactly where each
of its backslashes stands in front of a wildcard; nothing in the statement goes on with it. A table
without a colon in its name is what stands before the first colon. -/
theorem selectName_reads_back_iff (d : Dialect) (c : ColumnRef) :
    let written := (aliasName c.selectName).toList
    (aliased c).render d = c.render d ++ " AS " ++ aliasName c.selectName ∧
      (∀ (s : Select) items others, s.returning = items ++ aliased c :: others → ∃ after,
        ((Statement.select s).render d).toList =
            s.textBefore d items ++ ((c.render d ++ " AS ").toList ++ written) ++ after ∧
          (readDoubleQuoted d (written ++ after) = some (c.selectName, after) ↔
            (d = .mysql → EscapesWildcards c.selectName.toList))) ∧
      ∀ table column, c = .of table column →
        (Text.cut? (· == ':') c.selectName.toList = some (table.toList, column.toList) ↔
          ':' ∉ table.toList) := by
  intro written
  refine ⟨rfl, fun s items others selected => ?_, fun table column named => ?_⟩
  · obtain ⟨after, split, closed⟩ := Select.exists_render_item d selected
    have apart : after.head? ≠ some '"' := by
      intro quote
      simp [startsClosed, quote, isCloser] at closed
    refine ⟨after, ?_, readDoubleQuoted_aliasName_iff d c.selectName apart⟩
    rw [split, ← String.toList_append]
    rfl
  · subst named
    have text : (ColumnRef.of table column).selectName.toList =
        table.toList ++ ':' :: column.toList := by
      simp [ColumnRef.selectName, ColumnRef.of]
    rw [text]
    constructor
    · intro found colon
      obtain ⟨_, _, _, kept⟩ := Text.cut?_eq_some found
      cases kept ':' colon
    · intro plain
      refine Text.cut?_append (fun c member => ?_) rfl
      have other : c ≠ ':' := fun same => plain (same ▸ member)
      simpa using other

theorem selectName_reads_back_wildcard :
    let written := (aliasName "customer:50\\% \"vip\"").toList
    (∃ after, ((Statement.select { returning := [aliased (.of "customer" "50\\% \"vip\"")]
                                   tables := ["customer"] }).render .mysql).toList =
        "SELECT ".toList ++ (((ColumnRef.of "customer" "50\\% \"vip\"").render .mysql ++
          " AS ").toList ++ written) ++ after ∧
        readDoubleQuoted .mysql (written ++ after) = some ("customer:50\\% \"vip\"", after)) ∧
      Text.cut? (· == ':') "customer:50\\% \"vip\"".toList =
        some ("customer".toList, "50\\% \"vip\"".toList) := by
  intro written
  obtain ⟨_, statement, cut⟩ :=
    selectName_reads_back_iff .mysql (.of "customer" "50\\% \"vip\"")
  obtain ⟨after, split, reads⟩ := statement
    { returning := [aliased (.of "customer" "50\\% \"vip\"")], tables := ["customer"] } [] [] rfl
  have kept : EscapesWildcards "customer:50\\% \"vip\"".toList := by
    simp [EscapesWildcards, List.suffix_cons_iff]
  exact ⟨⟨after, split, reads.mpr fun _ => kept⟩,
    (cut "customer" "50\\% \"vip\"" rfl).mpr (by decide)⟩

/-- A backslash at the end of a column's name takes the closing quote with it, and one in front of a
letter goes on as an escape. -/
theorem backslash_lost_in_selectName :
    (Statement.select { returning := [aliased (.of "customer" "note\\")]
                        tables := ["customer"] }).render .mysql =
        "SELECT customer.\x60note\\\x60 AS \"customer:note\\\" FROM customer;" ∧
      readDoubleQuoted .mysql "\"customer:note\\\" FROM customer;".toList = none ∧
      readDoubleQuoted .mysql (aliasName "customer:no\\te").toList =
        some ("customer:no\te", []) := by
  decide +kernel

end SelectItem

end RecordMapper
