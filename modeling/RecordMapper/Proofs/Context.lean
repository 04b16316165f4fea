import Mathlib.Data.List.Basic
import RecordMapper.Error

/-!
Errors with context. Context goes in front of the messages of an error and leaves its root as it is. Of
what is put around an error only the outermost message is kept, so that no message is lost exactly where
nothing that is put around an error has context of its own.
-/

set_option autoImplicit false

namespace RecordMapper

namespace Error

/-! ## One context -/

def Consequent.error : Consequent → Error
  | .owned e => e
  | .shared e => e
  | .words text => Error.words text

private theorem Consequent.message_cause (consequent : Consequent) :
    consequent.cause.message = consequent.error.cause.message := by
  cases consequent with
  | owned e =>
      simp only [Consequent.cause]
      split <;> rfl
  | shared e => rfl
  | words text => rfl

private theorem message_of_behind (e : Error) :
    e.message = ": ".intercalate (e.cause.message :: e.behind.map Cause.message) := rfl

theorem messages_context (e : Error) (consequent : Consequent) :
    (e.context consequent).chain.map Cause.message =
      consequent.error.cause.message :: e.chain.map Cause.message :=
  congrArg (· :: _) consequent.message_cause

theorem message_context (e : Error) (consequent : Consequent) :
    (e.context consequent).message = consequent.error.cause.message ++ ": " ++ e.message := by
  rw [message, messages_context, String.intercalate_cons_of_ne_nil (by simp [chain])]
  rfl

/-- An error shows its outermost message alone exactly if it has no context. -/
theorem message_eq_cause_iff {e : Error} : e.cause.message = e.message ↔ e.behind = [] := by
  obtain ⟨cause, behind⟩ := e
  cases behind with
  | nil => simp [message_of_behind]
  | cons next behind =>
      rw [message_of_behind, List.map_cons, String.intercalate_cons_cons]
      refine iff_of_false (fun same => ?_) (List.cons_ne_nil next behind)
      have longer := congrArg String.length same
      simp only [String.length_append] at longer
      have separator : ": ".length = 2 := rfl
      omega

private theorem message_context_eq_iff {e : Error} {consequent : Consequent} :
    (e.context consequent).message = consequent.error.message ++ ": " ++ e.message ↔
      consequent.error.behind = [] := by
  rw [message_context, ← message_eq_cause_iff]
  simp only [String.ext_iff, String.toList_append, List.append_left_inj]

/-! ## Nested contexts -/

/-- Errors put around errors, where both may have come about in the same way. What is put around is
`shared` where it is still held somewhere else. -/
inductive Nested where
  | single (e : Error)
  | within (inner outer : Nested) (shared : Bool)
  | worded (inner : Nested) (text : String)

namespace Nested

def error : Nested → Error
  | single e => e
  | within inner outer shared =>
    inner.error.context (if shared then .shared outer.error else .owned outer.error)
  | worded inner text => inner.error.context (.words text)

def innermost : Nested → Error
  | single e => e
  | within inner _ _ => inner.innermost
  | worded inner _ => inner.innermost

def messages : Nested → List String
  | single e => e.chain.map Cause.message
  | within inner outer _ => outer.messages ++ inner.messages
  | worded inner text => text :: inner.messages

/-- The messages that are shown: of what was put around an error, the outermost one. -/
def kept : Nested → List String
  | single e => e.chain.map Cause.message
  | within inner outer _ => outer.error.cause.message :: inner.kept
  | worded inner text => text :: inner.kept

/-- Nothing that was put around an error has context of its own. -/
def Straight : Nested → Prop
  | single _ => True
  | within inner outer _ => outer.error.behind = [] ∧ inner.Straight
  | worded inner _ => inner.Straight

private theorem root_error (n : Nested) : n.error.root = n.innermost.root := by
  induction n with
  | single e => rfl
  | within inner outer shared ihInner _ => exact (root_context _ _).trans ihInner
  | worded inner text ih => exact (root_context _ _).trans ih

theorem kept_eq (n : Nested) : n.kept = n.error.chain.map Cause.message := by
  induction n with
  | single e => rfl
  | within inner outer shared ihInner _ =>
      rw [kept, ihInner]
      cases shared with
      | false => exact (messages_context inner.error (.owned outer.error)).symm
      | true => exact (messages_context inner.error (.shared outer.error)).symm
  | worded inner text ih =>
      rw [kept, ih]
      exact (messages_context inner.error (.words text)).symm

private theorem message_error (n : Nested) : n.error.message = ": ".intercalate n.kept := by
  rw [kept_eq]
  rfl

private theorem kept_ne_nil (n : Nested) : n.kept ≠ [] := by
  cases n <;> exact List.cons_ne_nil _ _

/-- Where an error has no context, it was not put together. -/
theorem messages_of_behind {n : Nested} (plain : n.error.behind = []) :
    n.messages = [n.error.cause.message] := by
  cases n with
  | single e =>
      rw [messages, chain, show e.behind = [] from plain]
      rfl
  | within inner outer shared => exact absurd plain (List.cons_ne_nil _ _)
  | worded inner text => exact absurd plain (List.cons_ne_nil _ _)

theorem kept_sublist (n : Nested) : n.kept.Sublist n.messages := by
  induction n with
  | single e => exact .refl _
  | within inner outer shared ihInner ihOuter =>
      have first : [outer.error.cause.message].Sublist outer.kept := by
        rw [kept_eq, chain, List.map_cons]
        exact (List.nil_sublist _).cons_cons _
      exact (first.trans ihOuter).append ihInner
  | worded inner text ih => exact ih.cons_cons text

private theorem messages_eq_kept_iff {n : Nested} : n.messages = n.kept ↔ n.Straight := by
  induction n with
  | single e => exact iff_of_true rfl trivial
  | worded inner text ih => rw [messages, kept, List.cons_inj_right, ih, Straight]
  | within inner outer shared ihInner _ =>
      rw [Straight, ← ihInner]
      constructor
      · intro same
        -- Both parts show at least as many messages as they keep, so none of them shows more.
        have lengths := congrArg List.length same
        have outerFew := outer.kept_sublist.length_le
        have innerFew := inner.kept_sublist.length_le
        have outerKept := congrArg List.length outer.kept_eq
        simp only [messages, kept, List.length_append, List.length_cons] at lengths
        simp only [chain, List.map_cons, List.length_cons, List.length_map] at outerKept
        have behind : outer.error.behind.length = 0 := by omega
        have inside : inner.kept.length = inner.messages.length := by omega
        exact ⟨List.eq_nil_of_length_eq_zero behind,
          (inner.kept_sublist.eq_of_length inside).symm⟩
      · rintro ⟨plain, same⟩
        rw [messages, kept, messages_of_behind plain, same]
        rfl

end Nested

/-! ## The length of a text of messages -/

def spread (messages : List String) : Nat :=
  messages.foldr (fun message total => message.length + 2 + total) 0

private theorem length_intercalate {messages : List String} (shown : messages ≠ []) :
    (": ".intercalate messages).length + 2 = spread messages := by
  have separator : ": ".length = 2 := rfl
  induction messages with
  | nil => exact absurd rfl shown
  | cons first rest ih =>
      cases rest with
      | nil => simp [spread]
      | cons next rest =>
          have ih := ih (List.cons_ne_nil next rest)
          rw [String.intercalate_cons_cons, String.length_append, String.length_append, separator]
          rw [spread, List.foldr_cons, ← spread, ← ih]
          omega

private theorem length_spread_of_sublist {short long : List String} (sub : short.Sublist long) :
    spread short + 2 * (long.length - short.length) ≤ spread long := by
  induction sub with
  | slnil => exact Nat.le_refl _
  | cons message sub ih =>
      have few := sub.length_le
      simp only [spread, List.foldr_cons, List.length_cons] at ih ⊢
      omega
  | cons_cons message sub ih =>
      have few := sub.length_le
      simp only [spread, List.foldr_cons, List.length_cons] at ih ⊢
      omega

/-- A text of messages is that of some of them exactly if these are all. -/
theorem intercalate_eq_of_sublist {short long : List String} (sub : short.Sublist long)
    (shown : short ≠ []) : ": ".intercalate short = ": ".intercalate long ↔ long = short := by
  constructor
  · intro same
    have lengths := congrArg String.length same
    have shortLength := length_intercalate shown
    have longLength := length_intercalate fun none => shown (List.sublist_nil.mp (none ▸ sub))
    have apart := length_spread_of_sublist sub
    have few := sub.length_le
    exact (sub.eq_of_length (by omega)).symm
  · rintro rfl
    rfl

/-- Context leaves the root of an error as it is and puts one message in front of its text: the outermost
of what is put around it, which is the whole text of that exactly if it has no context itself. Of nested
contexts all messages are shown exactly if nothing that was put around an error has context. -/
theorem message_context_nested (e : Error) (consequent : Consequent) :
    (e.context consequent).root = e.root ∧
      (e.context consequent).message = consequent.error.cause.message ++ ": " ++ e.message ∧
      ((e.context consequent).message = consequent.error.message ++ ": " ++ e.message ↔
        consequent.error.behind = []) ∧
      ∀ n : Nested, n.error.root = n.innermost.root ∧
        n.error.message = ": ".intercalate n.kept ∧
        (n.error.message = ": ".intercalate n.messages ↔ n.Straight) := by
  refine ⟨root_context e consequent, message_context e consequent, message_context_eq_iff,
    fun n => ⟨n.root_error, n.message_error, ?_⟩⟩
  rw [n.message_error, intercalate_eq_of_sublist n.kept_sublist n.kept_ne_nil,
    Nested.messages_eq_kept_iff]

/-- What an error that is put around another was about is lost. -/
theorem lost_behind_consequent :
    let reset := of (.driver "connection reset" [])
    let failed := (of (.recordNotFound "table=customer id=7")).context (.words "restore failed")
    failed.message = "restore failed: record not found: table=customer id=7" ∧
      (reset.context (.owned failed)).message = "restore failed: connection reset" ∧
      (reset.context (.owned failed)).message ≠ failed.message ++ ": " ++ reset.message := by
  decide +kernel

end Error

end RecordMapper
