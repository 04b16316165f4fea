import Mathlib.Data.Finset.Card
import RecordMapper.Proofs.OrderedMap
import RecordMapper.Proofs.Schema.Name
import RecordMapper.Schema.Registry

/-!
Registries after any registrations. A look-up finds the latest registration whose table's name in normal
form has the canonical form of the name that is looked up.
-/

set_option autoImplicit false

namespace RecordMapper

/-!
## Canonical forms

The canonical form of a name in normal form. Lowering a whole text and lowering each of its characters
differ at a capital sigma that ends a word, and nowhere else, so that a name and its normal form have
one canonical form exactly if no word of the name ends with a capital sigma.
-/

namespace Text

def isKept (c : Char) : Bool := c != ' ' && c != '_'

theorem lowerChar_sigma : lowerChar 'Σ' = ['σ'] := by decide +kernel

/-! ## Spaces and underscores -/

private theorem isKept_toLower : ∀ point < 0x80,
    isKept (Char.ofNat point).toLower = isKept (Char.ofNat point) := by
  decide +kernel

private theorem isKept_of_mem_lowered : ∀ point ∈ lowered, isKept (Char.ofNat point) = true := by
  decide +kernel

private theorem isKept_of_wide {c : Char} (wide : 0x80 ≤ c.toNat) : isKept c = true := by
  unfold isKept
  rw [Bool.and_eq_true, bne_iff_ne, bne_iff_ne]
  constructor <;> rintro rfl <;> exact absurd wide (by decide)

private theorem isKept_of_mem_lowerChar {c low : Char} (member : low ∈ lowerChar c) :
    isKept low = isKept c := by
  rcases mem_lowerChar member with
    ⟨small, rfl⟩ | ⟨rfl, pair⟩ | ⟨wide, point, held, rfl⟩ | ⟨_, _, _, rfl⟩
  · have same := isKept_toLower c.toNat small
    rwa [Char.ofNat_toNat] at same
  · rw [List.mem_cons, List.mem_singleton] at pair
    rcases pair with rfl | rfl <;> decide
  · rw [isKept_of_mem_lowered point held, isKept_of_wide wide]
  · rfl

/-- Lowering a character neither makes spaces and underscores nor takes them away. -/
theorem filter_isKept_lowerChar (c : Char) :
    (lowerChar c).filter isKept = if isKept c = true then lowerChar c else [] := by
  split
  · rename_i kept
    rw [List.filter_eq_self]
    intro low member
    rw [isKept_of_mem_lowerChar member, kept]
  · rename_i dropped
    rw [List.filter_eq_nil_iff]
    intro low member
    rwa [isKept_of_mem_lowerChar member]

private theorem filter_isKept_lowerEach (cs : List Char) :
    (lowerEach cs).filter isKept = lowerEach (cs.filter isKept) := by
  induction cs with
  | nil => rfl
  | cons c rest ih =>
      rw [lowerEach, List.flatMap_cons, List.filter_append, ← lowerEach, ih, filter_isKept_lowerChar]
      by_cases kept : isKept c = true
      · rw [if_pos kept, List.filter_cons_of_pos kept]
        rfl
      · rw [if_neg kept, List.filter_cons_of_neg kept]
        rfl

private theorem lowerEach_of_isLower {cs : List Char} (lower : ∀ c ∈ cs, IsLower c) :
    lowerEach cs = cs := by
  induction cs with
  | nil => rfl
  | cons c rest ih =>
      obtain ⟨⟨same, _⟩, others⟩ := List.forall_mem_cons.mp lower
      rw [lowerEach, List.flatMap_cons, same, ← lowerEach, ih others]
      rfl

/-! ## Capital sigmas at the end of a word -/

/-- What lowering a whole text makes of a character, as against the character alone. -/
theorem filter_lowerAt_eq_iff {before rest : List Char} {c : Char} :
    (lowerAt before c rest).filter isKept = (lowerChar c).filter isKept ↔
      ¬ (c = 'Σ' ∧ startsCased before = true ∧ startsCased rest = false) := by
  unfold lowerAt
  split
  · rename_i sigma
    rw [sigma, lowerChar_sigma]
    cases startsCased before <;> cases startsCased rest <;> decide
  · rename_i other
    exact iff_of_true rfl fun ends => other ends.1

private theorem length_filter_lowerAt {before rest : List Char} {c : Char} :
    ((lowerAt before c rest).filter isKept).length = ((lowerChar c).filter isKept).length := by
  unfold lowerAt
  split
  · rename_i sigma
    rw [sigma, lowerChar_sigma]
    split <;> rfl
  · rfl

/-- A whole text and its characters one by one are lowered alike, up to spaces and underscores, exactly
if no capital sigma ends a word. -/
theorem filter_lowerAfter_eq_iff {before cs : List Char} :
    (lowerAfter before cs).filter isKept = (lowerEach cs).filter isKept ↔
      ∀ inner rest, cs = inner ++ 'Σ' :: rest →
        ¬ (startsCased (inner.reverse ++ before) = true ∧ startsCased rest = false) := by
  induction cs generalizing before with
  | nil => simp [lowerAfter, lowerEach]
  | cons c cs ih =>
      rw [lowerAfter_cons, lowerEach, List.flatMap_cons, List.filter_append, List.filter_append,
        ← lowerEach]
      have pieces : ∀ {first second third fourth : List Char}, first.length = second.length →
          (first ++ third = second ++ fourth ↔ first = second ∧ third = fourth) :=
        fun same => ⟨fun whole => List.append_inj whole same, fun both => by rw [both.1, both.2]⟩
      rw [pieces length_filter_lowerAt, filter_lowerAt_eq_iff, ih]
      constructor
      · rintro ⟨here, later⟩ inner rest whole
        rcases List.cons_eq_append_iff.mp whole with ⟨rfl, same⟩ | ⟨inner, rfl, same⟩
        · cases same
          exact fun ends => here ⟨rfl, ends⟩
        · simpa using later inner rest same
      · intro none
        constructor
        · rintro ⟨rfl, ends⟩
          exact none [] cs rfl ends
        · rintro inner rest rfl
          simpa using none (c :: inner) rest rfl

end Text

namespace Name

def EndsInSigma (name : String) : Prop :=
  ∃ before rest, (Text.trim name).toList = before ++ 'Σ' :: rest ∧
    Text.startsCased before.reverse = true ∧ Text.startsCased rest = false

theorem toList_canonical (name : String) :
    (canonical name).toList =
      (Text.lowerEach (Text.trimBoth Text.isBlank name.toList)).filter Text.isKept := by
  rw [canonical, String.toList_ofList, Text.filter_isKept_lowerEach]
  rfl

private theorem toList_canonical_normalize (name : String) :
    (canonical (normalize name)).toList = (normalize name).toList.filter Text.isKept := by
  obtain ⟨trimmed, lower⟩ := trimmed_and_isLower_normalize name
  rw [toList_canonical, Text.trimBoth_of_trimmed trimmed, Text.lowerEach_of_isLower lower]

private theorem canonical_normalize_eq_iff {name : String} :
    canonical (normalize name) = canonical name ↔ ¬ EndsInSigma name := by
  have lowered : (normalize name).toList =
      Text.lowerAfter [] (Text.trimBoth Text.isBlank name.toList) := by
    rw [normalize, Text.lower, Text.trim, String.toList_ofList, String.toList_ofList]
  rw [String.ext_iff, toList_canonical_normalize, toList_canonical, lowered,
    Text.filter_lowerAfter_eq_iff, EndsInSigma, Text.trim, String.toList_ofList]
  simp only [List.append_nil, not_exists, not_and]

end Name

/-! ## Registrations -/

structure Registration where
  table : String
  declare : Model → Model

namespace Registration

def model (e : Registration) : Model := e.declare { table := Name.normalize e.table }

/-- The form by which the model is found: the canonical form of the name in normal form. -/
def form (e : Registration) : String := Name.canonical (Name.normalize e.table)

private theorem form_eq_canonical_iff (e : Registration) :
    e.form = Name.canonical e.table ↔ ¬ Name.EndsInSigma e.table :=
  Name.canonical_normalize_eq_iff

def LatestAs (form : String) (history : List Registration) (e : Registration) : Prop :=
  ∃ earlier later, history = earlier ++ e :: later ∧ e.form = form ∧
    ∀ other ∈ later, other.form ≠ form

variable {form : String} {history : List Registration} {e last : Registration}

theorem latestAs_concat_iff :
    LatestAs form (history ++ [last]) e ↔
      (last.form = form ∧ e = last) ∨ (last.form ≠ form ∧ LatestAs form history e) := by
  constructor
  · intro latest
    obtain ⟨earlier, later, whole, same, overtaken⟩ := latest
    rcases List.eq_nil_or_concat later with rfl | ⟨later, final, rfl⟩
    · obtain ⟨rfl, rfl⟩ := List.append_singleton_inj.mp whole
      exact .inl ⟨same, rfl⟩
    · rw [List.concat_eq_append, ← List.cons_append, ← List.append_assoc] at whole
      obtain ⟨rfl, rfl⟩ := List.append_singleton_inj.mp whole
      exact .inr ⟨overtaken last (by simp), earlier, later, rfl, same,
        fun other member => overtaken other (by simp [member])⟩
  · intro step
    rcases step with ⟨same, rfl⟩ | ⟨differ, earlier, later, rfl, same, overtaken⟩
    · exact ⟨history, [], rfl, same, by simp⟩
    · refine ⟨earlier, later ++ [last], by simp, same, fun other member => ?_⟩
      simp only [List.mem_append, List.mem_singleton] at member
      rcases member with held | rfl
      · exact overtaken other held
      · exact differ

/-- Where a form is registered at all, some registration is the last one under it. -/
theorem exists_latestAs_iff :
    (∃ e, LatestAs form history e) ↔ ∃ e ∈ history, e.form = form := by
  induction history using List.reverseRecOn with
  | nil => simp [LatestAs]
  | append_singleton history last ih =>
      simp only [latestAs_concat_iff]
      by_cases same : last.form = form
      · exact iff_of_true ⟨last, .inl ⟨same, rfl⟩⟩ ⟨last, by simp, same⟩
      · simp [same, ih, or_and_right, exists_or]

end Registration

open Registration

namespace Registry

def after (history : List Registration) : Registry :=
  history.foldl (fun r e => r.register e.table e.declare) {}

private theorem modelKey_inj {name name' : String} :
    Name.modelKey name = Name.modelKey name' ↔ Name.canonical name = Name.canonical name' := by
  simp [Name.modelKey, String.ext_iff]

/-! ## One registration -/

theorem register_eq (r : Registry) (e : Registration) :
    r.register e.table e.declare =
      ⟨r.models.insert (Name.modelKey (Name.normalize e.table)) e.model⟩ := by
  simp only [register, model, Model.ofTable, Name.normalize_normalize]

/-- A registration is found under its form, and leaves what is found under others. -/
theorem get?_register (r : Registry) (e : Registration) (name : String) :
    (r.register e.table e.declare).get? name =
      if e.form = Name.canonical name then some e.model else r.get? name := by
  rw [register_eq]
  unfold get?
  split
  · rename_i same
    rw [modelKey_inj.mpr same]
    exact OrderedMap.get?_insert_self e.model
  · rename_i differ
    exact OrderedMap.get?_insert_of_ne (fun same => differ (modelKey_inj.mp same.symm)) e.model

/-! ## A history of registrations -/

variable {history : List Registration}

theorem after_concat (history : List Registration) (last : Registration) :
    after (history ++ [last]) = (after history).register last.table last.declare := by
  simp [after]

theorem get?_after_eq_some_iff {name : String} {model : Model} :
    (after history).get? name = some model ↔
      ∃ e, LatestAs (Name.canonical name) history e ∧ e.model = model := by
  induction history using List.reverseRecOn with
  | nil =>
      have missing : (after []).get? name = none := rfl
      simp [missing, LatestAs]
  | append_singleton history last ih =>
      rw [after_concat, get?_register]
      simp only [latestAs_concat_iff]
      split
      · rename_i same
        simp [same]
      · rename_i differ
        simp [differ, ih]

theorem contains_after_iff {name : String} :
    (after history).contains name = true ↔ ∃ e ∈ history, e.form = Name.canonical name := by
  simp only [contains, Option.isSome_iff_exists, get?_after_eq_some_iff, ← exists_latestAs_iff]
  constructor
  · intro found
    obtain ⟨_, e, latest, _⟩ := found
    exact ⟨e, latest⟩
  · intro registered
    obtain ⟨e, latest⟩ := registered
    exact ⟨e.model, e, latest, rfl⟩

/-- The keys of a registry are those of its history, each where it came first. -/
theorem keys_after :
    (after history).models.keys =
      (history.map fun e => Name.modelKey (Name.normalize e.table)).eraseDups := by
  rw [← addNew_nil]
  induction history using List.reverseRecOn with
  | nil => rfl
  | append_singleton history last ih =>
      rw [after_concat, register_eq, OrderedMap.keys_insert, ih, List.map_append, addNew_append]
      rfl

private theorem size_after : (after history).size = (history.map form).toFinset.card := by
  have prefixed : Function.Injective fun form : String => "model_" ++ form := by
    intro first second same
    simpa [String.ext_iff] using same
  have keys : (after history).models.keys.toFinset =
      (history.map form).toFinset.image fun form => "model_" ++ form := by
    ext key
    simp [keys_after, form, Name.modelKey]
  calc (after history).size
    _ = (after history).models.keys.length := by simp [size, OrderedMap.size, OrderedMap.keys]
    _ = (after history).models.keys.toFinset.card :=
      (List.toFinset_card_of_nodup (after history).models.distinct).symm
    _ = (history.map form).toFinset.card := by
      rw [keys, Finset.card_image_of_injective _ prefixed]

private theorem resolve_after_eq_error_iff {name : String} :
    (after history).resolve name = .error (.of (.unknownModel (Name.modelKey name))) ↔
      ∀ e ∈ history, e.form ≠ Name.canonical name := by
  have found : (after history).contains name = true ↔ ∃ e ∈ history, e.form = Name.canonical name :=
    contains_after_iff
  cases held : (after history).get? name with
  | none => simpa [resolve, contains, held] using found
  | some model => simpa [resolve, contains, held] using found

/-- A look-up finds the last registration whose form is the canonical form of the name, and there are as
many models as forms. The form of a registration is the canonical form of the name that it was given,
except where a word of that name ends with a capital sigma. -/
theorem resolve_latest_registration (history : List Registration) (name : String) :
    ((after history).contains name = true ↔ ∃ e ∈ history, e.form = Name.canonical name) ∧
      (∀ model, (after history).resolve name = .ok model ↔
        ∃ e, LatestAs (Name.canonical name) history e ∧ e.model = model) ∧
      ((after history).resolve name = .error (.of (.unknownModel (Name.modelKey name))) ↔
        ∀ e ∈ history, e.form ≠ Name.canonical name) ∧
      (after history).size = (history.map form).toFinset.card ∧
      ∀ e : Registration, e.form = Name.canonical e.table ↔ ¬ Name.EndsInSigma e.table := by
  refine ⟨contains_after_iff, fun model => ?_, resolve_after_eq_error_iff, size_after,
    form_eq_canonical_iff⟩
  rw [← get?_after_eq_some_iff]
  unfold resolve
  cases (after history).get? name <;> simp

/-- The model of a table in capital letters is kept under the small sigma that ends a word, so that the
very text that it was registered with does not find it. -/
theorem capital_odos_not_found :
    (after [⟨"ΟΔΟΣ", id⟩]).contains "ΟΔΟΣ" = false ∧
      (after [⟨"ΟΔΟΣ", id⟩]).contains "οδος" = true ∧
      Name.canonical "ΟΔΟΣ" = Name.canonical "οδοσ" ∧
      (after [⟨"ΟΔΟΣ", id⟩, ⟨"οδοσ", id⟩]).size = 2 := by
  decide +kernel

end Registry

end RecordMapper
