import Mathlib.Data.List.Forall2
import PropertyMacros.Operator.Evaluation

/-!
What an operator observes of its attributes: the values that its declared names resolve to. Whether
a value is a default or an override, and what else has been set, is never seen. Of a condition it is
seen whether it reads `true`, and this decides which branch is looked at.
-/

namespace PropertyMacros

/-- Every one of the names resolves to the same value on both sides. -/
def Attributes.Agree (names : List String) (a b : Attributes) : Prop :=
  ∀ name ∈ names, a.get? name = b.get? name

namespace Attributes.Agree

variable {names : List String} {name : String} {a b : Attributes}

theorem require_eq (h : Agree names a b) (hname : name ∈ names) :
    a.require name = b.require name := by
  rw [require, require, h name hname]

theorem number_eq (h : Agree names a b) (hname : name ∈ names) :
    a.number name = b.number name := by
  rw [number, number, h.require_eq hname]

theorem index_eq (h : Agree names a b) (hname : name ∈ names) :
    a.index name = b.index name := by
  rw [index, index, h.require_eq hname]

theorem nonEmpty_eq (h : Agree names a b) (hname : name ∈ names) :
    a.nonEmpty name = b.nonEmpty name := by
  rw [nonEmpty, nonEmpty, h.require_eq hname]

theorem truth_eq (h : Agree names a b) (hname : name ∈ names) :
    a.truth name = b.truth name := by
  rw [truth, truth, h.require_eq hname]

theorem missing_eq {schema : Schema} (h : Agree schema.names a b) :
    a.missing schema = b.missing schema := by
  apply List.filter_congr
  intro name hname
  rw [h name hname]

end Attributes.Agree

/-! ## Truth -/

/-- The word `true`, each of its letters in upper or in lower case. -/
def ReadsTrue (text : String) : Prop :=
  List.Forall₂ (· ∈ ·) text.toList [['t', 'T'], ['r', 'R'], ['u', 'U'], ['e', 'E']]

instance (text : String) : Decidable (ReadsTrue text) :=
  inferInstanceAs (Decidable (List.Forall₂ _ _ _))

theorem toNat_toLower (c : Char) :
    c.toLower.toNat = if 65 ≤ c.toNat ∧ c.toNat ≤ 90 then c.toNat + 32 else c.toNat := by
  have hupper : (c.val ≥ 'A'.val ∧ c.val ≤ 'Z'.val) ↔ 65 ≤ c.toNat ∧ c.toNat ≤ 90 := by
    simp only [ge_iff_le, UInt32.le_iff_toNat_le]
    rfl
  unfold Char.toLower
  split
  · next h =>
    have hbound : c.toNat + 32 < 2 ^ 32 := by
      have hlt := (hupper.mp h).2
      omega
    rw [if_pos (hupper.mp h)]
    change (c.val + 32).toNat = c.toNat + 32
    rw [UInt32.toNat_add, Char.toNat_val]
    exact Nat.mod_eq_of_lt hbound
  · next h => rw [if_neg (hupper.not.mp h)]

/-- Only the two forms of a letter come to its lower case. -/
theorem toLower_eq_iff {c lower upper : Char} (hupper : 65 ≤ upper.toNat ∧ upper.toNat ≤ 90)
    (hlower : lower.toNat = upper.toNat + 32) : c.toLower = lower ↔ c ∈ [lower, upper] := by
  simp only [List.mem_cons, List.not_mem_nil, or_false, ← Char.toNat_inj, toNat_toLower, hlower]
  split <;> omega

theorem truthOf_eq_true_iff {text : String} : truthOf text = true ↔ ReadsTrue text := by
  have ht (c : Char) : c.toLower = 't' ↔ c ∈ ['t', 'T'] :=
    toLower_eq_iff (by decide) (by decide)
  have hr (c : Char) : c.toLower = 'r' ↔ c ∈ ['r', 'R'] :=
    toLower_eq_iff (by decide) (by decide)
  have hu (c : Char) : c.toLower = 'u' ↔ c ∈ ['u', 'U'] :=
    toLower_eq_iff (by decide) (by decide)
  have he (c : Char) : c.toLower = 'e' ↔ c ∈ ['e', 'E'] :=
    toLower_eq_iff (by decide) (by decide)
  rw [truthOf, beq_iff_eq, ReadsTrue, ← List.forall₂_eq_eq_eq, List.forall₂_map_left_iff]
  simp only [List.forall₂_cons_right_iff, List.forall₂_nil_right_iff, ht, hr, hu, he]

namespace Operator

open Attributes (Agree)

variable {a b : Attributes}

theorem arithmetic_congr (h : Agree binarySchema.names a b)
    (compute : Number → Number → Except EvalError Number) :
    arithmetic a compute = arithmetic b compute := by
  simp (disch := decide) only [arithmetic, h.number_eq]

theorem comparison_congr (h : Agree binarySchema.names a b) (holds : Ordering → Bool) :
    comparison a holds = comparison b holds := by
  simp (disch := decide) only [comparison, h.number_eq]

theorem equality_congr (h : Agree binarySchema.names a b) : equality a = equality b := by
  simp (disch := decide) only [equality, h.require_eq]

theorem connective_congr (h : Agree binarySchema.names a b) (combine : Bool → Bool → Bool) :
    connective a combine = connective b combine := by
  simp (disch := decide) only [connective, h.truth_eq]

theorem countElements_congr (h : Agree count.schema.names a b) :
    countElements a = countElements b := by
  simp (disch := decide) only [countElements, h.require_eq, h.nonEmpty_eq]

theorem choose_congr (h : Agree ifThenElse.schema.names a b) : choose a = choose b := by
  simp (disch := decide) only [choose, h.truth_eq, h.require_eq]

/-- The attribute that holds the text of the branch which a condition selects. -/
def branch (cond : String) : String := if ReadsTrue cond then "then" else "else"

/-- Of the two branches only the selected one is read. -/
theorem choose_eq_require {cond : String} (h : a.get? "cond" = some cond) :
    choose a = a.require (branch cond) := by
  have hcond : a.truth "cond" = .ok (truthOf cond) := by
    rw [Attributes.truth, Attributes.require, h]
    rfl
  rw [choose, hcond, branch]
  simp only [← truthOf_eq_true_iff]
  cases truthOf cond <;> rfl

theorem replaceAll_congr (h : Agree replaceString.schema.names a b) :
    replaceAll a = replaceAll b := by
  simp (disch := decide) only [replaceAll, h.nonEmpty_eq, h.require_eq]

theorem window_congr (h : Agree sublist.schema.names a b) : window a = window b := by
  simp (disch := decide) only [window, h.nonEmpty_eq, h.index_eq, h.require_eq]

theorem reseparate_congr (h : Agree changeSeparator.schema.names a b) :
    reseparate a = reseparate b := by
  simp (disch := decide) only [reseparate, h.nonEmpty_eq, h.require_eq]

theorem evaluate_congr {op : Operator} (h : Agree op.schema.names a b) :
    op.evaluate a = op.evaluate b := by
  cases op with
  | add | sub | mul | div => exact arithmetic_congr h _
  | gt | gte | lt | lte => exact comparison_congr h _
  | eq | neq => simp only [evaluate, equality_congr h]
  | not | strLen => simp (disch := decide) only [evaluate, h.truth_eq, h.require_eq]
  | and | or => exact connective_congr h _
  | count => exact countElements_congr h
  | ifThenElse => exact choose_congr h
  | replaceString => exact replaceAll_congr h
  | sublist => exact window_congr h
  | changeSeparator => exact reseparate_congr h
  | pathSeparator | fileSeparator | lineSeparator | osName | osArch => rfl

end Operator

end PropertyMacros
