import PropertyMacros.Proofs.Elements.Separator
import PropertyMacros.Proofs.Operator.Operands
import PropertyMacros.Proofs.Property

/-!
Operators on texts and lists, told by the texts that their attributes resolve to. A new separator
and a replacement are two ways to one result, whose length follows from what counting elements and
characters says of the texts that went in.
-/

namespace PropertyMacros

/-- The attributes resolve to the texts that are paired with their names. -/
def Attributes.Holds (attrs : Attributes) (texts : List (String × String)) : Prop :=
  ∀ e ∈ texts, attrs.get? e.1 = some e.2

instance (attrs : Attributes) : DecidablePred attrs.Holds :=
  fun texts => inferInstanceAs (Decidable (∀ e ∈ texts, attrs.get? e.1 = some e.2))

namespace Property

variable {op : Operator} {attrs : Attributes} {texts : List (String × String)}

theorem isComplete_of_holds (h : attrs.Holds texts)
    (hnames : op.schema.names = texts.map Prod.fst) :
    (⟨op, attrs⟩ : Property).isComplete = true := by
  refine List.isEmpty_iff.mpr (List.filter_eq_nil_iff.mpr fun name hname => ?_)
  obtain ⟨e, he, rfl⟩ := List.mem_map.mp (hnames ▸ hname)
  show ¬(attrs.get? e.1).isNone = true
  rw [h e he]
  exact Bool.false_ne_true

theorem evaluate_of_holds (h : attrs.Holds texts)
    (hnames : op.schema.names = texts.map Prod.fst) :
    (⟨op, attrs⟩ : Property).evaluate = op.evaluate attrs :=
  evaluate_of_isComplete (isComplete_of_holds h hnames)

end Property

namespace Operator

variable {attrs : Attributes} {list text sep old new : String}

theorem countElements_eq (h : attrs.Holds [("list", list), ("sep", sep)]) (hlist : list ≠ "")
    (hsep : sep ≠ "") :
    countElements attrs =
      .ok (String.ofList (digitsOf (Elements.count sep.toList list.toList))) := by
  rw [countElements, Attributes.require_eq (h ("list", list) (by simp)),
    Attributes.nonEmpty_eq (h ("sep", sep) (by simp))]
  have hlist' : list.toList ≠ [] := mt String.toList_eq_nil_iff.mp hlist
  have hsep' : sep.toList ≠ [] := mt String.toList_eq_nil_iff.mp hsep
  simp only [bind, Except.bind, if_neg hlist', if_neg hsep']
  rfl

theorem replaceAll_eq (h : attrs.Holds [("text", text), ("old", old), ("new", new)]) :
    replaceAll attrs =
      if old.toList = [] then .error (.invalidOperand "old" old EvalError.aNonEmptyText)
      else .ok (String.ofList (Elements.replace old.toList new.toList text.toList)) := by
  rw [replaceAll, Attributes.nonEmpty_eq (h ("old", old) (by simp)),
    Attributes.require_eq (h ("text", text) (by simp)),
    Attributes.require_eq (h ("new", new) (by simp))]
  split <;> rfl

theorem reseparate_eq (h : attrs.Holds [("list", list), ("old", old), ("new", new)]) :
    reseparate attrs =
      if old.toList = [] then .error (.invalidOperand "old" old EvalError.aNonEmptyText)
      else .ok (String.ofList (Elements.changeSeparator old.toList new.toList list.toList)) := by
  rw [reseparate, Attributes.nonEmpty_eq (h ("old", old) (by simp)),
    Attributes.require_eq (h ("list", list) (by simp)),
    Attributes.require_eq (h ("new", new) (by simp))]
  split <;> rfl

/-- A property with the operator comes to the numeral of `n` wherever its attributes hold the
texts. -/
def Measures (op : Operator) (texts : List (String × String)) (n : ℕ) : Prop :=
  ∀ attrs : Attributes, attrs.Holds texts →
    (⟨op, attrs⟩ : Property).evaluate = .ok (String.ofList (digitsOf n))

theorem measures_strLen (text : String) : strLen.Measures [("op", text)] text.length := by
  intro attrs h
  rw [Property.evaluate_of_holds h rfl, evaluate,
    Attributes.require_eq (h ("op", text) (by simp))]
  rfl

theorem measures_count (hlist : list ≠ "") (hsep : sep ≠ "") :
    count.Measures [("list", list), ("sep", sep)]
      (Elements.count sep.toList list.toList) := by
  intro attrs h
  rw [Property.evaluate_of_holds h rfl, evaluate]
  exact countElements_eq h hlist hsep

/-- A list under a new separator is the text in which the old one has been replaced, and what is
refused in one form is refused in the other. There is one occurrence less than there are elements,
and each changes the length by as much as the new text is longer than the old one. -/
theorem evaluate_changeSeparator_eq_replaceString (text old new : String) :
    (∀ a b : Attributes, a.Holds [("list", text), ("old", old), ("new", new)] →
      b.Holds [("text", text), ("old", old), ("new", new)] →
        (⟨.changeSeparator, a⟩ : Property).evaluate =
          (⟨.replaceString, b⟩ : Property).evaluate) ∧
    (old ≠ "" → text ≠ "" → ∃ result number,
      (∀ a : Attributes, a.Holds [("list", text), ("old", old), ("new", new)] →
        (⟨.changeSeparator, a⟩ : Property).evaluate = .ok result) ∧
      count.Measures [("list", text), ("sep", old)] number ∧
      (∀ s ∈ [text, old, new, result], strLen.Measures [("op", s)] s.length) ∧
      (result.length : ℤ) = text.length + (number - 1) * (new.length - old.length)) := by
  constructor
  · intro a b ha hb
    rw [Property.evaluate_of_holds ha rfl, Property.evaluate_of_holds hb rfl]
    refine (reseparate_eq ha).trans (Eq.trans ?_ (replaceAll_eq hb).symm)
    split
    · rfl
    · next hold => rw [Elements.changeSeparator_eq_replace hold]
  · intro hold htext
    have hold' : old.toList ≠ [] := mt String.toList_eq_nil_iff.mp hold
    have htext' : text.toList ≠ [] := mt String.toList_eq_nil_iff.mp htext
    refine ⟨String.ofList (Elements.changeSeparator old.toList new.toList text.toList),
      Elements.count old.toList text.toList, ?_, measures_count htext hold,
      fun s _ => measures_strLen s, ?_⟩
    · intro a ha
      rw [Property.evaluate_of_holds ha rfl]
      exact (reseparate_eq ha).trans (if_neg hold')
    · rw [String.length_ofList, Elements.length_changeSeparator _ _ htext']
      simp only [String.length_toList]

/-- A separator that overlaps itself and stands at both ends, and a new one that it occurs in. An
empty separator is refused either way. -/
theorem evaluate_changeSeparator_eq_replaceString_overlap :
    let a := (Attributes.ofSchema changeSeparator.schema).setAll
      [("list", "aaabaaaa"), ("old", "aa"), ("new", "baa")]
    let b := Attributes.empty.setAll [("new", "baa"), ("old", "aa"), ("text", "aaabaaaa")]
    a.Holds [("list", "aaabaaaa"), ("old", "aa"), ("new", "baa")] ∧
      b.Holds [("text", "aaabaaaa"), ("old", "aa"), ("new", "baa")] ∧
      (⟨.changeSeparator, a⟩ : Property).evaluate = .ok "baaabbaabaa" ∧
      (⟨.changeSeparator, a⟩ : Property).evaluate = (⟨.replaceString, b⟩ : Property).evaluate ∧
      (∃ result number, (⟨.changeSeparator, a⟩ : Property).evaluate = .ok result ∧
        count.Measures [("list", "aaabaaaa"), ("sep", "aa")] number ∧
        (result.length : ℤ) = 8 + (number - 1) * (3 - 2)) ∧
      (⟨.changeSeparator, a.set "old" ""⟩ : Property).evaluate =
        .error (.invalidOperand "old" "" "a non-empty string") ∧
      (⟨.changeSeparator, a.set "old" ""⟩ : Property).evaluate =
        (⟨.replaceString, b.set "old" ""⟩ : Property).evaluate := by
  intro a b
  have ha : a.Holds [("list", "aaabaaaa"), ("old", "aa"), ("new", "baa")] := by decide
  have hb : b.Holds [("text", "aaabaaaa"), ("old", "aa"), ("new", "baa")] := by decide
  obtain ⟨hsame, hlength⟩ := evaluate_changeSeparator_eq_replaceString "aaabaaaa" "aa" "baa"
  obtain ⟨hsame', -⟩ := evaluate_changeSeparator_eq_replaceString "aaabaaaa" "" "baa"
  obtain ⟨result, number, hresult, hnumber, -, hlaw⟩ := hlength (by decide) (by decide)
  exact ⟨ha, hb, by decide, hsame a b ha hb, ⟨result, number, hresult a ha, hnumber, hlaw⟩,
    by decide, hsame' _ _ (by decide) (by decide)⟩

end Operator

end PropertyMacros
