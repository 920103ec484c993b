import PropertyMacros.Proofs.Elements.Splitting
import PropertyMacros.Proofs.EvalError
import PropertyMacros.Proofs.Operator.Faults
import PropertyMacros.Proofs.Operator.Missing
import PropertyMacros.Text.Split

/-!
The text of an error determines the error. A refused text stands in it as it is, so what follows
has to be told from the end: of two demands of one operator neither is called by a name that the
name of the other ends in.
-/

namespace PropertyMacros

namespace Operator

theorem name_injective : Function.Injective name :=
  fun a b h => List.inj_on_of_nodup_map (by decide : (all.map name).Nodup) (mem_all a) (mem_all b) h

theorem blank_notMem_name (op : Operator) : ' ' ∉ op.name.toList := by cases op <;> decide

theorem blank_notMem_of_mem_names {op : Operator} {name : String} (h : name ∈ op.schema.names) :
    ' ' ∉ name.toList := by
  have hnames : ∀ name ∈ op.schema.names, ' ' ∉ name.toList := by cases op <;> decide
  exact hnames name h

/-! ## The errors of an operator -/

/-- Every demand that an operator can make. -/
abbrev allDemands (op : Operator) : List Demand := op.demands .empty

theorem demands_subset (op : Operator) (attrs : Attributes) : op.demands attrs ⊆ op.allDemands := by
  cases op with
  | count =>
      rw [demands]
      split
      · exact List.nil_subset _
      · exact List.Subset.refl _
  | _ => exact List.Subset.refl _

/-- The errors that can come of an operator: some of its attributes are missing, a demand is not
met, or a divisor is zero. -/
inductive Raises (op : Operator) : EvalError → Prop where
  | missing {names : List String} (hne : names ≠ []) (hnames : names ⊆ op.schema.names) :
      Raises op (.missingAttributes names)
  | refused {d : Demand} (hd : d ∈ op.allDemands) (text : String) :
      Raises op (.invalidOperand d.name text d.domain.expected)
  | zero : Raises op .divisionByZero

theorem exists_of_refusal {attrs : Attributes} {further : EvalError → Prop} {error : EvalError}
    {ds : List Demand} (h : Demand.Refusal attrs further ds error) :
    (∃ d ∈ ds, d.Violated attrs error) ∨ further error := by
  induction ds with
  | nil => exact .inr h
  | cons d ds ih =>
      rcases h with hviolated | ⟨-, hrest⟩
      · exact .inl ⟨d, List.mem_cons_self, hviolated⟩
      · rcases ih hrest with ⟨d', hd', hviolated⟩ | hfurther
        · exact .inl ⟨d', .tail _ hd', hviolated⟩
        · exact .inr hfurther

end Operator

theorem Property.raises_of_evaluate_eq_error {p : Property} {error : EvalError}
    (h : p.evaluate = .error error) : p.operator.Raises error := by
  by_cases hmissing : p.missing = []
  · have hcomplete : p.isComplete = true := List.isEmpty_iff.mpr hmissing
    rw [evaluate_of_isComplete hcomplete,
      Operator.evaluate_eq_error_iff (resolves_of_isComplete hcomplete)] at h
    rcases Operator.exists_of_refusal h with ⟨d, hd, text, -, -, rfl⟩ | ⟨-, rfl⟩
    · exact .refused (Operator.demands_subset _ _ hd) text
    · exact .zero
  · have hall : p.evaluate = .error (.missingAttributes p.missing) :=
      evaluate_eq_missing_iff.mpr ⟨rfl, hmissing⟩
    rw [hall] at h
    cases h
    exact .missing hmissing List.filter_sublist.subset

/-! ## Reading an error from its text -/

/-- What an error says behind the text that did not meet the demand. -/
def Demand.complaint (d : Demand) : List Char :=
  "' for attribute '".toList ++
    (d.name.toList ++ ("', expected ".toList ++ d.domain.expected.toList))

theorem Operator.eq_of_complaint_isSuffix {op : Operator} {d d' : Demand} (hd : d ∈ op.allDemands)
    (hd' : d' ∈ op.allDemands) (h : d.complaint <:+ d'.complaint) : d = d' := by
  have hdemands : ∀ d ∈ op.allDemands, ∀ d' ∈ op.allDemands,
      d.complaint.isSuffixOf d'.complaint = true → d = d' := by
    cases op <;> decide +kernel
  exact hdemands d hd d' hd' (List.isSuffixOf_iff_suffix.mpr h)

namespace EvalError

theorem toList_message_invalidOperand (d : Demand) (text : String) :
    (invalidOperand d.name text d.domain.expected).message.toList =
      "invalid value '".toList ++ (text.toList ++ d.complaint) := by
  have hparts (a b c d e f : String) : (a ++ b ++ c ++ d ++ e ++ f).toList =
      a.toList ++ (b.toList ++ (c.toList ++ (d.toList ++ (e.toList ++ f.toList)))) := by
    simp only [String.toList_append, List.append_assoc]
  exact hparts _ _ _ _ _ _

theorem toList_message_missingAttributes (names : List String) :
    (missingAttributes names).message.toList =
      "missing required attribute(s): ".toList ++
        List.intercalate [',', ' '] (names.map String.toList) := by
  have hmessage : (missingAttributes names).message =
      "missing required attribute(s): " ++ ", ".intercalate names := rfl
  have hseparator : ", ".toList = [',', ' '] := rfl
  rw [hmessage, String.toList_append, String.toList_intercalate, hseparator]

theorem missingAttributes_eq_of_message_eq {op : Operator} {names names' : List String}
    (hne : names ≠ []) (hne' : names' ≠ []) (hnames : names ⊆ op.schema.names)
    (hnames' : names' ⊆ op.schema.names)
    (h : (missingAttributes names).message = (missingAttributes names').message) :
    names = names' := by
  have hjoin := congrArg String.toList h
  rw [toList_message_missingAttributes, toList_message_missingAttributes,
    List.append_cancel_left_eq] at hjoin
  have hpieces {names : List String} (hne : names ≠ []) (hnames : names ⊆ op.schema.names) :
      Elements.pieces [',', ' '] 0 (List.intercalate [',', ' '] (names.map String.toList)) =
        names.map String.toList := by
    have hcomma : ' ' ∉ [','] := by decide
    refine Elements.pieces_intercalate (List.cons_ne_nil _ _)
      (Elements.separated_of_notMem hcomma (by simpa using hne) ?_)
    rintro piece hpiece
    obtain ⟨name, hname, rfl⟩ := List.mem_map.mp hpiece
    exact Operator.blank_notMem_of_mem_names (hnames hname)
  have hlists := congrArg (Elements.pieces [',', ' '] 0) hjoin
  rw [hpieces hne hnames, hpieces hne' hnames'] at hlists
  exact List.map_injective_iff.mpr (fun _ _ => String.toList_injective) hlists

theorem invalidOperand_eq_of_message_eq {op : Operator} {d d' : Demand} (hd : d ∈ op.allDemands)
    (hd' : d' ∈ op.allDemands) {text text' : String}
    (h : (invalidOperand d.name text d.domain.expected).message =
      (invalidOperand d'.name text' d'.domain.expected).message) : d = d' ∧ text = text' := by
  have hlists := congrArg String.toList h
  rw [toList_message_invalidOperand, toList_message_invalidOperand,
    List.append_cancel_left_eq] at hlists
  have hdemand : d = d' := by
    rcases List.suffix_or_suffix_of_suffix (List.suffix_append text.toList d.complaint)
      (hlists ▸ List.suffix_append text'.toList d'.complaint) with hsuffix | hsuffix
    · exact Operator.eq_of_complaint_isSuffix hd hd' hsuffix
    · exact (Operator.eq_of_complaint_isSuffix hd' hd hsuffix).symm
  subst hdemand
  exact ⟨rfl, String.toList_injective (List.append_cancel_right hlists)⟩

/-- The kind of an error is told by the first character of its text. -/
theorem eq_of_message_eq {op : Operator} {error error' : EvalError} (herror : op.Raises error)
    (herror' : op.Raises error') (h : error.message = error'.message) : error = error' := by
  have hhead := congrArg (·.toList.head?) h
  simp only [head?_message] at hhead
  cases herror with
  | missing hne hnames =>
      cases herror' with
      | missing hne' hnames' =>
          rw [missingAttributes_eq_of_message_eq hne hne' hnames hnames' h]
      | refused | zero => cases hhead
  | refused hd text =>
      cases herror' with
      | refused hd' text' =>
          obtain ⟨rfl, rfl⟩ := invalidOperand_eq_of_message_eq hd hd' h
          rfl
      | missing | zero => cases hhead
  | zero =>
      cases herror' with
      | zero => rfl
      | missing | refused => cases hhead

/-- The name of the operator ends at the first blank. -/
theorem eq_of_render_eq {op op' : Operator} {error error' : EvalError}
    (h : error.render op.name = error'.render op'.name) :
    op = op' ∧ error.message = error'.message := by
  have hlists := congrArg String.toList h
  have hshape (op : Operator) (error : EvalError) : (error.render op.name).toList =
      ('(' :: op.name.toList) ++ ' ' :: ("Error: ".toList ++ error.message.toList ++ [')']) := by
    simp [render]
  have hblank (op : Operator) : ' ' ∉ '(' :: op.name.toList := by
    rw [List.mem_cons, not_or]
    exact ⟨by decide, op.blank_notMem_name⟩
  rw [hshape, hshape] at hlists
  obtain ⟨hname, hrest⟩ := Text.append_cons_inj (hblank op) (hblank op') hlists
  have hmessage := List.append_cancel_left (List.append_cancel_right hrest)
  exact ⟨Operator.name_injective (String.toList_injective (List.cons.inj hname).2),
    String.toList_injective hmessage⟩

end EvalError

/-- Two failures with the same text are the same failure of the same operator. -/
theorem Property.error_eq_of_current_eq {p q : Property} {error error' : EvalError}
    (hp : p.evaluate = .error error) (hq : q.evaluate = .error error')
    (h : p.current = q.current) : p.operator = q.operator ∧ error = error' := by
  rw [current, current, hp, hq] at h
  obtain ⟨hoperator, hmessage⟩ := EvalError.eq_of_render_eq h
  have hraises := raises_of_evaluate_eq_error hq
  rw [← hoperator] at hraises
  exact ⟨hoperator,
    EvalError.eq_of_message_eq (raises_of_evaluate_eq_error hp) hraises hmessage⟩

/-- Two windows in different states, whose first operand is refused with a text that imitates the
refusal of the second. -/
theorem Property.error_eq_of_current_eq_imitated :
    let text := "' for attribute 'count', expected a non-negative integer)"
    let p : Property := ⟨.sublist, (Attributes.ofSchema Operator.sublist.schema).setAll
      [("list", "a:b"), ("index", text)]⟩
    let q : Property := ⟨.sublist, Attributes.empty.setAll
      [("index", text), ("sep", "-"), ("list", ""), ("count", text)]⟩
    ∃ error error', p.evaluate = .error error ∧ q.evaluate = .error error' ∧
      p.current = q.current ∧
      p.operator = q.operator ∧ error = error' := by
  intro text p q
  have hp : p.evaluate = .error (.invalidOperand "index" text "a non-negative integer") := by decide
  have hq : q.evaluate = .error (.invalidOperand "index" text "a non-negative integer") := by decide
  have hcurrent : p.current = q.current := by
    rw [current, current, hp, hq]
    rfl
  exact ⟨_, _, hp, hq, hcurrent, error_eq_of_current_eq hp hq hcurrent⟩

end PropertyMacros
