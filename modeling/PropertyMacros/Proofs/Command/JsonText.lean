import PropertyMacros.Proofs.Command.Agreement
import PropertyMacros.Proofs.Command.ListingText
import PropertyMacros.Proofs.Json

/-!
The JSON output of the commands. Two outputs are the same text exactly if the same is shown: of an
evaluation the property, its declared attributes with or without a value, the value and the failure,
and of a listing the properties with what they require and with their defaults.
-/

namespace PropertyMacros

open Json (ofOption_injective pretty_injective)

/-! ## What is shown -/

theorem Evaluation.toJson_injective : Function.Injective toJson := by
  rintro ⟨category, name, attributes, value, error?⟩
    ⟨category', name', attributes', value', error?'⟩ h
  simp only [toJson, Json.object.injEq, List.cons_append, List.nil_append, List.cons.injEq,
    Prod.mk.injEq, Json.string.injEq, true_and] at h
  obtain ⟨rfl, rfl, hattributes, rfl, herror⟩ := h
  have hpair : Function.Injective fun a : String × Option String => (a.1, Json.ofOption a.2) := by
    rintro ⟨attr, v⟩ ⟨attr', v'⟩ heq
    obtain ⟨hattr, hv⟩ := Prod.mk.inj heq
    exact Prod.ext hattr (ofOption_injective hv)
  obtain rfl := List.map_injective_iff.mpr hpair hattributes
  cases error? <;> cases error?' <;> simp_all

theorem AttributeInfo.toJson_injective : Function.Injective toJson := by
  rintro ⟨name, default?⟩ ⟨name', default?'⟩ h
  simp only [toJson, Json.object.injEq, List.cons_append, List.nil_append, List.cons.injEq,
    Prod.mk.injEq, Json.string.injEq, true_and] at h
  obtain ⟨rfl, -, hdefault⟩ := h
  cases default? <;> cases default?' <;> simp_all

theorem PropertyInfo.toJson_injective : Function.Injective toJson := by
  rintro ⟨category, name, attributes⟩ ⟨category', name', attributes'⟩ h
  simp only [toJson, Json.object.injEq, List.cons.injEq, Prod.mk.injEq, Json.string.injEq,
    Json.array.injEq, true_and, and_true] at h
  obtain ⟨rfl, rfl, hattributes⟩ := h
  rw [List.map_injective_iff.mpr AttributeInfo.toJson_injective hattributes]

/-- An evaluation shows the same of both properties: the names that they declare, what each of the
names resolves to, the value and the failure. -/
structure Property.ShowsLike (p q : Property) : Prop where
  names_eq : p.schema.names = q.schema.names
  attribute?_eq : ∀ attr ∈ p.schema.names, p.attribute? attr = q.attribute? attr
  current_eq : p.current = q.current
  failure?_eq : p.failure? = q.failure?

theorem Evaluation.ofProperty_eq_iff {category name category' name' : String} {p q : Property} :
    ofProperty category name p = ofProperty category' name' q ↔
      category = category' ∧ name = name' ∧ p.ShowsLike q := by
  rw [ofProperty, ofProperty, Evaluation.mk.injEq, p.rendered_eq, q.rendered_eq,
    Property.effectiveAttributes_eq_iff]
  constructor
  · rintro ⟨hcategory, hname, ⟨hnames, hattributes⟩, hvalue, herror⟩
    exact ⟨hcategory, hname, hnames, hattributes, hvalue, herror⟩
  · rintro ⟨hcategory, hname, hnames, hattributes, hvalue, herror⟩
    exact ⟨hcategory, hname, ⟨hnames, hattributes⟩, hvalue, herror⟩

/-- A listing shows the same of both properties. -/
structure Property.ListsLike (p q : Property) : Prop where
  operator_eq : p.operator = q.operator
  required_eq : p.required = q.required
  default?_eq : ∀ attr ∈ p.schema.names, p.attributes.default? attr = q.attributes.default? attr

theorem PropertyInfo.ofProperty_eq_iff {p q : Property} :
    ofProperty p = ofProperty q ↔ p.ListsLike q := by
  constructor
  · intro h
    obtain ⟨hoperator, hdefaults⟩ := eq_of_ofProperty_eq h
    have hschema : p.schema = q.schema := congrArg Operator.schema hoperator
    rw [← hschema] at hdefaults
    refine ⟨hoperator, ?_, hdefaults⟩
    rw [Property.required, Property.required, ← hschema]
    apply List.filter_congr
    intro attr hattr
    rw [hdefaults attr hattr]
  · rintro ⟨hoperator, -, hdefaults⟩
    obtain ⟨op, attrs⟩ := p
    obtain ⟨op', attrs'⟩ := q
    obtain rfl : op = op' := hoperator
    rw [ofProperty, ofProperty, PropertyInfo.mk.injEq]
    refine ⟨rfl, rfl, List.map_congr_left fun attr hattr => ?_⟩
    exact congrArg (AttributeInfo.mk attr) (hdefaults attr hattr)

/-! ## What is printed -/

/-- The property that the command names, with the assignments of the command. -/
def EvalCommand.assigned? (cmd : EvalCommand) (ns : Namespace) : Option Property :=
  (ns.property? cmd.category cmd.name).map fun p => p.updateAttributes (·.setAll cmd.attributes)

theorem EvalCommand.evaluate_eq (cmd : EvalCommand) (ns : Namespace) :
    cmd.evaluate ns =
      match cmd.assigned? ns with
      | some p => .ok (.ofProperty cmd.category cmd.name p)
      | none => .error (.propertyNotFound cmd.category cmd.name) := by
  rw [evaluate, Namespace.property, assigned?]
  cases ns.property? cmd.category cmd.name <;> rfl

theorem EvalCommand.exists_of_execute_eq_ok {cmd : EvalCommand} {context : Context}
    {stdout : String} (hjson : cmd.json = true) (h : cmd.execute context = .ok stdout) :
    ∃ p, cmd.assigned? context.prototype = some p ∧
      stdout = (Evaluation.ofProperty cmd.category cmd.name p).toJson.pretty ++ "\n" := by
  rw [execute, evaluate_eq] at h
  cases hp : cmd.assigned? context.prototype with
  | none =>
      rw [hp] at h
      cases h
  | some p =>
      refine ⟨p, rfl, ?_⟩
      simp only [hp, hjson, if_true] at h
      split at h
      · cases h
      · exact (Except.ok.inj h).symm

theorem EvalCommand.execute_of_assigned? {cmd : EvalCommand} {context : Context} {p : Property}
    (hjson : cmd.json = true) (hp : cmd.assigned? context.prototype = some p)
    (h : cmd.strict = false ∨ p.failure? = none) :
    cmd.execute context =
      .ok ((Evaluation.ofProperty cmd.category cmd.name p).toJson.pretty ++ "\n") := by
  have heval : cmd.evaluate context.prototype = .ok (.ofProperty cmd.category cmd.name p) := by
    rw [evaluate_eq, hp]
  rw [← Evaluation.error?_ofProperty cmd.category cmd.name p] at h
  rw [execute_of_lenient heval h, if_pos hjson]

theorem ListCommand.printed_json {cmd : ListCommand} (hjson : cmd.json = true) (theme : Theme)
    (infos : List PropertyInfo) :
    cmd.printed theme infos = (Json.array (infos.map PropertyInfo.toJson)).pretty ++ "\n" := by
  rw [printed, hjson, if_pos rfl]

theorem ListCommand.map_ofProperty_eq_iff {ps qs : List Property} :
    ps.map PropertyInfo.ofProperty = qs.map .ofProperty ↔
      List.Forall₂ Property.ListsLike ps qs := by
  rw [← List.forall₂_eq_eq_eq, List.forall₂_map_left_iff, List.forall₂_map_right_iff]
  simp only [PropertyInfo.ofProperty_eq_iff]

/-- The same JSON text is printed exactly if the same is shown, so no text of an attribute can pass
for another output. -/
theorem json_stdout_eq_iff :
    (∀ (cmd cmd' : EvalCommand) (context context' : Context) (stdout stdout' : String),
      cmd.json = true → cmd'.json = true →
      cmd.execute context = .ok stdout → cmd'.execute context' = .ok stdout' →
      (stdout = stdout' ↔ cmd.category = cmd'.category ∧ cmd.name = cmd'.name ∧
        ∃ p q, cmd.assigned? context.prototype = some p ∧
          cmd'.assigned? context'.prototype = some q ∧ p.ShowsLike q)) ∧
    ∀ (cmd cmd' : ListCommand) (context context' : Context) (stdout stdout' : String),
      cmd.json = true → cmd'.json = true →
      cmd.execute context = .ok stdout → cmd'.execute context' = .ok stdout' →
      (stdout = stdout' ↔ List.Forall₂ Property.ListsLike
        (cmd.listed context.prototype) (cmd'.listed context'.prototype)) := by
  have hline {v w : Json} : v.pretty ++ "\n" = w.pretty ++ "\n" ↔ v = w := by
    rw [String.append_left_inj, pretty_injective.eq_iff]
  constructor
  · intro cmd cmd' context context' stdout stdout' hjson hjson' h h'
    obtain ⟨p, hp, rfl⟩ := EvalCommand.exists_of_execute_eq_ok hjson h
    obtain ⟨q, hq, rfl⟩ := EvalCommand.exists_of_execute_eq_ok hjson' h'
    simp only [hline, Evaluation.toJson_injective.eq_iff, Evaluation.ofProperty_eq_iff, hp, hq,
      Option.some.injEq, exists_and_left, exists_eq_left']
  · intro cmd cmd' context context' stdout stdout' hjson hjson' h h'
    obtain ⟨-, rfl⟩ := ListCommand.execute_eq_ok_iff.mp h
    obtain ⟨-, rfl⟩ := ListCommand.execute_eq_ok_iff.mp h'
    rw [ListCommand.printed_json hjson, ListCommand.printed_json hjson', hline, Json.array.injEq,
      (List.map_injective_iff.mpr PropertyInfo.toJson_injective).eq_iff,
      ListCommand.map_ofProperty_eq_iff]

/-- Two choices with a text that imitates the layout, an attribute without a value beside one with
the text `null`, two counts that differ in the value of an attribute alone, and listings of a
category in which nothing was replaced. -/
theorem json_stdout_eq_iff_imitated :
    let text := "\",\n  \"error\": null"
    let choice : EvalCommand := ⟨"Misc", "if", [("cond", "true"), ("then", text)], true, false⟩
    let repeated : EvalCommand := ⟨"Misc", "if",
      [("then", "x"), ("colour", "red"), ("cond", "true"), ("then", text)], true, true⟩
    let unset : EvalCommand := ⟨"Misc", "add", [("op1", "1")], true, false⟩
    let null : EvalCommand := ⟨"Misc", "add", [("op1", "1"), ("op2", "null")], true, false⟩
    let colon : EvalCommand := ⟨"Misc", "count", [("list", "a")], true, true⟩
    let semicolon : EvalCommand := ⟨"Misc", "count", [("list", "a"), ("sep", ";")], true, true⟩
    let system : ListCommand := ⟨some "System", true⟩
    let ns := Namespace.builtin.modify "Misc" "count" (·.setDefault "sep" ";")
    (∃ stdout p q,
      choice.execute ⟨.builtin, .plain⟩ = .ok stdout ∧
      repeated.execute ⟨ns, .colored⟩ = .ok stdout ∧
      choice.assigned? .builtin = some p ∧ repeated.assigned? ns = some q ∧ p.ShowsLike q) ∧
    (∃ stdout stdout',
      unset.execute ⟨.builtin, .plain⟩ = .ok stdout ∧
      null.execute ⟨.builtin, .plain⟩ = .ok stdout' ∧ stdout ≠ stdout') ∧
    (∃ stdout stdout' p q,
      colon.execute ⟨.builtin, .plain⟩ = .ok stdout ∧
      semicolon.execute ⟨.builtin, .plain⟩ = .ok stdout' ∧
      colon.assigned? .builtin = some p ∧ semicolon.assigned? .builtin = some q ∧
      p.current = q.current ∧ p.failure? = q.failure? ∧
      p.attribute? "list" = q.attribute? "list" ∧
      p.attribute? "sep" = some ":" ∧ q.attribute? "sep" = some ";" ∧ stdout ≠ stdout') ∧
    ∃ stdout,
      system.execute ⟨.builtin, .plain⟩ = .ok stdout ∧ system.execute ⟨ns, .plain⟩ = .ok stdout ∧
      List.Forall₂ Property.ListsLike (system.listed .builtin) (system.listed ns) := by
  intro text choice repeated unset null colon semicolon system ns
  obtain ⟨heval, hlist⟩ := json_stdout_eq_iff
  refine ⟨?_, ?_, ?_, ?_⟩
  · let e : Evaluation :=
      ⟨"Misc", "if", [("cond", some "true"), ("then", some text), ("else", some "")], text, none⟩
    have hchoice : choice.evaluate .builtin = .ok e := rfl
    have hrepeated : repeated.evaluate ns = .ok e := rfl
    have h : choice.execute ⟨.builtin, .plain⟩ = .ok (e.toJson.pretty ++ "\n") :=
      EvalCommand.execute_of_lenient hchoice (.inl rfl)
    have h' : repeated.execute ⟨ns, .colored⟩ = .ok (e.toJson.pretty ++ "\n") :=
      EvalCommand.execute_of_lenient hrepeated (.inr rfl)
    obtain ⟨-, -, p, q, hp, hq, hshows⟩ := (heval _ _ _ _ _ _ rfl rfl h h').mp rfl
    exact ⟨_, p, q, h, h', hp, hq, hshows⟩
  · have hp : unset.assigned? .builtin =
        some ((Property.ofOperator .add).updateAttributes (·.setAll unset.attributes)) := rfl
    have hq : null.assigned? .builtin =
        some ((Property.ofOperator .add).updateAttributes (·.setAll null.attributes)) := rfl
    have h : unset.execute ⟨.builtin, .plain⟩ = .ok _ :=
      EvalCommand.execute_of_assigned? rfl hp (.inl rfl)
    have h' : null.execute ⟨.builtin, .plain⟩ = .ok _ :=
      EvalCommand.execute_of_assigned? rfl hq (.inl rfl)
    refine ⟨_, _, h, h', fun heq => ?_⟩
    obtain ⟨-, -, p, q, hp', hq', hshows⟩ := (heval _ _ _ _ _ _ rfl rfl h h').mp heq
    obtain rfl := Option.some.inj (hp.symm.trans hp')
    obtain rfl := Option.some.inj (hq.symm.trans hq')
    exact absurd (hshows.attribute?_eq "op2" (by decide)) (by decide)
  · have hp : colon.assigned? .builtin =
        some ((Property.ofOperator .count).updateAttributes (·.setAll colon.attributes)) := rfl
    have hq : semicolon.assigned? .builtin =
        some ((Property.ofOperator .count).updateAttributes (·.setAll semicolon.attributes)) := rfl
    have h : colon.execute ⟨.builtin, .plain⟩ = .ok _ :=
      EvalCommand.execute_of_assigned? rfl hp (.inr (by decide))
    have h' : semicolon.execute ⟨.builtin, .plain⟩ = .ok _ :=
      EvalCommand.execute_of_assigned? rfl hq (.inr (by decide))
    refine ⟨_, _, _, _, h, h', hp, hq, by decide, by decide, rfl, rfl, rfl, fun heq => ?_⟩
    obtain ⟨-, -, p, q, hp', hq', hshows⟩ := (heval _ _ _ _ _ _ rfl rfl h h').mp heq
    obtain rfl := Option.some.inj (hp.symm.trans hp')
    obtain rfl := Option.some.inj (hq.symm.trans hq')
    exact absurd (hshows.attribute?_eq "sep" (by decide)) (by decide)
  · have hexecute (ns : Namespace) (hknown : ns.propertiesIn "System" ≠ []) :
        system.execute ⟨ns, .plain⟩ =
          .ok (system.printed .plain ((system.listed ns).map .ofProperty)) := by
      refine ListCommand.execute_eq_ok_iff.mpr ⟨?_, rfl⟩
      rintro _ ⟨⟩
      exact hknown
    have hinfos : (system.listed ns).map PropertyInfo.ofProperty =
        (system.listed .builtin).map PropertyInfo.ofProperty := by decide
    have h := hexecute .builtin (List.cons_ne_nil _ _)
    have h' := hexecute ns (List.cons_ne_nil _ _)
    rw [hinfos] at h'
    exact ⟨_, h, h', (hlist _ _ _ _ _ _ rfl rfl h h').mp rfl⟩

end PropertyMacros
