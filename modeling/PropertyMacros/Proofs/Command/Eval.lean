import PropertyMacros.Command.Eval
import PropertyMacros.Proofs.Config.Overrides
import PropertyMacros.Proofs.Property

/-!
The command `eval` under a configuration. Configured defaults of the property have the effect of
assignments that stand before those of the command.
-/

namespace PropertyMacros

/-- The attributes that are shown tell of every declared name what it resolves to. -/
theorem Property.effectiveAttributes_eq_iff {p q : Property} :
    p.effectiveAttributes = q.effectiveAttributes ↔
      p.schema.names = q.schema.names ∧
        ∀ attr ∈ p.schema.names, p.attribute? attr = q.attribute? attr := by
  have hfst (p : Property) : p.effectiveAttributes.map Prod.fst = p.schema.names := by
    rw [effectiveAttributes, List.map_map]
    exact List.map_id _
  constructor
  · intro h
    have hnames : p.schema.names = q.schema.names := by rw [← hfst p, h, hfst q]
    rw [effectiveAttributes, effectiveAttributes, ← hnames, List.map_inj_left] at h
    exact ⟨hnames, fun attr hattr => (Prod.mk.inj (h attr hattr)).2⟩
  · rintro ⟨hnames, hvalues⟩
    rw [effectiveAttributes, effectiveAttributes, ← hnames]
    exact List.map_congr_left fun attr hattr => congrArg (Prod.mk attr) (hvalues attr hattr)

theorem Property.Alike.effectiveAttributes_eq {p q : Property} (h : Alike p q) :
    p.effectiveAttributes = q.effectiveAttributes :=
  effectiveAttributes_eq_iff.mpr ⟨congrArg Schema.names h.schema_eq, h.agree⟩

theorem Property.rendered_eq (p : Property) : p.rendered = (p.current, p.failure?) := by
  rw [rendered, current, failure?]
  cases p.evaluate <;> rfl

theorem Evaluation.value_ofProperty (category name : String) (p : Property) :
    (ofProperty category name p).value = p.current :=
  congrArg Prod.fst p.rendered_eq

theorem Evaluation.error?_ofProperty (category name : String) (p : Property) :
    (ofProperty category name p).error? = p.failure? :=
  congrArg Prod.snd p.rendered_eq

theorem Property.Alike.rendered_eq {p q : Property} (h : Alike p q) : p.rendered = q.rendered := by
  rw [p.rendered_eq, q.rendered_eq, h.current_eq, failure?, failure?, h.evaluate_eq]

theorem Property.Alike.ofProperty_eq {p q : Property} (h : Alike p q) (category name : String) :
    Evaluation.ofProperty category name p = Evaluation.ofProperty category name q := by
  rw [Evaluation.ofProperty, Evaluation.ofProperty, h.effectiveAttributes_eq, h.rendered_eq]

namespace EvalCommand

/-- The command with further assignments before its own. -/
def prepend (cmd : EvalCommand) (assignments : List (String × String)) : EvalCommand :=
  { cmd with attributes := assignments ++ cmd.attributes }

theorem evaluate_of_buildNamespace {config : Config} {ns : Namespace}
    (h : config.buildNamespace = .ok ns) (cmd : EvalCommand) :
    cmd.evaluate ns =
      (cmd.prepend (config.defaultsFor cmd.category cmd.name)).evaluate .builtin := by
  simp only [evaluate, prepend, Namespace.property, Config.property?_of_buildNamespace h,
    Namespace.property?_builtin]
  cases Operator.find? cmd.category cmd.name with
  | none => rfl
  | some op =>
      exact congrArg Except.ok
        ((Property.alike_setDefaults_setAll op _ cmd.attributes).ofProperty_eq _ _)

theorem execute_of_evaluate_eq {cmd : EvalCommand} {assignments : List (String × String)}
    {configured plain : Context}
    (h : cmd.evaluate configured.prototype = (cmd.prepend assignments).evaluate plain.prototype)
    (htheme : configured.theme = plain.theme) :
    cmd.execute configured = (cmd.prepend assignments).execute plain := by
  unfold execute
  rw [h, htheme]
  rfl

/-- Configured defaults are assignments in front of those of the command. -/
theorem execute_configured {config : Config} {ns : Namespace} (h : config.buildNamespace = .ok ns) :
    ∃ configured plain,
      Context.ofConfig config = .ok configured ∧
      Context.ofConfig { config with defaults := .empty } = .ok plain ∧
      ∀ cmd : EvalCommand, cmd.execute configured =
        (cmd.prepend (config.defaultsFor cmd.category cmd.name)).execute plain := by
  let theme := Theme.ofColor config.general.color
  refine ⟨⟨ns, theme⟩, ⟨.builtin, theme⟩, ?_, rfl, ?_⟩
  · rw [Context.ofConfig, h]
    rfl
  · intro cmd
    exact execute_of_evaluate_eq (evaluate_of_buildNamespace h cmd) rfl

/-- Lists are divided by semicolons. -/
def semicolons : Config where
  general := .default
  defaults := .ofList [("Misc.count", .ofList [("sep", ";")])]

/-- Two elements under the configured separator are one element without it. -/
theorem execute_configured_semicolons :
    let cmd : EvalCommand := ⟨"Misc", "count", [("list", "a;b")], false, false⟩
    semicolons.buildNamespace =
        .ok (Namespace.builtin.modify "Misc" "count" (·.setDefault "sep" ";")) ∧
      ∃ configured plain,
        Context.ofConfig semicolons = .ok configured ∧
        Context.ofConfig { semicolons with defaults := .empty } = .ok plain ∧
        cmd.execute configured = (cmd.prepend [("sep", ";")]).execute plain ∧
        cmd.execute configured = .ok "2\n" ∧ cmd.execute plain = .ok "1\n" := by
  intro cmd
  have hbuilt : semicolons.buildNamespace =
      .ok (Namespace.builtin.modify "Misc" "count" (·.setDefault "sep" ";")) := rfl
  have hdefaults : semicolons.defaultsFor "Misc" "count" = [("sep", ";")] := by decide
  obtain ⟨configured, plain, hconfigured, hplain, hexecute⟩ := execute_configured hbuilt
  have hcmd : cmd.execute configured = (cmd.prepend [("sep", ";")]).execute plain := by
    rw [← hdefaults]
    exact hexecute cmd
  refine ⟨hbuilt, configured, plain, hconfigured, hplain, hcmd, ?_, ?_⟩
  · rw [hcmd]
    cases hplain
    rfl
  · cases hplain
    rfl

end EvalCommand

end PropertyMacros
