import PropertyMacros.Command.Listing
import PropertyMacros.Proofs.Command.Eval
import PropertyMacros.Proofs.EvalError
import PropertyMacros.Proofs.Namespace.Run
import PropertyMacros.Proofs.Operator.Missing

/-!
The command `list` against the command `eval`. An entry of the listing tells which assignments an
evaluation of its property needs, and which value an attribute has without any.
-/

namespace PropertyMacros

open OrderedMap (lastValue?)

/-- The attribute is required, and no assignment names it. -/
def AttributeInfo.Unassigned (assignments : List (String × String)) (a : AttributeInfo) : Prop :=
  a.isRequired = true ∧ a.name ∉ assignments.map Prod.fst

instance (assignments : List (String × String)) :
    DecidablePred (AttributeInfo.Unassigned assignments) :=
  fun _ => inferInstanceAs (Decidable (_ ∧ _))

/-- The names of the unassigned attributes of an entry, in its order. -/
def PropertyInfo.unassigned (info : PropertyInfo) (assignments : List (String × String)) :
    List String :=
  (info.attributes.filter (AttributeInfo.Unassigned assignments ·)).map AttributeInfo.name

theorem PropertyInfo.unassigned_ne_nil_iff (info : PropertyInfo)
    (assignments : List (String × String)) :
    info.unassigned assignments ≠ [] ↔ ∃ a ∈ info.attributes, a.Unassigned assignments := by
  rw [unassigned, ne_eq, List.map_eq_nil_iff, List.filter_eq_nil_iff]
  simp only [decide_eq_true_eq, Classical.not_forall, Classical.not_not, exists_prop]

theorem ListCommand.exists_of_mem_collect {cmd : ListCommand} {ns : Namespace}
    {infos : List PropertyInfo} (h : cmd.collect ns = .ok infos) {info : PropertyInfo}
    (hinfo : info ∈ infos) :
    ∃ c n p, ns.property? c n = some p ∧ info = .ofProperty p := by
  unfold collect at h
  split at h
  · cases h
    obtain ⟨p, hp, rfl⟩ := List.mem_map.mp hinfo
    obtain ⟨c, n, hfind⟩ := Namespace.mem_properties_iff.mp hp
    exact ⟨c, n, p, hfind, rfl⟩
  · next c _ =>
    split at h
    · cases h
    · cases h
      obtain ⟨p, hp, rfl⟩ := List.mem_map.mp hinfo
      obtain ⟨n, hfind⟩ := Namespace.mem_propertiesIn_iff.mp hp
      exact ⟨c, n, p, hfind, rfl⟩

namespace Property

theorem failure?_of_missing_ne_nil {p : Property} (h : p.missing ≠ []) :
    p.failure? = some (EvalError.missingAttributes p.missing).message := by
  rw [failure?, evaluate_eq_missing_iff.mpr ⟨rfl, h⟩]

/-- The text of a failure shows whether attributes are missing. -/
theorem exists_failure?_eq_missing_iff {p : Property} :
    (∃ names, p.failure? = some (EvalError.missingAttributes names).message) ↔ p.missing ≠ [] := by
  constructor
  · rintro ⟨names, hfailure⟩
    unfold failure? at hfailure
    cases heval : p.evaluate with
    | ok value => simp [heval] at hfailure
    | error reason =>
        rw [heval, Option.some.injEq] at hfailure
        obtain ⟨names', rfl⟩ := EvalError.exists_eq_missingAttributes_of_message_eq hfailure
        obtain ⟨hmissing, hne⟩ := evaluate_eq_missing_iff.mp heval
        rwa [hmissing]
  · intro h
    exact ⟨p.missing, failure?_of_missing_ne_nil h⟩

section

variable {p : Property} (h : p.attributes.overrides = .empty)
  (assignments : List (String × String))

include h

theorem attribute?_setAll_of_overrides_eq_empty (name : String) :
    (p.updateAttributes (·.setAll assignments)).attribute? name =
      (lastValue? name assignments).or (p.attributes.default? name) := by
  rw [attribute?, updateAttributes, Attributes.get?_setAll,
    Attributes.get?_of_overrides_eq_empty h]

/-- The attributes that a fresh property misses after some assignments are read off its entry. -/
theorem missing_setAll_eq_unassigned :
    (p.updateAttributes (·.setAll assignments)).missing =
      (PropertyInfo.ofProperty p).unassigned assignments := by
  simp only [PropertyInfo.unassigned, PropertyInfo.ofProperty, List.filter_map, List.map_map]
  change p.schema.names.filter _ = (p.schema.names.filter _).map id
  rw [List.map_id]
  apply List.filter_congr
  intro name _
  have hget := attribute?_setAll_of_overrides_eq_empty h assignments name
  rw [attribute?] at hget
  rw [hget, Bool.eq_iff_iff, Option.isNone_iff_eq_none, Option.or_eq_none_iff,
    OrderedMap.lastValue?_eq_none_iff, and_comm]
  simp only [Function.comp_apply, AttributeInfo.Unassigned, AttributeInfo.isRequired,
    decide_eq_true_eq, Option.isNone_iff_eq_none]

theorem effectiveAttributes_setAll :
    (p.updateAttributes (·.setAll assignments)).effectiveAttributes =
      (PropertyInfo.ofProperty p).attributes.map fun a =>
        (a.name, (lastValue? a.name assignments).or a.default?) := by
  simp only [effectiveAttributes, PropertyInfo.ofProperty, List.map_map]
  apply List.map_congr_left
  intro name _
  rw [attribute?_setAll_of_overrides_eq_empty h]
  rfl

end

end Property

/-- What an entry of the listing foretells of the evaluation `e` of its property, which is `p` once
it has been assigned its attributes. -/
structure PropertyInfo.Foretells (info : PropertyInfo) (assignments : List (String × String))
    (p : Property) (e : Evaluation) : Prop where
  eq_ofProperty : e = .ofProperty info.category info.name p
  misses_iff : (∃ names, p.evaluate = .error (.missingAttributes names)) ↔
    ∃ a ∈ info.attributes, a.Unassigned assignments
  missing_eq : ∀ names, p.evaluate = .error (.missingAttributes names) →
    names = info.unassigned assignments
  error_iff : (∃ names, e.error? = some (EvalError.missingAttributes names).message) ↔
    ∃ a ∈ info.attributes, a.Unassigned assignments
  error_eq : (∃ a ∈ info.attributes, a.Unassigned assignments) →
    e.error? = some (EvalError.missingAttributes (info.unassigned assignments)).message
  attribute?_eq : ∀ a ∈ info.attributes,
    p.attribute? a.name = (lastValue? a.name assignments).or a.default?
  attributes_eq : e.attributes = info.attributes.map fun a =>
    (a.name, (lastValue? a.name assignments).or a.default?)

theorem Property.foretells_setAll {p : Property} (h : p.attributes.overrides = .empty)
    (assignments : List (String × String)) :
    (PropertyInfo.ofProperty p).Foretells assignments (p.updateAttributes (·.setAll assignments))
      (.ofProperty p.category p.name (p.updateAttributes (·.setAll assignments))) := by
  let q := p.updateAttributes (·.setAll assignments)
  have hmissing : q.missing = (PropertyInfo.ofProperty p).unassigned assignments :=
    p.missing_setAll_eq_unassigned h assignments
  have hassigned := (PropertyInfo.ofProperty p).unassigned_ne_nil_iff assignments
  rw [← hmissing] at hassigned
  constructor
  case eq_ofProperty => rfl
  case misses_iff => simp only [evaluate_eq_missing_iff, exists_eq_left', ← hassigned, q]
  case missing_eq =>
    intro names heval
    rw [← hmissing]
    exact (evaluate_eq_missing_iff.mp heval).1.symm
  case error_iff =>
    rw [← hassigned, Evaluation.error?_ofProperty]
    exact exists_failure?_eq_missing_iff
  case error_eq =>
    intro hex
    rw [← hmissing, Evaluation.error?_ofProperty]
    exact failure?_of_missing_ne_nil (hassigned.mpr hex)
  case attribute?_eq =>
    intro a ha
    obtain ⟨name, -, rfl⟩ := List.mem_map.mp ha
    exact p.attribute?_setAll_of_overrides_eq_empty h assignments name
  case attributes_eq => exact p.effectiveAttributes_setAll h assignments

/-- Under every configuration that fits, `eval` misses exactly the attributes that `list` marks as
required and that are not assigned, and otherwise has the last assigned value of an attribute or
else the listed default. -/
theorem EvalCommand.evaluate_of_mem_collect {config : Config} {ns : Namespace}
    (h : config.buildNamespace = .ok ns) {cmd : ListCommand} {infos : List PropertyInfo}
    (hinfos : cmd.collect ns = .ok infos) {info : PropertyInfo} (hinfo : info ∈ infos)
    (assignments : List (String × String)) (json strict : Bool) :
    ∃ (p : Property) (e : Evaluation),
      (⟨info.category, info.name, assignments, json, strict⟩ : EvalCommand).evaluate ns = .ok e ∧
        info.Foretells assignments p e := by
  have hproto : ns.IsPrototype := .configured h
  obtain ⟨c, n, p, hp, rfl⟩ := ListCommand.exists_of_mem_collect hinfos hinfo
  obtain ⟨rfl, rfl⟩ := hproto.hasCatalog.key_eq hp
  refine ⟨_, _, ?_, p.foretells_setAll (hproto.overrides_eq_empty hp) assignments⟩
  rw [evaluate, Namespace.property, PropertyInfo.ofProperty, hp]
  rfl

/-- Windows start at the second element. -/
def secondElements : Config where
  general := .default
  defaults := .ofList [("Misc.sublist", .ofList [("index", "1")])]

/-- The entry of windows that start at the second element, of which a separator is assigned. -/
theorem EvalCommand.evaluate_of_mem_collect_secondElements :
    let ns := Namespace.builtin.modify "Misc" "sublist" (·.setDefault "index" "1")
    let info : PropertyInfo := ⟨"Misc", "sublist",
      [⟨"list", none⟩, ⟨"index", some "1"⟩, ⟨"count", some "1"⟩, ⟨"sep", some ":"⟩]⟩
    let assignments := [("sep", ";"), ("colour", "red"), ("sep", ",")]
    secondElements.buildNamespace = .ok ns ∧
      (⟨some "Misc", false⟩ : ListCommand).collect ns =
        .ok ((ns.propertiesIn "Misc").map .ofProperty) ∧
      info ∈ (ns.propertiesIn "Misc").map .ofProperty ∧
      ∃ (p : Property) (e : Evaluation),
        (⟨"Misc", "sublist", assignments, false, false⟩ : EvalCommand).evaluate ns = .ok e ∧
          info.Foretells assignments p e ∧
          e.error? = some "missing required attribute(s): list" ∧
          e.attributes =
            [("list", none), ("index", some "1"), ("count", some "1"), ("sep", some ",")] := by
  intro ns info assignments
  have hbuilt : secondElements.buildNamespace = .ok ns := rfl
  have hinfos : (⟨some "Misc", false⟩ : ListCommand).collect ns =
      .ok ((ns.propertiesIn "Misc").map .ofProperty) := rfl
  have hinfo : info ∈ (ns.propertiesIn "Misc").map PropertyInfo.ofProperty := by decide
  obtain ⟨p, e, heval, hforetells⟩ := evaluate_of_mem_collect hbuilt hinfos hinfo assignments
    false false
  refine ⟨hbuilt, hinfos, hinfo, p, e, heval, hforetells, ?_, hforetells.attributes_eq⟩
  exact hforetells.error_eq ⟨⟨"list", none⟩, by decide, by decide⟩

end PropertyMacros
