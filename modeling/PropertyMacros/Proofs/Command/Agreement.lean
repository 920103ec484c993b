import PropertyMacros.Proofs.Command.Eval
import PropertyMacros.Proofs.CommandLine.EvalLine
import PropertyMacros.Proofs.Namespace.Run

/-!
The command `eval` against the namespace it runs on, from the line to the output. What is shown is
what the namespace itself makes of the property once the attributes have been set.
-/

namespace PropertyMacros

open OrderedMap (lastValue?)

/-- Values set one after the other end up in the property, whatever stood there before. -/
theorem Namespace.exists_foldlM_setAttribute {ns : Namespace} {category name : String}
    {p : Property} (hp : ns.property? category name = some p) (pairs : List (String × String)) :
    ∃ copy, pairs.foldlM (fun ns pair => ns.setAttribute category name pair.1 pair.2) ns =
        .ok copy ∧
      copy.property? category name = some (p.updateAttributes (·.setAll pairs)) := by
  induction pairs generalizing ns p with
  | nil => exact ⟨ns, rfl, hp⟩
  | cons pair pairs ih =>
      have hset : ns.setAttribute category name pair.1 pair.2 =
          .ok (ns.modify category name (·.setAttribute pair.1 pair.2)) := by
        rw [setAttribute, update_eq, hp]
      have hnext :
          (ns.modify category name (·.setAttribute pair.1 pair.2)).property? category name =
            some (p.setAttribute pair.1 pair.2) := by
        rw [property?_modify, if_pos ⟨rfl, rfl⟩, hp]
        rfl
      rw [List.foldlM_cons, hset]
      exact ih hnext

/-- The evaluation shows the value of `q`, or its failure. -/
structure Evaluation.Shows (e : Evaluation) (q : Property) : Prop where
  value_eq : e.value = q.current
  error_iff : e.error?.isSome = true ↔ ∃ reason, q.evaluate = .error reason
  error_eq : ∀ reason, q.evaluate = .error reason → e.error? = some reason.message
  value_of_error : ∀ text, e.error? = some text →
    e.value = "(" ++ e.name ++ " Error: " ++ text ++ ")"

theorem Evaluation.shows_ofProperty (category : String) (q : Property) :
    (ofProperty category q.name q).Shows q := by
  constructor
  case value_eq => exact value_ofProperty category q.name q
  case error_iff =>
    rw [error?_ofProperty, Property.failure?]
    cases q.evaluate <;> simp
  case error_eq =>
    intro reason heval
    rw [error?_ofProperty, Property.failure?, heval]
  case value_of_error =>
    intro text htext
    rw [error?_ofProperty, Property.failure?] at htext
    rw [value_ofProperty, Property.current]
    cases heval : q.evaluate with
    | ok value => simp [heval] at htext
    | error reason =>
        rw [heval] at htext
        cases htext
        rfl

theorem Evaluation.toText_plain (e : Evaluation) : e.toText (.ofColor false) = e.value := by
  have hstyled : String.ofList (Text.styled [] e.value.toList) = e.value := String.ofList_toList
  unfold toText
  split
  · exact hstyled
  · rfl

namespace EvalCommand

/-- The command with other flags. -/
def withFlags (cmd : EvalCommand) (json strict : Bool) : EvalCommand :=
  { cmd with json := json, strict := strict }

/-- The runs of the command on the namespace show the value of `q`, or its failure, under all
flags. -/
structure Agrees (cmd : EvalCommand) (ns : Namespace) (q : Property) : Prop where
  evaluate_eq : ∃ e : Evaluation, e.name = cmd.name ∧ e.Shows q ∧
    ∀ json strict, (cmd.withFlags json strict).evaluate ns = .ok e
  lenient_ok : ∀ json theme, ∃ stdout, (cmd.withFlags json false).execute ⟨ns, theme⟩ = .ok stdout
  lenient_plain : (cmd.withFlags false false).execute ⟨ns, .ofColor false⟩ =
    .ok (q.current ++ "\n")
  strict_eq_error_iff : ∀ json theme error,
    (cmd.withFlags json true).execute ⟨ns, theme⟩ = .error error ↔
      ∃ reason, q.evaluate = .error reason ∧
        error = .evaluationFailed cmd.category cmd.name reason.message
  strict_eq_lenient : ∀ json theme, (∀ reason, q.evaluate ≠ .error reason) →
    (cmd.withFlags json true).execute ⟨ns, theme⟩ = (cmd.withFlags json false).execute ⟨ns, theme⟩

section

variable {cmd : EvalCommand} {context : Context} {e : Evaluation}
  (heval : cmd.evaluate context.prototype = .ok e)

include heval

/-- What is printed where no failure ends the command. -/
theorem execute_of_lenient (h : cmd.strict = false ∨ e.error? = none) :
    cmd.execute context =
      .ok ((if cmd.json then e.toJson.pretty else e.toText context.theme) ++ "\n") := by
  have hprinted : cmd.execute context =
      if cmd.json then .ok (e.toJson.pretty ++ "\n")
      else .ok (e.toText context.theme ++ "\n") := by
    rw [execute, heval]
    rcases h with hstrict | herror
    · simp only [hstrict]
    · simp only [herror]
      cases cmd.strict <;> rfl
  rw [hprinted]
  split <;> rfl

theorem execute_of_strict {text : String} (hstrict : cmd.strict = true)
    (herror : e.error? = some text) :
    cmd.execute context = .error (.evaluationFailed cmd.category cmd.name text) := by
  rw [execute, heval]
  simp only [hstrict, herror]

end

theorem agrees_setAll {cmd : EvalCommand} {ns : Namespace} {p : Property}
    (hp : ns.property? cmd.category cmd.name = some p) (hname : p.name = cmd.name) :
    cmd.Agrees ns (p.updateAttributes (·.setAll cmd.attributes)) := by
  let q := p.updateAttributes (·.setAll cmd.attributes)
  let e : Evaluation := .ofProperty cmd.category cmd.name q
  have heval (json strict : Bool) : (cmd.withFlags json strict).evaluate ns = .ok e := by
    rw [evaluate, Namespace.property, withFlags, hp]
    rfl
  have hshows : e.Shows q := by
    have hq : q.name = cmd.name := hname
    simp only [e, ← hq]
    exact Evaluation.shows_ofProperty cmd.category q
  have hlenient (json strict : Bool) (theme : Theme) (h : strict = false ∨ e.error? = none) :
      (cmd.withFlags json strict).execute ⟨ns, theme⟩ =
        .ok ((if json then e.toJson.pretty else e.toText theme) ++ "\n") :=
    execute_of_lenient (heval json strict) h
  have hnone (h : ∀ reason, q.evaluate ≠ .error reason) : e.error? = none := by
    rw [← Option.not_isSome_iff_eq_none, hshows.error_iff]
    rintro ⟨reason, hreason⟩
    exact h reason hreason
  constructor
  case evaluate_eq => exact ⟨e, rfl, hshows, heval⟩
  case lenient_ok => exact fun json theme => ⟨_, hlenient json false theme (.inl rfl)⟩
  case lenient_plain =>
    rw [hlenient false false _ (.inl rfl), ← hshows.value_eq, ← e.toText_plain]
    rfl
  case strict_eq_error_iff =>
    intro json theme error
    constructor
    · intro herror
      cases hq : q.evaluate with
      | ok value =>
          have herror? : e.error? = none := hnone (by simp [hq])
          rw [hlenient json true theme (.inr herror?)] at herror
          cases herror
      | error reason =>
          rw [execute_of_strict (heval json true) rfl (hshows.error_eq reason hq)] at herror
          cases herror
          exact ⟨reason, rfl, rfl⟩
    · rintro ⟨reason, hreason, rfl⟩
      exact execute_of_strict (heval json true) rfl (hshows.error_eq reason hreason)
  case strict_eq_lenient =>
    intro json theme h
    rw [hlenient json true theme (.inr (hnone h)), hlenient json false theme (.inl rfl)]

end EvalCommand

namespace CommandLine.EvalLine

/-- A line that names a property either sets its attributes to what stands behind the first equals
signs, and then shows what a copy of the namespace makes of it, or fails with the first argument
that is no assignment. -/
theorem parse_agrees {ns : Namespace} (hns : ns.HasCatalog) {env : Environment} {line : EvalLine}
    (hline : line.WellFormed env) {category name : String} {args : List String}
    (hpositionals : line.positionals = category :: name :: args) {p : Property}
    (hp : ns.property? category name = some p) :
    ((∀ arg ∈ args, ¬IsMalformed arg) →
      ∃ pairs invocation cmd copy q,
        List.Forall₂ (fun arg pair => IsAssignment arg pair.1 pair.2) args pairs ∧
        parse env line.arguments = .ok invocation ∧
        invocation.command = .eval cmd ∧
        cmd = ⟨category, name, pairs, line.uses .json, line.uses .strict⟩ ∧
        pairs.foldlM (fun ns pair => ns.setAttribute category name pair.1 pair.2) ns = .ok copy ∧
        copy.property? category name = some q ∧
        (∀ attr, q.attribute? attr = (lastValue? attr pairs).or (p.attribute? attr)) ∧
        cmd.Agrees ns q) ∧
      ∀ arg, args.find? (IsMalformed ·) = some arg →
        parse env line.arguments = .error (.invalidAssignment (.invalidAssignment arg)) := by
  have hparse := parse_arguments hline hpositionals
  constructor
  · intro hargs
    obtain ⟨pairs, hpairs⟩ := exists_forall₂_isAssignment hargs
    rw [Scan.readAssignments_eq_ok hpairs] at hparse
    obtain ⟨copy, hset, hcopy⟩ := Namespace.exists_foldlM_setAttribute hp pairs
    let cmd : EvalCommand := ⟨category, name, pairs, line.uses .json, line.uses .strict⟩
    refine ⟨pairs, _, cmd, copy, _, hpairs, hparse, rfl, rfl, hset, hcopy, ?_, ?_⟩
    · exact Attributes.get?_setAll p.attributes pairs
    · exact EvalCommand.agrees_setAll hp (hns.key_eq hp).2
  · intro arg harg
    rw [hparse, Scan.readAssignments_eq_error harg]
    rfl

/-- A strict division whose options stand in many places, the last one of two assignments behind the
separator. -/
def quotient : EvalLine where
  before := [.letter .verbose 'v', .apart .config "eval"]
  items := [.positional "Misc", .option (.flag .strict), .positional "div", .positional "op2==",
    .option (.joined .logFile "run.log"), .separator, .positional "op2=0"]

/-- The same with two arguments that are no assignments. -/
def faultyQuotient : EvalLine :=
  { quotient with items := quotient.items ++ [.positional "=1", .positional "op2"] }

theorem parse_agrees_quotient :
    let ns := Namespace.builtin.run [.set "Misc" "div" "op1" "7"]
    ∃ p : Property,
      ns.HasCatalog ∧ ns.property? "Misc" "div" = some p ∧
      quotient.WellFormed .empty ∧ faultyQuotient.WellFormed .empty ∧
      quotient.arguments = ["-v", "--config", "eval", "eval", "Misc", "--strict", "div", "op2==",
        "--log-file=run.log", "--", "op2=0"] ∧
      (∃ pairs invocation cmd copy q,
        List.Forall₂ (fun arg pair => IsAssignment arg pair.1 pair.2) ["op2==", "op2=0"] pairs ∧
        parse .empty quotient.arguments = .ok invocation ∧
        invocation.command = .eval cmd ∧
        cmd = ⟨"Misc", "div", pairs, false, true⟩ ∧
        pairs.foldlM (fun ns pair => ns.setAttribute "Misc" "div" pair.1 pair.2) ns = .ok copy ∧
        copy.property? "Misc" "div" = some q ∧
        (∀ attr, q.attribute? attr = (lastValue? attr pairs).or (p.attribute? attr)) ∧
        cmd.Agrees ns q) ∧
      parse .empty faultyQuotient.arguments =
        .error (.invalidAssignment (.invalidAssignment "=1")) := by
  intro ns
  have hns : ns.HasCatalog := Namespace.hasCatalog_builtin.run _
  have hpaths (opt : Opt) : ambient? .empty opt ≠ some "" := by
    cases opt <;> decide
  have hquotient : quotient.WellFormed .empty :=
    ⟨by decide, by decide, by decide, by decide, fun opt h => absurd h (hpaths opt)⟩
  have hfaulty : faultyQuotient.WellFormed .empty :=
    ⟨by decide, by decide, by decide, by decide, fun opt h => absurd h (hpaths opt)⟩
  obtain ⟨p, hp⟩ : ∃ p, ns.property? "Misc" "div" = some p := ⟨_, rfl⟩
  refine ⟨p, hns, hp, hquotient, hfaulty, by rfl, ?_, ?_⟩
  · exact (parse_agrees hns hquotient rfl hp).1 (by decide)
  · exact (parse_agrees hns hfaulty rfl hp).2 "=1" (by decide)

end CommandLine.EvalLine

end PropertyMacros
