import Mathlib.Tactic.Common
import PropertyMacros.CommandLine.Scan

/-!
How options are written, and what reading one comes to. A value is not looked at when it comes in,
but once the scan is settled the option has been recorded behind all that had come in before.
-/

namespace PropertyMacros.CommandLine

/-- An option as it stands on a command line: `--opt`, `-c`, `--opt=value` or `--opt value`. -/
inductive Spelling where
  | flag (opt : Opt)
  | letter (opt : Opt) (c : Char)
  | joined (opt : Opt) (value : String)
  | apart (opt : Opt) (value : String)
  deriving DecidableEq, Repr

namespace Spelling

def opt : Spelling → Opt
  | flag opt => opt
  | letter opt _ => opt
  | joined opt _ => opt
  | apart opt _ => opt

/-- The value of the option, which is empty for a flag. -/
def value : Spelling → String
  | flag _ => ""
  | letter _ _ => ""
  | joined _ value => value
  | apart _ value => value

def arguments : Spelling → List String
  | flag opt => [String.ofList ('-' :: '-' :: opt.long)]
  | letter _ c => [String.ofList ['-', c]]
  | joined opt value => [String.ofList ('-' :: '-' :: (opt.long ++ '=' :: value.toList))]
  | apart opt value => [String.ofList ('-' :: '-' :: opt.long), value]

/-- The option can be written in this way at the level, and asks neither for help nor for the
version. -/
def Fits (level : Level) : Spelling → Prop
  | flag opt =>
    opt ∈ level.options ∧ opt.takesValue = false ∧ opt ≠ .help ∧ opt ≠ .version
  | letter opt c =>
    opt ∈ level.options ∧ opt.takesValue = false ∧ opt ≠ .help ∧ opt ≠ .version ∧
      opt.short? = some c
  | joined opt value =>
    opt ∈ level.options ∧ opt.takesValue = true ∧ (opt.isPath = true → value ≠ "")
  | apart opt value =>
    opt ∈ level.options ∧ opt.takesValue = true ∧ (opt.isPath = true → value ≠ "") ∧
      Token.ofArg value.toList = .plain

instance (level : Level) : DecidablePred (Fits level)
  | flag _ => inferInstanceAs (Decidable (_ ∧ _))
  | letter _ _ => inferInstanceAs (Decidable (_ ∧ _))
  | joined _ _ => inferInstanceAs (Decidable (_ ∧ _))
  | apart _ _ => inferInstanceAs (Decidable (_ ∧ _))

theorem Fits.mem_options {level : Level} {spelling : Spelling} (h : spelling.Fits level) :
    spelling.opt ∈ level.options := by
  cases spelling <;> exact h.1

theorem Fits.value_ne_of_isPath {level : Level} {spelling : Spelling} (h : spelling.Fits level)
    (hpath : spelling.opt.isPath = true) : spelling.value ≠ "" := by
  cases spelling with
  | flag opt => cases opt <;> cases hpath <;> cases h.2.1
  | letter opt c => cases opt <;> cases hpath <;> cases h.2.1
  | joined opt value => exact h.2.2 hpath
  | apart opt value => exact h.2.2.1 hpath

end Spelling

theorem Level.findLong?_long {level : Level} {opt : Opt} (h : opt ∈ level.options) :
    level.findLong? opt.long = some opt := by
  revert h
  cases level <;> cases opt <;> decide

theorem Level.findShort?_of_short? {level : Level} {opt : Opt} {c : Char}
    (h : opt ∈ level.options) (hc : opt.short? = some c) : level.findShort? c = some opt := by
  revert h
  cases opt <;> cases hc <;> cases level <;> decide

theorem Token.ofArg_long (opt : Opt) : ofArg ('-' :: '-' :: opt.long) = long opt.long none := by
  cases opt <;> decide

theorem Token.ofArg_long_joined (opt : Opt) (value : List Char) :
    ofArg ('-' :: '-' :: (opt.long ++ '=' :: value)) = long opt.long (some value) := by
  have hsplit : Text.splitFirst? '=' (opt.long ++ '=' :: value) = some (opt.long, value) := by
    apply Text.splitFirst?_append
    cases opt <;> decide
  rw [ofArg, hsplit]
  simp

theorem Token.ofArg_short {opt : Opt} {c : Char} (h : opt.short? = some c) :
    ofArg ['-', c] = short [c] := by
  cases opt <;> cases h <;> rfl

theorem Token.ofArg_of_head?_ne {arg : List Char} (h : arg.head? ≠ some '-') :
    ofArg arg = plain := by
  unfold ofArg
  split
  · exact absurd rfl h
  · exact absurd rfl h
  · exact absurd rfl h
  · rfl

namespace Scan

theorem resolve_of_pending_eq_nothing {scan : Scan} (h : scan.pending = .nothing) :
    scan.resolve = .ok scan := by
  cases scan
  cases h
  rfl

theorem eq_of_record_eq_ok {scan next : Scan} {opt : Opt} {value : String}
    (h : scan.record opt value = .ok next) :
    next = { scan with options := scan.options ++ [(opt, value)] } := by
  unfold record at h
  split at h
  · cases h
  · split at h <;> cases h
    rfl

/-- Settling a scan leaves nothing pending, and the names as they are. -/
theorem of_resolve_eq_ok {scan settled : Scan} (h : scan.resolve = .ok settled) :
    settled.pending = .nothing ∧ settled.names = scan.names ∧
      settled.afterSeparator = scan.afterSeparator := by
  unfold resolve at h
  split at h
  · cases h
    exact ⟨rfl, rfl, rfl⟩
  · cases h
  · rw [eq_of_record_eq_ok h]
    exact ⟨rfl, rfl, rfl⟩
  · next args _ =>
    cases hpairs : readAssignments args with
    | error stop =>
        rw [hpairs] at h
        cases h
    | ok pairs =>
        rw [hpairs] at h
        cases h
        exact ⟨rfl, rfl, rfl⟩

/-- Settling and then recording leaves nothing pending. -/
theorem of_resolve_bind_record_eq_ok {scan next : Scan} {opt : Opt} {value : String}
    (h : (scan.resolve >>= (·.record opt value)) = .ok next) :
    next.pending = .nothing ∧ next.afterSeparator = scan.afterSeparator := by
  cases hsettled : scan.resolve with
  | error stop =>
      rw [hsettled] at h
      cases h
  | ok settled =>
      rw [hsettled] at h
      rw [eq_of_record_eq_ok h]
      exact ⟨(of_resolve_eq_ok hsettled).1, (of_resolve_eq_ok hsettled).2.2⟩

/-- No option waits for its value. Whether options can come in depends on the separator. -/
structure Ready (scan : Scan) (after : Bool) : Prop where
  afterSeparator : scan.afterSeparator = after
  not_awaiting : ∀ opt, scan.pending ≠ .value opt none

theorem ready_start : start.Ready false := ⟨rfl, fun _ => nofun⟩

theorem Ready.expectsCommand {scan : Scan} (h : scan.Ready false) : scan.expectsCommand = true := by
  unfold Scan.expectsCommand
  rw [h.afterSeparator]
  split
  · exact absurd ‹_› (h.not_awaiting _)
  · rfl

theorem Ready.of_resolve_map {scan next : Scan} {after : Bool} (h : scan.Ready after)
    {f : Scan → Scan} (hafter : ∀ settled, (f settled).afterSeparator = settled.afterSeparator)
    (hpending : ∀ settled opt, settled.pending = .nothing → (f settled).pending ≠ .value opt none)
    (hnext : scan.resolve.map f = .ok next) : next.Ready after := by
  cases hsettled : scan.resolve with
  | error stop =>
      rw [hsettled] at hnext
      cases hnext
  | ok settled =>
      obtain ⟨hnothing, -, hsame⟩ := of_resolve_eq_ok hsettled
      rw [hsettled] at hnext
      cases hnext
      refine ⟨?_, fun opt => hpending settled opt hnothing⟩
      rw [hafter, hsame, h.afterSeparator]

theorem useFlag_eq (scan : Scan) {opt : Opt} (hhelp : opt ≠ .help) (hversion : opt ≠ .version) :
    scan.useFlag opt = scan.resolve >>= (·.record opt "") := by
  cases opt
  case help => exact absurd rfl hhelp
  case version => exact absurd rfl hversion
  all_goals rfl

section

variable {level : Level} {scan : Scan} (hscan : scan.Ready false)

include hscan

theorem step_long {arg : String} {name : List Char} {value? : Option (List Char)}
    (h : Token.ofArg arg.toList = .long name value?) :
    scan.step level arg = scan.useLong level name value? := by
  rw [step, hscan.afterSeparator, h]
  rfl

theorem step_flag {opt : Opt} (h : (Spelling.flag opt).Fits level) :
    scan.step level (String.ofList ('-' :: '-' :: opt.long)) =
      scan.resolve >>= (·.record opt "") := by
  obtain ⟨hlevel, hvalue, hhelp, hversion⟩ := h
  rw [step_long hscan (by rw [String.toList_ofList, Token.ofArg_long]), useLong,
    Level.findLong?_long hlevel]
  simp only [hvalue]
  exact scan.useFlag_eq hhelp hversion

theorem step_letter {opt : Opt} {c : Char} (h : (Spelling.letter opt c).Fits level) :
    scan.step level (String.ofList ['-', c]) = scan.resolve >>= (·.record opt "") := by
  obtain ⟨hlevel, hvalue, hhelp, hversion, hshort⟩ := h
  rw [step, hscan.afterSeparator, String.toList_ofList, Token.ofArg_short hshort]
  simp only [useShort, Level.findShort?_of_short? hlevel hshort, hvalue, Bool.false_eq_true,
    if_false, scan.useFlag_eq hhelp hversion]
  cases scan.resolve >>= (·.record opt "") <;> rfl

theorem step_joined {opt : Opt} {value : String} (h : (Spelling.joined opt value).Fits level) :
    scan.step level (String.ofList ('-' :: '-' :: (opt.long ++ '=' :: value.toList))) =
      scan.resolve >>= (·.record opt value) := by
  obtain ⟨hlevel, hvalue, -⟩ := h
  rw [step_long hscan (by rw [String.toList_ofList, Token.ofArg_long_joined]), useLong,
    Level.findLong?_long hlevel]
  simp only [hvalue, String.ofList_toList]
  rfl

theorem step_apart {opt : Opt} {value : String} (h : (Spelling.apart opt value).Fits level) :
    scan.step level (String.ofList ('-' :: '-' :: opt.long)) =
      scan.resolve.map fun settled => { settled with pending := .value opt none } := by
  obtain ⟨hlevel, hvalue, -⟩ := h
  rw [step_long hscan (by rw [String.toList_ofList, Token.ofArg_long]), useLong,
    Level.findLong?_long hlevel]
  simp only [hvalue]
  rfl

/-- The two arguments leave the value pending. -/
theorem foldlM_step_apart {opt : Opt} {value : String}
    (h : (Spelling.apart opt value).Fits level) :
    (Spelling.apart opt value).arguments.foldlM (step level) scan =
      scan.resolve.map fun settled => { settled with pending := .value opt (some value) } := by
  rw [Spelling.arguments, List.foldlM_cons, step_apart hscan h]
  cases hsettled : scan.resolve with
  | error stop => rfl
  | ok settled =>
      have hseparator := (of_resolve_eq_ok hsettled).2.2
      have hsecond : ({ settled with pending := .value opt none } : Scan).step level value =
          .ok { settled with pending := .value opt (some value) } := by
        simp [step, hseparator, hscan.afterSeparator, h.2.2.2]
      exact congrArg (· >>= pure) hsecond

end

section

variable {level : Level} {scan : Scan} {spelling : Spelling}

/-- Either the option has been recorded at once, or it is pending with its value. -/
theorem foldlM_arguments (hscan : scan.Ready false) (h : spelling.Fits level) :
    spelling.arguments.foldlM (step level) scan =
        scan.resolve >>= (·.record spelling.opt spelling.value) ∨
      spelling.arguments.foldlM (step level) scan =
        scan.resolve.map fun settled =>
          { settled with pending := .value spelling.opt (some spelling.value) } := by
  cases spelling with
  | flag opt =>
      left
      rw [Spelling.arguments, List.foldlM_cons, step_flag hscan h]
      exact bind_pure _
  | letter opt c =>
      left
      rw [Spelling.arguments, List.foldlM_cons, step_letter hscan h]
      exact bind_pure _
  | joined opt value =>
      left
      rw [Spelling.arguments, List.foldlM_cons, step_joined hscan h]
      exact bind_pure _
  | apart opt value => exact .inr (foldlM_step_apart hscan h)

/-- Once settled, a scan that has read an option has recorded it. -/
theorem foldlM_arguments_bind_resolve (hscan : scan.Ready false) (h : spelling.Fits level) :
    (spelling.arguments.foldlM (step level) scan >>= resolve) =
      scan.resolve >>= (·.record spelling.opt spelling.value) := by
  rcases foldlM_arguments hscan h with hfold | hfold
  · rw [hfold]
    cases hnext : scan.resolve >>= (·.record spelling.opt spelling.value) with
    | error stop => rfl
    | ok next => exact resolve_of_pending_eq_nothing (of_resolve_bind_record_eq_ok hnext).1
  · rw [hfold]
    cases hsettled : scan.resolve with
    | error stop => rfl
    | ok settled =>
        have hpending := (of_resolve_eq_ok hsettled).1
        cases settled
        cases hpending
        rfl

theorem ready_of_foldlM_arguments {next : Scan} (hscan : scan.Ready false)
    (h : spelling.Fits level)
    (hnext : spelling.arguments.foldlM (step level) scan = .ok next) : next.Ready false := by
  rcases foldlM_arguments hscan h with hfold | hfold
  · obtain ⟨hpending, hseparator⟩ := of_resolve_bind_record_eq_ok (hfold.symm.trans hnext)
    exact ⟨hseparator.trans hscan.afterSeparator, by simp [hpending]⟩
  · rw [hfold] at hnext
    refine hscan.of_resolve_map ?_ ?_ hnext
    · intro settled
      rfl
    · intro settled opt _
      nofun

end

end Scan

end PropertyMacros.CommandLine
