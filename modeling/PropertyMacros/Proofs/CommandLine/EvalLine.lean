import PropertyMacros.Proofs.CommandLine.Items

/-!
Lines that run `eval`, with their options in any place and spelling.
-/

namespace PropertyMacros.CommandLine

theorem Keyword.ofName?_eq_none {arg : String} (h : arg.toList.head? = some '-') :
    ofName? arg = none := by
  have hne {word : String} (hword : word.toList.head? ≠ some '-') : arg ≠ word := by
    rintro rfl
    exact hword h
  rw [ofName?, if_neg (hne (by decide)), if_neg (hne (by decide)), if_neg (hne (by decide))]

namespace Scan

theorem root_cons {scan : Scan} {arg : String} (args : List String)
    (h : scan.expectsCommand = false ∨ Keyword.ofName? arg = none) :
    scan.root (arg :: args) = scan.step .root arg >>= (·.root args) := by
  rcases h with h | h
  · rw [root, h]
  · rw [root, h]
    cases scan.expectsCommand <;> rfl

theorem root_word {scan : Scan} {word : String} {keyword : Keyword} (args : List String)
    (hscan : scan.Ready false) (h : Keyword.ofName? word = some keyword) :
    scan.root (word :: args) = .ok (scan, some (keyword, args)) := by
  rw [root, hscan.expectsCommand, h]

theorem root_singleton {scan : Scan} {arg : String} (args : List String)
    (h : arg.toList.head? = some '-') :
    scan.root ([arg] ++ args) = [arg].foldlM (step .root) scan >>= (·.root args) := by
  rw [List.foldlM_cons, bind_assoc, List.singleton_append,
    root_cons args (.inr (Keyword.ofName?_eq_none h))]
  rfl

theorem root_arguments {scan : Scan} {spelling : Spelling} (args : List String)
    (hscan : scan.Ready false) (h : spelling.Fits .root) :
    scan.root (spelling.arguments ++ args) =
      spelling.arguments.foldlM (step .root) scan >>= (·.root args) := by
  cases spelling with
  | flag opt => exact root_singleton args (by rw [String.toList_ofList]; rfl)
  | letter opt c => exact root_singleton args (by rw [String.toList_ofList]; rfl)
  | joined opt value => exact root_singleton args (by rw [String.toList_ofList]; rfl)
  | apart opt value =>
      have hname : (String.ofList ('-' :: '-' :: opt.long)).toList.head? = some '-' := by
        rw [String.toList_ofList]
        rfl
      change scan.root (String.ofList ('-' :: '-' :: opt.long) :: value :: args) =
        [String.ofList ('-' :: '-' :: opt.long), value].foldlM (step .root) scan >>= (·.root args)
      rw [root_cons _ (.inr (Keyword.ofName?_eq_none hname)), List.foldlM_cons, bind_assoc,
        step_apart hscan h]
      simp only [List.foldlM_cons, List.foldlM_nil, bind_pure]
      cases scan.resolve with
      | error stop => rfl
      | ok settled =>
          -- The value is no command, whatever it says: the option waits for it.
          have hexpects : expectsCommand { settled with pending := .value opt none } = false := by
            simp [expectsCommand]
          exact root_cons args (.inl hexpects)

theorem root_eq {scan : Scan} {before : List Spelling} {word : String} {keyword : Keyword}
    (args : List String) (hscan : scan.Ready false) (h : ∀ spelling ∈ before, spelling.Fits .root)
    (hword : Keyword.ofName? word = some keyword) :
    scan.root (before.flatMap Spelling.arguments ++ word :: args) =
      (before.flatMap Spelling.arguments).foldlM (step .root) scan >>= fun next =>
        .ok (next, some (keyword, args)) := by
  induction before generalizing scan with
  | nil => exact root_word args hscan hword
  | cons spelling before ih =>
      obtain ⟨hspelling, hbefore⟩ := List.forall_mem_cons.mp h
      rw [List.flatMap_cons, List.append_assoc, root_arguments _ hscan hspelling,
        List.foldlM_append, bind_assoc]
      cases hnext : spelling.arguments.foldlM (step .root) scan with
      | error stop => rfl
      | ok next => exact ih (ready_of_foldlM_arguments hscan hspelling hnext) hbefore

end Scan

/-- A line that runs `eval`: the options in front of the command, and the items behind it. -/
structure EvalLine where
  before : List Spelling
  items : List Item
  deriving DecidableEq, Repr

namespace EvalLine

def arguments (line : EvalLine) : List String :=
  line.before.flatMap Spelling.arguments ++ "eval" :: line.items.flatMap Item.arguments

def positionals (line : EvalLine) : List String := Item.positionals line.items

def usedBefore (line : EvalLine) : List (Opt × String) :=
  Item.used (line.before.map .option)

/-- The value of an option, behind the command or else in front of it. -/
def value? (line : EvalLine) (opt : Opt) : Option String :=
  ((Item.used line.items).lookup opt).or (line.usedBefore.lookup opt)

def uses (line : EvalLine) (opt : Opt) : Bool := (line.value? opt).isSome

/-- Every option stands where it can, once on each side of the command at most. An empty variable
is no path, so that the option has to be used in its place, and on both sides. -/
structure WellFormed (env : Environment) (line : EvalLine) : Prop where
  before_fit : ∀ spelling ∈ line.before, spelling.Fits .root
  items_fit : Item.Fit .eval false line.items
  before_nodup : (line.usedBefore.map Prod.fst).Nodup
  items_nodup : ((Item.used line.items).map Prod.fst).Nodup
  paths : ∀ opt, ambient? env opt = some "" →
    opt ∈ line.usedBefore.map Prod.fst ∧ opt ∈ (Item.used line.items).map Prod.fst

end EvalLine

namespace Scan

/-- Ending a level settles it, unless a variable is empty whose option is not used. -/
theorem bind_finish_eq {env : Environment} {result : Except Stop Scan}
    (hpaths : ∀ settled, (result >>= resolve) = .ok settled →
      ∀ opt, ambient? env opt = some "" → opt ∈ settled.options.map Prod.fst) :
    (result >>= finish env) = result >>= resolve := by
  cases result with
  | error stop => rfl
  | ok scan =>
      change finish env scan = scan.resolve
      cases hsettled : scan.resolve with
      | error stop =>
          rw [finish, hsettled]
          rfl
      | ok settled =>
          have hlacks (opt : Opt) : lacksPath env settled opt = false := by
            rw [lacksPath, Bool.and_eq_false_imp]
            intro hunused
            rw [Bool.not_eq_true', ← Bool.not_eq_true, uses_eq_true_iff] at hunused
            exact beq_eq_false_iff_ne.mpr fun hempty =>
              hunused (hpaths settled hsettled opt hempty)
          rw [finish, hsettled]
          change (if lacksPath env settled .config then _ else _) = _
          rw [hlacks, hlacks]
          rfl

section

variable {env : Environment} {before : List Spelling} {word : String} {keyword : Keyword}
  (hfit : ∀ spelling ∈ before, spelling.Fits .root)
  (hnodup : ((Item.used (before.map .option)).map Prod.fst).Nodup)
  (hpaths : ∀ opt, ambient? env opt = some "" →
    opt ∈ (Item.used (before.map .option)).map Prod.fst)
  (hword : Keyword.ofName? word = some keyword)

include hfit hnodup hpaths hword

/-- What stands in front of a command comes to the options used there. -/
theorem exists_root_eq (args : List String) :
    ∃ scan settled, root .start (before.flatMap Spelling.arguments ++ word :: args) =
        .ok (scan, some (keyword, args)) ∧
      finish env scan = .ok settled ∧ settled.options = Item.used (before.map .option) := by
  have hsettled := behind_eq (Item.fit_map_option hfit) hnodup
  rw [Item.flatMap_arguments_map_option, Item.positionals_map_option, behind] at hsettled
  have hfinish := bind_finish_eq fun settled h opt hempty => by
    cases hsettled.symm.trans h
    exact hpaths opt hempty
  rw [root_eq args ready_start hfit hword]
  cases hscan : (before.flatMap Spelling.arguments).foldlM (step .root) start with
  | error stop =>
      rw [hscan] at hsettled
      cases hsettled
  | ok scan =>
      rw [hscan] at hfinish hsettled
      exact ⟨scan, _, rfl, hfinish.trans hsettled, rfl⟩

/-- A line is read as its command is, to which the options in front of it are added. -/
theorem exists_parse_eq (args : List String) :
    ∃ settled : Scan, settled.options = Item.used (before.map .option) ∧
      parse env (before.flatMap Spelling.arguments ++ word :: args) =
        (readCommand env keyword args).map fun behind =>
          ⟨pathOf env settled behind.1 .config, pathOf env settled behind.1 .logFile,
            settled.uses .verbose || behind.1.uses .verbose, behind.2⟩ := by
  obtain ⟨scan, settled, hroot, hfinish, hoptions⟩ :=
    exists_root_eq hfit hnodup hpaths hword args
  have hparse : parse env (before.flatMap Spelling.arguments ++ word :: args) =
      readCommand env keyword args >>= fun behind => finish env scan >>= fun settled =>
        .ok ⟨pathOf env settled behind.1 .config, pathOf env settled behind.1 .logFile,
          settled.uses .verbose || behind.1.uses .verbose, behind.2⟩ := by
    rw [parse, hroot]
    rfl
  rw [hparse, hfinish]
  exact ⟨settled, hoptions, rfl⟩

end

end Scan

namespace EvalLine

/-- What the scan behind the command comes to. -/
def settled (line : EvalLine) (category name : String) (pairs : List (String × String)) : Scan where
  options := Item.used line.items
  names := [category, name]
  assignments := pairs
  pending := .nothing
  afterSeparator := line.items.foldl Item.closes false

variable {env : Environment} {line : EvalLine} (hline : line.WellFormed env)

include hline

section

variable {category name : String} {args : List String}
  (hpositionals : line.positionals = category :: name :: args)

include hpositionals

theorem behind_bind_finish :
    (Scan.behind .eval (line.items.flatMap Item.arguments) >>= finish env) =
      (Scan.readAssignments args).map (line.settled category name) := by
  have hbehind : (Scan.behind .eval (line.items.flatMap Item.arguments) >>= Scan.resolve) =
      (Scan.readAssignments args).map (line.settled category name) := by
    rw [Scan.behind_eq hline.items_fit hline.items_nodup, ← positionals, hpositionals,
      Scan.foldlM_accept_names _ rfl]
    rfl
  refine (Scan.bind_finish_eq ?_).trans hbehind
  intro settled h opt hempty
  cases hpairs : Scan.readAssignments args with
  | error stop =>
      rw [hbehind, hpairs] at h
      cases h
  | ok pairs =>
      rw [hbehind, hpairs] at h
      cases h
      exact (hline.paths opt hempty).2

theorem readCommand_eq :
    readCommand env .eval (line.items.flatMap Item.arguments) =
      (Scan.readAssignments args).map fun pairs =>
        (line.settled category name pairs,
          .eval ⟨category, name, pairs, line.uses .json, line.uses .strict⟩) := by
  have huses (opt : Opt) (hopt : opt ∉ Level.root.options) (pairs : List (String × String)) :
      (line.settled category name pairs).uses opt = line.uses opt := by
    rw [uses, value?, usedBefore, Item.lookup_used_map_option hline.before_fit hopt,
      Option.or_none]
    rfl
  calc readCommand env .eval (line.items.flatMap Item.arguments)
    _ = (Scan.behind .eval (line.items.flatMap Item.arguments) >>= finish env) >>= fun scan =>
          evalCommand scan >>= fun command => pure (scan, command) := (bind_assoc _ _ _).symm
    _ = _ := by
        rw [behind_bind_finish hline hpositionals]
        cases Scan.readAssignments args with
        | error stop => rfl
        | ok pairs =>
            rw [← huses .json (by decide) pairs, ← huses .strict (by decide) pairs]
            rfl

/-- A line reads as its assignments do, wherever its options stand. -/
theorem parse_arguments :
    parse env line.arguments = (Scan.readAssignments args).map fun pairs =>
      { config? := (line.value? .config).or env.configFile?
        logFile? := (line.value? .logFile).or env.logFile?
        verbose := line.uses .verbose
        command := .eval ⟨category, name, pairs, line.uses .json, line.uses .strict⟩ } := by
  obtain ⟨before, hoptions, hparse⟩ := Scan.exists_parse_eq hline.before_fit hline.before_nodup
    (fun opt hempty => (hline.paths opt hempty).1) (by rfl : Keyword.ofName? "eval" = some .eval)
    (line.items.flatMap Item.arguments)
  have hverbose (pairs : List (String × String)) :
      (before.uses .verbose || (line.settled category name pairs).uses .verbose) =
        line.uses .verbose := by
    rw [Bool.or_comm, uses, value?, Option.isSome_or, usedBefore, ← hoptions]
    rfl
  rw [arguments, hparse, readCommand_eq hline hpositionals]
  cases Scan.readAssignments args with
  | error stop => rfl
  | ok pairs =>
      simp only [value?, usedBefore, ← hoptions, ← hverbose pairs]
      rfl

end

end EvalLine

end PropertyMacros.CommandLine
