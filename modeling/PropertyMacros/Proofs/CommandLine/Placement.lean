import Mathlib.Data.List.Nodup
import PropertyMacros.Proofs.CommandLine.EvalLine

/-!
Where options stand on a command line. What is asked for can be written down in many ways: the
options come in any order, in front of the command if they can stand there, and otherwise anywhere
among the positional arguments. All of these lines are read alike.
-/

namespace PropertyMacros.CommandLine

theorem lookup_eq_some_iff_mem {used : List (Opt × String)} (h : (used.map Prod.fst).Nodup)
    {opt : Opt} {value : String} : used.lookup opt = some value ↔ (opt, value) ∈ used := by
  constructor
  · intro hlookup
    obtain ⟨front, rear, rfl, -⟩ := List.lookup_eq_some_iff.mp hlookup
    exact List.mem_append_right front List.mem_cons_self
  · intro hmem
    obtain ⟨front, rear, rfl⟩ := List.append_of_mem hmem
    refine List.lookup_eq_some_iff.mpr ⟨front, rear, rfl, ?_⟩
    intro use huse
    rw [List.map_append, List.nodup_append] at h
    rw [bne_iff_ne]
    exact (h.2.2 use.1 (List.mem_map_of_mem huse) opt List.mem_cons_self).symm

theorem lookup_eq_of_perm {used used' : List (Opt × String)} (h : used.Perm used')
    (hnodup : (used'.map Prod.fst).Nodup) (opt : Opt) : used.lookup opt = used'.lookup opt := by
  apply Option.ext
  intro value
  rw [lookup_eq_some_iff_mem ((h.map Prod.fst).nodup_iff.mpr hnodup),
    lookup_eq_some_iff_mem hnodup, h.mem_iff]

/-! ## What an invocation is written with -/

/-- The value of a flag, which is given or not. -/
def flag? (given : Bool) : Option String := if given then some "" else none

theorem isSome_flag? (given : Bool) : (flag? given).isSome = given := by
  cases given <;> rfl

theorem eq_of_flag?_eq_some {given : Bool} {value : String} (h : flag? given = some value) :
    value = "" := by
  cases given <;> cases h
  rfl

namespace Spelling

/-- An option in a single argument. -/
def single (opt : Opt) (value : String) : Spelling :=
  if opt.takesValue then joined opt value else flag opt

def use (spelling : Spelling) : Opt × String := (spelling.opt, spelling.value)

theorem opt_single (opt : Opt) (value : String) : (single opt value).opt = opt := by
  cases opt <;> rfl

theorem use_single {opt : Opt} {value : String} (h : opt.takesValue = false → value = "") :
    (single opt value).use = (opt, value) := by
  unfold single
  split
  · rfl
  · next htakes =>
    rw [h (Bool.eq_false_iff.mpr htakes)]
    rfl

end Spelling

namespace Item

def spelling? : Item → Option Spelling
  | option spelling => some spelling
  | _ => none

def spellings (items : List Item) : List Spelling := items.filterMap spelling?

theorem used_eq_map_use (items : List Item) : used items = (spellings items).map Spelling.use := by
  rw [used, spellings, List.map_filterMap]
  congr
  funext item
  cases item <;> rfl

theorem spellings_map_option (before : List Spelling) : spellings (before.map option) = before := by
  rw [spellings, List.filterMap_map]
  exact List.filterMap_some

end Item

namespace Command

def word : Command → String
  | eval _ => "eval"
  | list _ => "list"

def keyword : Command → Keyword
  | eval _ => .eval
  | list _ => .list

def level : Command → Level
  | eval _ => .eval
  | list _ => .list

def attributes : Command → List (String × String)
  | eval cmd => cmd.attributes
  | list _ => []

def positionals : Command → List String
  | eval cmd => cmd.category :: cmd.name :: cmd.attributes.map fun pair => pair.1 ++ "=" ++ pair.2
  | list _ => []

/-- The value of an option that only the command has. -/
def value? : Command → Opt → Option String
  | eval cmd, .json => flag? cmd.json
  | eval cmd, .strict => flag? cmd.strict
  | list cmd, .category => cmd.category?
  | list cmd, .json => flag? cmd.json
  | _, _ => none

theorem ofName?_word (command : Command) : Keyword.ofName? command.word = some command.keyword := by
  cases command <;> rfl

theorem nodup_options (command : Command) : command.level.options.Nodup := by
  cases command with
  | eval cmd => exact (by decide : Level.eval.options.Nodup)
  | list cmd => exact (by decide : Level.list.options.Nodup)

end Command

namespace Invocation

def value? (inv : Invocation) : Opt → Option String
  | .config => inv.config?
  | .logFile => inv.logFile?
  | .verbose => flag? inv.verbose
  | .help | .version => none
  | opt => inv.command.value? opt

/-- The options that an invocation is given by, with their values. -/
def used (inv : Invocation) : List (Opt × String) :=
  inv.command.level.options.filterMap fun opt => (inv.value? opt).map fun value => (opt, value)

def spellings (inv : Invocation) : List Spelling :=
  inv.used.map fun use => Spelling.single use.1 use.2

/-- The invocation can be written down: its paths are not empty, and nothing that is to be a
positional argument looks like an option or is no assignment where it has to be one. -/
structure WellFormed (inv : Invocation) : Prop where
  config_ne : inv.config? ≠ some ""
  logFile_ne : inv.logFile? ≠ some ""
  head_ne : ∀ arg ∈ inv.command.positionals, arg.toList.head? ≠ some '-'
  assignments : ∀ pair ∈ inv.command.attributes,
    IsAssignment (pair.1 ++ "=" ++ pair.2) pair.1 pair.2

section

variable {inv : Invocation} {opt : Opt} {value : String}

theorem mem_options_of_value? (h : inv.value? opt = some value) :
    opt ∈ inv.command.level.options := by
  obtain ⟨config?, logFile?, verbose, command⟩ := inv
  cases command with
  | eval cmd =>
      change opt ∈ Level.eval.options
      cases opt <;> first | decide | cases h
  | list cmd =>
      change opt ∈ Level.list.options
      cases opt <;> first | decide | cases h

theorem eq_empty_of_value? (h : inv.value? opt = some value) (htakes : opt.takesValue = false) :
    value = "" := by
  obtain ⟨config?, logFile?, verbose, command⟩ := inv
  cases command <;> cases opt <;>
    first | exact absurd htakes (by decide) | exact eq_of_flag?_eq_some h | cases h

theorem mem_used_iff : (opt, value) ∈ inv.used ↔ inv.value? opt = some value := by
  rw [used, List.mem_filterMap]
  constructor
  · rintro ⟨opt', -, hmap⟩
    obtain ⟨value', hvalue, hpair⟩ := Option.map_eq_some_iff.mp hmap
    cases hpair
    exact hvalue
  · intro h
    exact ⟨opt, mem_options_of_value? h, Option.map_eq_some_iff.mpr ⟨value, h, rfl⟩⟩

theorem nodup_used (inv : Invocation) : (inv.used.map Prod.fst).Nodup := by
  have heq {opt opt' : Opt}
      (h : opt' ∈ ((inv.value? opt).map fun value => (opt, value)).map Prod.fst) : opt = opt' := by
    rw [Option.map_map] at h
    obtain ⟨value, -, rfl⟩ := Option.map_eq_some_iff.mp h
    rfl
  rw [used, List.map_filterMap]
  refine List.Nodup.filterMap ?_ inv.command.nodup_options
  intro opt opt' opt'' h h'
  exact (heq h).trans (heq h').symm

theorem lookup_used (inv : Invocation) (opt : Opt) : inv.used.lookup opt = inv.value? opt := by
  apply Option.ext
  intro value
  rw [lookup_eq_some_iff_mem inv.nodup_used, mem_used_iff]

theorem map_use_spellings (inv : Invocation) : inv.spellings.map Spelling.use = inv.used := by
  rw [spellings, List.map_map]
  refine (List.map_congr_left ?_).trans (List.map_id inv.used)
  rintro ⟨opt, value⟩ huse
  exact Spelling.use_single (eq_empty_of_value? (mem_used_iff.mp huse))

theorem fits_of_mem_spellings (hinv : inv.WellFormed) {spelling : Spelling} {level : Level}
    (h : spelling ∈ inv.spellings) (hlevel : spelling.opt ∈ level.options) :
    spelling.Fits level := by
  obtain ⟨⟨opt, value⟩, huse, rfl⟩ := List.mem_map.mp h
  have hvalue : inv.value? opt = some value := mem_used_iff.mp huse
  rw [Spelling.opt_single] at hlevel
  unfold Spelling.single
  split
  · next htakes =>
    refine ⟨hlevel, htakes, ?_⟩
    rintro hpath rfl
    cases opt <;> cases hpath
    · exact hinv.config_ne hvalue
    · exact hinv.logFile_ne hvalue
  · next htakes =>
    refine ⟨hlevel, Bool.eq_false_iff.mpr htakes, ?_, ?_⟩
    · rintro rfl
      cases hvalue
    · rintro rfl
      cases hvalue

end

end Invocation

/-! ## Lines -/

/-- A way to write an invocation down: the options in front of the command, and the items behind it.
The options may come in any order, the positional arguments may not. -/
structure Arrangement (inv : Invocation) where
  before : List Spelling
  items : List Item
  before_root : ∀ spelling ∈ before, spelling.opt ∈ Level.root.options
  perm : (before ++ Item.spellings items).Perm inv.spellings
  positionals_eq : Item.positionals items = inv.command.positionals
  no_separator : Item.separator ∉ items

namespace Arrangement

def arguments {inv : Invocation} (line : Arrangement inv) : List String :=
  line.before.flatMap Spelling.arguments ++
    inv.command.word :: line.items.flatMap Item.arguments

section

variable {inv : Invocation} (line : Arrangement inv)

theorem used_perm :
    (Item.used (line.before.map .option) ++ Item.used line.items).Perm inv.used := by
  rw [Item.used_eq_map_use, Item.used_eq_map_use, Item.spellings_map_option, ← List.map_append,
    ← inv.map_use_spellings]
  exact line.perm.map Spelling.use

theorem nodup_append : ((Item.used (line.before.map .option) ++ Item.used line.items).map
    Prod.fst).Nodup :=
  (line.used_perm.map Prod.fst).nodup_iff.mpr inv.nodup_used

theorem nodup_before : ((Item.used (line.before.map .option)).map Prod.fst).Nodup := by
  have hnodup := line.nodup_append
  rw [List.map_append] at hnodup
  exact List.Nodup.of_append_left hnodup

theorem nodup_items : ((Item.used line.items).map Prod.fst).Nodup := by
  have hnodup := line.nodup_append
  rw [List.map_append] at hnodup
  exact List.Nodup.of_append_right hnodup

/-- Wherever an option stands, its value is found. -/
theorem lookup_used (opt : Opt) :
    ((Item.used line.items).lookup opt).or ((Item.used (line.before.map .option)).lookup opt) =
      inv.value? opt := by
  rw [← List.lookup_append, ← inv.lookup_used]
  exact lookup_eq_of_perm (List.perm_append_comm.trans line.used_perm) inv.nodup_used opt

end

section

variable {inv : Invocation} (line : Arrangement inv) (hinv : inv.WellFormed)

include hinv

theorem before_fit : ∀ spelling ∈ line.before, spelling.Fits .root := by
  intro spelling hspelling
  exact Invocation.fits_of_mem_spellings hinv
    (line.perm.subset (List.mem_append_left _ hspelling)) (line.before_root spelling hspelling)

theorem items_fit : Item.Fit inv.command.level false line.items := by
  apply Item.fit_of_forall
  intro item hitem
  cases item with
  | option spelling =>
      have hspelling : spelling ∈ inv.spellings := line.perm.subset
        (List.mem_append_right _ (List.mem_filterMap.mpr ⟨_, hitem, rfl⟩))
      obtain ⟨⟨opt, value⟩, huse, rfl⟩ := List.mem_map.mp hspelling
      have hlevel : (Spelling.single opt value).opt ∈ inv.command.level.options := by
        rw [Spelling.opt_single]
        exact Invocation.mem_options_of_value? (Invocation.mem_used_iff.mp huse)
      exact ⟨⟨rfl, Invocation.fits_of_mem_spellings hinv hspelling hlevel⟩, nofun⟩
  | positional arg =>
      have harg : arg ∈ inv.command.positionals := by
        rw [← line.positionals_eq]
        exact List.mem_filterMap.mpr ⟨_, hitem, rfl⟩
      have hlevel : inv.command.level = .eval := by
        cases hcommand : inv.command with
        | eval cmd => rfl
        | list cmd =>
            rw [hcommand] at harg
            cases harg
      exact ⟨⟨hlevel, fun _ => hinv.head_ne arg harg⟩, nofun⟩
  | separator => exact absurd hitem line.no_separator

/-- An option that only the command has is used behind it. -/
theorem lookup_used_items {opt : Opt} (hopt : opt ∉ Level.root.options) :
    (Item.used line.items).lookup opt = inv.value? opt := by
  rw [← line.lookup_used opt, Item.lookup_used_map_option (line.before_fit hinv) hopt,
    Option.or_none]

end

def evalLine {inv : Invocation} (line : Arrangement inv) : EvalLine := ⟨line.before, line.items⟩

section

variable {env : Environment} (henv : ∀ opt, ambient? env opt ≠ some "")
  {config? logFile? : Option String} {verbose : Bool}

include henv

theorem exists_readCommand_eval_eq {cmd : EvalCommand}
    (line : Arrangement ⟨config?, logFile?, verbose, .eval cmd⟩)
    (hinv : Invocation.WellFormed ⟨config?, logFile?, verbose, .eval cmd⟩) :
    ∃ scan : Scan, scan.options = Item.used line.items ∧
      readCommand env .eval (line.items.flatMap Item.arguments) = .ok (scan, .eval cmd) := by
  have hline : line.evalLine.WellFormed env :=
    ⟨line.before_fit hinv, line.items_fit hinv, line.nodup_before, line.nodup_items,
      fun opt hempty => absurd hempty (henv opt)⟩
  have hpairs : Scan.readAssignments (cmd.attributes.map fun pair => pair.1 ++ "=" ++ pair.2) =
      .ok cmd.attributes := by
    apply Scan.readAssignments_eq_ok
    rw [List.forall₂_map_left_iff, List.forall₂_same]
    exact hinv.assignments
  have huses (opt : Opt) : line.evalLine.uses opt =
      (Invocation.value? ⟨config?, logFile?, verbose, .eval cmd⟩ opt).isSome :=
    congrArg Option.isSome (line.lookup_used opt)
  have hread := EvalLine.readCommand_eq hline line.positionals_eq
  rw [hpairs, (huses .json).trans (isSome_flag? cmd.json),
    (huses .strict).trans (isSome_flag? cmd.strict)] at hread
  exact ⟨line.evalLine.settled cmd.category cmd.name cmd.attributes, rfl, hread⟩

theorem exists_readCommand_list_eq {cmd : ListCommand}
    (line : Arrangement ⟨config?, logFile?, verbose, .list cmd⟩)
    (hinv : Invocation.WellFormed ⟨config?, logFile?, verbose, .list cmd⟩) :
    ∃ scan : Scan, scan.options = Item.used line.items ∧
      readCommand env .list (line.items.flatMap Item.arguments) = .ok (scan, .list cmd) := by
  have hfit : Item.Fit .list false line.items := line.items_fit hinv
  obtain ⟨settled, hoptions, hsettled⟩ : ∃ settled : Scan,
      settled.options = Item.used line.items ∧
        (Scan.behind .list (line.items.flatMap Item.arguments) >>= finish env) = .ok settled := by
    refine ⟨{ Scan.start with
      options := Item.used line.items
      afterSeparator := line.items.foldl Item.closes false }, rfl, ?_⟩
    rw [Scan.bind_finish_eq fun _ _ opt hempty => absurd hempty (henv opt),
      Scan.behind_eq hfit line.nodup_items, line.positionals_eq]
    rfl
  have hvalue {opt : Opt} (hopt : opt ∉ Level.root.options) : settled.value? opt =
      Invocation.value? ⟨config?, logFile?, verbose, .list cmd⟩ opt := by
    rw [Scan.value?, hoptions, line.lookup_used_items hinv hopt]
  have hcommand : listCommand settled = .list cmd := by
    have hjson : settled.uses .json = cmd.json :=
      (congrArg Option.isSome (hvalue (by decide))).trans (isSome_flag? cmd.json)
    rw [listCommand, hvalue (by decide), hjson]
    rfl
  refine ⟨settled, hoptions, ?_⟩
  calc readCommand env .list (line.items.flatMap Item.arguments)
    _ = (Scan.behind .list (line.items.flatMap Item.arguments) >>= finish env) >>= fun scan =>
          pure (scan, listCommand scan) := (bind_assoc _ _ _).symm
    _ = .ok (settled, .list cmd) := by
        rw [hsettled, ← hcommand]
        rfl

end

/-- However an invocation is written down, it is read as it is, with its paths from the environment
where it has none. -/
theorem parse_arguments_eq_ok {env : Environment} {inv : Invocation} (line : Arrangement inv)
    (henv : ∀ opt, ambient? env opt ≠ some "") (hinv : inv.WellFormed) :
    parse env line.arguments = .ok { inv with
      config? := inv.config?.or env.configFile?
      logFile? := inv.logFile?.or env.logFile? } := by
  -- The two commands differ behind their names only.
  obtain ⟨behind, hbehind, hread⟩ : ∃ scan : Scan, scan.options = Item.used line.items ∧
      readCommand env inv.command.keyword (line.items.flatMap Item.arguments) =
        .ok (scan, inv.command) := by
    obtain ⟨config?, logFile?, verbose, command⟩ := inv
    cases command with
    | eval cmd => exact exists_readCommand_eval_eq henv line hinv
    | list cmd => exact exists_readCommand_list_eq henv line hinv
  obtain ⟨before, hbefore, hparse⟩ := Scan.exists_parse_eq (line.before_fit hinv)
    line.nodup_before (fun opt hempty => absurd hempty (henv opt)) inv.command.ofName?_word
    (line.items.flatMap Item.arguments)
  have hvalue (opt : Opt) : (behind.value? opt).or (before.value? opt) = inv.value? opt := by
    rw [← line.lookup_used opt, Scan.value?, Scan.value?, hbehind, hbefore]
  have hpath (opt : Opt) :
      pathOf env before behind opt = (inv.value? opt).or (ambient? env opt) := by
    rw [pathOf, hvalue]
  have hverbose : (before.uses .verbose || behind.uses .verbose) = inv.verbose := by
    rw [Bool.or_comm, Scan.uses, Scan.uses, ← Option.isSome_or]
    exact (congrArg Option.isSome (hvalue .verbose)).trans (isSome_flag? inv.verbose)
  rw [arguments, hparse, hread]
  simp only [Except.map, hpath, hverbose]
  rfl

end Arrangement

/-- A verbose division that is reported as JSON. -/
def division : Invocation where
  config? := some "a.toml"
  logFile? := none
  verbose := true
  command := .eval ⟨"Misc", "div", [("op1", "7"), ("op2", "2=")], true, false⟩

def listing : Invocation where
  config? := none
  logFile? := some "run.log"
  verbose := false
  command := .list ⟨some "Misc", true⟩

namespace Arrangement

def divisionInFront : Arrangement division where
  before := [.flag .verbose, .joined .config "a.toml"]
  items := [.option (.flag .json), .positional "Misc", .positional "div", .positional "op1=7",
    .positional "op2=2="]
  before_root := by decide
  perm := by decide
  positionals_eq := by decide
  no_separator := by decide

def divisionScattered : Arrangement division where
  before := []
  items := [.positional "Misc", .option (.joined .config "a.toml"), .positional "div",
    .positional "op1=7", .option (.flag .json), .positional "op2=2=", .option (.flag .verbose)]
  before_root := by decide
  perm := by decide
  positionals_eq := by decide
  no_separator := by decide

def listingAround : Arrangement listing where
  before := [.joined .logFile "run.log"]
  items := [.option (.flag .json), .option (.joined .category "Misc")]
  before_root := by decide
  perm := by decide
  positionals_eq := by decide
  no_separator := by decide

theorem parse_arguments_eq_ok_division :
    let env : Environment := { Environment.empty with
      configFile? := some "b.toml"
      logFile? := some "all.log" }
    divisionInFront.arguments =
      ["--verbose", "--config=a.toml", "eval", "--json", "Misc", "div", "op1=7", "op2=2="] ∧
    divisionScattered.arguments =
      ["eval", "Misc", "--config=a.toml", "div", "op1=7", "--json", "op2=2=", "--verbose"] ∧
    listingAround.arguments = ["--log-file=run.log", "list", "--json", "--category=Misc"] ∧
    (∀ opt, ambient? env opt ≠ some "") ∧ division.WellFormed ∧ listing.WellFormed ∧
    parse env divisionInFront.arguments = .ok { division with logFile? := some "all.log" } ∧
    parse env divisionScattered.arguments = .ok { division with logFile? := some "all.log" } ∧
    parse env listingAround.arguments = .ok { listing with config? := some "b.toml" } := by
  intro env
  have henv (opt : Opt) : ambient? env opt ≠ some "" := by
    cases opt <;> decide
  have hdivision : division.WellFormed := by
    refine ⟨by decide, by decide, by decide, ?_⟩
    intro pair hpair
    rcases List.mem_pair.mp hpair with rfl | rfl <;> exact ⟨rfl, by decide, by decide⟩
  have hlisting : listing.WellFormed :=
    ⟨by decide, by decide, by decide, fun _ hpair => absurd hpair List.not_mem_nil⟩
  refine ⟨by decide, by decide, by decide, henv, hdivision, hlisting, ?_, ?_, ?_⟩
  · exact parse_arguments_eq_ok divisionInFront henv hdivision
  · exact parse_arguments_eq_ok divisionScattered henv hdivision
  · exact parse_arguments_eq_ok listingAround henv hlisting

end Arrangement

end PropertyMacros.CommandLine
