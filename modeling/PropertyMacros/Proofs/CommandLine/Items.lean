import PropertyMacros.CommandLine.Invocation
import PropertyMacros.Proofs.CommandLine.Assignment
import PropertyMacros.Proofs.CommandLine.Spelling

/-!
Reading a whole level. Its arguments are read as if each of them were looked at when it comes in, so
that the result does not depend on where the options stand between the others.
-/

namespace PropertyMacros.CommandLine

inductive Item where
  | option (spelling : Spelling)
  | positional (arg : String)
  | separator
  deriving DecidableEq, Repr

namespace Item

def arguments : Item → List String
  | option spelling => spelling.arguments
  | positional arg => [arg]
  | separator => ["--"]

def used? : Item → Option (Opt × String)
  | option spelling => some (spelling.opt, spelling.value)
  | _ => none

def positional? : Item → Option String
  | positional arg => some arg
  | _ => none

/-- Whether the separator has come in with the item, or before it. -/
def closes (after : Bool) : Item → Bool
  | separator => true
  | _ => after

/-- The item can come in at the level, before the separator or after it. -/
def Fits (level : Level) (after : Bool) : Item → Prop
  | option spelling => after = false ∧ spelling.Fits level
  | positional arg => level = .eval ∧ (after = false → arg.toList.head? ≠ some '-')
  | separator => after = false

instance (level : Level) (after : Bool) : DecidablePred (Fits level after)
  | option _ => inferInstanceAs (Decidable (_ ∧ _))
  | positional _ => inferInstanceAs (Decidable (_ ∧ _))
  | separator => inferInstanceAs (Decidable (_ = _))

/-- The items can come in one after the other. -/
def Fit (level : Level) : Bool → List Item → Prop
  | _, [] => True
  | after, item :: items => item.Fits level after ∧ Fit level (item.closes after) items

instance decidableFit (level : Level) :
    (after : Bool) → (items : List Item) → Decidable (Fit level after items)
  | _, [] => inferInstanceAs (Decidable True)
  | after, item :: items =>
    let _ := decidableFit level (item.closes after) items
    inferInstanceAs (Decidable (_ ∧ _))

/-- The options among items, with their values. -/
def used (items : List Item) : List (Opt × String) := items.filterMap used?

def positionals (items : List Item) : List String := items.filterMap positional?

@[simp] theorem used_option_cons (spelling : Spelling) (items : List Item) :
    used (option spelling :: items) = (spelling.opt, spelling.value) :: used items := rfl

@[simp] theorem used_positional_cons (arg : String) (items : List Item) :
    used (positional arg :: items) = used items := rfl

@[simp] theorem positionals_positional_cons (arg : String) (items : List Item) :
    positionals (positional arg :: items) = arg :: positionals items := rfl

theorem flatMap_arguments_map_option (spellings : List Spelling) :
    (spellings.map option).flatMap arguments = spellings.flatMap Spelling.arguments :=
  List.flatMap_map option arguments spellings

theorem positionals_map_option (spellings : List Spelling) :
    positionals (spellings.map option) = [] := by
  rw [positionals, List.filterMap_map]
  exact List.filterMap_eq_nil_iff.mpr fun _ _ => rfl

theorem value_ne_of_fit {level : Level} {after : Bool} {items : List Item}
    (h : Fit level after items) {use : Opt × String} (hmem : use ∈ used items)
    (hpath : use.1.isPath = true) : use.2 ≠ "" := by
  induction items generalizing after with
  | nil => cases hmem
  | cons item items ih =>
      obtain ⟨hitem, hitems⟩ := h
      cases item with
      | option spelling =>
          rw [used_option_cons, List.mem_cons] at hmem
          rcases hmem with rfl | hmem
          · exact hitem.2.value_ne_of_isPath hpath
          · exact ih hitems hmem
      | positional arg => exact ih hitems hmem
      | separator => exact ih hitems hmem

/-- Without a separator, items can come in if each of them can. -/
theorem fit_of_forall {level : Level} {items : List Item}
    (h : ∀ item ∈ items, item.Fits level false ∧ item ≠ separator) : Fit level false items := by
  induction items with
  | nil => trivial
  | cons item items ih =>
      obtain ⟨⟨hfits, hne⟩, hitems⟩ := List.forall_mem_cons.mp h
      have hcloses : item.closes false = false := by
        cases item with
        | option spelling => rfl
        | positional arg => rfl
        | separator => exact absurd rfl hne
      refine ⟨hfits, ?_⟩
      rw [hcloses]
      exact ih hitems

theorem fit_map_option {level : Level} {spellings : List Spelling}
    (h : ∀ spelling ∈ spellings, spelling.Fits level) :
    Fit level false (spellings.map option) := by
  apply fit_of_forall
  intro item hitem
  obtain ⟨spelling, hspelling, rfl⟩ := List.mem_map.mp hitem
  exact ⟨⟨rfl, h spelling hspelling⟩, nofun⟩

/-- Only the options of a level are used at it. -/
theorem lookup_used_map_option {level : Level} {spellings : List Spelling}
    (h : ∀ spelling ∈ spellings, spelling.Fits level) {opt : Opt} (hopt : opt ∉ level.options) :
    (used (spellings.map option)).lookup opt = none := by
  rw [List.lookup_eq_none_iff]
  intro use hmem
  obtain ⟨item, hitem, huse⟩ := List.mem_filterMap.mp hmem
  obtain ⟨spelling, hspelling, rfl⟩ := List.mem_map.mp hitem
  cases huse
  rw [bne_iff_ne]
  rintro rfl
  exact hopt (h spelling hspelling).mem_options

end Item

namespace Scan

/-- Takes an argument that is no option, and looks at it at once. -/
def accept (scan : Scan) (arg : String) : Except Stop Scan :=
  if scan.names.length < 2 then .ok { scan with names := scan.names ++ [arg] }
  else (readAssignments [arg]).map fun pairs =>
    { scan with assignments := scan.assignments ++ pairs }

def apply (scan : Scan) : Item → Except Stop Scan
  | .option spelling => scan.record spelling.opt spelling.value
  | .positional arg => scan.accept arg
  | .separator => .ok { scan with afterSeparator := true }

theorem accept_of_length_lt {scan : Scan} (arg : String) (h : scan.names.length < 2) :
    scan.accept arg = .ok { scan with names := scan.names ++ [arg] } :=
  if_pos h

theorem accept_of_le_length {scan : Scan} (arg : String) (h : 2 ≤ scan.names.length) :
    scan.accept arg = (readAssignments [arg]).map fun pairs =>
      { scan with assignments := scan.assignments ++ pairs } :=
  if_neg (Nat.not_lt.mpr h)

theorem usePlain_of_length_lt {scan : Scan} (arg : String) (h : scan.names.length < 2) :
    scan.usePlain .eval arg =
      scan.resolve.map fun settled => { settled with names := settled.names ++ [arg] } := by
  rw [usePlain, if_pos h]
  rfl

theorem usePlain_of_le_length {scan : Scan} (arg : String) (h : 2 ≤ scan.names.length) :
    (∃ args, scan.pending = .assignments args ∧
      scan.usePlain .eval arg = .ok { scan with pending := .assignments (args ++ [arg]) }) ∨
    scan.usePlain .eval arg =
      scan.resolve.map fun settled => { settled with pending := .assignments [arg] } := by
  rw [usePlain, if_neg (Nat.not_lt.mpr h)]
  split
  · exact .inl ⟨_, ‹_›, rfl⟩
  · exact .inr rfl

theorem resolve_assignments (scan : Scan) (args : List String) :
    resolve { scan with pending := .assignments args } = (readAssignments args).map fun pairs =>
      { scan with pending := .nothing, assignments := scan.assignments ++ pairs } := rfl

theorem resolve_assignments_concat {scan : Scan} (args : List String) (arg : String)
    (h : 2 ≤ scan.names.length) :
    resolve { scan with pending := .assignments (args ++ [arg]) } =
      resolve { scan with pending := .assignments args } >>= (·.accept arg) := by
  rw [resolve_assignments, resolve_assignments, readAssignments_append]
  cases readAssignments args with
  | error stop => rfl
  | ok pairs =>
      refine Eq.trans ?_ (accept_of_le_length arg (by exact h)).symm
      cases readAssignments [arg] <;> simp [Except.bind, Except.map]

theorem resolve_afterSeparator (scan : Scan) :
    resolve { scan with afterSeparator := true } =
      scan.resolve >>= fun settled => .ok { settled with afterSeparator := true } := by
  obtain ⟨options, names, assignments, pending, afterSeparator⟩ := scan
  cases pending with
  | nothing => rfl
  | value opt value? =>
      cases value? with
      | none => rfl
      | some value =>
          simp only [resolve, record, uses]
          split
          · rfl
          · split <;> rfl
  | assignments args =>
      simp only [resolve]
      cases readAssignments args <;> rfl

/-- Putting off an argument that is no option comes to the same once the scan is settled. -/
theorem usePlain_bind_resolve (scan : Scan) (arg : String) :
    (scan.usePlain .eval arg >>= resolve) = scan.resolve >>= (·.accept arg) := by
  rcases Nat.lt_or_ge scan.names.length 2 with hnames | hnames
  · rw [usePlain_of_length_lt arg hnames]
    cases hsettled : scan.resolve with
    | error stop => rfl
    | ok settled =>
        obtain ⟨hpending, hsame, -⟩ := of_resolve_eq_ok hsettled
        refine Eq.trans ?_ (accept_of_length_lt arg (hsame ▸ hnames)).symm
        exact resolve_of_pending_eq_nothing hpending
  · rcases usePlain_of_le_length arg hnames with ⟨args, hpending, hplain⟩ | hplain
    · have hscan : scan = { scan with pending := .assignments args } := by
        rw [← hpending]
      rw [hplain]
      exact (resolve_assignments_concat args arg hnames).trans
        (congrArg (resolve · >>= (·.accept arg)) hscan.symm)
    · rw [hplain]
      cases hsettled : scan.resolve with
      | error stop => rfl
      | ok settled =>
          obtain ⟨hpending, hsame, -⟩ := of_resolve_eq_ok hsettled
          change resolve { settled with pending := .assignments [arg] } = settled.accept arg
          rw [accept_of_le_length arg (hsame ▸ hnames), resolve_assignments, ← hpending]

theorem ready_of_usePlain {scan next : Scan} {after : Bool} {arg : String}
    (hscan : scan.Ready after) (h : scan.usePlain .eval arg = .ok next) : next.Ready after := by
  rcases Nat.lt_or_ge scan.names.length 2 with hnames | hnames
  · rw [usePlain_of_length_lt arg hnames] at h
    refine hscan.of_resolve_map ?_ ?_ h
    · intro settled
      rfl
    · intro settled opt hpending
      simp [hpending]
  · rcases usePlain_of_le_length arg hnames with ⟨args, -, hplain⟩ | hplain
    · rw [hplain] at h
      cases h
      exact ⟨hscan.afterSeparator, fun _ => nofun⟩
    · rw [hplain] at h
      refine hscan.of_resolve_map ?_ ?_ h
      · intro settled
        rfl
      · intro settled opt _
        nofun

section

variable {level : Level} {scan : Scan} {after : Bool} (hscan : scan.Ready after)

include hscan

theorem step_positional {arg : String} (h : (Item.positional arg).Fits .eval after) :
    scan.step .eval arg = scan.usePlain .eval arg := by
  unfold step
  rw [hscan.afterSeparator]
  split
  · rfl
  · next hafter =>
      rw [Token.ofArg_of_head?_ne (h.2 (Bool.eq_false_iff.mpr hafter))]
      dsimp only
      split
      · exact absurd ‹_› (hscan.not_awaiting _)
      · rfl

theorem step_separator (h : after = false) :
    scan.step level "--" = .ok { scan with afterSeparator := true } := by
  rw [step, hscan.afterSeparator, h]
  rfl

/-- An item that has come in and been settled has been looked at behind all others. -/
theorem foldlM_item_bind_resolve {item : Item} (h : item.Fits level after) :
    (item.arguments.foldlM (step level) scan >>= resolve) = scan.resolve >>= (·.apply item) := by
  cases item with
  | option spelling =>
      obtain ⟨rfl, hfits⟩ := h
      exact foldlM_arguments_bind_resolve hscan hfits
  | positional arg =>
      obtain ⟨rfl, hplain⟩ := h
      rw [Item.arguments, List.foldlM_cons, step_positional hscan ⟨rfl, hplain⟩]
      exact (congrArg (· >>= resolve) (bind_pure _)).trans (scan.usePlain_bind_resolve arg)
  | separator =>
      rw [Item.arguments, List.foldlM_cons, step_separator hscan h]
      exact scan.resolve_afterSeparator

theorem ready_of_foldlM_item {item : Item} {next : Scan} (h : item.Fits level after)
    (hnext : item.arguments.foldlM (step level) scan = .ok next) :
    next.Ready (item.closes after) := by
  cases item with
  | option spelling =>
      obtain ⟨rfl, hfits⟩ := h
      exact ready_of_foldlM_arguments hscan hfits hnext
  | positional arg =>
      obtain ⟨rfl, hplain⟩ := h
      rw [Item.arguments, List.foldlM_cons, step_positional hscan ⟨rfl, hplain⟩] at hnext
      exact ready_of_usePlain hscan ((bind_pure _).symm.trans hnext)
  | separator =>
      rw [Item.arguments, List.foldlM_cons, step_separator hscan h] at hnext
      cases hnext
      exact ⟨rfl, hscan.not_awaiting⟩

end

/-- Reading items and then settling comes to settling first and looking at each item in turn. -/
theorem foldlM_flatMap_bind_resolve {level : Level} {items : List Item} {scan : Scan}
    {after : Bool} (hscan : scan.Ready after) (h : Item.Fit level after items) :
    ((items.flatMap Item.arguments).foldlM (step level) scan >>= resolve) =
      scan.resolve >>= fun settled => items.foldlM apply settled := by
  induction items generalizing scan after with
  | nil => exact (bind_pure scan.resolve).symm
  | cons item items ih =>
      obtain ⟨hitem, hitems⟩ := h
      calc ((item :: items).flatMap Item.arguments).foldlM (step level) scan >>= resolve
        _ = item.arguments.foldlM (step level) scan >>= fun next =>
              next.resolve >>= fun settled => items.foldlM apply settled := by
            rw [List.flatMap_cons, List.foldlM_append, bind_assoc]
            cases hnext : item.arguments.foldlM (step level) scan with
            | error stop => rfl
            | ok next => exact ih (ready_of_foldlM_item hscan hitem hnext) hitems
        _ = (item.arguments.foldlM (step level) scan >>= resolve) >>= fun settled =>
              items.foldlM apply settled := (bind_assoc _ _ _).symm
        _ = (scan.resolve >>= (·.apply item)) >>= fun settled => items.foldlM apply settled := by
            rw [foldlM_item_bind_resolve hscan hitem]
        _ = scan.resolve >>= fun settled => (item :: items).foldlM apply settled :=
            bind_assoc _ _ _

/-! ## The outcome -/

theorem uses_eq_true_iff {scan : Scan} {opt : Opt} :
    scan.uses opt = true ↔ opt ∈ scan.options.map Prod.fst := by
  rw [uses, List.lookup_isSome_iff, List.mem_map]
  constructor
  · rintro ⟨use, hmem, hopt⟩
    exact ⟨use, hmem, (beq_iff_eq.mp hopt).symm⟩
  · rintro ⟨use, hmem, rfl⟩
    exact ⟨use, hmem, beq_self_eq_true _⟩

theorem record_eq {scan : Scan} {opt : Opt} {value : String}
    (hnew : opt ∉ scan.options.map Prod.fst) (hpath : opt.isPath = true → value ≠ "") :
    scan.record opt value = .ok { scan with options := scan.options ++ [(opt, value)] } := by
  have hunused : scan.uses opt = false :=
    Bool.eq_false_iff.mpr fun hused => hnew (uses_eq_true_iff.mp hused)
  have hvalue : (opt.isPath && value == "") = false := by
    simpa using hpath
  simp [record, hunused, hvalue]

theorem accept_update (scan : Scan) (options : List (Opt × String)) (after : Bool) (arg : String) :
    accept { scan with options := options, afterSeparator := after } arg =
      (scan.accept arg).map fun next =>
        { next with options := options, afterSeparator := after } := by
  unfold accept
  split
  · rfl
  · cases readAssignments [arg] <;> rfl

theorem of_accept_eq_ok {scan next : Scan} {arg : String} (h : scan.accept arg = .ok next) :
    next.options = scan.options ∧ next.afterSeparator = scan.afterSeparator := by
  unfold accept at h
  split at h
  · cases h
    exact ⟨rfl, rfl⟩
  · cases hpairs : readAssignments [arg] with
    | error stop =>
        rw [hpairs] at h
        cases h
    | ok pairs =>
        rw [hpairs] at h
        cases h
        exact ⟨rfl, rfl⟩

/-- Options and other arguments do not get in each other's way. -/
theorem foldlM_apply {items : List Item} {scan : Scan}
    (hnodup : ((scan.options ++ Item.used items).map Prod.fst).Nodup)
    (hpaths : ∀ use ∈ Item.used items, use.1.isPath = true → use.2 ≠ "") :
    items.foldlM apply scan = (Item.positionals items).foldlM accept
      { scan with
        options := scan.options ++ Item.used items
        afterSeparator := items.foldl Item.closes scan.afterSeparator } := by
  induction items generalizing scan with
  | nil => simp [Item.used, Item.positionals]
  | cons item items ih =>
      cases item with
      | option spelling =>
          rw [Item.used_option_cons] at hnodup hpaths ⊢
          obtain ⟨hpath, hpaths⟩ := List.forall_mem_cons.mp hpaths
          have hnew : spelling.opt ∉ scan.options.map Prod.fst := by
            rw [List.map_append, List.map_cons] at hnodup
            intro hmem
            exact (List.nodup_append.mp hnodup).2.2 _ hmem _ List.mem_cons_self rfl
          rw [List.append_cons] at hnodup ⊢
          rw [List.foldlM_cons, apply, record_eq hnew hpath]
          exact ih hnodup hpaths
      | positional arg =>
          rw [Item.used_positional_cons] at hnodup hpaths ⊢
          rw [Item.positionals_positional_cons, List.foldlM_cons, List.foldlM_cons, apply,
            accept_update scan (scan.options ++ Item.used items)]
          cases hnext : scan.accept arg with
          | error stop => rfl
          | ok next =>
              obtain ⟨hoptions, hafter⟩ := of_accept_eq_ok hnext
              rw [← hoptions] at hnodup
              refine (ih hnodup hpaths).trans ?_
              rw [hoptions, hafter]
              rfl
      | separator => exact ih hnodup hpaths

theorem foldlM_accept {args : List String} {scan : Scan} (h : 2 ≤ scan.names.length) :
    args.foldlM accept scan = (readAssignments args).map fun pairs =>
      { scan with assignments := scan.assignments ++ pairs } := by
  induction args generalizing scan with
  | nil =>
      change Except.ok scan = .ok { scan with assignments := scan.assignments ++ [] }
      rw [List.append_nil]
  | cons arg args ih =>
      rw [List.foldlM_cons, accept_of_le_length arg h, readAssignments_cons arg args]
      cases readAssignments [arg] with
      | error stop => rfl
      | ok pairs =>
          refine (ih (by exact h)).trans ?_
          cases readAssignments args <;> simp [Except.bind, Except.map]

/-- What the items of a level come to, once all has been looked at. -/
theorem behind_eq {level : Level} {items : List Item} (hfit : Item.Fit level false items)
    (hnodup : ((Item.used items).map Prod.fst).Nodup) :
    (behind level (items.flatMap Item.arguments) >>= resolve) =
      (Item.positionals items).foldlM accept
        { start with
          options := Item.used items
          afterSeparator := items.foldl Item.closes false } :=
  (foldlM_flatMap_bind_resolve ready_start hfit).trans
    (foldlM_apply hnodup fun _ => Item.value_ne_of_fit hfit)

theorem foldlM_accept_names (scan : Scan) (h : scan.names = []) (category name : String)
    (args : List String) :
    (category :: name :: args).foldlM accept scan = (readAssignments args).map fun pairs =>
      { scan with names := [category, name], assignments := scan.assignments ++ pairs } := by
  have hcategory : scan.accept category = .ok { scan with names := [category] } := by
    rw [accept_of_length_lt category (by simp [h]), h]
    rfl
  have hname : accept { scan with names := [category] } name =
      .ok { scan with names := [category, name] } := rfl
  rw [List.foldlM_cons, hcategory]
  change (name :: args).foldlM accept { scan with names := [category] } = _
  rw [List.foldlM_cons, hname]
  exact foldlM_accept (Nat.le_refl 2)

end Scan

end PropertyMacros.CommandLine
