import PropertyMacros.Proofs.Command.ListingLines
import PropertyMacros.Proofs.Namespace.Registry
import PropertyMacros.Proofs.Operator.ErrorText

/-!
The text of the command `list`, which tells the defaults of every listed attribute, with colour as
well as without.
-/

namespace PropertyMacros

open Text

/-! ## Reading the defaults -/

theorem Operator.toList_ne_nil_of_mem_names (op : Operator) :
    ∀ name ∈ op.schema.names, name.toList ≠ [] := by
  cases op <;> decide

/-- Behind the name of an attribute an equals sign announces its default. -/
theorem AttributeInfo.describe_append_inj {name : String} {x y : Option String}
    {rest rest' : List Char} (hrest : rest.head? ≠ some '=') (hrest' : rest'.head? ≠ some '=')
    (h : describe .plain ⟨name, x⟩ ++ rest = describe .plain ⟨name, y⟩ ++ rest') :
    x = y ∧ rest = rest' := by
  cases x with
  | none =>
      rw [describe_plain_none] at h
      cases y with
      | none =>
          rw [describe_plain_none, List.append_cancel_left_eq] at h
          exact ⟨rfl, h⟩
      | some v =>
          rw [describe_plain_some, List.append_assoc, List.append_cancel_left_eq] at h
          exact absurd (congrArg List.head? h) hrest
  | some u =>
      rw [describe_plain_some, List.append_assoc] at h
      cases y with
      | none =>
          rw [describe_plain_none, List.append_cancel_left_eq] at h
          exact absurd (congrArg List.head? h.symm) hrest'
      | some v =>
          rw [describe_plain_some, List.append_assoc, List.append_cancel_left_eq] at h
          obtain ⟨htext, rfl⟩ := isPrefixCode_quote (List.cons.inj h).2
          exact ⟨congrArg some (String.toList_injective htext), rfl⟩

theorem AttributeInfo.exists_describe_plain (a : AttributeInfo) :
    ∃ behind, a.describe .plain = a.name.toList ++ behind := by
  obtain ⟨name, default?⟩ := a
  cases default? with
  | none => exact ⟨[], by rw [describe_plain_none, List.append_nil]⟩
  | some value => exact ⟨_, describe_plain_some name value⟩

theorem AttributeInfo.eq_of_intercalate_eq {names : List String} {d d' : String → Option String}
    (h : List.intercalate [',', ' '] (names.map fun name => describe .plain ⟨name, d name⟩) =
      List.intercalate [',', ' '] (names.map fun name => describe .plain ⟨name, d' name⟩)) :
    ∀ name ∈ names, d name = d' name := by
  induction names with
  | nil => exact fun name hname => absurd hname List.not_mem_nil
  | cons name names ih =>
      cases names with
      | nil =>
          simp only [List.map_cons, List.map_nil, List.intercalate_singleton] at h
          have hend : ([] : List Char).head? ≠ some '=' := by decide
          rw [← List.append_nil (describe .plain ⟨name, d name⟩),
            ← List.append_nil (describe .plain ⟨name, d' name⟩)] at h
          simpa using (describe_append_inj hend hend h).1
      | cons name' names =>
          simp only [List.map_cons, List.intercalate_cons_cons, List.append_assoc,
            List.cons_append, List.nil_append] at h ih
          have hcomma (rest : List Char) : (',' :: rest).head? ≠ some '=' :=
            fun heq => absurd (Option.some.inj heq) (by decide)
          obtain ⟨hname, hrest⟩ := describe_append_inj (hcomma _) (hcomma _) h
          rw [List.forall_mem_cons]
          exact ⟨hname, ih (List.cons.inj (List.cons.inj hrest).2).2⟩

namespace PropertyInfo

/-- The attributes of a property as they are listed without colour. -/
def attributesText (p : Property) : List Char :=
  List.intercalate [',', ' '] <| p.schema.names.map fun name =>
    AttributeInfo.describe .plain ⟨name, p.attributes.default? name⟩

theorem head?_attributesText (p : Property) : (attributesText p).head? ≠ some ' ' := by
  have hne : ∀ name ∈ p.schema.names, name.toList ≠ [] := p.operator.toList_ne_nil_of_mem_names
  rw [attributesText]
  cases hnames : p.schema.names with
  | nil => exact fun heq => nomatch heq
  | cons name names =>
      have hmem : name ∈ p.schema.names := hnames ▸ List.mem_cons_self
      obtain ⟨c, text, hname⟩ := List.exists_cons_of_ne_nil (hne name hmem)
      have hblank := Operator.blank_notMem_of_mem_names hmem
      rw [hname, List.mem_cons, not_or] at hblank
      have hhead (rest : List Char) : (name.toList ++ rest).head? ≠ some ' ' := by
        rw [hname]
        exact fun heq => hblank.1 (Option.some.inj heq).symm
      obtain ⟨behind, hbehind⟩ :=
        AttributeInfo.exists_describe_plain ⟨name, p.attributes.default? name⟩
      rw [List.map_cons, hbehind]
      cases names with
      | nil =>
          rw [List.map_nil, List.intercalate_singleton]
          exact hhead _
      | cons name' names =>
          rw [List.map_cons, List.intercalate_cons_cons, List.append_assoc, List.append_assoc]
          exact hhead _

theorem line_ofProperty (p : Property) (width : Nat) :
    ∃ k, (ofProperty p).line .plain width =
      [' ', ' '] ++ (p.name.toList ++ ' ' :: (List.replicate k ' ' ++ attributesText p)) := by
  refine ⟨width - p.name.length, ?_⟩
  have hattributes : (ofProperty p).attributes.map (AttributeInfo.describe .plain) =
      p.schema.names.map fun name =>
        AttributeInfo.describe .plain ⟨name, p.attributes.default? name⟩ := List.map_map
  rw [line_plain, hattributes, List.append_assoc, List.append_assoc, ← List.append_assoc _ [' '],
    ← List.replicate_succ', List.replicate_succ]
  rfl

/-- The text begins where the padding in front of it ends. -/
theorem eq_of_replicate_append_eq {c : Char} {text text' : List Char} (h : text.head? ≠ some c)
    (h' : text'.head? ≠ some c) {k k' : Nat}
    (heq : List.replicate k c ++ text = List.replicate k' c ++ text') : text = text' := by
  induction k generalizing k' with
  | zero =>
      cases k' with
      | zero => exact heq
      | succ k' =>
          have hhead := congrArg List.head? heq
          exact absurd hhead h
  | succ k ih =>
      cases k' with
      | zero =>
          have hhead := congrArg List.head? heq
          exact absurd hhead.symm h'
      | succ k' => exact ih (List.cons.inj heq).2

/-- An entry can be read from its line, whatever the width of the names. -/
theorem eq_of_line_eq {p q : Property} {width width' : Nat}
    (h : (ofProperty p).line .plain width = (ofProperty q).line .plain width') :
    ofProperty p = ofProperty q := by
  obtain ⟨k, hp⟩ := line_ofProperty p width
  obtain ⟨k', hq⟩ := line_ofProperty q width'
  rw [hp, hq, List.append_cancel_left_eq] at h
  have hblank (p : Property) : ' ' ∉ p.name.toList := p.operator.blank_notMem_name
  obtain ⟨hname, hrest⟩ := append_cons_inj (hblank p) (hblank q) h
  have hattributes : attributesText p = attributesText q :=
    eq_of_replicate_append_eq (head?_attributesText p) (head?_attributesText q) hrest
  obtain ⟨op, attrs⟩ := p
  obtain ⟨op', attrs'⟩ := q
  obtain rfl : op = op' := Operator.name_injective (String.toList_injective hname)
  have hdefaults := AttributeInfo.eq_of_intercalate_eq hattributes
  rw [ofProperty, ofProperty, PropertyInfo.mk.injEq]
  refine ⟨rfl, rfl, List.map_congr_left fun name hmem => ?_⟩
  exact congrArg (AttributeInfo.mk name) (hdefaults name hmem)

theorem eq_of_ofProperty_eq {p q : Property} (h : ofProperty p = ofProperty q) :
    p.operator = q.operator ∧
      ∀ attr ∈ q.schema.names, p.attributes.default? attr = q.attributes.default? attr := by
  obtain ⟨op, attrs⟩ := p
  obtain ⟨op', attrs'⟩ := q
  rw [ofProperty, ofProperty, PropertyInfo.mk.injEq] at h
  obtain ⟨-, hname, hattributes⟩ := h
  obtain rfl : op = op' := Operator.name_injective hname
  exact ⟨rfl, fun attr hattr =>
    (AttributeInfo.mk.inj (List.map_inj_left.mp hattributes attr hattr)).2⟩

end PropertyInfo

namespace Listing

/-- The heading of a category is told from a line of an entry. -/
theorem heading_append_inj {p q : PropertyInfo} {width width' : Nat} {new new' : Prop}
    [Decidable new] [Decidable new'] {rest rest' : List (List Char)}
    (h : (if new then [] else heading .plain p.category) ++ (p.line .plain width :: rest) =
      (if new' then [] else heading .plain q.category) ++ (q.line .plain width' :: rest')) :
    p.line .plain width = q.line .plain width' ∧ rest = rest' := by
  simp only [heading_plain] at h
  have hne (info : PropertyInfo) (width : Nat) : info.line .plain width ≠ [] := List.cons_ne_nil _ _
  split at h <;> split at h
  · exact List.cons.inj h
  · exact absurd (List.cons.inj h).1 (hne _ _)
  · exact absurd (List.cons.inj h).1.symm (hne _ _)
  · obtain ⟨-, hrest⟩ := List.cons.inj (List.cons.inj (List.cons.inj h).2).2
    exact List.cons.inj hrest

theorem linesFrom_cons_ne {width : Nat} {current : Option String} (info : PropertyInfo)
    (infos : List PropertyInfo) :
    linesFrom .plain width current (info :: infos) ++ [[]] ≠ [[]] := by
  intro h
  have hlength := congrArg List.length h
  simp only [linesFrom, List.length_append, List.length_cons, List.length_nil] at hlength
  omega

theorem eq_of_linesFrom_eq {ps qs : List Property} {width width' : Nat} {current : Option String}
    (h : linesFrom .plain width current (ps.map .ofProperty) ++ [[]] =
      linesFrom .plain width' current (qs.map .ofProperty) ++ [[]]) :
    ps.map PropertyInfo.ofProperty = qs.map PropertyInfo.ofProperty := by
  induction ps generalizing qs current with
  | nil =>
      cases qs with
      | nil => rfl
      | cons q qs => exact absurd h.symm (linesFrom_cons_ne _ _)
  | cons p ps ih =>
      cases qs with
      | nil => exact absurd h (linesFrom_cons_ne _ _)
      | cons q qs =>
          rw [List.map_cons, List.map_cons, linesFrom, linesFrom, List.append_assoc,
            List.append_assoc] at h
          obtain ⟨hline, hrest⟩ := heading_append_inj h
          have hentry := PropertyInfo.eq_of_line_eq hline
          rw [hentry] at hrest
          rw [List.map_cons, List.map_cons, hentry, ih hrest]

theorem eq_of_toText_eq {ps qs : List Property}
    (h : toText .plain (ps.map .ofProperty) = toText .plain (qs.map .ofProperty)) :
    ps.map PropertyInfo.ofProperty = qs.map PropertyInfo.ofProperty := by
  have hlines := hasLines_toText (PropertyInfo.hasPlainNames_of_mem_map ps)
  rw [h] at hlines
  have hlines' := hasLines_toText (PropertyInfo.hasPlainNames_of_mem_map qs)
  exact eq_of_linesFrom_eq (hlines.unique hlines')

end Listing

/-! ## The command -/

namespace ListCommand

/-- The categories that are listed. -/
def groups (cmd : ListCommand) (ns : Namespace) : List String :=
  match cmd.category? with
  | none => ns.categories
  | some category => [category]

/-- The properties that are listed, one category after the other. -/
def listed (cmd : ListCommand) (ns : Namespace) : List Property :=
  (cmd.groups ns).flatMap ns.propertiesIn

/-- The columns that the longest of the listed names takes up. -/
def nameWidth (cmd : ListCommand) (ns : Namespace) : Nat :=
  Listing.nameWidth ((cmd.listed ns).map .ofProperty)

/-- A listing with one group of lines for each category, which shows the same without styles in
colour, and from which the default of each attribute can be read. -/
structure Prints (cmd : ListCommand) (ns : Namespace) (text : String) : Prop where
  execute_eq : cmd.execute ⟨ns, .ofColor false⟩ = .ok text
  hasLines : Text.HasLines text.toList
    (((cmd.groups ns).flatMap fun c =>
      [[], c.toList ++ [':'], List.replicate 60 '─'] ++ (ns.propertiesIn c).map fun p =>
        (PropertyInfo.ofProperty p).line .plain (cmd.nameWidth ns)) ++ [[]])
  count_eq : text.toList.count '\n' = (cmd.listed ns).length + 3 * (cmd.groups ns).length + 1
  colored : ∃ styled, cmd.execute ⟨ns, .ofColor true⟩ = .ok styled ∧
    Text.withoutSequences styled.toList = text.toList
  lossless : ∀ (config : Config) (ns' : Namespace) (category? : Option String),
    config.buildNamespace = .ok ns' →
    (⟨category?, false⟩ : ListCommand).execute ⟨ns', .ofColor false⟩ = .ok text →
    ∀ p ∈ cmd.listed ns, ∃ p' ∈ (⟨category?, false⟩ : ListCommand).listed ns',
      ns'.property? p.category p.name = some p' ∧ p'.operator = p.operator ∧
        ∀ attr ∈ p.schema.names, p'.attributes.default? attr = p.attributes.default? attr

theorem collect_eq_ok_iff {cmd : ListCommand} {ns : Namespace} {infos : List PropertyInfo} :
    cmd.collect ns = .ok infos ↔
      (∀ c, cmd.category? = some c → ns.propertiesIn c ≠ []) ∧
        infos = (cmd.listed ns).map .ofProperty := by
  obtain ⟨category?, json⟩ := cmd
  cases category? with
  | none =>
      rw [collect, ns.properties_eq_flatMap, Except.ok.injEq]
      simp only [reduceCtorEq, false_imp_iff, implies_true, true_and]
      exact eq_comm
  | some category =>
      have hlisted : (⟨some category, json⟩ : ListCommand).listed ns = ns.propertiesIn category :=
        List.append_nil _
      rw [hlisted, collect]
      simp only [Option.some.injEq, forall_eq']
      split
      · next hnil => simp [hnil]
      · next hne =>
        rw [Except.ok.injEq]
        exact ⟨fun h => ⟨hne, h.symm⟩, fun h => h.2.symm⟩

/-- The text that is printed of the entries. -/
def printed (cmd : ListCommand) (theme : Theme) (infos : List PropertyInfo) : String :=
  if cmd.json then (Json.array (infos.map PropertyInfo.toJson)).pretty ++ "\n"
  else Listing.toText theme infos

theorem execute_eq (cmd : ListCommand) (ns : Namespace) (theme : Theme) :
    cmd.execute ⟨ns, theme⟩ = cmd.printed theme <$> cmd.collect ns := by
  unfold execute printed
  cases cmd.collect ns with
  | error error => rfl
  | ok infos => cases cmd.json <;> rfl

theorem execute_eq_ok_iff {cmd : ListCommand} {ns : Namespace} {theme : Theme} {text : String} :
    cmd.execute ⟨ns, theme⟩ = .ok text ↔
      (∀ c, cmd.category? = some c → ns.propertiesIn c ≠ []) ∧
        text = cmd.printed theme ((cmd.listed ns).map .ofProperty) := by
  rw [execute_eq]
  constructor
  · intro h
    cases hcollect : cmd.collect ns with
    | error error => rw [hcollect] at h; cases h
    | ok infos =>
        rw [hcollect] at h
        obtain ⟨hknown, rfl⟩ := collect_eq_ok_iff.mp hcollect
        exact ⟨hknown, (Except.ok.inj h).symm⟩
  · rintro ⟨hknown, rfl⟩
    rw [collect_eq_ok_iff.mpr ⟨hknown, rfl⟩]
    rfl

theorem execute_eq_error_iff {cmd : ListCommand} {ns : Namespace} {theme : Theme}
    {error : CommandError} :
    cmd.execute ⟨ns, theme⟩ = .error error ↔ cmd.collect ns = .error error := by
  rw [execute_eq]
  cases cmd.collect ns with
  | error error' => exact ⟨fun h => congrArg _ (Except.error.inj h),
      fun h => congrArg _ (Except.error.inj h)⟩
  | ok infos => exact ⟨nofun, nofun⟩

theorem property?_of_mem_listed {cmd : ListCommand} {ns : Namespace} {p : Property}
    (h : p ∈ cmd.listed ns) (hcatalog : ns.HasCatalog) :
    ns.property? p.category p.name = some p := by
  obtain ⟨c, -, hp⟩ := List.mem_flatMap.mp h
  obtain ⟨n, hp⟩ := Namespace.mem_propertiesIn_iff.mp hp
  obtain ⟨rfl, rfl⟩ := hcatalog.key_eq hp
  exact hp

/-- Where two listings are the same text, a listed property has the same defaults in both. -/
theorem exists_mem_listed_of_toText_eq {cmd cmd' : ListCommand} {ns ns' : Namespace}
    (hcatalog : ns'.HasCatalog)
    (h : Listing.toText .plain ((cmd.listed ns).map .ofProperty) =
      Listing.toText .plain ((cmd'.listed ns').map .ofProperty)) {p : Property}
    (hp : p ∈ cmd.listed ns) :
    ∃ p' ∈ cmd'.listed ns', ns'.property? p.category p.name = some p' ∧
      p'.operator = p.operator ∧
        ∀ attr ∈ p.schema.names, p'.attributes.default? attr = p.attributes.default? attr := by
  have hmem : PropertyInfo.ofProperty p ∈ (cmd.listed ns).map .ofProperty := List.mem_map_of_mem hp
  rw [Listing.eq_of_toText_eq h] at hmem
  obtain ⟨p', hp', heq⟩ := List.mem_map.mp hmem
  obtain ⟨hoperator, hdefaults⟩ := PropertyInfo.eq_of_ofProperty_eq heq
  have hkey := property?_of_mem_listed hp' hcatalog
  rw [Property.category, Property.name, hoperator] at hkey
  exact ⟨p', hp', hkey, hoperator, hdefaults⟩

section

variable (cmd : ListCommand) {ns : Namespace} (hproto : ns.IsPrototype)
  (hknown : ∀ c, cmd.category? = some c → c ∈ ns.categories)

include hproto hknown

theorem propertiesIn_ne_nil_of_mem_groups : ∀ c ∈ cmd.groups ns, ns.propertiesIn c ≠ [] := by
  intro c hc
  refine hproto.propertiesIn_ne_nil ?_
  rw [groups] at hc
  split at hc
  · exact hc
  · next hcategory => exact List.mem_singleton.mp hc ▸ hknown _ hcategory

/-- The lines of the listing, group by group. -/
theorem lines_listed (theme : Theme) :
    Listing.lines theme ((cmd.listed ns).map .ofProperty) =
      ((cmd.groups ns).flatMap fun c =>
        Listing.heading theme c ++ (ns.propertiesIn c).map fun p =>
          (PropertyInfo.ofProperty p).line theme (cmd.nameWidth ns)) ++ [[]] := by
  have hnodup : (cmd.groups ns).Nodup := by
    rw [groups]
    split
    · exact ns.groups.nodup_keys
    · exact List.nodup_singleton _
  have hcategory : ∀ c ∈ cmd.groups ns, ∀ info ∈ (ns.propertiesIn c).map PropertyInfo.ofProperty,
      info.category = c := by
    intro c _ info hinfo
    obtain ⟨p, hp, rfl⟩ := List.mem_map.mp hinfo
    exact hproto.hasCatalog.category_of_mem_propertiesIn hp
  have hne : ∀ c ∈ cmd.groups ns, (ns.propertiesIn c).map PropertyInfo.ofProperty ≠ [] :=
    fun c hc hnil =>
      propertiesIn_ne_nil_of_mem_groups cmd hproto hknown c hc (List.map_eq_nil_iff.mp hnil)
  have hflat : (cmd.listed ns).map PropertyInfo.ofProperty =
      (cmd.groups ns).flatMap fun c => (ns.propertiesIn c).map .ofProperty := List.map_flatMap
  rw [Listing.lines]
  change Listing.linesFrom theme (cmd.nameWidth ns) none _ ++ _ = _
  rw [hflat,
    Listing.linesFrom_flatMap hnodup (fun c _ => (Option.some_ne_none c).symm) hne hcategory]
  simp only [List.map_map, Function.comp_def]

end

theorem length_groupLines (ns : Namespace) (categories : List String)
    (line : Property → List Char) :
    (categories.flatMap fun c =>
      Listing.heading .plain c ++ (ns.propertiesIn c).map line).length =
        (categories.flatMap ns.propertiesIn).length + 3 * categories.length := by
  induction categories with
  | nil => rfl
  | cons c categories ih =>
      rw [List.flatMap_cons, List.flatMap_cons, List.length_append, ih, List.length_append,
        List.length_append, List.length_map, Listing.heading_plain]
      simp only [List.length_cons, List.length_nil]
      omega

/-- Whatever is configured, the text of a listing has one line for each property and three for each
category, it tells all defaults, and colour changes nothing in it that is seen without styles. -/
theorem exists_prints_of_buildNamespace {config : Config} {ns : Namespace}
    (h : config.buildNamespace = .ok ns) {category? : Option String}
    (hknown : ∀ c, category? = some c → c ∈ ns.categories) :
    ∃ text, (⟨category?, false⟩ : ListCommand).Prints ns text := by
  have hproto : ns.IsPrototype := .configured h
  let cmd : ListCommand := ⟨category?, false⟩
  have hlisted : ∀ info ∈ (cmd.listed ns).map PropertyInfo.ofProperty, info.HasPlainNames :=
    PropertyInfo.hasPlainNames_of_mem_map _
  have hfound : ∀ c, category? = some c → ns.propertiesIn c ≠ [] :=
    fun c hc => hproto.propertiesIn_ne_nil (hknown c hc)
  have hlines := Listing.hasLines_toText hlisted
  rw [lines_listed cmd hproto hknown] at hlines
  refine ⟨Listing.toText .plain ((cmd.listed ns).map .ofProperty), ?_⟩
  constructor
  case execute_eq => exact execute_eq_ok_iff.mpr ⟨hfound, rfl⟩
  case hasLines =>
    simp only [Listing.heading_plain] at hlines
    exact hlines
  case count_eq =>
    rw [hlines.count_eq, List.length_append, length_groupLines]
    rfl
  case colored =>
    exact ⟨_, execute_eq_ok_iff.mpr ⟨hfound, rfl⟩, Listing.withoutSequences_toText hlisted _⟩
  case lossless =>
    intro config' ns' category?' h' hexecute p hp
    have hcatalog : ns'.HasCatalog := (Namespace.IsPrototype.configured h').hasCatalog
    obtain ⟨-, htext⟩ := execute_eq_ok_iff.mp hexecute
    exact exists_mem_listed_of_toText_eq hcatalog htext hp

/-- A default with a line feed, a quote, a backslash, the start of an escape sequence and a letter
beyond ASCII. -/
theorem exists_prints_of_buildNamespace_unruly :
    let config : Config := ⟨.default, .ofList [("Misc.count", .ofList [("sep", "\n\"\\\x1b[1mé")])]⟩
    let ns := Namespace.builtin.modify "Misc" "count" (·.setDefault "sep" "\n\"\\\x1b[1mé")
    config.buildNamespace = .ok ns ∧
      (∀ c, some "Misc" = some c → c ∈ ns.categories) ∧
      ∃ text lines, (⟨some "Misc", false⟩ : ListCommand).Prints ns text ∧
        Text.HasLines text.toList lines ∧ text.toList.count '\n' = 23 ∧
        "  count          list, sep=\"\\n\\\"\\\\\\u\x7b1b\x7d[1mé\"".toList ∈ lines := by
  intro config ns
  have hbuilt : config.buildNamespace = .ok ns := rfl
  have hknown : ∀ c, some "Misc" = some c → c ∈ ns.categories := by
    rintro _ ⟨⟩
    decide
  obtain ⟨text, hprints⟩ := exists_prints_of_buildNamespace hbuilt hknown
  refine ⟨hbuilt, hknown, text, _, hprints, hprints.hasLines, hprints.count_eq, ?_⟩
  decide +kernel

end ListCommand

end PropertyMacros
