import PropertyMacros.Command.Listing
import PropertyMacros.Proofs.Text.Escaping

/-!
The lines of a listing. Whatever the defaults are, an entry takes up one line, the lines of a
category stand together under one heading, and styles add nothing that is seen without them.
-/

namespace PropertyMacros

open Text

theorem Operator.hasNoControl_names (op : Operator) :
    HasNoControl op.category.toList ∧ HasNoControl op.name.toList ∧
      ∀ name ∈ op.schema.names, HasNoControl name.toList := by
  cases op <;> decide

/-- Categories are named without control characters, and so are properties and attributes. Defaults
may have any. -/
structure PropertyInfo.HasPlainNames (info : PropertyInfo) : Prop where
  category : HasNoControl info.category.toList
  name : HasNoControl info.name.toList
  attributes : ∀ a ∈ info.attributes, HasNoControl a.name.toList

theorem PropertyInfo.hasPlainNames_ofProperty (p : Property) : (ofProperty p).HasPlainNames := by
  obtain ⟨hcategory, hname, hattributes⟩ := p.operator.hasNoControl_names
  refine ⟨hcategory, hname, fun a ha => ?_⟩
  obtain ⟨attr, hattr, rfl⟩ := List.mem_map.mp ha
  exact hattributes attr hattr

theorem PropertyInfo.hasPlainNames_of_mem_map (ps : List Property) :
    ∀ info ∈ ps.map ofProperty, info.HasPlainNames := by
  intro info hinfo
  obtain ⟨p, -, rfl⟩ := List.mem_map.mp hinfo
  exact hasPlainNames_ofProperty p

/-! ## Lines and styles -/

namespace AttributeInfo

theorem describe_plain_none (name : String) : describe .plain ⟨name, none⟩ = name.toList :=
  styled_nil name.toList

theorem describe_plain_some (name value : String) :
    describe .plain ⟨name, some value⟩ = name.toList ++ '=' :: quote value.toList :=
  congrArg (name.toList ++ '=' :: ·) (styled_nil (quote value.toList))

variable {a : AttributeInfo} (h : HasNoControl a.name.toList)

include h

theorem hasNoControl_describe : HasNoControl (a.describe .plain) := by
  obtain ⟨name, default?⟩ := a
  cases default? with
  | none => rwa [describe_plain_none]
  | some value =>
      have hequals : HasNoControl ['='] := by decide
      rw [describe_plain_some]
      exact h.append (hequals.append (hasNoControl_quote value.toList))

theorem shows_describe (theme : Theme) : Shows (a.describe theme) (a.describe .plain) := by
  obtain ⟨name, default?⟩ := a
  cases default? with
  | none =>
      rw [describe_plain_none]
      exact shows_styled theme.required h
  | some value =>
      have hequals : HasNoControl ['='] := by decide
      rw [describe_plain_some]
      exact (Shows.of_hasNoControl h).append
        ((Shows.of_hasNoControl hequals).append (shows_styled _ (hasNoControl_quote value.toList)))

end AttributeInfo

namespace PropertyInfo

theorem line_plain (width : Nat) (info : PropertyInfo) :
    info.line .plain width =
      [' ', ' '] ++ (info.name.toList ++ List.replicate (width - info.name.length) ' ') ++
        ([' '] ++
          List.intercalate [',', ' '] (info.attributes.map (AttributeInfo.describe .plain))) := by
  rw [line]
  exact congrArg (' ' :: ' ' :: · ++ _) (styled_nil _)

variable {info : PropertyInfo} (h : info.HasPlainNames)

include h

theorem hasNoControl_line (width : Nat) : HasNoControl (info.line .plain width) := by
  have hattributes : ∀ text ∈ info.attributes.map (AttributeInfo.describe .plain),
      HasNoControl text := by
    intro text htext
    obtain ⟨a, ha, rfl⟩ := List.mem_map.mp htext
    exact AttributeInfo.hasNoControl_describe (h.attributes a ha)
  have hmargin : HasNoControl [' ', ' '] := by decide
  have hblank : HasNoControl [' '] := by decide
  have hsep : HasNoControl [',', ' '] := by decide
  rw [line_plain]
  exact (hmargin.append (h.name.append (.replicate (by decide) _))).append
    (hblank.append (.intercalate hsep hattributes))

theorem shows_line (theme : Theme) (width : Nat) :
    Shows (info.line theme width) (info.line .plain width) := by
  have hmargin : HasNoControl [' ', ' '] := by decide
  have hblank : HasNoControl [' '] := by decide
  have hsep : HasNoControl [',', ' '] := by decide
  rw [line_plain]
  refine ((Shows.of_hasNoControl hmargin).append (shows_styled theme.key ?_)).append
    ((Shows.of_hasNoControl hblank).append (.intercalate_map hsep fun a ha => ?_))
  · exact h.name.append (.replicate (by decide) _)
  · exact AttributeInfo.shows_describe (h.attributes a ha) theme

end PropertyInfo

namespace Listing

theorem heading_plain (category : String) :
    heading .plain category = [[], category.toList ++ [':'], List.replicate ruleLength '─'] := by
  rw [heading]
  exact congrArg₂ ([[], ·, ·]) (styled_nil _) (styled_nil _)

section

variable {category : String} (h : HasNoControl category.toList)

include h

theorem hasNoControl_of_mem_heading {line : List Char} (hline : line ∈ heading .plain category) :
    HasNoControl line := by
  rw [heading_plain] at hline
  simp only [List.mem_cons, List.not_mem_nil, or_false] at hline
  rcases hline with rfl | rfl | rfl
  · decide
  · exact h.append (by decide)
  · exact .replicate (by decide) ruleLength

theorem shows_heading (theme : Theme) :
    List.Forall₂ Shows (heading theme category) (heading .plain category) := by
  have htitle : HasNoControl (category.toList ++ [':']) := h.append (by decide)
  have hrule : HasNoControl (List.replicate ruleLength '─') := .replicate (by decide) ruleLength
  have hempty : Shows [] [] := .of_notMem List.not_mem_nil
  rw [heading_plain]
  exact .cons hempty (.cons (shows_styled _ htitle) (.cons (shows_styled _ hrule) .nil))

end

section

variable {infos : List PropertyInfo} (h : ∀ info ∈ infos, info.HasPlainNames)

include h

theorem hasNoControl_of_mem_linesFrom {width : Nat} {current : Option String} {line : List Char}
    (hline : line ∈ linesFrom .plain width current infos) : HasNoControl line := by
  induction infos generalizing current with
  | nil => cases hline
  | cons info infos ih =>
      rw [List.forall_mem_cons] at h
      rw [linesFrom, List.mem_append, List.mem_cons] at hline
      rcases hline with hheading | rfl | hrest
      · split at hheading
        · cases hheading
        · exact hasNoControl_of_mem_heading h.1.category hheading
      · exact PropertyInfo.hasNoControl_line h.1 width
      · exact ih h.2 hrest

theorem shows_linesFrom (theme : Theme) (width : Nat) (current : Option String) :
    List.Forall₂ Shows (linesFrom theme width current infos)
      (linesFrom .plain width current infos) := by
  induction infos generalizing current with
  | nil => exact .nil
  | cons info infos ih =>
      rw [List.forall_mem_cons] at h
      have hlines := List.Forall₂.cons (PropertyInfo.shows_line h.1 theme width)
        (ih h.2 (some info.category))
      rw [linesFrom, linesFrom]
      split
      · exact hlines
      · exact List.rel_append (shows_heading h.1.category theme) hlines

theorem hasLines_toText :
    HasLines (toText .plain infos).toList (lines .plain infos) := by
  refine ⟨String.toList_ofList, fun line hline => ?_⟩
  rw [lines, List.mem_append, List.mem_singleton] at hline
  rcases hline with hline | rfl
  · exact (hasNoControl_of_mem_linesFrom h hline).notMem (by decide)
  · exact List.not_mem_nil

/-- Without its styles the coloured text is the plain one. -/
theorem withoutSequences_toText (theme : Theme) :
    withoutSequences (toText theme infos).toList = (toText .plain infos).toList := by
  have hempty : List.Forall₂ Shows [[]] [[]] := .cons (.of_notMem List.not_mem_nil) .nil
  rw [toText, toText, String.toList_ofList, String.toList_ofList]
  exact (Shows.unlines (List.rel_append (shows_linesFrom h theme _ none) hempty)).eq

end

/-! ## Groups -/

theorem linesFrom_append {theme : Theme} {width : Nat} {category : String}
    {infos : List PropertyInfo} (h : ∀ info ∈ infos, info.category = category)
    (rest : List PropertyInfo) :
    linesFrom theme width (some category) (infos ++ rest) =
      infos.map (PropertyInfo.line theme width) ++ linesFrom theme width (some category) rest := by
  induction infos with
  | nil => rfl
  | cons info infos ih =>
      rw [List.forall_mem_cons] at h
      rw [List.cons_append, linesFrom, h.1, if_pos rfl, ih h.2]
      rfl

/-- Groups that follow upon each other have a heading each. -/
theorem linesFrom_flatMap {theme : Theme} {width : Nat} {current : Option String}
    {categories : List String} {group : String → List PropertyInfo}
    (hnodup : categories.Nodup) (hcurrent : ∀ c ∈ categories, current ≠ some c)
    (hne : ∀ c ∈ categories, group c ≠ [])
    (hgroup : ∀ c ∈ categories, ∀ info ∈ group c, info.category = c) :
    linesFrom theme width current (categories.flatMap group) =
      categories.flatMap fun c =>
        heading theme c ++ (group c).map (PropertyInfo.line theme width) := by
  induction categories generalizing current with
  | nil => rfl
  | cons c categories ih =>
      rw [List.nodup_cons] at hnodup
      rw [List.forall_mem_cons] at hcurrent hne hgroup
      obtain ⟨info, infos, hinfos⟩ := List.exists_cons_of_ne_nil hne.1
      have hcategories := hgroup.1
      rw [hinfos, List.forall_mem_cons] at hcategories
      have hnext : ∀ d ∈ categories, some c ≠ some d :=
        fun d hd heq => hnodup.1 (Option.some.inj heq ▸ hd)
      have hrest := ih hnodup.2 hnext hne.2 hgroup.2
      rw [List.flatMap_cons, List.flatMap_cons, hinfos, List.cons_append, linesFrom,
        hcategories.1, if_neg hcurrent.1, linesFrom_append hcategories.2, hrest]
      simp only [List.map_cons, List.append_assoc, List.cons_append]

end Listing

end PropertyMacros
