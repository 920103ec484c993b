import PropertyMacros.Log.Directive

/-!
Filters: which events are reported.

A filter is a list of directives. Of those that concern an event the most specific one decides.
-/

namespace PropertyMacros.Log

/-- Directives, of which a later one takes precedence over an equally specific one. -/
abbrev Filter := List Directive

/-- The directive that decides about an event. -/
def Filter.deciding? (filter : Filter) (e : Event) : Option Directive :=
  (filter.filter (·.concerns e)).foldl (fun best? d =>
    if best?.all (·.specificity ≤ d.specificity) then some d else best?) none

/-- Whether a filter reports an event. Events that no directive concerns are not reported. -/
def Filter.reports (filter : Filter) (e : Event) : Bool :=
  (filter.deciding? e).any (e.level.rank ≤ ·.rank)

/-- The parts of the program that are reported unless a filter is given. -/
def ownParts : List String := ["propex", "propex_engine", "propex_config"]

/-- The filter that reports one level from the whole program. -/
def Filter.ofLevel (level : Level) : Filter :=
  ownParts.map fun start => ⟨some start, none, none, level.rank⟩

/-- Reads a filter: directives with commas between them, of which empty ones do not count. Without
any, errors are reported. -/
def Filter.read? (text : String) : Option Filter :=
  match (Text.splitAll ',' text.toList).filter (!·.isEmpty) with
  | [] => some [.ofRank Level.error.rank]
  | directives => directives.mapM Directive.read?

/-- The filter that is in force: the one in the environment if it can be read, or else one that
reports more if the program is to be verbose. -/
def Filter.choose (text? : Option String) (verbose : Bool) : Filter :=
  (text?.bind Filter.read?).getD (.ofLevel (if verbose then .debug else .info))

end PropertyMacros.Log
