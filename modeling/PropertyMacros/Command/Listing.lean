import PropertyMacros.Command.Context
import PropertyMacros.Json
import PropertyMacros.Text.Quoted

/-!
The command `list`: the registered properties with their attributes.
-/

namespace PropertyMacros

structure ListCommand where
  category? : Option String
  json : Bool
  deriving DecidableEq, Repr

/-- A declared attribute. Without a default it is required. -/
structure AttributeInfo where
  name : String
  default? : Option String
  deriving DecidableEq, Repr

structure PropertyInfo where
  category : String
  name : String
  attributes : List AttributeInfo
  deriving DecidableEq, Repr

namespace AttributeInfo

def isRequired (a : AttributeInfo) : Bool := a.default?.isNone

/-- The attribute as JSON, the default being left out if there is none. -/
def toJson (a : AttributeInfo) : Json :=
  .object <|
    [("name", .string a.name), ("required", .bool a.isRequired)] ++
    (a.default?.map fun value => ("default", Json.string value)).toList

/-- The name of a required attribute, or the name with its default in quotes. -/
def describe (theme : Theme) (a : AttributeInfo) : List Char :=
  match a.default? with
  | none => Text.styled theme.required a.name.toList
  | some value => a.name.toList ++ '=' :: Text.styled theme.value (Text.quote value.toList)

end AttributeInfo

namespace PropertyInfo

/-- What is listed of a property, its overrides being of no account. -/
def ofProperty (p : Property) : PropertyInfo where
  category := p.category
  name := p.name
  attributes := p.schema.names.map fun attr => ⟨attr, p.attributes.default? attr⟩

def toJson (info : PropertyInfo) : Json :=
  .object
    [("category", .string info.category), ("name", .string info.name),
      ("attributes", .array (info.attributes.map AttributeInfo.toJson))]

/-- The line of an entry, in which the name takes up `width` columns. -/
def line (theme : Theme) (width : Nat) (info : PropertyInfo) : List Char :=
  let name := info.name.toList ++ List.replicate (width - info.name.length) ' '
  ' ' :: ' ' :: Text.styled theme.key name ++ ' ' ::
    List.intercalate [',', ' '] (info.attributes.map (AttributeInfo.describe theme))

end PropertyInfo

namespace Listing

def ruleLength : Nat := 60

/-- What precedes the properties of a category: an empty line, the title and a rule. -/
def heading (theme : Theme) (category : String) : List (List Char) :=
  [[], Text.styled theme.title (category.toList ++ [':']),
    Text.styled theme.border (List.replicate ruleLength '─')]

/-- The lines of the entries behind one of the category `current`. -/
def linesFrom (theme : Theme) (width : Nat) (current : Option String) :
    List PropertyInfo → List (List Char)
  | [] => []
  | info :: infos =>
    (if current = some info.category then [] else heading theme info.category) ++
      info.line theme width :: linesFrom theme width (some info.category) infos

def nameWidth (infos : List PropertyInfo) : Nat :=
  infos.foldl (fun width info => max width info.name.length) 0

def lines (theme : Theme) (infos : List PropertyInfo) : List (List Char) :=
  linesFrom theme (nameWidth infos) none infos ++ [[]]

/-- The entries as text, a line each, grouped by category. -/
def toText (theme : Theme) (infos : List PropertyInfo) : String :=
  String.ofList ((lines theme infos).flatMap (· ++ ['\n']))

end Listing

namespace ListCommand

/-- The entries to list, in the order of registration. A category without properties is unknown. -/
def collect (cmd : ListCommand) (ns : Namespace) : Except CommandError (List PropertyInfo) :=
  match cmd.category? with
  | none => .ok (ns.properties.map .ofProperty)
  | some category =>
    match ns.propertiesIn category with
    | [] => .error (.unknownCategory category)
    | properties => .ok (properties.map .ofProperty)

def execute (cmd : ListCommand) (context : Context) : Except CommandError String := do
  let infos ← cmd.collect context.prototype
  if cmd.json then return (Json.array (infos.map PropertyInfo.toJson)).pretty ++ "\n"
  else return Listing.toText context.theme infos

end ListCommand

end PropertyMacros
