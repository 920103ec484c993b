/-!
Faults that a caller has to handle, unlike failed evaluations, which are values.
-/

namespace PropertyMacros

inductive ConfigFault where
  /-- A default for an attribute that the property does not declare. -/
  | unknownAttribute (category name attr : String)
  /-- A key of the defaults that does not name a category and a property. -/
  | malformedKey (key : String)
  | unreadableFile (path reason : String)
  | invalidFile (path : String)
  | invalidText
  | other (reason : String)
  deriving DecidableEq, Repr

/-- A fault outside of evaluation. -/
inductive Error where
  | propertyNotFound (category name : String)
  | io (reason : String)
  | config (fault : ConfigFault)
  deriving DecidableEq, Repr

def ConfigFault.message : ConfigFault → String
  | unknownAttribute category name attr =>
    category ++ "." ++ name ++ " has no attribute '" ++ attr ++ "'"
  | malformedKey key => "Invalid defaults key '" ++ key ++ "', expected '<Category>.<name>'"
  | unreadableFile path reason => "Failed to read config file " ++ path ++ ": " ++ reason
  | invalidFile path => "Failed to parse config file " ++ path
  | invalidText => "Failed to parse config TOML"
  | other reason => reason

def Error.message : Error → String
  | propertyNotFound category name => "Property not found: " ++ category ++ "." ++ name
  | io reason => "IO error: " ++ reason
  | config fault => "Configuration error: " ++ fault.message

end PropertyMacros
