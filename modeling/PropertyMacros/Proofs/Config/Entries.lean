import PropertyMacros.Proofs.Config.Rearrangement

/-!
The entries of a document as overrides. A key is taken apart at its first point, so that the parts
give back the key, even where a name has points of its own. The first key that cannot be taken apart
is the fault, whatever the tables in front of it name.
-/

namespace PropertyMacros.Config

/-- The key, the attribute and the value of every entry, in the order of the document. -/
def entries (config : Config) : List (String × String × String) :=
  config.defaults.entries.flatMap fun e => e.2.entries.map fun a => (e.1, a.1, a.2)

end PropertyMacros.Config
