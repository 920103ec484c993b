import PropertyMacros.Text.Styled

/-!
The styles of the parts of an output.
-/

namespace PropertyMacros

open Text (Style)

/-- A style for each kind of text in an output. -/
structure Theme where
  title : Style
  border : Style
  key : Style
  value : Style
  required : Style
  error : Style

namespace Theme

/-- Bright colours for names and defaults, bold for what is required and red for errors. -/
def colored : Theme where
  title := [96, 1]
  border := [2]
  key := [93]
  value := [97]
  required := [1]
  error := [31]

def plain : Theme := ⟨[], [], [], [], [], []⟩

def ofColor (color : Bool) : Theme := if color then colored else plain

end Theme

end PropertyMacros
