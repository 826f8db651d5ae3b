import OpenApiGen.Profile.Go
import OpenApiGen.Profile.JavaScript
import OpenApiGen.Profile.PythonFlask
import OpenApiGen.Profile.Swift

/-!
The profile of each language.
-/

namespace OpenApiGen

/-- The profile that a language has without any settings. -/
def Language.profile : Language → Profile
  | .go => .go
  | .javascript => .javascript
  | .pythonFlask => .pythonFlask
  | .swift4 => .swift .swift4
  | .swift5 => .swift .swift5

end OpenApiGen
