/-!
# Text in small letters

Names of functions, aggregates and calendar fields do not depend on the case of ASCII letters;
`lowered` brings a name to the spelling under which it is looked up.
-/

namespace Logbook

/-- The text with ASCII capitals replaced by small letters; all other characters stay. -/
def lowered (s : String) : String :=
  String.ofList (s.toList.map Char.toLower)

end Logbook
