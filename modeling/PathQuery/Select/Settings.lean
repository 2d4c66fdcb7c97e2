import PathQuery.Regex.Literal

/-!
# Settings

The settings of a selection say whether a missing node is a failure and how long
a regular expression may take.  How long a match takes is itself a setting, so
that a selection is a function of its settings.
-/

namespace PathQuery

/-- The settings of a selection; times are in nanoseconds.  A match is taken to
last one nanosecond unless the settings say otherwise. -/
structure Settings where
  strict : Bool := false
  regexLimit : Option Nat := none
  matchTime : RegexLiteral → String → Nat := fun _ _ => 1

/-- The limit that a match exceeds, if it does. -/
def Settings.exceeded (settings : Settings) (regex : RegexLiteral) (text : String) :
    Option Nat :=
  settings.regexLimit.filter (· < settings.matchTime regex text)

end PathQuery
