import Stencil.Environment

/-!
# Colours

Whether texts are shown in colours is settled by some variables of the environment, and only if
these say nothing by the terminal.
-/

namespace Stencil
namespace Environment

/-- The variables that have a part in whether colours are shown. -/
def colourNames : List String :=
  ["NO_COLOR", "CLICOLOR_FORCE", "CLICOLOR", "TERM", "CI"]

/-- Whether a variable is set to anything but a text. -/
def isOtherThan (environment : Environment) (name text : String) : Bool :=
  (environment.get? name).any (· ≠ text)

/-- Whether a terminal is taken to know colours. -/
def trustsTerminal (environment : Environment) : Bool :=
  environment.isOtherThan "TERM" "dumb" || environment.isOtherThan "CLICOLOR" "0" ||
    (environment.get? "CI").isSome

/-- Whether colours are shown. -/
def showsColours (environment : Environment) (terminal : Bool) : Bool :=
  if environment.isOtherThan "NO_COLOR" "" then false
  else if environment.isOtherThan "CLICOLOR_FORCE" "0" then true
  else if environment.get? "CLICOLOR" = some "0" then false
  else terminal && environment.trustsTerminal

end Environment
end Stencil
