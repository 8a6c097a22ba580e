import ClusterHarness.Settings

/-!
# Colours

Notices are coloured where somebody reads them on a terminal.  The streams of rehearsals are none,
so there colours show only if the environment forces them.
-/

namespace ClusterHarness

namespace Colour

def isZero (text : String) : Bool :=
  let digits := match text.toList with
    | '+' :: digits => digits
    | digits => digits
  !digits.isEmpty && digits.all (· == '0')

/-- Whether the environment forces colours: the first variable that is set decides. -/
def forced (env : Environment) : Bool :=
  match env.get? "FORCE_COLOR", env.get? "CLICOLOR_FORCE" with
  | some force, _ => force ≠ "false" && !isZero force
  | none, some force => force ≠ "0"
  | none, none => false

end Colour

end ClusterHarness
