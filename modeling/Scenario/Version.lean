/-! # The version of the scenario format's tools
-/

namespace Scenario

/-- The version that the tools report (`__version__`). -/
def version : String := "0.1.0"

end Scenario
