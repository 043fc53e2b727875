import Stencil.Bindings
import Stencil.TemplateId

/-!
# Contexts

A context is what one binding leaves behind: the variables, the moment, and whose they are.
-/

namespace Stencil

/-- Variables bound to a processor. -/
structure Context where
  /-- The values of the variables. -/
  bindings : Bindings
  /-- When they were bound. -/
  bound : Moment
  /-- The processor to which they were bound. -/
  owner : TemplateId

end Stencil
