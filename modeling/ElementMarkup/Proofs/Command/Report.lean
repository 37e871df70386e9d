import ElementMarkup.Proofs.Command.Atomicity
import ElementMarkup.Proofs.Command.Unexpected

/-!
# Reports

A run that does not end well says why and ends with another code than zero, unless its failure is
one of those that are not expected.
-/

set_option autoImplicit false

namespace ElementMarkup.Command

end ElementMarkup.Command
