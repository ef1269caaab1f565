import Mathlib.Tactic.ByContra
import Modelwright.Naming.Convention
import Modelwright.Proofs.Naming.Words

namespace Modelwright

/-! Names in small letters: what lower case leaves of a text, and how a name of small words joined
by underscores can look. -/

namespace Text

end Text

namespace Naming

open Text

end Naming

end Modelwright
