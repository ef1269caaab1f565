import Modelwright.Proofs.Models.Precedence

namespace Modelwright

open Modelwright.Target

/-! Members that a hand-written class takes over. -/

namespace Member

end Member

namespace Entity

end Entity

section Warnings

variable {ε : Type} {w : Warning} {used : UsedImports}

end Warnings

variable {frame : Frame}

end Modelwright
