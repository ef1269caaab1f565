import Modelwright.Proofs.Models.Precedence
import Modelwright.Proofs.Naming.Small

namespace Modelwright

open Modelwright.Target

/-! How often the body of a generated class binds a name. -/

variable {frame : Frame} {entity : Entity}

theorem attributeNames_nodup (checked : entity.MembersChecked frame) :
    ((frame.schema.members entity).map (·.attributeName frame.casing)).Nodup := by
  have names := (entityScope_run_eq_ok_iff.mp (run_entityScope_eq_ok_iff.mpr checked)).2
  exact (List.nodup_append.mp names).1

end Modelwright
