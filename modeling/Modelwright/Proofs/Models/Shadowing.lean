import Modelwright.Proofs.Models.Uses

namespace Modelwright

open Modelwright.Target

/-! Which generated names hide a name that the generated code looks up. -/

variable {frame : Frame} {entity : Entity}

section Meanings

variable {before after : List ClassStatement} {c : ClassStatement}

end Meanings

def form : Entity :=
  ⟨"Form", none, none,
    [{ Field.plain "id" (.scalar .int) with primaryKey := true },
      Field.plain "fields" (.scalar .string), Field.plain "title" (.scalar .string)], []⟩

end Modelwright
