import Modelwright.Main
import Modelwright.Proofs.Models.FreeText
import Modelwright.Proofs.Models.EnumDefaults
import Modelwright.Proofs.Models.Shadowing
import Modelwright.Proofs.Outline.Contents
import Modelwright.Proofs.Schema.Consistency
import Modelwright.Proofs.Source.Stability
import Modelwright.Proofs.Source.Pairing
import Modelwright.Proofs.Source.Reordering
import Modelwright.Proofs.Models.Arguments
import Modelwright.Proofs.Models.Overrides
import Modelwright.Proofs.Source.Layout
import Modelwright.Proofs.Files.Store
import Modelwright.Proofs.Project.Delivery
import Modelwright.Proofs.Files.Untouched
import Modelwright.Proofs.Format.Arranged
import Modelwright.Proofs.Project.HandWritten
import Modelwright.Proofs.Schema.RoundTrip
import Modelwright.Proofs.Settings.RoundTrip
import Modelwright.Proofs.Source.Keys
import Modelwright.Proofs.Source.Referents
import Modelwright.Proofs.Models.IntegerDefaults
import Modelwright.Proofs.Outline.Tidy
import Modelwright.Proofs.Outline.ReadBack
import Modelwright.Proofs.Target.ReadDocumentation
import Modelwright.Proofs.Target.ReadValues
import Modelwright.Proofs.Source.Excerpts
import Modelwright.Proofs.Source.Placement
import Modelwright.Proofs.Source.Refusals
import Modelwright.Proofs.Models.Imports
import Modelwright.Proofs.Models.Verbatim
import Modelwright.Proofs.Settings.Overlay
import Modelwright.Proofs.Naming.Ascii
import Modelwright.Proofs.Source.AttributeOrder
import Modelwright.Proofs.Source.Progress
