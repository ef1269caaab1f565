import Modelwright.Proofs.Schema.RoundTrip
import Modelwright.Settings.Codec

namespace Modelwright

open Json

def Settings.isStored (settings : Settings) : Bool :=
  isSize settings.fieldSizes.stringLength && isSize settings.fieldSizes.decimalDigits &&
    isSize settings.fieldSizes.decimalPlaces

variable {arrange : List (String × Json) → List (String × Json)}

theorem ExtensionSettings.ofNode?_toJson (arranges : Arranges arrange)
    (extension : ExtensionSettings) :
    ExtensionSettings.ofNode? Json.valueDialect (extension.toJson.arranged arrange).node =
      some extension := by
  have within : (extension.toJson.entries.map Prod.fst).Sublist ["path", "module"] := .refl _
  obtain ⟨record, written, holds⟩ :=
    exists_holds arranges Json.valueDialect rfl within (by decide)
  have path : record.required "path" Node.text? = some extension.path :=
    holds.required (.string extension.path) rfl
  have importPath : record.required "module" Node.text? = some extension.importPath :=
    holds.required (.string extension.importPath) rfl
  rw [ExtensionSettings.ofNode?, written]
  simp only [Option.bind_eq_bind, Option.bind_some, path, importPath]
  rfl

theorem size?_natJson {n : Nat} (stored : isSize n = true) :
    ((natJson n).arranged arrange).node.size? = some n := by
  have below : n < 1 <<< 32 := of_decide_eq_true stored
  have read : ((natJson n).arranged arrange).node.size? =
      (if 0 ≤ (n : Int) then some (n : Int).toNat else none).filter (· < 1 <<< 32) := rfl
  rw [read, if_pos (Int.natCast_nonneg n), Int.toNat_natCast, Option.filter_some,
    if_pos (decide_eq_true below)]

theorem FieldSizes.ofNode?_toJson (arranges : Arranges arrange) (sizes : FieldSizes)
    (string : isSize sizes.stringLength = true) (digits : isSize sizes.decimalDigits = true)
    (decimals : isSize sizes.decimalPlaces = true) :
    FieldSizes.ofNode? Json.valueDialect (sizes.toJson.arranged arrange).node = some sizes := by
  have within : (sizes.toJson.entries.map Prod.fst).Sublist
      ["stringMaxLength", "decimalMaxDigits", "decimalPlaces"] := .refl _
  obtain ⟨record, written, holds⟩ :=
    exists_holds arranges Json.valueDialect rfl within (by decide)
  have stringLength : record.withDefault "stringMaxLength" standard.stringLength Node.size? =
      some sizes.stringLength :=
    (holds.withDefault (natJson sizes.stringLength) rfl _).trans (size?_natJson string)
  have decimalDigits : record.withDefault "decimalMaxDigits" standard.decimalDigits Node.size? =
      some sizes.decimalDigits :=
    (holds.withDefault (natJson sizes.decimalDigits) rfl _).trans (size?_natJson digits)
  have decimalPlaces : record.withDefault "decimalPlaces" standard.decimalPlaces Node.size? =
      some sizes.decimalPlaces :=
    (holds.withDefault (natJson sizes.decimalPlaces) rfl _).trans (size?_natJson decimals)
  rw [FieldSizes.ofNode?, written]
  simp only [Option.bind_eq_bind, Option.bind_some, stringLength, decimalDigits, decimalPlaces]
  rfl

namespace Settings

theorem keys_within (settings : Settings) :
    (settings.toJson.entries.map Prod.fst).Sublist places := by
  have front : ["schema"].Sublist ["schema"] := .refl _
  have middle : ["outputDir", "modelsFile", "appName", "classNamePascalCase", "valueNameSnakeCase",
    "createPyPackageInitFile"].Sublist ["outputDir", "modelsFile", "appName",
      "classNamePascalCase", "valueNameSnakeCase", "createPyPackageInitFile"] := .refl _
  have last : ["fieldDefaults"].Sublist ["fieldDefaults"] := .refl _
  simp only [toJson, entries, List.map_append]
  exact ((((front.append (keys_optionalEntry _ _ _)).append middle).append
    (keys_optionalEntry _ _ _)).append (keys_optionalEntry _ _ _)).append last

theorem case?_format (format : SchemaFormat) :
    Node.case? Json.valueDialect (named SchemaFormat.dataName SchemaFormat.all)
      ((Json.string format.dataName).arranged arrange).node = some format := by
  cases format <;> rfl

theorem ofNode?_toJson (arranges : Arranges arrange) (settings : Settings)
    (stored : settings.isStored = true) :
    ofNode? Json.valueDialect (settings.toJson.arranged arrange).node = some settings := by
  obtain ⟨sizes, decimals⟩ := Bool.and_eq_true_iff.mp stored
  obtain ⟨string, digits⟩ := Bool.and_eq_true_iff.mp sizes
  obtain ⟨record, written, holds⟩ :=
    exists_holds arranges Json.valueDialect rfl settings.keys_within (by decide)
  have schema : record.withDefault "schema" standard.schema Node.text? = some settings.schema :=
    holds.withDefault (.string settings.schema) rfl _
  have schemaFormat : record.optional "schemaFormat" (Node.case? Json.valueDialect
      (named SchemaFormat.dataName SchemaFormat.all)) = some settings.schemaFormat :=
    holds.optional (fun format => .string format.dataName)
      (by simp [toJson, entries, List.lookup_append, List.lookup_cons]) (fun _ => rfl)
      fun _ _ => case?_format _
  have outputDir : record.withDefault "outputDir" standard.outputDir Node.text? =
      some settings.outputDir :=
    holds.withDefault (.string settings.outputDir)
      (by simp [toJson, entries, List.lookup_append, List.lookup_cons]) _
  have modelsFile : record.withDefault "modelsFile" standard.modelsFile Node.text? =
      some settings.modelsFile :=
    holds.withDefault (.string settings.modelsFile)
      (by simp [toJson, entries, List.lookup_append, List.lookup_cons]) _
  have appName : record.withDefault "appName" standard.appName Node.text? =
      some settings.appName :=
    holds.withDefault (.string settings.appName)
      (by simp [toJson, entries, List.lookup_append, List.lookup_cons]) _
  have pascal : record.withDefault "classNamePascalCase" standard.pascalClassNames Node.bool? =
      some settings.pascalClassNames :=
    holds.withDefault (.bool settings.pascalClassNames)
      (by simp [toJson, entries, List.lookup_append, List.lookup_cons]) _
  have snake : record.withDefault "valueNameSnakeCase" standard.snakeValueNames Node.bool? =
      some settings.snakeValueNames :=
    holds.withDefault (.bool settings.snakeValueNames)
      (by simp [toJson, entries, List.lookup_append, List.lookup_cons]) _
  have init : record.withDefault "createPyPackageInitFile" standard.createPackageInit Node.bool? =
      some settings.createPackageInit :=
    holds.withDefault (.bool settings.createPackageInit)
      (by simp [toJson, entries, List.lookup_append, List.lookup_cons]) _
  have generator : record.optional "generator" Node.text? = some settings.generator :=
    holds.text (by simp [toJson, entries, List.lookup_append, List.lookup_cons])
  have extension : record.optional "extension" (ExtensionSettings.ofNode? Json.valueDialect) =
      some settings.extension :=
    holds.optional ExtensionSettings.toJson
      (by simp [toJson, entries, List.lookup_append, List.lookup_cons]) (fun _ => rfl)
      fun extension _ => ExtensionSettings.ofNode?_toJson arranges extension
  have fieldSizes : record.withDefault "fieldDefaults" standard.fieldSizes
      (FieldSizes.ofNode? Json.valueDialect) = some settings.fieldSizes := by
    refine (holds.withDefault settings.fieldSizes.toJson
      (by simp [toJson, entries, List.lookup_append, List.lookup_cons]) _).trans ?_
    exact FieldSizes.ofNode?_toJson arranges settings.fieldSizes string digits decimals
  rw [ofNode?, written]
  simp only [Option.bind_eq_bind, Option.bind_some, schema, schemaFormat, outputDir, modelsFile,
    appName, pascal, snake, init, generator, extension, fieldSizes]
  rfl

end Settings

/-- Whatever schemas and settings are written as, in whatever order the entries of objects are kept,
they are read back as they were. -/
theorem written_reads_back (arranges : Arranges arrange) :
    (∀ schema : Schema, schema.isStored = true →
      Schema.ofNode? Json.valueDialect (schema.toJson.arranged arrange).node = some schema) ∧
    ∀ settings : Settings, settings.isStored = true →
      Settings.ofNode? Json.valueDialect (settings.toJson.arranged arrange).node = some settings :=
  ⟨fun schema => schema.ofNode?_toJson arranges,
    fun settings => settings.ofNode?_toJson arranges⟩

/-- A value with whatever a reader may stumble over. -/
def parcelMeta : Json :=
  .object [("kind", .null), ("tags", .array [.object [("a", .bool true), ("b", .null)]])]

def parcel : Entity where
  name := "Parcel"
  table := some "parcels"
  description := none
  fields :=
    [{ Field.plain "id" (.scalar .bigInt) with
        primaryKey := true, default := some (.generator .autoincrement) },
      { Field.plain "code" (.varchar 0xffffffff) with unique := true, column := some "Code" },
      { Field.plain "price" (.fixed 12 2) with
        default := some (.literal (.number (.float ⟨false, 3, -1⟩))) },
      { Field.plain "tax" (.scalar .decimal) with
        nullable := true, default := some (.literal .null) },
      { Field.plain "size" (.enumeration "Size") with default := some (.literal (.string "S")) },
      { Field.plain "meta" (.scalar .json) with default := some (.literal parcelMeta) },
      { Field.plain "changed" (.scalar .dateTime) with
        updatedAt := true, description := some "on save" }]
  relations :=
    [⟨"owner", .foreignKey, "Person", true, some "owner_id", some "id", some .setNull, none, none⟩]

def parcelSchema : Schema where
  enums := [⟨"Size", ["S", "L"], some "of the box"⟩, ⟨"Empty", [], none⟩]
  entities := [parcel, ⟨"Person", none, none, [], []⟩]

def parcelSettings : Settings :=
  { Settings.standard with
    schemaFormat := some .yaml
    generator := some "py"
    extension := some ⟨"base.py", "base"⟩ }

theorem written_reads_back_parcel :
    Arranges keyOrdered ∧ parcelSchema.isStored = true ∧ parcelSettings.isStored = true ∧
      Schema.ofNode? Json.valueDialect (parcelSchema.toJson.arranged keyOrdered).node =
        some parcelSchema ∧
      Settings.ofNode? Json.valueDialect (parcelSettings.toJson.arranged keyOrdered).node =
        some parcelSettings ∧
      Schema.ofNode? Json.valueDialect parcelSchema.toJson.node = some parcelSchema := by
  have storedSchema : parcelSchema.isStored = true := by decide
  have storedSettings : parcelSettings.isStored = true := by decide
  obtain ⟨schemas, settings⟩ := written_reads_back arranges_keyOrdered
  refine ⟨arranges_keyOrdered, storedSchema, storedSettings, schemas _ storedSchema,
    settings _ storedSettings, ?_⟩
  have declared := (written_reads_back arranges_id).1 _ storedSchema
  rwa [arranged_id] at declared

end Modelwright
