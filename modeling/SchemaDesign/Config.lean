import SchemaDesign.Export.Format

/-!
# Settings

The settings of a design session, read from variables.  A variable that is missing or makes no
sense leaves its setting at the default.
-/

namespace SchemaDesign

/-- The settings of a session. -/
structure Config where
  /-- The name of a new schema. -/
  schemaName : String := Schema.defaultName
  /-- The format of an export for which none was chosen. -/
  exportFormat : ExportFormat := .mySql
  /-- The dialect of the statements sent to a database. -/
  mirrorDialect : Dialect := .postgreSql
  /-- Whether every change is followed by a validation. -/
  autoValidate : Bool := true
deriving DecidableEq, Repr

namespace Config

/-- The variables that the settings are read from. -/
def variableNames : List String :=
  ["SCHEMA_NAME", "EXPORT_FORMAT", "MIRROR_DIALECT", "AUTO_VALIDATE"]

/-- The truth value that a text names, in any letter case and with blanks around it. -/
def bool? (text : String) : Option Bool :=
  let word := Text.lowerCase (Text.trimmed text)
  if ["1", "true", "yes", "on"].contains word then some true
  else if ["0", "false", "no", "off"].contains word then some false
  else none

/-- The export format that a text names. -/
def format? (text : String) : Option ExportFormat :=
  (ExportFormat.ofText text).toOption

/-- The settings that variables give. -/
def ofVariables (lookup : String → Option String) : Config :=
  let named := ((lookup "SCHEMA_NAME").map Text.trimmed).filter fun name => !name.isEmpty
  { schemaName := named.getD Schema.defaultName
    exportFormat := ((lookup "EXPORT_FORMAT").bind format?).getD .mySql
    mirrorDialect :=
      (((lookup "MIRROR_DIALECT").bind format?).bind ExportFormat.dialect?).getD .postgreSql
    autoValidate := ((lookup "AUTO_VALIDATE").bind bool?).getD true }

end Config

end SchemaDesign
