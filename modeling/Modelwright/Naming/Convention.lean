import Modelwright.Naming.Words

namespace Modelwright.Naming

open Modelwright.Text

def snakeCase (s : String) : String :=
  "_".intercalate ((words s).map lowercase)

def capitalize (word : String) : String :=
  String.ofList (capitalizeFirst (lowercase word).toList)

def pascalCase (s : String) : String :=
  String.join ((words s).map capitalize)

def screamingSnakeCase (s : String) : String :=
  uppercase (snakeCase s)

def foreignKeyColumn (relation : String) : String :=
  snakeCase relation ++ "_id"

/-- The attribute beside a relation that holds its raw key. -/
def foreignKeyAttribute (relation : String) : String :=
  relation ++ "_id"

def reverseName (owner relation : String) : String :=
  snakeCase (owner ++ "_" ++ relation)

def modelReference (app className : String) : String :=
  app ++ "." ++ className

end Modelwright.Naming
