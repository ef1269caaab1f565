namespace Modelwright

/-! What the program asks of files.  Paths are texts; whoever provides the files says what they lead
to. -/

class FileSystem (m : Type → Type) where
  pathExists : String → m Bool
  readText? : String → m (Option String)
  /-- A directory and those above it, as far as they are missing.  Says whether it is there
  then, as the other operations say whether they succeeded. -/
  createDirectories : String → m Bool
  write : String → String → m Bool
  rename : String → String → m Bool
  remove : String → m Bool

instance [Monad m] [FileSystem m] : FileSystem (ExceptT ε m) where
  pathExists path := ExceptT.lift (FileSystem.pathExists path)
  readText? path := ExceptT.lift (FileSystem.readText? path)
  createDirectories path := ExceptT.lift (FileSystem.createDirectories path)
  write path contents := ExceptT.lift (FileSystem.write path contents)
  rename source target := ExceptT.lift (FileSystem.rename source target)
  remove path := ExceptT.lift (FileSystem.remove path)

end Modelwright
