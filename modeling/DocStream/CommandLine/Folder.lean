import DocStream.Dictionary

/-! Texts that are read by name, from a folder or from elsewhere, and why one cannot be read. -/

namespace DocStream.CommandLine

inductive ReadFault where
  | missing
  | isDirectory
  | notDirectory
  | denied
  | notUtf8
  | other (reason : String)
deriving DecidableEq, Repr

def ReadFault.message : ReadFault → String
  | missing => "No such file or directory (os error 2)"
  | isDirectory => "Is a directory (os error 21)"
  | notDirectory => "Not a directory (os error 20)"
  | denied => "Permission denied (os error 13)"
  | notUtf8 => "stream did not contain valid UTF-8"
  | other reason => reason

abbrev Folder := Dictionary String

namespace Folder

def holds (f : Folder) (directory : String) : Bool :=
  f.entries.any fun e => (directory ++ "/").isPrefixOf e.1

/-- Follows the parts of a path from a directory in the folder. Nothing is known of what lies around
the folder, but that it lies in a directory. -/
def follow (f : Folder) (directory : List String) : List String → Except ReadFault String
  | [] => throw .isDirectory
  | part :: rest =>
    if part = "" || part = "." then follow f directory rest
    else if part = ".." then
      if !directory.isEmpty then follow f directory.dropLast rest
      else if rest.all (·.isEmpty) then throw .isDirectory
      else throw .missing
    else
      let here := directory ++ [part]
      let name := "/".intercalate here
      match f.get? name with
      | some text => if rest.isEmpty then return text else throw .notDirectory
      | none => if f.holds name then follow f here rest else throw .missing

def read (f : Folder) (path : String) : Except ReadFault String :=
  if path = "" then throw .missing
  else
    let parts := path.splitOn "/"
    if parts.head? = some "" then
      throw (if parts.all (·.isEmpty) then .isDirectory else .missing)
    else follow f [] parts

end Folder

end DocStream.CommandLine
