import ZoneSync.Surroundings

/-!
# Folders

The files of one folder and of the folders within it. A path is followed part by part from the
folder; what lies outside of it cannot be reached.
-/

namespace ZoneSync

/-- Files by the names that lead to them. -/
structure Folder where
  files : List (List String × ByteArray)

namespace Folder

/-- The longest name of a file, in bytes. -/
def nameLimit : Nat := 255

/-- A path has fewer bytes than this. -/
def pathLimit : Nat := 4096

/-- The names in a path. -/
def names (path : String) : List String :=
  (path.splitOn "/").filter fun name => name != "" && name != "."

def ofPaths (files : List (String × ByteArray)) : Folder :=
  ⟨files.map fun (path, content) => (names path, content)⟩

/-- A place that files are beneath, or the folder itself, or one that the folder is beneath. -/
def isDirectory (folder : Folder) (place : List String) : Bool :=
  place.all (· == "..") ||
    folder.files.any fun (name, _) => name != place && place.isPrefixOf name

/-- The place that a place is directly beneath. -/
def above (place : List String) : List String :=
  if place.all (· == "..") then ".." :: place else place.dropLast

/-- The place that a path leads to. All but the last part have to be directories. -/
def follow (folder : Folder) (place : List String) : List String → Except FileFault (List String)
  | [] => .ok place
  | part :: rest =>
    if !folder.isDirectory place then
      .error (if (folder.files.lookup place).isSome then .beneathFile else .missing)
    else if part = "" || part = "." then folder.follow place rest
    else if part = ".." then folder.follow (above place) rest
    else if nameLimit < part.utf8ByteSize then .error .nameTooLong
    else folder.follow (place ++ [part]) rest

/-- The content of the file at a path. Nothing is known of paths that do not begin in the folder. -/
def read (folder : Folder) (path : String) : Except FileFault ByteArray := do
  if path.contains '\x00' then throw .nullInName
  if path.isEmpty then throw .missing
  if pathLimit ≤ path.utf8ByteSize then throw .nameTooLong
  let folder := if path.startsWith "/" then ⟨[]⟩ else folder
  let place ← folder.follow [] (path.splitOn "/")
  if folder.isDirectory place then throw .directory
  match folder.files.lookup place with
  | some content => return content
  | none => throw .missing

end Folder

end ZoneSync
