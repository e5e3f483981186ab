import SqlAdvice.Files.Basic

/-!
# Folders in memory

A folder holds files and directories under names relative to it. Writing a file makes the
directories above it, and removing it leaves them. Outside the folder only the directories above it
are known, and the files that were written there.
-/

namespace SqlAdvice

/-- What a folder holds, by the components of the names. -/
structure Folder where
  files : List (List String × List UInt8) := []
  directories : List (List String) := []
  /-- The files outside, by the paths that lead to them. -/
  outside : List (Path × List UInt8) := []

namespace Folder

/-- The components of a name, where `..` takes the one in front of it away. -/
def settle (parts : List String) : List String :=
  parts.foldl (fun here part => if part == ".." then here.dropLast else here ++ [part]) []

/-- Tells whether components lead above the place that is `depth` directories deep. -/
def climbsOut (depth : Nat) : List String → Bool
  | [] => false
  | part :: rest =>
    if part == ".." then depth == 0 || climbsOut (depth - 1) rest else climbsOut (depth + 1) rest

/-- Tells whether a path leads out of the folder. -/
def leadsOut (p : Path) : Bool :=
  !p.root.isEmpty || climbsOut 0 p.parts

/-- Writes a file and makes the directories above it. -/
def write (f : Folder) (p : Path) (bytes : List UInt8) : Folder :=
  if leadsOut p then { f with outside := (p, bytes) :: f.outside.filter (·.1 != p) }
  else
    let name := settle p.parts
    { f with
      files := (name, bytes) :: f.files.filter (·.1 != name)
      directories :=
        (List.range p.parts.length).map (fun n => settle (p.parts.take n)) ++ f.directories }

/-- Removes a file. -/
def remove (f : Folder) (p : Path) : Folder :=
  if leadsOut p then { f with outside := f.outside.filter (·.1 != p) }
  else { f with files := f.files.filter (·.1 != settle p.parts) }

/-- What components lead to above a folder: further components `..` are directories, and nothing
else is known. -/
def above (parts : List String) : Place :=
  if parts.all (· == "..") then .directory else .missing

/-- What components lead to from the directory `here` of a folder. -/
def placeFrom (f : Folder) (here : List String) : List String → Place
  | [] => .directory
  | part :: rest =>
    if part == ".." then
      if here.isEmpty then above rest else f.placeFrom here.dropLast rest
    else
      let next := here ++ [part]
      match f.files.find? (·.1 == next) with
      | some (_, bytes) => if rest.isEmpty then .file bytes else .behindFile
      | none => if f.directories.contains next then f.placeFrom next rest else .missing

/-- What every path leads to for someone inside the folder. -/
def place (f : Folder) : Files := fun p =>
  match f.outside.find? (·.1 == p) with
  | some (_, bytes) => .file bytes
  | none => if p.root.isEmpty then f.placeFrom [] p.parts else above p.parts

end Folder

end SqlAdvice
