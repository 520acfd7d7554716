import ProxyHeaders.Layout.Group
import ProxyHeaders.Mapping.Base

/-!
Where the header of a type is, and how one header includes another.
-/
namespace ProxyHeaders.Layout

open ProxyHeaders.Mapping

def headerSuffix : String := ".hpp"

/-- The group's directory, which is the namespace's own or the one for types without any. -/
def unitPath (map : TypeMap) (type : TypeDecl) : String :=
  directoryOf (stated type.space) ++ "/" ++ map.structName type.name ++ headerSuffix

/-- The segments of a path; empty ones and `.` do not count, and `..` takes one back. -/
def normalSegments (path : String) : List String :=
  (Text.splitAtChar '/' path).foldl
    (fun segments segment =>
      if segment.isEmpty || segment == "." then segments
      else if segment == ".." then segments.dropLast
      else segments ++ [segment]) []

def dropCommon : List String → List String → List String × List String
  | a :: as, b :: bs => if a == b then dropCommon as bs else (a :: as, b :: bs)
  | as, bs => (as, bs)

/-- The way from one directory to a file: up out of what is not shared, then down. -/
def relativePath (fromDir toFile : List String) : String :=
  let (up, down) := dropCommon fromDir toFile
  let segments := up.map (fun _ => "..") ++ down
  if segments.isEmpty then "." else "/".intercalate segments

/-- The include of a class's base, if the base has a header of its own. -/
def baseInclude (map : TypeMap) (type : TypeDecl) : Option String :=
  if type.isEnum then none
  else match (map.resolveBase type).target?.bind map.declared? with
  | some target =>
    some (relativePath (normalSegments (unitPath map type)).dropLast
      (normalSegments (unitPath map target)))
  | none => none

end ProxyHeaders.Layout
