import ProxyHeaders.Data.Access
import ProxyHeaders.Data.Base64
import ProxyHeaders.Files.Disk

/-!
A directory tree as a record of paths: a file is a text or base64, an empty directory is none.
-/
namespace ProxyHeaders.Files

def Content.ofData (value : Value) : Content :=
  match value with
  | .text written => .text written
  | value => .bytes (Data.Base64.decode (value.field "b64").asText)

/-- The content as text; bytes that are none are told by what stands for them. -/
def Content.toData (content : Content) (absent : String) : Value :=
  .text (content.toText?.getD absent)

namespace Disk

/-- Puts a file or a directory at a place, with every directory above it. -/
def plant (disk : Disk) (place : Place) (entry : Entry) : Disk :=
  let above := (List.range place.length).map fun size => place.take size
  let disk := above.foldl (fun disk place =>
    if (disk.find? place).isSome then disk else disk.put place .directory) disk
  disk.put place entry

/-- A disk with one tree below `root`, where paths start from `here`, a path below that root. -/
def ofData (root : Place) (tree : Value) (here : Path) : Disk :=
  let start : Disk := { here := root ++ here.parts }
  let disk := tree.entries.foldl (fun disk (name, value) =>
    let entry : Entry := match value with
      | .none => .directory
      | value => .file (.ofData value)
    disk.plant (root ++ (Path.ofText name.display).parts) entry) (start.plant root .directory)
  if (disk.find? disk.here).isSome then disk else disk.plant disk.here .directory

/-- Every file below `root` and every directory that holds nothing; `tell` writes the files. -/
def toData (disk : Disk) (root : Place) (tell : Place → Content → Value) : Value :=
  let below := disk.entries.filter fun (place, _) => root.isPrefixOf place && place != root
  .record (below.filterMap fun (place, entry) =>
    let name := "/".intercalate (place.drop root.length)
    match entry with
    | .file content => some (name, tell (place.drop root.length) content)
    | .directory =>
      if below.any fun (other, _) => place.isPrefixOf other && other != place then none
      else some (name, .none))

end Disk

end ProxyHeaders.Files
