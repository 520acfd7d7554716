import ProxyHeaders.Check.Report
import ProxyHeaders.Data.Access
import ProxyHeaders.Exchange.MappingData
import ProxyHeaders.Generate

/-!
Generated headers, and what is told of them, as data.
-/
namespace ProxyHeaders

open Value (ofNat ofText? ofTexts)

def Code.Buffer.ofData (value : Value) : Code.Buffer :=
  { unit := (value.field "indent").textOr "    ", level := (value.field "level").asInt }

namespace Layout

def Header.toData (header : Header) : Value := .list [.text header.path, .text header.content]

def Header.ofData (value : Value) : Header :=
  { path := (value.item 0).asText, content := (value.item 1).asText }

def Group.toData (group : Group) : Value := .record [
  ("key", .text group.key), ("namespace", ofText? group.space), ("is_global", .bool group.isGlobal),
  ("directory", .text group.directory),
  ("types", .list (group.types.map fun type => .list [.text type.fullName, .text type.source]))]

def placement (map : Mapping.TypeMap) (placeholder : String) (type : TypeDecl) : Value := .record [
  ("path", .text (unitPath map type)), ("forward", .text (forwardDeclaration map type)),
  ("include", ofText? (baseInclude map type)),
  ("base", (map.resolveBase type).toData placeholder)]

end Layout

def Generation.metadata (generation : Generation) : Value := .record [
  ("language", .text language), ("layout", .text generation.layoutWord),
  ("type_count", ofNat generation.typeCount), ("emitted_count", ofNat generation.emittedCount),
  ("unit_count", ofNat generation.unitCount), ("image_name", .text generation.imageName)]

def Generation.toEntries (generation : Generation) : List (String × Value) := [
  ("units", .list (generation.headers.map Layout.Header.toData)),
  ("warnings", ofTexts generation.warnings), ("metadata", generation.metadata)]

def Check.Report.toData (report : Check.Report) : Value := .record [
  ("files_checked", ofNat report.filesChecked), ("ok", .bool report.isClean),
  ("lines", ofTexts report.lines),
  ("issues", .list (report.issues.map fun issue =>
    .list [.text issue.path, .text issue.message, ofNat issue.line]))]

end ProxyHeaders
