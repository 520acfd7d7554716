/-!
Words that no generated identifier may be spelled like.
-/
namespace ProxyHeaders.Names

def headerKeywords : List String := [
  "alignas", "alignof", "and", "and_eq", "asm", "auto", "bitand", "bitor", "bool", "break",
  "case", "catch", "char", "char8_t", "char16_t", "char32_t", "class", "compl", "concept",
  "const", "consteval", "constexpr", "constinit", "const_cast", "continue", "co_await",
  "co_return", "co_yield", "decltype", "default", "delete", "do", "double", "dynamic_cast",
  "else", "enum", "explicit", "export", "extern", "false", "float", "for", "friend", "goto",
  "if", "inline", "int", "long", "mutable", "namespace", "new", "noexcept", "not", "not_eq",
  "nullptr", "operator", "or", "or_eq", "private", "protected", "public", "register",
  "reinterpret_cast", "requires", "return", "short", "signed", "sizeof", "static",
  "static_assert", "static_cast", "struct", "switch", "template", "this", "thread_local",
  "throw", "true", "try", "typedef", "typeid", "typename", "union", "unsigned", "using",
  "virtual", "void", "volatile", "wchar_t", "while", "xor", "xor_eq"]

/-- Further keywords of the managed languages, which reach identifiers through escaped names. -/
def managedKeywords : List String := [
  "abstract", "base", "byte", "checked", "decimal", "event", "finally", "fixed", "foreach",
  "implicit", "in", "interface", "internal", "is", "lock", "null", "object", "out", "override",
  "params", "readonly", "ref", "sbyte", "sealed", "stackalloc", "string", "uint", "ulong",
  "unchecked", "unsafe", "ushort"]

/-- Preprocessor names that the generated headers define or use. -/
def macroNames : List String := [
  "O", "BNM_OBFUSCATE", "NULL", "EOF", "TRUE", "FALSE", "assert", "offsetof"]

/-- Type names that the headers' runtime binds already; a member or a type spelled like one
would hide the runtime's own declaration. -/
def runtimeTypeNames : List String := [
  "Class", "Method", "Field", "Property", "Image", "Event", "MonoType", "MonoClass",
  "MonoObject", "MonoArray", "MonoString", "Type", "Delegate", "MulticastDelegate", "MethodBase",
  "MethodInfo", "FieldInfo", "PropertyInfo", "Assembly", "Defaults"]

/-- Members that every managed object has; none is generated again. -/
def implicitMembers : List String := [
  "GetClass", "GetType", "ToString", "Equals", "GetHashCode", "MemberwiseClone", "Finalize"]

end ProxyHeaders.Names
