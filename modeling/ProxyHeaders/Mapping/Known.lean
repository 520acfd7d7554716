/-!
Managed types with a spelling of their own in the headers, by full name without generic arity.
-/
namespace ProxyHeaders.Mapping

def knownSpellings : List (String × String) := [
  ("System.Void", "void"), ("System.Boolean", "bool"), ("System.Byte", "uint8_t"),
  ("System.SByte", "int8_t"), ("System.Int16", "int16_t"), ("System.UInt16", "uint16_t"),
  ("System.Int32", "int"), ("System.UInt32", "uint32_t"), ("System.Int64", "int64_t"),
  ("System.UInt64", "uint64_t"), ("System.Single", "float"), ("System.Double", "double"),
  ("System.Char", "char16_t"), ("System.String", "Mono::String*"),
  ("System.Object", "IL2CPP::Il2CppObject*"), ("System.IntPtr", "void*"),
  ("System.UIntPtr", "void*"), ("System.StringComparison", "int"),
  ("UnityEngine.Vector2", "Vector2"), ("UnityEngine.Vector3", "Vector3"),
  ("UnityEngine.Vector4", "Vector4"), ("UnityEngine.Vector2Int", "Vector2Int"),
  ("UnityEngine.Vector3Int", "Vector3Int"), ("UnityEngine.Quaternion", "Quaternion"),
  ("UnityEngine.Color", "Color"), ("UnityEngine.Color32", "Color32"),
  ("UnityEngine.Rect", "Rect"), ("UnityEngine.Ray", "Ray"),
  ("UnityEngine.RaycastHit", "RaycastHit"), ("UnityEngine.Matrix4x4", "Matrix4x4"),
  ("UnityEngine.Object", "Object*"), ("UnityEngine.GameObject", "GameObject*"),
  ("UnityEngine.Transform", "Transform*"), ("UnityEngine.Component", "Component*"),
  ("UnityEngine.Behaviour", "Behaviour*"), ("UnityEngine.MonoBehaviour", "MonoBehaviour*"),
  ("UnityEngine.Rigidbody", "Rigidbody*"), ("UnityEngine.Collider", "Collider*"),
  ("UnityEngine.BoxCollider", "BoxCollider*"), ("UnityEngine.SphereCollider", "SphereCollider*"),
  ("UnityEngine.Camera", "Camera*"), ("UnityEngine.Renderer", "Renderer*"),
  ("UnityEngine.MeshRenderer", "MeshRenderer*"), ("UnityEngine.Material", "Material*"),
  ("UnityEngine.Shader", "Shader*"), ("UnityEngine.Texture", "Texture*"),
  ("UnityEngine.Texture2D", "Texture2D*"), ("UnityEngine.Sprite", "Sprite*"),
  ("UnityEngine.AudioSource", "AudioSource*"), ("UnityEngine.AudioClip", "AudioClip*"),
  ("UnityEngine.Animator", "Animator*"), ("UnityEngine.LineRenderer", "LineRenderer*")]

def inheritableBases : List (String × String) := [
  ("UnityEngine.MonoBehaviour", "MonoBehaviour"), ("UnityEngine.Behaviour", "Behaviour"),
  ("UnityEngine.Component", "Component"), ("UnityEngine.Object", "Object"),
  ("UnityEngine.ScriptableObject", "ScriptableObject")]

def trivialBases : List String := ["System.Object", "System.ValueType"]

/-- Namespaces whose types may be mentioned unless the settings say otherwise. -/
def defaultAllowed : List String := ["System", "UnityEngine"]

/-- The generic list type that has a counterpart in the runtime. -/
def listTypeName : String := "System.Collections.Generic.List"

end ProxyHeaders.Mapping
