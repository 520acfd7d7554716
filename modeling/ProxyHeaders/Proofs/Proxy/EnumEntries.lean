import ProxyHeaders.Proofs.Names.Numbering
import ProxyHeaders.Proofs.Names.Steady
import ProxyHeaders.Proxy.Enumeration

/-!
The entries of an enum are its members, in their order and with their values, under names of their
own: each is the member's identifier with the least number that tells it from those in front of it.
A warning goes with each member that is named like a reserved word.
-/
namespace ProxyHeaders

open ProxyHeaders.Names ProxyHeaders.Names.Sanitizer

namespace Names.Sanitizer

variable {sanitizer : Sanitizer}

theorem words_forHeaders :
    ∀ word ∈ forHeaders.keywords ++ forHeaders.macros, IsIdentifier word := by
  decide +kernel

theorem identifier_reserved {name : String} (reserved : forHeaders.isReserved name) :
    forHeaders.identifier name = escapeMark ++ name := by
  have listed : name ∈ forHeaders.keywords ++ forHeaders.macros := by
    simpa [isReserved] using reserved
  have identifier := words_forHeaders name listed
  have valid : withValidStart (inCase .asIs (forHeaders.replaceForeign name)) = name := by
    rw [replaceForeign_of_word forHeaders identifier.word]
    exact identifier.validStart
  rw [Sanitizer.identifier, sanitize_faithful forHeaders_faithful, compute, Option.getD_some]
  simp only [valid, if_pos reserved]
  rfl

end Names.Sanitizer

namespace Proxy

theorem enumEntries_length (sanitizer : Sanitizer) (type : TypeDecl) :
    (enumEntries sanitizer type).length = type.enumMembers.length := by
  rw [enumEntries, List.length_zip, distinct_length, List.length_map, List.length_map, Nat.min_self]

theorem enumEntries_names (sanitizer : Sanitizer) (type : TypeDecl) :
    (enumEntries sanitizer type).map (·.1) =
      distinct (type.enumMembers.map fun member => sanitizer.identifier member.name) := by
  apply List.map_fst_zip
  rw [distinct_length, List.length_map, List.length_map]

/-- A member's entry stands in the member's place. -/
theorem enumEntries_entry (sanitizer : Sanitizer) {type : TypeDecl} {before after : List EnumMember}
    {member : EnumMember} (members : type.enumMembers = before ++ member :: after) :
    ∃ number, Gets (before.map fun earlier => sanitizer.identifier earlier.name)
        (sanitizer.identifier member.name) number ∧
      (enumEntries sanitizer type)[before.length]? =
        some (numbered (sanitizer.identifier member.name) number,
          enumLiteral member.value type.enumUnderlying) := by
  obtain ⟨number, gets, -⟩ := Gets.exists_number
    (before.map fun earlier => sanitizer.identifier earlier.name)
    (sanitizer.identifier member.name)
  refine ⟨number, gets, List.getElem?_zip_eq_some.mpr ⟨?_, ?_⟩⟩
  · have named := (Gets.entry_iff _ _ (after.map fun later => sanitizer.identifier later.name)
      number).mpr gets
    rw [members, List.map_append, List.map_cons]
    rwa [List.length_map] at named
  · rw [members, List.getElem?_map, List.getElem?_append_right (Nat.le_refl _), Nat.sub_self]
    rfl

/-- Whatever names the sanitizer for headers was asked before, the entries of an enum are one for
each member, in order: the member's identifier, with the least number that none of the entries in
front has got, and the literal of the member's value. All their names are different, identifiers
and no reserved words, and a warning is due for each member with a reserved name, in order. -/
theorem enum_members_relabelled {history : List Question}
    (named : ∀ question ∈ history, question.IsNamed) (type : TypeDecl) :
    let sanitizer := forHeaders.afterAll history
    let entries := enumEntries sanitizer type
    (entries.length = type.enumMembers.length ∧
      ∀ before member after, type.enumMembers = before ++ member :: after →
        ∃ number, Gets (before.map fun earlier => forHeaders.identifier earlier.name)
            (forHeaders.identifier member.name) number ∧
          entries[before.length]? =
            some (numbered (forHeaders.identifier member.name) number,
              enumLiteral member.value type.enumUnderlying)) ∧
    ((entries.map (·.1)).Nodup ∧ ∀ entry ∈ entries, forHeaders.Safe entry.1) ∧
    enumWarnings sanitizer type =
      (type.enumMembers.filter fun member => forHeaders.isReserved member.name).map fun member =>
        type.fullName ++ ": enum value '" ++ member.name ++ "' escaped as '$" ++ member.name ++
          "'" := by
  intro sanitizer entries
  have alike : sanitizer.Alike forHeaders := (afterAll_faithful forHeaders_faithful named).2
  have same : entries = enumEntries forHeaders type := by
    simp only [entries, enumEntries, alike.identifier]
  rw [same]
  refine ⟨⟨enumEntries_length forHeaders type, ?_⟩, ⟨?_, ?_⟩, ?_⟩
  · intro before member after members
    exact enumEntries_entry forHeaders members
  · rw [enumEntries_names]
    exact (spread_free [] _).1
  · intro entry listed
    have given : entry.1 ∈ (enumEntries forHeaders type).map (·.1) := List.mem_map_of_mem listed
    rw [enumEntries_names] at given
    obtain ⟨base, asked, number, own⟩ := mem_spread given
    obtain ⟨member, -, rfl⟩ := List.mem_map.mp asked
    rw [own]
    exact numbered_safe undigited_forHeaders (identifier_safe guarded_forHeaders member.name) number
  · have reserved (name : String) : sanitizer.isReserved name = forHeaders.isReserved name := by
      rw [isReserved, alike.keywords, alike.macros]
      rfl
    have mark : "' escaped as '$" = "' escaped as '" ++ escapeMark := by decide
    simp only [enumWarnings, reserved, mark]
    apply List.map_congr_left
    intro member listed
    rw [alike.identifier, identifier_reserved (List.mem_filter.mp listed).2]
    simp only [String.append_assoc]

def operation : TypeDecl :=
  { name := "Op", space := some "Game", category := .enumType
    enumMembers := [⟨"A", 0⟩, ⟨"A", 1⟩, ⟨"A_1", 2⟩, ⟨"delete", 3⟩, ⟨"a<b", -1⟩, ⟨"a>b", 4⟩] }

def operationHistory : List Question :=
  [.identifier (some "delete") .camel, .parameters [none, some "A"] ["value"], .forgetting,
    .identifier (some "A_1") .asIs]

theorem operation_relabelled :
    (∀ question ∈ operationHistory, question.IsNamed) ∧
      enumEntries (forHeaders.afterAll operationHistory) operation =
        [("A", "0"), ("A_1", "1"), ("A_1_1", "2"), ("$delete", "3"), ("a$b", "-1"),
          ("a$b_1", "4")] ∧
      (∀ entry ∈ enumEntries (forHeaders.afterAll operationHistory) operation,
        forHeaders.Safe entry.1) ∧
      enumWarnings (forHeaders.afterAll operationHistory) operation =
        ["Game.Op: enum value 'delete' escaped as '$delete'"] := by
  have named : ∀ question ∈ operationHistory, question.IsNamed := by decide
  obtain ⟨-, ⟨-, safe⟩, warnings⟩ := enum_members_relabelled named operation
  refine ⟨named, by decide +kernel, safe, ?_⟩
  rw [warnings]
  decide +kernel

end Proxy

end ProxyHeaders
