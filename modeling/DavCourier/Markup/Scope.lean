import DavCourier.Markup.Piece

/-!
# Namespaces in scope

The attributes of a tag declare namespaces : `xmlns` for names without a prefix and
`xmlns:p` for names with the prefix `p`. A `Scope` lists the declarations in force, the
nearest first. `Scope.resolve` finds the namespace of an element.
-/

namespace DavCourier.Markup

/-- A name with the raw value that a tag gives it. -/
structure Attribute where
  key : Bytes
  value : Bytes
  deriving DecidableEq, Repr

/-- The bytes of a key end at a space or an equals sign. -/
def isKeyByte (b : UInt8) : Bool :=
  b != 0x3D && !isSpace b

/-- The bytes after the quoted value that starts here, with that value. -/
def quotedValue? : Bytes → Option (Bytes × Bytes)
  | [] => none
  | q :: rest =>
    if q == 0x22 || q == 0x27 then
      match rest.dropWhile (· != q) with
      | [] => none
      | _ :: after => some (rest.takeWhile (· != q), after)
    else none

/-- The first attribute and the bytes after it. The first byte of a key may be any but a
space. -/
def attribute? (bs : Bytes) : Option (Attribute × Bytes) :=
  match bs.dropWhile isSpace with
  | [] => none
  | k :: rest =>
    match (rest.dropWhile isKeyByte).dropWhile isSpace with
    | [] => none
    | e :: after =>
      if e == 0x3D then
        (quotedValue? (after.dropWhile isSpace)).map fun (value, after) =>
          (⟨k :: rest.takeWhile isKeyByte, value⟩, after)
      else none

theorem length_dropWhile_le (p : UInt8 → Bool) (bs : Bytes) :
    (bs.dropWhile p).length ≤ bs.length :=
  (List.dropWhile_suffix p).length_le

theorem length_of_quotedValue? {bs value after : Bytes}
    (h : quotedValue? bs = some (value, after)) : after.length < bs.length := by
  unfold quotedValue? at h
  split at h
  · simp at h
  · next q rest =>
    split at h
    · split at h
      · simp at h
      · next b tail heq =>
        simp only [Option.some.injEq, Prod.mk.injEq] at h
        have := length_dropWhile_le (· != q) rest
        rw [heq, h.2] at this
        simp only [List.length_cons] at this ⊢
        omega
    · simp at h

theorem length_of_attribute? {bs after : Bytes} {a : Attribute}
    (h : attribute? bs = some (a, after)) : after.length < bs.length := by
  unfold attribute? at h
  split at h
  · simp at h
  · next k rest hk =>
    split at h
    · simp at h
    · next e tail he =>
      split at h
      · obtain ⟨⟨value, after'⟩, hv, heq⟩ := Option.map_eq_some_iff.mp h
        simp only [Prod.mk.injEq] at heq
        have h₁ := length_dropWhile_le isSpace bs
        have h₂ := length_dropWhile_le isSpace (rest.dropWhile isKeyByte)
        have h₃ := length_dropWhile_le isKeyByte rest
        have h₄ := length_dropWhile_le isSpace tail
        have h₅ := length_of_quotedValue? hv
        rw [hk] at h₁
        rw [he] at h₂
        simp only [List.length_cons] at h₁ h₂
        rw [heq.2] at h₅
        omega
      · simp at h

/-- The attributes before the first one that is not well formed. -/
def attributes (bs : Bytes) : List Attribute :=
  match _h : attribute? bs with
  | none => []
  | some (a, after) => a :: attributes after
  termination_by bs.length
  decreasing_by exact length_of_attribute? _h

/-- A prefix, empty for names without one, with the namespace it stands for. An empty
namespace takes a declaration back. -/
structure Binding where
  name : Bytes
  space : Bytes
  deriving DecidableEq, Repr

/-- The declarations in force, the nearest first. -/
abbrev Scope := List Binding

/-- The prefix that an attribute declares, if it declares one. -/
def Attribute.declared? (a : Attribute) : Option Bytes :=
  match a.key with
  | 0x78 :: 0x6D :: 0x6C :: 0x6E :: 0x73 :: rest =>
    match rest with
    | [] => some []
    | 0x3A :: name => some name
    | _ => none
  | _ => none

namespace Scope

/-- The prefix of the language itself. -/
def xmlName : Bytes := Utf8.encodeString "xml"

/-- The prefix of declarations. -/
def xmlnsName : Bytes := Utf8.encodeString "xmlns"

/-- The declarations in force outside all elements. -/
def initial : Scope :=
  [⟨xmlName, Utf8.encodeString xmlSpace⟩, ⟨xmlnsName, Utf8.encodeString xmlnsSpace⟩]

/-- Whether the attribute gives names without a prefix a namespace. -/
def isDefault (a : Attribute) : Bool :=
  a.key.length == 5

/-- Adds the declaration that an attribute makes, if it makes one. -/
def declare (scope : Scope) (a : Attribute) : Except BindingFault Scope :=
  match a.declared? with
  | none => .ok scope
  | some name =>
    if isDefault a then .ok (⟨[], a.value⟩ :: scope)
    else if name = xmlName then
      if a.value = Utf8.encodeString xmlSpace then .ok scope else .error (.xmlTo a.value)
    else if name = xmlnsName then .error (.xmlnsTo a.value)
    else if a.value = Utf8.encodeString xmlSpace then .error (.toXml name)
    else if a.value = Utf8.encodeString xmlnsSpace then .error (.toXmlns name)
    else .ok (⟨name, a.value⟩ :: scope)

/-- The declarations in force inside a tag with these attributes. -/
def enter (scope : Scope) (declared : List Attribute) : Except BindingFault Scope :=
  declared.foldlM declare scope

/-- The namespace that the nearest declaration of a prefix gives it. -/
def lookup (scope : Scope) (name : Bytes) : Option Bytes :=
  (scope.find? fun b => b.name == name).map Binding.space

end Scope

/-- What a name belongs to. -/
inductive Resolution where
  | bound (space : Bytes)
  | unbound
  /-- The prefix of the name is not declared. -/
  | unknown (name : Bytes)
  deriving DecidableEq, Repr

/-- The part of a name before its first colon, if it has one. -/
def qualifierOf (name : Bytes) : Option Bytes :=
  if name.contains 0x3A then some (name.takeWhile (· != 0x3A)) else none

/-- The namespace of an element. The empty prefix of a name such as `:a` is never declared. -/
def Scope.resolve (scope : Scope) (name : Bytes) : Resolution :=
  match qualifierOf name with
  | none =>
    match scope.lookup [] with
    | none | some [] => .unbound
    | some space => .bound space
  | some [] => .unknown []
  | some qualifier =>
    match scope.lookup qualifier with
    | none | some [] => .unknown qualifier
    | some space => .bound space

end DavCourier.Markup
