import RestFlow.Body.Tree
import RestFlow.Json.Decode

/-!
# The written form of payloads and trees

Trees are written as objects whose member `node` tells leaves from internal nodes; payloads as
objects whose member `kind` tells what is known about the value. Inside a tree both members may give
their meaning by number as well as by word.
-/

namespace RestFlow

namespace PrimitiveType

/-- Read a primitive type. -/
def decode : Decoder PrimitiveType :=
  .word (all.map fun t => (t.word, t))

/-- Write a primitive type. -/
def encode (t : PrimitiveType) : Json :=
  .string t.word

end PrimitiveType

namespace CustomKind

/-- Read a kind of custom payload. -/
def decode : Decoder CustomKind :=
  .word (all.map fun k => (k.word, k))

/-- Write a kind of custom payload. -/
def encode (k : CustomKind) : Json :=
  .string k.word

end CustomKind

namespace AccessPath

/-- Read an access path. -/
def decode : Decoder AccessPath := fun j =>
  ofPointer <$> Decoder.string j

/-- Write an access path. -/
def encode (p : AccessPath) : Json :=
  .string p.pointer

end AccessPath

namespace Payload

/-- The three kinds of payload and their fields. -/
def records : List (String × Record Payload) := [
  ("constant",
    constant <$> .required "primitive_type" PrimitiveType.decode <*> .required "value" .string),
  ("fuzzable",
    fuzzable <$> .required "primitive_type" PrimitiveType.decode
      <*> .optional "default_value" .string),
  ("custom",
    custom <$> .required "payload_type" CustomKind.decode
      <*> .required "primitive_type" PrimitiveType.decode
      <*> .required "value" .string
      <*> .defaulted "is_object" false .bool)]

/-- Read a payload. -/
def decode (numbered : Bool) : Decoder Payload :=
  .tagged "kind" numbered records

/-- Write a payload. -/
def encode : Payload → Json
  | constant t value =>
    .object [("kind", .string "constant"), ("primitive_type", t.encode), ("value", .string value)]
  | fuzzable t preset =>
    .ofPresent [("kind", some (.string "fuzzable")), ("primitive_type", some t.encode),
      ("default_value", preset.map .string)]
  | custom k t value isObject =>
    .object [("kind", .string "custom"), ("payload_type", k.encode),
      ("primitive_type", t.encode), ("value", .string value), ("is_object", .bool isObject)]

end Payload

namespace Tree

/-- The fields of a leaf. -/
def leafRecord : Record Leaf :=
  Leaf.mk <$> .defaulted "name" "" .string
    <*> .required "payload" (Payload.decode true)
    <*> .defaulted "is_required" true .bool
    <*> .defaulted "is_readonly" false .bool

/-- The fields of an internal node. -/
def internalRecord (child : Decoder Tree) : Record Tree :=
  internal <$> .defaulted "name" "" .string
    <*> .defaulted "kind" .object (.word [("object", .object), ("array", .array)])
    <*> .defaulted "is_required" true .bool
    <*> .defaulted "is_readonly" false .bool
    <*> .defaulted "children" [] (.list child)

/-- Read a tree of at most `levels` levels. -/
def decodeWithin (numbered : Bool) : Nat → Decoder Tree
  | 0 => fun _ => .error .malformed
  | levels + 1 =>
    .tagged "node" numbered [
      ("leaf", leaf <$> leafRecord),
      ("internal", internalRecord (decodeWithin true levels))]

/-- Read a tree. A document has fewer levels than are allowed here. -/
def decode : Decoder Tree :=
  decodeWithin false 128

mutual

/-- Write a tree. -/
def encode : Tree → Json
  | leaf node =>
    .object [("node", .string "leaf"), ("name", .string node.name),
      ("payload", node.payload.encode), ("is_required", .bool node.isRequired),
      ("is_readonly", .bool node.isReadonly)]
  | internal name nesting isRequired isReadonly children =>
    .object [("node", .string "internal"), ("name", .string name),
      ("kind", .string nesting.word), ("is_required", .bool isRequired),
      ("is_readonly", .bool isReadonly), ("children", .array (encodeAll children))]

/-- Write several trees. -/
def encodeAll : List Tree → List Json
  | [] => []
  | tree :: rest => encode tree :: encodeAll rest

end

end Tree

end RestFlow
