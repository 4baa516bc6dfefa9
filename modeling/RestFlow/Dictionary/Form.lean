import RestFlow.Body.Form
import RestFlow.Dictionary.Basic
import RestFlow.Json.Printer

/-!
# The written form of dictionaries

Dictionaries are documents for a fuzzing engine, which fixes the names of their members. Every
member may be left out.
-/

namespace RestFlow

namespace DictionaryPayload

/-- The fields of a payload. -/
def record : Record DictionaryPayload :=
  DictionaryPayload.mk <$> .required "payload_type" CustomKind.decode
    <*> .required "primitive_type" PrimitiveType.decode
    <*> .required "name" .string
    <*> .required "is_object" .bool

/-- Read a payload. -/
def decode : Decoder DictionaryPayload :=
  record.decoder

/-- Write a payload. -/
def encode (p : DictionaryPayload) : Json :=
  .object [("payload_type", p.kind.encode), ("primitive_type", p.type.encode),
    ("name", .string p.name), ("is_object", .bool p.isObject)]

end DictionaryPayload

namespace Dictionary

/-- A member that lists plain values. -/
def valuesField (name : String) : Record (List String) :=
  .defaulted name [] (.list .string)

/-- A member that maps keys to custom payloads. -/
def payloadsField (name : String) : Record (SortedMap (List String)) :=
  .defaulted name .empty (.map (.list .string))

/-- The fields of a dictionary. -/
def record : Record Dictionary :=
  Dictionary.mk <$> valuesField "restler_fuzzable_string"
    <*> valuesField "restler_fuzzable_string_unquoted"
    <*> valuesField "restler_fuzzable_datetime"
    <*> valuesField "restler_fuzzable_date"
    <*> valuesField "restler_fuzzable_uuid4"
    <*> valuesField "restler_fuzzable_int"
    <*> valuesField "restler_fuzzable_number"
    <*> valuesField "restler_fuzzable_bool"
    <*> valuesField "restler_fuzzable_object"
    <*> payloadsField "restler_custom_payload"
    <*> payloadsField "restler_custom_payload_unquoted"
    <*> payloadsField "restler_custom_payload_header"
    <*> payloadsField "restler_custom_payload_query"
    <*> .defaulted "restler_custom_payload_uuid4_suffix" .empty (.map .string)
    <*> .defaulted "shadow_values" .empty (.map .any)

/-- Read a dictionary. -/
def decode : Decoder Dictionary :=
  record.decoder

/-- Write a dictionary, every member in its place. -/
def encode (d : Dictionary) : Json :=
  .object [
    ("restler_fuzzable_string", .strings d.strings),
    ("restler_fuzzable_string_unquoted", .strings d.unquotedStrings),
    ("restler_fuzzable_datetime", .strings d.datetimes),
    ("restler_fuzzable_date", .strings d.dates),
    ("restler_fuzzable_uuid4", .strings d.uuids),
    ("restler_fuzzable_int", .strings d.ints),
    ("restler_fuzzable_number", .strings d.numbers),
    ("restler_fuzzable_bool", .strings d.bools),
    ("restler_fuzzable_object", .strings d.objects),
    ("restler_custom_payload", .ofMap .strings d.payloads),
    ("restler_custom_payload_unquoted", .ofMap .strings d.unquotedPayloads),
    ("restler_custom_payload_header", .ofMap .strings d.headerPayloads),
    ("restler_custom_payload_query", .ofMap .strings d.queryPayloads),
    ("restler_custom_payload_uuid4_suffix", .ofMap .string d.uuidSuffixes),
    ("shadow_values", .ofMap id d.shadowValues)]

/-- The text of a dictionary over several lines. -/
def text (d : Dictionary) : String :=
  d.encode.pretty

end Dictionary

namespace EndpointDictionaries

/-- Write the dictionaries by endpoint. -/
def encode (dictionaries : EndpointDictionaries) : Json :=
  .ofMap Dictionary.encode dictionaries

end EndpointDictionaries

end RestFlow
