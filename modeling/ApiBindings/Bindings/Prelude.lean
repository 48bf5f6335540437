import ApiBindings.Text.Pieces
/-!
# Fixed text of the generated modules

Both modules open with a header. The types module goes on with the classes and functions that all
generated classes rest on.
-/

namespace ApiBindings.Bindings

/-- Lines of code, each ended. -/
def codeText (ls : List String) : String := Text.unlines ls ++ "\n"

/-- The beginning of the types module. -/
def typesHeader (namespaceName : String) : String := codeText [
  "\"\"\"",
  namespaceName ++ " types, generated from the published API reference.",
  "",
  "Do not edit by hand: regenerate with `apidoc-codegen`.",
  "\"\"\"",
  "",
  "from __future__ import annotations",
  "",
  "from functools import lru_cache",
  "from typing import Any, ClassVar, Generic, Optional, TypeVar, get_args",
  "",
  "from pydantic import BaseModel, ConfigDict, Field, TypeAdapter, ValidationError, "
    ++ "field_validator",
  "from pydantic_core import PydanticSerializationError, core_schema, to_json, to_jsonable_python"]

/-- What all generated types rest on. -/
def prelude : String := codeText [
  "",
  "A = TypeVar(\"A\")",
  "B = TypeVar(\"B\")",
  "",
  "",
  "class UnionDecodeError(ValueError):",
  "    \"\"\"Raised when a payload matches none of a union's alternatives.\"\"\"",
  "",
  "    def __init__(self, name: str, data: Any):",
  "        super().__init__(f\"\x7bname\x7d: payload matches none of the declared alternatives\")",
  "        self.name = name",
  "        self.data = data",
  "",
  "",
  "@lru_cache(maxsize=None)",
  "def _adapter(payload_type: Any) -> TypeAdapter:",
  "    return TypeAdapter(payload_type)",
  "",
  "",
  "def validate_as(payload_type: Any, data: Any) -> Any:",
  "    \"\"\"Validate data as payload_type without coercion (\"1\" is not an int).\"\"\"",
  "    return _adapter(payload_type).validate_python(data, strict=True)",
  "",
  "",
  "def dump_as(payload_type: Any, value: Any) -> Any:",
  "    \"\"\"Serialize value as payload_type, using wire names and omitting absent fields.\"\"\"",
  "    return _adapter(payload_type).dump_python(value, mode=\"json\", by_alias=True, "
    ++ "exclude_none=True)",
  "",
  "",
  "def encode_value(value: Any) -> Any:",
  "    \"\"\"JSON-ready form of one generated or builtin value.\"\"\"",
  "    if isinstance(value, (Either, TaggedUnion)):",
  "        return value.encode()",
  "    if isinstance(value, (list, tuple)):",
  "        return [encode_value(item) for item in value]",
  "    return to_jsonable_python(value, by_alias=True, exclude_none=True)",
  "",
  "",
  "def encode_parameters(parameters: dict[str, Any]) -> bytes:",
  "    \"\"\"",
  "    Serialize a mapping whose values have assorted types.",
  "",
  "    Entries whose value cannot be serialized are dropped silently.",
  "    \"\"\"",
  "    encodable = \x7b\x7d",
  "    for key, value in parameters.items():",
  "        try:",
  "            encodable[key] = encode_value(value)",
  "        except PydanticSerializationError:",
  "            continue",
  "    return to_json(encodable)",
  "",
  "",
  "def wire_config(wire_names: dict[str, str], **extra: Any) -> ConfigDict:",
  "    \"\"\"Model config that maps each property name to its wire name.\"\"\"",
  "    return ConfigDict(",
  "        populate_by_name=True,",
  "        alias_generator=lambda name: wire_names.get(name, name),",
  "        **extra,",
  "    )",
  "",
  "",
  "class Either(Generic[A, B]):",
  "    \"\"\"May contain two different types.\"\"\"",
  "",
  "    def __init__(self, value: Any, tag: str = \"left\"):",
  "        if tag not in (\"left\", \"right\"):",
  "            raise ValueError(f\"Either has no side \x7btag!r\x7d\")",
  "        self.tag = tag",
  "        self.value = value",
  "",
  "    @classmethod",
  "    def from_left(cls, value: A) -> Either[A, B]:",
  "        return cls(value, \"left\")",
  "",
  "    @classmethod",
  "    def from_right(cls, value: B) -> Either[A, B]:",
  "        return cls(value, \"right\")",
  "",
  "    @property",
  "    def left(self) -> Optional[A]:",
  "        return self.value if self.tag == \"left\" else None",
  "",
  "    @property",
  "    def right(self) -> Optional[B]:",
  "        return self.value if self.tag == \"right\" else None",
  "",
  "    @classmethod",
  "    def decode(cls, data: Any, left_type: Any = Any, right_type: Any = Any) -> Either[A, B]:",
  "        \"\"\"The first alternative that validates wins, left before right.\"\"\"",
  "        try:",
  "            return cls(validate_as(left_type, data), \"left\")",
  "        except ValidationError:",
  "            pass",
  "        try:",
  "            return cls(validate_as(right_type, data), \"right\")",
  "        except ValidationError:",
  "            raise UnionDecodeError(\"Either\", data) from None",
  "",
  "    def encode(self) -> Any:",
  "        if self.tag == \"left\":",
  "            return encode_value(self.left)",
  "        return encode_value(self.right)",
  "",
  "    def __eq__(self, other: Any) -> bool:",
  "        return isinstance(other, Either) and (other.tag, other.value) == (self.tag, self.value)",
  "",
  "    def __repr__(self) -> str:",
  "        return f\"Either.from_\x7bself.tag\x7d(\x7bself.value!r\x7d)\"",
  "",
  "    @classmethod",
  "    def __get_pydantic_core_schema__(cls, source: Any, handler: Any) -> core_schema.CoreSchema:",
  "        left_type, right_type = get_args(source) or (Any, Any)",
  "",
  "        def coerce(data: Any) -> Either:",
  "            if isinstance(data, Either):",
  "                return data",
  "            return cls.decode(data, left_type, right_type)",
  "",
  "        return core_schema.no_info_plain_validator_function(",
  "            coerce,",
  "            serialization=core_schema.plain_serializer_function_ser_schema(lambda "
    ++ "either: either.encode()),",
  "        )",
  "",
  "",
  "class TaggedUnion:",
  "    \"\"\"Base of the generated unions: exactly one tagged payload.\"\"\"",
  "",
  "    TAGS: ClassVar[tuple[str, ...]] = ()",
  "",
  "    def __init__(self, tag: str, value: Any):",
  "        if tag not in self.TAGS:",
  "            raise ValueError(f\"\x7btype(self).__name__\x7d has no variant \x7btag!r\x7d\")",
  "        self.tag = tag",
  "        self.value = value",
  "",
  "    @classmethod",
  "    def decode(cls, data: Any) -> TaggedUnion:",
  "        raise NotImplementedError",
  "",
  "    def encode(self) -> Any:",
  "        raise NotImplementedError",
  "",
  "    def __eq__(self, other: Any) -> bool:",
  "        return type(other) is type(self) and (other.tag, other.value) == (self.tag, self.value)",
  "",
  "    def __repr__(self) -> str:",
  "        return f\"\x7btype(self).__name__\x7d.\x7bself.tag\x7d(\x7bself.value!r\x7d)\"",
  "",
  "    @classmethod",
  "    def __get_pydantic_core_schema__(cls, source: Any, handler: Any) -> core_schema.CoreSchema:",
  "        def coerce(data: Any) -> TaggedUnion:",
  "            if isinstance(data, cls):",
  "                return data",
  "            return cls.decode(data)",
  "",
  "        return core_schema.no_info_plain_validator_function(",
  "            coerce,",
  "            serialization=core_schema.plain_serializer_function_ser_schema(lambda union: "
    ++ "union.encode()),",
  "        )",
  "",
  "",
  "class Request(BaseModel):",
  "    \"\"\"An operation call: the method name and its wire-named parameters.\"\"\"",
  "",
  "    method: str",
  "    body: dict[str, Any] = Field(default_factory=dict)",
  "",
  "    @field_validator(\"body\")",
  "    @classmethod",
  "    def drop_absent(cls, body: dict[str, Any]) -> dict[str, Any]:",
  "        return \x7bkey: value for key, value in body.items() if value is not None\x7d",
  "",
  "    def encode(self) -> bytes:",
  "        return encode_parameters(self.body)"]

/-- The beginning of the operations module, up to the body of its class. -/
def operationsHeader (namespaceName typesModule : String) : String := codeText [
  "\"\"\"",
  namespaceName ++ " request builders, generated from the published API reference.",
  "",
  "Do not edit by hand: regenerate with `apidoc-codegen`.",
  "\"\"\"",
  "",
  "from __future__ import annotations",
  "",
  "from typing import Optional",
  "",
  "from ." ++ typesModule ++ " import *  # noqa: F401,F403",
  "",
  "",
  "class " ++ namespaceName ++ ":",
  "    \"\"\"One builder per documented operation; each returns a Request.\"\"\""]

end ApiBindings.Bindings
