import StreamOperator.Json.Record

/-!
# Coordinates of a resource type

A type of custom resources is addressed by its group, version, plural and kind.
-/

set_option autoImplicit false

namespace StreamOperator

structure Coordinates where
  group : String
  version : String
  plural : String
  kind : String
  deriving DecidableEq, Repr, Inhabited

namespace Coordinates

/-- The group and version, or the version alone in the core group. -/
def apiVersion (c : Coordinates) : String :=
  if c.group = "" then c.version else c.group ++ "/" ++ c.version

/-- The type as messages name it. -/
def display (c : Coordinates) : String := c.plural ++ "." ++ c.group ++ "/" ++ c.version

def record : Record Coordinates :=
  (Record.const Coordinates.mk)
    |>.and (.required "group" Decode.text)
    |>.and (.required "version" Decode.text)
    |>.and (.required "plural" Decode.text)
    |>.and (.required "kind" Decode.text)

def decode : Decoder Coordinates := Record.struct "ApiCoordinates" record

def encode (c : Coordinates) : Json :=
  .obj [("group", .str c.group), ("kind", .str c.kind), ("plural", .str c.plural),
    ("version", .str c.version)]

end Coordinates

end StreamOperator
