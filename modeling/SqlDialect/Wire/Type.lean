import SqlDialect.Text.Basic

/-! The types of a server, by the numbers and names it gives them. -/

set_option autoImplicit false

namespace SqlDialect.Wire

structure PlainType where
  oid : Nat
  name : Text
  deriving DecidableEq

structure ValueType where
  oid : Nat
  name : Text
  element : Option PlainType
  deriving DecidableEq

namespace PlainType

def bool : Nat := 16
def bytea : Nat := 17
def name8 : Nat := 19
def int8 : Nat := 20
def int2 : Nat := 21
def int4 : Nat := 23
def text : Nat := 25
def json : Nat := 114
def float4 : Nat := 700
def float8 : Nat := 701
def unknown : Nat := 705
def bpchar : Nat := 1042
def varchar : Nat := 1043
def date : Nat := 1082
def timestamp : Nat := 1114
def timestamptz : Nat := 1184
def interval : Nat := 1186
def jsonb : Nat := 3802

def builtin : List PlainType := [
  ⟨16, "bool"⟩, ⟨17, "bytea"⟩, ⟨18, "char"⟩, ⟨19, "name"⟩, ⟨20, "int8"⟩, ⟨21, "int2"⟩,
  ⟨23, "int4"⟩, ⟨24, "regproc"⟩, ⟨25, "text"⟩, ⟨26, "oid"⟩, ⟨27, "tid"⟩, ⟨28, "xid"⟩,
  ⟨29, "cid"⟩, ⟨114, "json"⟩, ⟨142, "xml"⟩, ⟨600, "point"⟩, ⟨601, "lseg"⟩, ⟨602, "path"⟩,
  ⟨603, "box"⟩, ⟨604, "polygon"⟩, ⟨628, "line"⟩, ⟨650, "cidr"⟩, ⟨700, "float4"⟩,
  ⟨701, "float8"⟩, ⟨705, "unknown"⟩, ⟨718, "circle"⟩, ⟨774, "macaddr8"⟩, ⟨790, "money"⟩,
  ⟨829, "macaddr"⟩, ⟨869, "inet"⟩, ⟨1042, "bpchar"⟩, ⟨1043, "varchar"⟩, ⟨1082, "date"⟩,
  ⟨1083, "time"⟩, ⟨1114, "timestamp"⟩, ⟨1184, "timestamptz"⟩, ⟨1186, "interval"⟩,
  ⟨1266, "timetz"⟩, ⟨1560, "bit"⟩, ⟨1562, "varbit"⟩, ⟨1700, "numeric"⟩, ⟨2249, "record"⟩,
  ⟨2278, "void"⟩, ⟨2950, "uuid"⟩, ⟨3614, "tsvector"⟩, ⟨3615, "tsquery"⟩, ⟨3802, "jsonb"⟩,
  ⟨3904, "int4range"⟩, ⟨3906, "numrange"⟩, ⟨3908, "tsrange"⟩, ⟨3910, "tstzrange"⟩,
  ⟨3912, "daterange"⟩, ⟨3926, "int8range"⟩, ⟨4072, "jsonpath"⟩]

def find? (oid : Nat) : Option PlainType := builtin.find? (·.oid == oid)

def toValueType (t : PlainType) : ValueType := ⟨t.oid, t.name, none⟩

end PlainType

namespace ValueType

def int2vector : Nat := 22
def oidvector : Nat := 30
def textArray : Nat := 1009
def int4Array : Nat := 1007
def varcharArray : Nat := 1015
def int8Array : Nat := 1016

/-- The numbers of the array types that every server knows, each with that of its elements. -/
def arrays : List (Nat × Nat) := [
  (143, 142), (199, 114), (651, 650), (719, 718), (775, 774), (791, 790), (1000, 16), (1001, 17),
  (1002, 18), (1003, 19), (1005, 21), (1007, 23), (1009, 25), (1014, 1042), (1015, 1043),
  (1016, 20), (1017, 600), (1021, 700), (1022, 701), (1028, 26), (1040, 829), (1041, 869),
  (1115, 1114), (1182, 1082), (1183, 1083), (1185, 1184), (1187, 1186), (1231, 1700),
  (1270, 1266), (1561, 1560), (1563, 1562), (2951, 2950), (3643, 3614), (3645, 3615),
  (3807, 3802), (3905, 3904), (3907, 3906), (3909, 3908), (3911, 3910), (3913, 3912),
  (3927, 3926)]

def builtin? (oid : Nat) : Option ValueType :=
  if oid = int2vector then
    (PlainType.find? PlainType.int2).map fun element => ⟨oid, "int2vector", some element⟩
  else if oid = oidvector then
    (PlainType.find? 26).map fun element => ⟨oid, "oidvector", some element⟩
  else
    match arrays.lookup oid with
    | some of =>
      (PlainType.find? of).map fun element => ⟨oid, '_' :: element.name, some element⟩
    | none => (PlainType.find? oid).map PlainType.toValueType

def custom (name : Text) : ValueType := ⟨0, name, none⟩

end ValueType

end SqlDialect.Wire
