/-!
Column types of a PostgreSQL database.

A built-in type is known by its name in the catalog, and the array of a built-in type by that name
after an underscore; `_record` alone stands for arrays of no one type and is no array itself. Other
types are looked up in the catalog; such a type is never one of the built-in ones, whatever its
name.
-/

namespace SqlPipeline.Postgres

/-- The built-in types that are no arrays. Those that nothing is written to or read from are known
by name only. -/
inductive Scalar
  | bool | bytea | name | int8 | int2 | int4 | text | oid | json | xml | float4 | float8
  | unknown | inet | bpchar | varchar | date | time | timestamp | timestamptz | interval
  | numeric | uuid | jsonb
  | other (name : String)
  deriving DecidableEq

namespace Scalar

/-- The name in the catalog. -/
def catalogName : Scalar → String
  | .bool => "bool"
  | .bytea => "bytea"
  | .name => "name"
  | .int8 => "int8"
  | .int2 => "int2"
  | .int4 => "int4"
  | .text => "text"
  | .oid => "oid"
  | .json => "json"
  | .xml => "xml"
  | .float4 => "float4"
  | .float8 => "float8"
  | .unknown => "unknown"
  | .inet => "inet"
  | .bpchar => "bpchar"
  | .varchar => "varchar"
  | .date => "date"
  | .time => "time"
  | .timestamp => "timestamp"
  | .timestamptz => "timestamptz"
  | .interval => "interval"
  | .numeric => "numeric"
  | .uuid => "uuid"
  | .jsonb => "jsonb"
  | .other given => given

/-- The types that are more than a name. -/
def known : List Scalar :=
  [.bool, .bytea, .name, .int8, .int2, .int4, .text, .oid, .json, .xml, .float4, .float8,
    .unknown, .inet, .bpchar, .varchar, .date, .time, .timestamp, .timestamptz, .interval,
    .numeric, .uuid, .jsonb]

/-- The type of a name in the catalog. -/
def ofName (name : String) : Scalar :=
  (known.find? fun t => t.catalogName == name).getD (.other name)

/-- The object identifiers of the types that are known by name only. -/
def otherOids : List (String × Nat) :=
  [("char", 18), ("regproc", 24), ("tid", 27), ("xid", 28), ("cid", 29), ("pg_ddl_command", 32),
    ("pg_node_tree", 194), ("table_am_handler", 269), ("index_am_handler", 325), ("point", 600),
    ("lseg", 601), ("path", 602), ("box", 603), ("polygon", 604), ("line", 628), ("cidr", 650),
    ("circle", 718), ("macaddr8", 774), ("money", 790), ("macaddr", 829), ("aclitem", 1033),
    ("timetz", 1266), ("bit", 1560), ("varbit", 1562), ("refcursor", 1790), ("regprocedure", 2202),
    ("regoper", 2203), ("regoperator", 2204), ("regclass", 2205), ("regtype", 2206),
    ("record", 2249), ("cstring", 2275), ("any", 2276), ("anyarray", 2277), ("void", 2278),
    ("trigger", 2279), ("language_handler", 2280), ("internal", 2281), ("anyelement", 2283),
    ("_record", 2287), ("anynonarray", 2776), ("txid_snapshot", 2970), ("fdw_handler", 3115),
    ("pg_lsn", 3220), ("tsm_handler", 3310), ("pg_ndistinct", 3361), ("pg_dependencies", 3402),
    ("anyenum", 3500), ("tsvector", 3614), ("tsquery", 3615), ("gtsvector", 3642),
    ("regconfig", 3734), ("regdictionary", 3769), ("anyrange", 3831), ("event_trigger", 3838),
    ("int4range", 3904), ("numrange", 3906), ("tsrange", 3908), ("tstzrange", 3910),
    ("daterange", 3912), ("int8range", 3926), ("jsonpath", 4072), ("regnamespace", 4089),
    ("regrole", 4096), ("regcollation", 4191), ("int4multirange", 4451), ("nummultirange", 4532),
    ("tsmultirange", 4533), ("tstzmultirange", 4534), ("datemultirange", 4535),
    ("int8multirange", 4536), ("anymultirange", 4537), ("anycompatiblemultirange", 4538),
    ("pg_brin_bloom_summary", 4600), ("pg_brin_minmax_multi_summary", 4601), ("pg_mcv_list", 5017),
    ("pg_snapshot", 5038), ("xid8", 5069), ("anycompatible", 5077), ("anycompatiblearray", 5078),
    ("anycompatiblenonarray", 5079), ("anycompatiblerange", 5080)]

/-- The object identifier. -/
def objectId : Scalar → Nat
  | .bool => 16
  | .bytea => 17
  | .name => 19
  | .int8 => 20
  | .int2 => 21
  | .int4 => 23
  | .text => 25
  | .oid => 26
  | .json => 114
  | .xml => 142
  | .float4 => 700
  | .float8 => 701
  | .unknown => 705
  | .inet => 869
  | .bpchar => 1042
  | .varchar => 1043
  | .date => 1082
  | .time => 1083
  | .timestamp => 1114
  | .timestamptz => 1184
  | .interval => 1186
  | .numeric => 1700
  | .uuid => 2950
  | .jsonb => 3802
  | .other given => (otherOids.lookup given).getD 0

end Scalar

/-- What a type of the catalog is, arrays apart. -/
inductive CatalogKind
  | simple
  | enumeration
  | domain
  deriving DecidableEq

/-- The type of a column or a parameter. -/
inductive ColumnType
  | scalar (t : Scalar)
  /-- An array of one dimension whose first index is zero. -/
  | vector (element : Scalar)
  /-- The built-in array of a built-in type. -/
  | array (element : ColumnType)
  | catalog (name : String) (oid : Nat) (kind : CatalogKind)
  | catalogArray (name : String) (oid : Nat) (element : ColumnType)
  deriving DecidableEq

namespace ColumnType

/-- The built-in type of a name without an underscore before it. -/
def ofElementName (name : String) : ColumnType :=
  if name = "int2vector" then .vector .int2
  else if name = "oidvector" then .vector .oid
  else .scalar (.ofName name)

/-- The built-in type of a name in the catalog. -/
def ofName (name : String) : ColumnType :=
  if name = "_record" then .scalar (.other name)
  else
    match name.toList with
    | '_' :: element => .array (ofElementName (String.ofList element))
    | _ => ofElementName name

/-- The name in the catalog. -/
def catalogName : ColumnType → String
  | .scalar t => t.catalogName
  | .vector t => t.catalogName ++ "vector"
  | .array t => "_" ++ t.catalogName
  | .catalog name _ _ => name
  | .catalogArray name _ _ => name

/-- The object identifiers of the arrays of built-in types, by the names of their elements. -/
def arrayOids : List (String × Nat) :=
  [("xml", 143), ("json", 199), ("xid8", 271), ("line", 629), ("cidr", 651), ("circle", 719),
    ("macaddr8", 775), ("money", 791), ("bool", 1000), ("bytea", 1001), ("char", 1002),
    ("name", 1003), ("int2", 1005), ("int2vector", 1006), ("int4", 1007), ("regproc", 1008),
    ("text", 1009), ("tid", 1010), ("xid", 1011), ("cid", 1012), ("oidvector", 1013),
    ("bpchar", 1014), ("varchar", 1015), ("int8", 1016), ("point", 1017), ("lseg", 1018),
    ("path", 1019), ("box", 1020), ("float4", 1021), ("float8", 1022), ("polygon", 1027),
    ("oid", 1028), ("aclitem", 1034), ("macaddr", 1040), ("inet", 1041), ("timestamp", 1115),
    ("date", 1182), ("time", 1183), ("timestamptz", 1185), ("interval", 1187), ("numeric", 1231),
    ("cstring", 1263), ("timetz", 1270), ("bit", 1561), ("varbit", 1563), ("refcursor", 2201),
    ("regprocedure", 2207), ("regoper", 2208), ("regoperator", 2209), ("regclass", 2210),
    ("regtype", 2211), ("txid_snapshot", 2949), ("uuid", 2951), ("pg_lsn", 3221),
    ("tsvector", 3643), ("gtsvector", 3644), ("tsquery", 3645), ("regconfig", 3735),
    ("regdictionary", 3770), ("jsonb", 3807), ("int4range", 3905), ("numrange", 3907),
    ("tsrange", 3909), ("tstzrange", 3911), ("daterange", 3913), ("int8range", 3927),
    ("jsonpath", 4073), ("regnamespace", 4090), ("regrole", 4097), ("regcollation", 4192),
    ("pg_snapshot", 5039), ("int4multirange", 6150), ("nummultirange", 6151),
    ("tsmultirange", 6152), ("tstzmultirange", 6153), ("datemultirange", 6155),
    ("int8multirange", 6157)]

/-- The object identifier, as far as it is known. -/
def objectId : ColumnType → Nat
  | .scalar t => t.objectId
  | .vector .int2 => 22
  | .vector .oid => 30
  | .vector _ => 0
  | .array t => (arrayOids.lookup t.catalogName).getD 0
  | .catalog _ oid _ => oid
  | .catalogArray _ oid _ => oid

/-- The type of the elements, if the type is one of arrays. -/
def element? : ColumnType → Option ColumnType
  | .scalar _ => none
  | .vector t => some (.scalar t)
  | .array t => some t
  | .catalog _ _ _ => none
  | .catalogArray _ _ t => some t

/-- The index of the first element of an array that is written. -/
def firstIndex : ColumnType → Int
  | .vector _ => 0
  | _ => 1

end ColumnType

example : ColumnType.ofName "_int4" = .array (.scalar .int4) := by cbv

example : ColumnType.ofName "_oidvector" = .array (.vector .oid) := by cbv

end SqlPipeline.Postgres
