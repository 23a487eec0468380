import SqlPipeline.Text.Blank
import SqlPipeline.Text.Digits
import SqlPipeline.Text.Hex
import SqlPipeline.Text.Utf8

/-!
Connection strings: how a database is reached, as a URL or as settings with an equals sign.

A URL has a scheme, a user and a password before an at sign, hosts with ports, a database after a
slash and further settings after a question mark; a byte may be written as a percent sign and two
hexadecimal digits. The other form is a list of `key = value`, a value with blanks standing between
single quotes. Both give settings, each of which must be known and have a value of its kind.
-/

namespace SqlPipeline.Postgres

/-- One setting of a connection. -/
structure Setting where
  key : String
  value : Bytes

namespace ConnectionString

/-- The integer lies between the bounds. -/
def isIntegerWithin (low high : Int) (cs : List Char) : Bool :=
  match integer? cs with
  | some i => low ≤ i && i ≤ high
  | none => false

/-- A number without a minus sign and with a bound. -/
def isNumberBelow (bound : Nat) (cs : List Char) : Bool :=
  cs.head? != some '-' && isIntegerWithin 0 (bound - 1 : Nat) cs

/-- A signed number of 64 bits. -/
def isSignedWord (cs : List Char) : Bool :=
  isIntegerWithin (-9223372036854775808) 9223372036854775807 cs

/-- The parts of a text between the occurrences of a separator. -/
def splitOn (separator : Char) (cs : List Char) : List (List Char) :=
  cs.foldr (fun c parts =>
    if c = separator then [] :: parts
    else match parts with
      | [] => [[c]]
      | part :: rest => (c :: part) :: rest) [[]]

/-- A port, or nothing for the usual one. -/
def isPort (cs : List Char) : Bool :=
  cs.isEmpty || isNumberBelow 65536 cs

/-- A decimal number up to 255 without leading zeros. -/
def isAddressByte (cs : List Char) : Bool :=
  isNumberBelow 256 cs && cs.length ≤ 3 && cs.all isDigit &&
    (cs.length == 1 || cs.head? != some '0')

/-- An internet address of four bytes. -/
def isV4Address (cs : List Char) : Bool :=
  let parts := splitOn '.' cs
  parts.length == 4 && parts.all isAddressByte

/-- A group of an internet address of sixteen bytes. -/
def isGroup (cs : List Char) : Bool :=
  !cs.isEmpty && cs.length ≤ 4 && cs.all fun c => (hexValue? c).isSome

/-- The number of groups, the last of which may be an address of four bytes. -/
def groupCount? (cs : List Char) : Option Nat :=
  if cs.isEmpty then some 0
  else
    let parts := splitOn ':' cs
    let final := parts.getLast?.getD []
    if parts.all isGroup then some parts.length
    else if parts.dropLast.all isGroup && isV4Address final then some (parts.length + 1)
    else none

/-- The texts before and after the first double colon. -/
def splitDoubleColon (before : List Char) : List Char → Option (List Char × List Char)
  | ':' :: ':' :: rest => some (before, rest)
  | c :: rest => splitDoubleColon (before ++ [c]) rest
  | [] => none

/-- An internet address of sixteen bytes. -/
def isV6Address (cs : List Char) : Bool :=
  match splitDoubleColon [] cs with
  | none => groupCount? cs == some 8
  | some (before, after) =>
    match groupCount? before, groupCount? after with
    | some m, some n => !before.contains '.' && m + n ≤ 7
    | _, _ => false

/-- The settings that are known, and whether a value is one of their kind. -/
def accepts (key : String) (value : List Char) : Bool :=
  let word := String.ofList value
  match key with
  | "user" | "password" | "dbname" | "options" | "application_name" | "host" => true
  | "sslmode" | "channel_binding" => word == "disable" || word == "prefer" || word == "require"
  | "sslnegotiation" => word == "postgres" || word == "direct"
  | "hostaddr" => (splitOn ',' value).all fun a => isV4Address a || isV6Address a
  | "port" => (splitOn ',' value).all isPort
  | "connect_timeout" | "tcp_user_timeout" | "keepalives_idle" | "keepalives_interval" =>
    isSignedWord value
  | "keepalives" => isNumberBelow 18446744073709551616 value
  | "keepalives_retries" => isNumberBelow 4294967296 value
  | "target_session_attrs" => word == "any" || word == "read-write" || word == "read-only"
  | "load_balance_hosts" => word == "disable" || word == "random"
  | _ => false

/-- The setting of a text, if it is known and the text is one of its kind. -/
def setting? (key : String) (value : List Char) : Option Setting :=
  if accepts key value then some ⟨key, utf8 (String.ofList value)⟩ else none

/-- The text up to the first of some characters, and the rest from it on. -/
def breakAt (marks : List Char) (cs : List Char) : List Char × List Char :=
  (cs.takeWhile fun c => !marks.contains c, cs.dropWhile fun c => !marks.contains c)

/-- The bytes of a text in which a percent sign and two hexadecimal digits are a byte. -/
def percentDecoded : List Char → Bytes
  | [] => []
  | '%' :: a :: b :: rest =>
    match hexBytes? [a, b] with
    | some bytes => bytes ++ percentDecoded rest
    | none => utf8 "%" ++ percentDecoded (a :: b :: rest)
  | c :: rest => utf8 (String.singleton c) ++ percentDecoded rest
termination_by cs => cs.length

/-- The text of a part of a URL. -/
def decoded? (cs : List Char) : Option (List Char) :=
  (ofUtf8? (percentDecoded cs)).map String.toList

/-- The user and the password before the host. A password may be any bytes. -/
def credentials? (cs : List Char) : Option (List Setting) := do
  let (user, rest) := breakAt [':'] cs
  let user ← decoded? user
  let named ← setting? "user" user
  match rest with
  | [] => return [named]
  | _ :: password => return [named, ⟨"password", percentDecoded password⟩]

/-- The setting of a host; a path may be any bytes. -/
def host? (cs : List Char) : Option Setting :=
  let bytes := percentDecoded cs
  if bytes.head? = some 47 then some ⟨"host", bytes⟩
  else (ofUtf8? bytes).map fun _ => ⟨"host", bytes⟩

/-- The host and the port of one place of a URL; brackets stand around a host with colons. -/
def splitPlace? : List Char → Option (List Char × Option (List Char))
  | '[' :: cs =>
    match breakAt [']'] cs with
    | (_, []) => none
    | (host, _ :: rest) =>
      match rest with
      | [] => some (host, none)
      | ':' :: port => some (host, some port)
      | _ => none
  | cs =>
    match breakAt [':'] cs with
    | (host, []) => some (host, none)
    | (host, _ :: port) => some (host, some port)

/-- The settings of one place of a URL. -/
def place? (cs : List Char) : Option (List Setting) := do
  let (host, port) ← splitPlace? cs
  let host ← host? host
  let port ← decoded? (port.getD "5432".toList)
  let port ← setting? "port" port
  return [host, port]

/-- The settings of the places of a URL. -/
def places? (cs : List Char) : Option (List Setting) :=
  if cs.isEmpty then some []
  else ((splitOn ',' cs).mapM place?).map List.flatten

/-- The setting after the question mark of a URL. -/
def option? (cs : List Char) : Option Setting :=
  match breakAt ['='] cs with
  | (_, []) => none
  | (key, _ :: value) => do
    let key ← decoded? key
    if key = "host".toList then host? value
    else
      let value ← decoded? value
      setting? (String.ofList key) value

/-- The settings after the question mark of a URL: `key=value` with `&` between them. The value ends
at the `&`, a key does not. -/
def options? : Nat → List Char → Option (List Setting)
  | _, [] => some []
  | 0, _ :: _ => none
  | fuel + 1, cs => do
    let (key, rest) := breakAt ['='] cs
    let (value, after) := breakAt ['&'] rest
    let first ← option? (key ++ value)
    let others ← options? fuel (after.drop 1)
    return first :: others

/-- The settings of the path of a URL and of what follows it. -/
def tail? (cs : List Char) : Option (List Setting) := do
  let (database, rest) ← match cs with
    | '/' :: cs =>
      let (path, rest) := breakAt ['?'] cs
      let name ← decoded? path
      if path.isEmpty then some ([], rest) else some ([⟨"dbname", utf8 (String.ofList name)⟩], rest)
    | cs => some ([], cs)
  let settings ← options? rest.length (rest.drop 1)
  return database ++ settings

/-- The settings of a URL after its scheme. -/
def url? (cs : List Char) : Option (List Setting) := do
  let (user, rest) ← match breakAt ['@'] cs with
    | (_, []) => some ([], cs)
    | (before, _ :: after) => (credentials? before).map fun settings => (settings, after)
  let (places, rest) := breakAt ['/', '?'] rest
  let hosts ← places? places
  let others ← tail? rest
  return user ++ hosts ++ others

/-- The characters of a value up to a blank, a backslash keeping the character after it. -/
def plainValue : List Char → List Char × List Char
  | [] => ([], [])
  | '\\' :: [] => ([], [])
  | '\\' :: c :: rest =>
    let (value, rest) := plainValue rest
    (c :: value, rest)
  | c :: rest =>
    if isBlank c then ([], c :: rest)
    else
      let (value, rest) := plainValue rest
      (c :: value, rest)

/-- The characters of a value up to a single quote, a backslash keeping the character after it. -/
def quotedValue? : List Char → Option (List Char × List Char)
  | [] => none
  | '\'' :: rest => some ([], rest)
  | '\\' :: [] => none
  | '\\' :: c :: rest => (quotedValue? rest).map fun (value, rest) => (c :: value, rest)
  | c :: rest => (quotedValue? rest).map fun (value, rest) => (c :: value, rest)

/-- A value and what follows it. A plain value is not empty. -/
def value? : List Char → Option (List Char × List Char)
  | '\'' :: rest => quotedValue? rest
  | cs =>
    let (value, rest) := plainValue cs
    if value.isEmpty then none else some (value, rest)

/-- The settings of a list of `key = value`. The list ends where no key is. -/
def pairs? : Nat → List Char → Option (List Setting)
  | fuel, cs =>
    let cs := cs.dropWhile isBlank
    let isKey := fun c => !isBlank c && c != '='
    let key := cs.takeWhile isKey
    if key.isEmpty then some []
    else
      match fuel, (cs.dropWhile isKey).dropWhile isBlank with
      | fuel + 1, '=' :: rest => do
        let (value, rest) ← value? (rest.dropWhile isBlank)
        let first ← setting? (String.ofList key) value
        let others ← pairs? fuel rest
        return first :: others
      | _, _ => none

/-- The text after the scheme of a URL. -/
def afterScheme? (cs : List Char) : Option (List Char) :=
  ["postgres://".toList, "postgresql://".toList].findSome? fun scheme =>
    if scheme.isPrefixOf cs then some (cs.drop scheme.length) else none

/-- The settings of a connection string. -/
def read? (cs : List Char) : Option (List Setting) :=
  match afterScheme? cs with
  | some rest => url? rest
  | none => pairs? cs.length cs

end ConnectionString

end SqlPipeline.Postgres
