import SqlPipeline.Json.Number
import SqlPipeline.Text.Hex
import SqlPipeline.Text.Utf8

/-!
Reading JSON documents.

A text is cut into tokens, and the tokens are taken one by one onto a stack of the arrays and
objects that are still open. The whole text must be one document, white space around it apart, and
at most 127 containers may be open at a time.
-/

namespace SqlPipeline
namespace Json

/-- The four hexadecimal digits of an escape. -/
def hexUnit? (a b c d : Char) : Option Nat := do
  let a ← hexValue? a
  let b ← hexValue? b
  let c ← hexValue? c
  let d ← hexValue? d
  return ((a * 16 + b) * 16 + c) * 16 + d

/-- The character of a short escape. -/
def shortEscape? (c : Char) : Option Char :=
  if c = '"' || c = '\\' || c = '/' then some c
  else if c = 'b' then some (Char.ofNat 8)
  else if c = 'f' then some (Char.ofNat 12)
  else if c = 'n' then some '\n'
  else if c = 'r' then some '\r'
  else if c = 't' then some '\t'
  else none

/-- Reads the characters of a string after its opening quote; gives them and what follows the
closing quote. A pair of escaped surrogates is one character and a lone one is none. -/
def stringBody? : List Char → Option (List Char × List Char)
  | [] => none
  | '"' :: rest => some ([], rest)
  | '\\' :: 'u' :: a :: b :: c :: d :: rest =>
    match hexUnit? a b c d with
    | none => none
    | some unit =>
      if 0xd800 ≤ unit && unit < 0xdc00 then
        match rest with
        | '\\' :: 'u' :: e :: f :: g :: h :: rest =>
          match hexUnit? e f g h with
          | none => none
          | some low =>
            if 0xdc00 ≤ low && low < 0xe000 then
              (stringBody? rest).map fun (cs, rest) =>
                (Char.ofNat (0x10000 + (unit - 0xd800) * 0x400 + (low - 0xdc00)) :: cs, rest)
            else none
        | _ => none
      else if 0xdc00 ≤ unit && unit < 0xe000 then none
      else (stringBody? rest).map fun (cs, rest) => (Char.ofNat unit :: cs, rest)
  | '\\' :: e :: rest =>
    match shortEscape? e with
    | none => none
    | some c => (stringBody? rest).map fun (cs, rest) => (c :: cs, rest)
  | c :: rest =>
    if c = '\\' || c.toNat < 32 then none
    else (stringBody? rest).map fun (cs, rest) => (c :: cs, rest)

inductive Token
  | beginArray
  | endArray
  | beginObject
  | endObject
  | colon
  | comma
  | scalar (value : Json)

def token? : List Char → Option (Token × List Char)
  | [] => none
  | '[' :: rest => some (.beginArray, rest)
  | ']' :: rest => some (.endArray, rest)
  | '\x7b' :: rest => some (.beginObject, rest)
  | '\x7d' :: rest => some (.endObject, rest)
  | ':' :: rest => some (.colon, rest)
  | ',' :: rest => some (.comma, rest)
  | 'n' :: 'u' :: 'l' :: 'l' :: rest => some (.scalar .null, rest)
  | 't' :: 'r' :: 'u' :: 'e' :: rest => some (.scalar (.bool true), rest)
  | 'f' :: 'a' :: 'l' :: 's' :: 'e' :: rest => some (.scalar (.bool false), rest)
  | '"' :: rest =>
    (stringBody? rest).map fun (cs, rest) => (.scalar (.string (String.ofList cs)), rest)
  | cs => (number? cs).map fun (n, rest) => (.scalar n, rest)

/-- White space of a JSON document. -/
def isSpace (c : Char) : Bool :=
  c == ' ' || c == '\n' || c == '\t' || c == '\r'

/-- Cuts a text into tokens; each token takes at least one character of the fuel. -/
def tokensWithin : Nat → List Char → Option (List Token)
  | fuel, cs =>
    match cs.dropWhile isSpace with
    | [] => some []
    | cs =>
      match fuel with
      | 0 => none
      | fuel + 1 =>
        match token? cs with
        | none => none
        | some (token, rest) => (tokensWithin fuel rest).map (token :: ·)

def tokens? (cs : List Char) : Option (List Token) :=
  tokensWithin cs.length cs

/-- A container that is still open: its items in reverse, or its members and the name whose value
is being read. -/
inductive Frame
  | items (reversed : List Json)
  | members (members : List (String × Json)) (name : String)

/-- What may come next. -/
inductive Expectation
  | value
  | valueOrEnd
  | name
  | nameOrEnd
  | colon
  | commaOrEnd

/-- A document that is being read: open containers, innermost first, or the finished document. -/
inductive Reading
  | open (stack : List Frame) (expected : Expectation)
  | finished (value : Json)

/-- Puts a finished value where it belongs. -/
def deliver (value : Json) : List Frame → Reading
  | [] => .finished value
  | .items reversed :: stack => .open (.items (value :: reversed) :: stack) .commaOrEnd
  | .members members name :: stack =>
    .open (.members (putMember name value members) name :: stack) .commaOrEnd

/-- The greatest number of containers that may be open at a time. -/
def depthLimit : Nat := 127

def openFrame (frame : Frame) (expected : Expectation) (stack : List Frame) : Option Reading :=
  if stack.length < depthLimit then some (.open (frame :: stack) expected) else none

/-- Takes the token at which a value may begin. -/
def beginValue (stack : List Frame) : Token → Option Reading
  | .scalar value => some (deliver value stack)
  | .beginArray => openFrame (.items []) .valueOrEnd stack
  | .beginObject => openFrame (.members [] "") .nameOrEnd stack
  | _ => none

def Reading.take : Reading → Token → Option Reading
  | .finished _, _ => none
  | .open stack .value, token => beginValue stack token
  | .open (.items reversed :: stack) .valueOrEnd, .endArray =>
    some (deliver (.array reversed.reverse) stack)
  | .open stack .valueOrEnd, token => beginValue stack token
  | .open (.members members _ :: stack) .name, .scalar (.string name) =>
    some (.open (.members members name :: stack) .colon)
  | .open (.members members _ :: stack) .nameOrEnd, .scalar (.string name) =>
    some (.open (.members members name :: stack) .colon)
  | .open (.members members _ :: stack) .nameOrEnd, .endObject =>
    some (deliver (.object members) stack)
  | .open stack .colon, .colon => some (.open stack .value)
  | .open (.items reversed :: stack) .commaOrEnd, .comma =>
    some (.open (.items reversed :: stack) .value)
  | .open (.items reversed :: stack) .commaOrEnd, .endArray =>
    some (deliver (.array reversed.reverse) stack)
  | .open (.members members name :: stack) .commaOrEnd, .comma =>
    some (.open (.members members name :: stack) .name)
  | .open (.members members _ :: stack) .commaOrEnd, .endObject =>
    some (deliver (.object members) stack)
  | _, _ => none

/-- The document that a text stands for. -/
def read? (cs : List Char) : Option Json :=
  match (tokens? cs).bind fun tokens => tokens.foldlM Reading.take (.open [] .value) with
  | some (.finished value) => some value
  | _ => none

/-- The document that the UTF-8 bytes of a text stand for. -/
def readUtf8? (bytes : Bytes) : Option Json :=
  (ofUtf8? bytes).bind fun s => read? s.toList

end Json
end SqlPipeline
