/-!
# Tags

A tag names the kind of a value. Written tags hold percent escapes that stand for bytes, so a tag is
a sequence of bytes. Tags that begin with an exclamation mark are local to a document; of all others
only four ask something of the value that carries them.
-/

namespace PrivacyMapping.Yaml

/-- A tag as the bytes it stands for. -/
structure Tag where
  bytes : List UInt8
  deriving DecidableEq, Inhabited

namespace Tag

def byte (c : Char) : UInt8 :=
  UInt8.ofNat c.toNat

/-- The tag written with ASCII characters alone. -/
def ofAscii (s : String) : Tag :=
  ⟨s.toList.map byte⟩

/-- What the handle `!!` stands for. -/
def coreNamespace : Tag := ofAscii "tag:yaml.org,2002:"

def bool : Tag := ofAscii "tag:yaml.org,2002:bool"

def int : Tag := ofAscii "tag:yaml.org,2002:int"

def float : Tag := ofAscii "tag:yaml.org,2002:float"

def null : Tag := ofAscii "tag:yaml.org,2002:null"

/-- The tag that consists of an exclamation mark alone. -/
def bare : Tag := ofAscii "!"

/-- Whether the tag is local to the document. -/
def isLocal (tag : Tag) : Bool :=
  tag.bytes.head? == some (byte '!')

/-- The name of a local tag, without the exclamation mark unless that is all of it. A tag whose
bytes are no text has no name. -/
def localName? (tag : Tag) : Option String :=
  match tag.bytes with
  | [] => none
  | first :: rest =>
    if first == byte '!' then
      String.fromUTF8? ⟨(if rest.isEmpty then tag.bytes else rest).toArray⟩
    else none

end Tag

end PrivacyMapping.Yaml
