import PrivacyMapping.Json.Numeral

/-!
# JSON text

Values written as text. One printer serves two layouts: on one line without any blank, and with each
item and member on a line of its own, indented by two columns for each array or object around it.
-/

namespace PrivacyMapping.Json

/-- One character of a string between its quotes. -/
def escapedChar (c : Char) : List Char :=
  if c = '"' then ['\\', '"']
  else if c = '\\' then ['\\', '\\']
  else if c = '\x08' then ['\\', 'b']
  else if c = '\t' then ['\\', 't']
  else if c = '\n' then ['\\', 'n']
  else if c = '\x0c' then ['\\', 'f']
  else if c = '\r' then ['\\', 'r']
  else if c.toNat < 0x20 then
    ['\\', 'u', '0', '0', Nat.digitChar (c.toNat / 16), Nat.digitChar (c.toNat % 16)]
  else [c]

def stringText (s : String) : List Char :=
  '"' :: s.toList.flatMap escapedChar ++ ['"']

/-- What stands between the parts of an array or object: the text of a colon, and the break before a
part that lies at the given depth. -/
structure Layout where
  colon : List Char
  lineBreak : Nat → List Char

namespace Layout

def compact : Layout := ⟨[':'], fun _ => []⟩

def indented : Layout := ⟨[':', ' '], fun depth => '\n' :: List.replicate (2 * depth) ' '⟩

/-- The parts of an array or object at the given depth between its brackets. -/
def enclose (layout : Layout) (depth : Nat) (left right : Char) : List (List Char) → List Char
  | [] => [left, right]
  | part :: parts =>
    left :: layout.lineBreak (depth + 1) ++ part ++
      parts.flatMap (fun part => ',' :: layout.lineBreak (depth + 1) ++ part) ++
      layout.lineBreak depth ++ [right]

end Layout

mutual

def write (layout : Layout) (depth : Nat) : Json → List Char
  | .null => ['n', 'u', 'l', 'l']
  | .bool true => ['t', 'r', 'u', 'e']
  | .bool false => ['f', 'a', 'l', 's', 'e']
  | .num n => n.text
  | .str s => stringText s
  | .arr items => layout.enclose depth '[' ']' (writeItems layout (depth + 1) items)
  | .obj members => layout.enclose depth '{' '}' (writeMembers layout (depth + 1) members)

def writeItems (layout : Layout) (depth : Nat) : List Json → List (List Char)
  | [] => []
  | item :: rest => write layout depth item :: writeItems layout depth rest

/-- The members of an object, each with its key. -/
def writeMembers (layout : Layout) (depth : Nat) : List (String × Json) → List (List Char)
  | [] => []
  | (key, value) :: rest =>
    (stringText key ++ layout.colon ++ write layout depth value) :: writeMembers layout depth rest

end

theorem writeItems_eq_map (layout : Layout) (depth : Nat) (items : List Json) :
    writeItems layout depth items = items.map (write layout depth) := by
  induction items with
  | nil => rfl
  | cons item rest ih => rw [writeItems, ih, List.map_cons]

theorem writeMembers_eq_map (layout : Layout) (depth : Nat) (members : List (String × Json)) :
    writeMembers layout depth members =
      members.map fun member =>
        stringText member.1 ++ layout.colon ++ write layout depth member.2 := by
  induction members with
  | nil => rfl
  | cons member rest ih => rw [writeMembers, ih, List.map_cons]

def compact (value : Json) : String :=
  String.ofList (value.write .compact 0)

/-- The value as text with a line for every part. -/
def pretty (value : Json) : String :=
  String.ofList (value.write .indented 0)

end PrivacyMapping.Json
