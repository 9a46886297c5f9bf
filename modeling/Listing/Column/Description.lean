import Listing.Column.Basic

/-!
# Descriptions of columns

Columns as a text for diagnosis, which names every part of them. Texts stand between quotes
there, and no control character stands bare.
-/

namespace Listing

namespace Text.Quoted

/-- A character inside quotes. A control character without a short form is written by number. -/
def encodeChar (c : Char) : List Char :=
  match c with
  | '"' => ['\\', '"']
  | '\\' => ['\\', '\\']
  | '\n' => ['\\', 'n']
  | '\r' => ['\\', 'r']
  | '\t' => ['\\', 't']
  | '\x00' => ['\\', '0']
  | c =>
    if c.toNat < 0x20 || (0x7F ≤ c.toNat && c.toNat < 0xA0) then
      ['\\', 'u', '\x7b'] ++ Nat.toDigits 16 c.toNat ++ ['\x7d']
    else [c]

def encode (s : String) : String :=
  String.ofList ('"' :: (s.toList.flatMap encodeChar ++ ['"']))

end Text.Quoted

open Text

/-- Parts of a record between braces, each after its name. -/
def describeRecord (name : String) (parts : List (String × String)) : String :=
  let body := ", ".intercalate (parts.map fun (part, text) => part ++ ": " ++ text)
  name ++ " \x7b " ++ body ++ " \x7d"

def describeList (items : List String) : String := "[" ++ ", ".intercalate items ++ "]"

def describeOption (item : Option String) : String :=
  match item with
  | some text => "Some(" ++ text ++ ")"
  | none => "None"

/-- Doubles have an exponent without a plus sign from `1e16` on and below `1e-4`. -/
def descriptionRule : Double.ExponentRule := ⟨.up, -4, 15, false⟩

def Double.describe : Double → String
  | .finite negative rank => String.ofList (Double.marked descriptionRule negative rank.val)
  | other => other.plainText

namespace Scalar

def describe : Scalar → String
  | .null => "Null"
  | .bool b => "Bool(" ++ (Scalar.bool b).queryText ++ ")"
  | .int i => "Int(" ++ (Scalar.int i).queryText ++ ")"
  | .float d => "Float(" ++ d.describe ++ ")"
  | .text s => "Text(" ++ Quoted.encode s ++ ")"

end Scalar

def Label.describe (l : Label) : String :=
  describeRecord "EnumEntry" [("value", l.value.describe), ("title", Quoted.encode l.title)]

def ValueMatch.describe : ValueMatch → String
  | .loose => "Loose"
  | .strict => "Strict"

def Column.describe (c : Column) : String :=
  describeRecord "ColumnDescriptor"
    [("title", Quoted.encode c.title), ("data_key", Quoted.encode c.dataKey),
      ("value_enum", describeOption (c.labels.map fun labels =>
        describeList (labels.map Label.describe))),
      ("value_match", c.valueMatch.describe),
      ("render", describeOption (c.render.map fun _ => Quoted.encode "fn"))]

def describeColumns (columns : List Column) : String := describeList (columns.map Column.describe)

end Listing
