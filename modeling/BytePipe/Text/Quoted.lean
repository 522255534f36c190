import BytePipe.Text.Unprintable

/-!
Text in double quotes on one line. The quote and the backslash are escaped, common controls have
a letter, and any other character that does not print by itself is written by its number.
Records are shown as a type name with fields in braces.
-/
namespace BytePipe.Text

def hexDigits (n : Nat) : String :=
  String.ofList (Nat.toDigits 16 n)

def escaped (c : Char) : String :=
  match c with
  | '"' => "\\\""
  | '\\' => "\\\\"
  | '\n' => "\\n"
  | '\t' => "\\t"
  | '\r' => "\\r"
  | '\x00' => "\\0"
  | c => if isUnprintable c then "\\u\x7b" ++ hexDigits c.toNat ++ "\x7d" else c.toString

def quoted (s : String) : String :=
  "\"" ++ String.join (s.toList.map escaped) ++ "\""

def record (type : String) (fields : List String) : String :=
  type ++ " \x7b " ++ ", ".intercalate fields ++ " \x7d"

end BytePipe.Text
