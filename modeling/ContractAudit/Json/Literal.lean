/-
  Values as messages show them.

  * `Json.literal` writes a value in the literal notation of log messages: texts are quoted, null,
    true and false are `None`, `True` and `False`, lists and objects are bracketed with a comma and
    a blank between elements;
  * `Json.display` is the same but for a text, which stands for itself;
  * `Json.keyText` is the text under which a value is a key of a written object.

  Values of any depth have a literal; how deep a run could go into one is left out.
-/
import ContractAudit.Decimal.Form
import ContractAudit.Json.Basic
import ContractAudit.Text.Numeral
import ContractAudit.Text.Quoted

namespace ContractAudit.Json

mutual

/-- A value in literal notation. -/
def literal : Json → String
  | null => "None"
  | bool true => "True"
  | bool false => "False"
  | int n => Text.showInt n
  | float x => Decimal.plainForm.show x
  | str s => Text.quoted s
  | arr xs => "[" ++ ", ".intercalate (literals xs) ++ "]"
  | obj ms => "\x7b" ++ ", ".intercalate (memberLiterals ms) ++ "\x7d"

/-- The elements of a list. -/
def literals : List Json → List String
  | [] => []
  | x :: xs => literal x :: literals xs

/-- The members of an object. -/
def memberLiterals : List (String × Json) → List String
  | [] => []
  | (k, v) :: ms => (Text.quoted k ++ ": " ++ literal v) :: memberLiterals ms

end

/-- A value inside a sentence. -/
def display : Json → String
  | str s => s
  | v => literal v

/-- The key that a value is in a written object. -/
def keyText : Json → String
  | null => "null"
  | bool true => "true"
  | bool false => "false"
  | v => display v

/-- The name of the kind of a value. -/
def kindName : Json → String
  | null => "NoneType"
  | bool _ => "bool"
  | int _ => "int"
  | float _ => "float"
  | str _ => "str"
  | arr _ => "list"
  | obj _ => "dict"

end ContractAudit.Json
