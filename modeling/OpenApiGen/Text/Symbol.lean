/-!
Names of values that consist of punctuation only.
-/

namespace OpenApiGen.Text

/-- Each symbol with its name. -/
def symbolNames : List (String × String) := [
  ("$", "Dollar"),
  ("^", "Caret"),
  ("|", "Pipe"),
  ("=", "Equal"),
  ("*", "Star"),
  ("-", "Minus"),
  ("&", "Ampersand"),
  ("%", "Percent"),
  ("#", "Hash"),
  ("@", "At"),
  ("!", "Exclamation"),
  ("+", "Plus"),
  (":", "Colon"),
  (">", "Greater_Than"),
  ("<", "Less_Than"),
  (".", "Period"),
  ("_", "Underscore"),
  ("?", "Question_Mark"),
  (",", "Comma"),
  ("'", "Quote"),
  ("\"", "Double_Quote"),
  ("/", "Slash"),
  ("\\", "Back_Slash"),
  ("(", "Left_Parenthesis"),
  (")", "Right_Parenthesis"),
  ("\x7b", "Left_Curly_Bracket"),
  ("\x7d", "Right_Curly_Bracket"),
  ("[", "Left_Square_Bracket"),
  ("]", "Right_Square_Bracket"),
  ("~", "Tilde"),
  ("\x60", "Backtick"),
  ("<=", "Less_Than_Or_Equal_To"),
  (">=", "Greater_Than_Or_Equal_To"),
  ("!=", "Not_Equal")]

/-- The name of a symbol, if the text is one. -/
def symbolName? (value : String) : Option String :=
  symbolNames.lookup value

end OpenApiGen.Text
