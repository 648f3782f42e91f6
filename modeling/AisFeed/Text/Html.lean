/-!
# Text inside HTML

The characters with a meaning in HTML as character references.
-/

set_option autoImplicit false

namespace AisFeed.Text

/-- The text that stands for `c` in HTML. -/
def htmlEscaped : Char → String
  | '&' => "&amp;"
  | '<' => "&lt;"
  | '>' => "&gt;"
  | '\x22' => "&quot;"
  | '\x27' => "&#x27;"
  | '=' => "&#x3D;"
  | '\x60' => "&#x60;"
  | c => String.singleton c

/-- `s` with every character of it that has a meaning in HTML replaced. -/
def html (s : String) : String :=
  String.join (s.toList.map htmlEscaped)

end AisFeed.Text
