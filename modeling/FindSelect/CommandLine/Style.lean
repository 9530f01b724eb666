/-!
# Coloured text

* `Style`: a colour and a weight;
* `Style.paint`: a text between the codes that begin and end a style.
-/

namespace FindSelect

/-- The code of a weight or of a colour. -/
inductive StyleCode
  | bold
  | dimmed
  | red
  | green
  | yellow
  | blue
  | purple
  | cyan
  | white
  deriving DecidableEq, Repr

/-- The number that stands for a weight or a colour. -/
def StyleCode.number : StyleCode → String
  | .bold => "1"
  | .dimmed => "2"
  | .red => "31"
  | .green => "32"
  | .yellow => "33"
  | .blue => "34"
  | .purple => "35"
  | .cyan => "36"
  | .white => "37"

/-- A weight and a colour, the weight first. -/
abbrev Style := List StyleCode

namespace Style

/-- The heading of a part. -/
def heading : Style := [.bold, .green]

/-- The title of a table. -/
def title : Style := [.bold, .cyan]

/-- The head of a column. -/
def head : Style := [.bold, .white]

/-- The word before an error. -/
def alarm : Style := [.bold, .red]

/-- A label. -/
def label : Style := [.dimmed]

/-- A name. -/
def name : Style := [.white]

/-- An operator or an amount. -/
def accent : Style := [.cyan]

/-- A literal or a token. -/
def literal : Style := [.yellow]

/-- The code that begins a style. -/
def opening (style : Style) : String :=
  "\x1b[" ++ ";".intercalate (style.map StyleCode.number) ++ "m"

/-- The code that ends every style. -/
def closing : String := "\x1b[0m"

/-- The text in a style, if colours are on. A closing code inside the text is followed by the
opening one again. -/
def paint (coloured : Bool) (style : Style) (text : String) : String :=
  if coloured then style.opening ++ text.replace closing (closing ++ style.opening) ++ closing
  else text

end Style

end FindSelect
