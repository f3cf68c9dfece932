import ModelBench.Text.Replace

/-!
# Colours

Texts for a terminal that shows colours, and the same texts for one that does not.
-/

namespace ModelBench.Cli

/-- The colours and weights of a text. -/
inductive Style
  | red
  | green
  | yellow
  | magenta
  | cyan
  | brightBlue
  | bold
  | dimmed
  | boldRed
  | boldYellow
  | boldBrightBlue
  deriving DecidableEq, Repr

/-- The numbers of a style: the weight before the colour. -/
def Style.codes : Style → String
  | .red => "31"
  | .green => "32"
  | .yellow => "33"
  | .magenta => "35"
  | .cyan => "36"
  | .brightBlue => "94"
  | .bold => "1"
  | .dimmed => "2"
  | .boldRed => "1;31"
  | .boldYellow => "1;33"
  | .boldBrightBlue => "1;94"

/-- What switches a style on. -/
def Style.opening (style : Style) : List Char := "\x1b[".toList ++ style.codes.toList ++ ['m']

/-- What switches every style off. -/
def plainAgain : List Char := "\x1b[0m".toList

/-- The text with a style switched on again wherever it is switched off. -/
def keepStyle (style : Style) (text : List Char) : List Char :=
  Text.replaceAll
    (fun text =>
      if plainAgain.isPrefixOf text then some (plainAgain ++ style.opening, plainAgain.length)
      else none)
    text

/-- The text in a style, if the terminal shows colours. -/
def paint (colored : Bool) (style : Style) (text : String) : String :=
  if colored then
    String.ofList (style.opening ++ keepStyle style text.toList ++ plainAgain)
  else text

end ModelBench.Cli
