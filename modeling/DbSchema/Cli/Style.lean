/-!
# Styled text

Text with terminal styles around it, or without them where styles are off.
-/

namespace DbSchema.Cli

/-- The ways in which text stands out. -/
inductive Style where
  | heading
  | alarm
  | success
  | item
  | faint
  deriving DecidableEq, Repr

/-- The codes of a style: bold white, bold red, green, cyan and dimmed. -/
def Style.codes : Style → String
  | heading => "1;37"
  | alarm => "1;31"
  | success => "32"
  | item => "36"
  | faint => "2"

/-- The sequence that ends all styles. -/
def resetSequence : String := "\x1b[0m"

/-- A text in a style. Where the text itself ends all styles, the style starts again. -/
def styled (colored : Bool) (style : Style) (text : String) : String :=
  if colored then
    let start := "\x1b[" ++ style.codes ++ "m"
    start ++ text.replace resetSequence (resetSequence ++ start) ++ resetSequence
  else text

/-- A text with blanks behind it up to a width. -/
def padded (width : Nat) (text : String) : String :=
  text ++ .ofList (List.replicate (width - text.length) ' ')

end DbSchema.Cli
