import ThreatModel.Text.Search

/-!
# Terminal styles

Colors and weights of texts in a terminal, which are switched on and off by escape sequences.
-/

namespace ThreatModel.Text

/-- A style, as the codes of its escape sequence. -/
structure Style where
  codes : String
  deriving DecidableEq, Repr

namespace Style

/-- Heavier letters. -/
def bold : Style := ⟨"1"⟩

/-- Fainter letters. -/
def dimmed : Style := ⟨"2"⟩

/-- Red letters. -/
def red : Style := ⟨"31"⟩

/-- Green letters. -/
def green : Style := ⟨"32"⟩

/-- Yellow letters. -/
def yellow : Style := ⟨"33"⟩

/-- Cyan letters. -/
def cyan : Style := ⟨"36"⟩

/-- Bright blue letters. -/
def brightBlue : Style := ⟨"94"⟩

/-- Bright red and heavier letters. -/
def boldBrightRed : Style := ⟨"1;91"⟩

/-- Switches every style off. -/
def reset : String := "\x1b[0m"

/-- Switches the style on. -/
def opening (s : Style) : String := "\x1b[" ++ s.codes ++ "m"

/-- A text in a style. The style is switched on again wherever the text itself switches it off. -/
def paint (s : Style) (text : String) : String :=
  let resumed := replace reset.toList (reset ++ s.opening).toList text.toList
  s.opening ++ String.ofList resumed ++ reset

end Style

end ThreatModel.Text
