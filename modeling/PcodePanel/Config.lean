import PcodePanel.Numeral.Read
import PcodePanel.Text.Fold

/-!
# Configuration

How a panel is set up: whether operations are indented, whether events are logged, and how many.

* `Config.load` reads the settings from texts. A flag is off only for a few words; a capacity is an
  integer literal, and a blank one counts as missing.
-/

namespace PcodePanel

/-- The settings of a panel, as texts; each may be missing. -/
structure ConfigTexts where
  indent : Option String := none
  trace : Option String := none
  capacity : Option String := none
deriving DecidableEq, Repr

/-- The settings of a panel. -/
structure Config where
  /-- Whether operations are indented; if it is not said, they are where there are labels. -/
  indent : Option Bool := none
  /-- Whether events are logged. -/
  trace : Bool := false
  /-- How many events are kept. -/
  capacity : Int := 256
deriving DecidableEq, Repr

namespace Config

/-- The words that turn a flag off. -/
def offWords : List String :=
  ["0", "false", "off", ""]

/-- Whether the text of a flag turns it on. -/
def isOn (text : String) : Bool :=
  String.ofList (Text.fold (Text.trim text.toList)) ∉ offWords

/-- The capacity that a text gives, if it is not blank. -/
def readCapacity (text : Option String) (default : Int) : Except Fault Int :=
  match text with
  | none => .ok default
  | some text => if text.toList.all Text.isBlank then .ok default else Numeral.readLiteral text

/-- The settings that texts give. -/
def load (texts : ConfigTexts) : Except Fault Config := do
  let capacity ← readCapacity texts.capacity 256
  return { indent := texts.indent.map isOn, trace := texts.trace.any isOn, capacity }

end Config

end PcodePanel
