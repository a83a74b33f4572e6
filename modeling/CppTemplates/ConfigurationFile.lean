import CppTemplates.Configuration
import CppTemplates.Toml.Document

/-!
# Configuration files

The settings can be written down as a TOML document with two sections. Settings and sections that
are missing have their default; keys that mean nothing here are ignored. A section may also be an
array, whose values are the settings in order.
-/

namespace CppTemplates

/-- Why there is no configuration. -/
inductive ConfigurationError where
  /-- A text is not a document, or a setting has the wrong type. -/
  | malformedText
  /-- The contents of a file are not a document, or a setting has the wrong type. -/
  | malformedFile (name : String)
  /-- A file is missing or its contents are not a text. -/
  | unreadableFile (name : String)
deriving DecidableEq, Repr, Inhabited

def ConfigurationError.message : ConfigurationError → String
  | .malformedText => "Failed to parse front-end configuration"
  | .malformedFile name => "Failed to parse configuration file: " ++ name
  | .unreadableFile name => "Failed to read configuration file: " ++ name

/-- The first setting of a section, which has the given name. There is no result if the section
cannot hold settings. A point in time is a section without settings. -/
def firstSetting? (document : Toml.Entries) (sectionName name : String) :
    Option (Option Toml.Item) :=
  match document.item? sectionName with
  | none => some none
  | some (.table _ entries) => some (entries.lookup name)
  | some (.array items) => some items.head?
  | some (.tables elements) => some (elements.head?.map (.table .header))
  | some (.dateTime _) => some none
  | some _ => none

def asDepth? : Toml.Item → Option Nat
  | .integer value => if 0 ≤ value ∧ value < UInt32.size then some value.toNat else none
  | _ => none

def asSwitch? : Toml.Item → Option Bool
  | .boolean value => some value
  | _ => none

namespace Configuration

/-- The configuration that a document describes. -/
def ofDocument? (document : Toml.Entries) : Option Configuration := do
  let depth ← firstSetting? document "instantiation" "max_depth"
  let context ← firstSetting? document "diagnostics" "print_context"
  let plain : Configuration := {}
  return {
    maxDepth := ← (depth.map asDepth?).getD (some plain.maxDepth)
    printContext := ← (context.map asSwitch?).getD (some plain.printContext) }

def ofText? (text : String) : Option Configuration := do
  ofDocument? (← Toml.parse? text)

/-- Reads a configuration from a text. -/
def parse (text : String) : Except ConfigurationError Configuration :=
  match ofText? text with
  | some configuration => .ok configuration
  | none => .error .malformedText

/-- Reads a configuration from the contents of a file, if it has any. -/
def load (name : String) (contents : Option ByteArray) :
    Except ConfigurationError Configuration :=
  match contents.bind String.fromUTF8? with
  | none => .error (.unreadableFile name)
  | some text =>
      match ofText? text with
      | some configuration => .ok configuration
      | none => .error (.malformedFile name)

end Configuration

end CppTemplates
