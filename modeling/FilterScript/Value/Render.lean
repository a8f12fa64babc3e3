import FilterScript.Number.Style
import FilterScript.Value.Basic

/-! # Texts of a value

A value has two texts. The rendering is what scripts compare, print and search: an array in
brackets, a map in braces, a string as it is, at every depth. The debugging view names the kind of
every value and quotes strings. Host values have the same two texts in the notation of the host,
whose containers show the debugging views of what they hold.
-/

namespace FilterScript

namespace NativeKey

/-- The text of a key. -/
def text : NativeKey → String
  | .none => "None"
  | .bool truth => if truth then "True" else "False"
  | .int n => toString n
  | .float x => Double.debug x
  | .string text => text
  | .object _ text => text

/-- The debugging view of a key, which quotes a string. -/
def debug : NativeKey → String
  | .string text => Text.quoted text
  | key => key.text

end NativeKey

/-- The notation of a tuple. One item alone is followed by a comma. -/
def Native.tupleText : List String → String
  | [item] => "(" ++ item ++ ",)"
  | items => "(" ++ ", ".intercalate items ++ ")"

mutual

/-- The debugging view of a value. -/
def Value.debug : Value → String
  | .null => "Value(null: None)"
  | .boolean truth => "Value(boolean: " ++ (if truth then "True" else "False") ++ ")"
  | .string text => "Value(string: " ++ Text.quoted text ++ ")"
  | .integer kind n => "Value(" ++ kind.name ++ ": " ++ toString n ++ ")"
  | .float32 x => "Value(float32: " ++ Double.debug (x.convert .double) ++ ")"
  | .float64 x => "Value(float64: " ++ Double.debug x ++ ")"
  | .array elements => "Value(array: [" ++ ", ".intercalate (Value.debugAll elements) ++ "])"
  | .map entries => "Value(map: \x7b" ++ ", ".intercalate (Value.debugEntries entries) ++ "\x7d)"
  | .object payload => "Value(object: " ++ payload.debug ++ ")"

/-- The debugging views of the values of a list. -/
def Value.debugAll : List Value → List String
  | [] => []
  | value :: rest => value.debug :: Value.debugAll rest

/-- The debugging views of entries, each with its quoted key. -/
def Value.debugEntries : List (String × Value) → List String
  | [] => []
  | (key, value) :: rest => (Text.quoted key ++ ": " ++ value.debug) :: Value.debugEntries rest

/-- The debugging view of a host value. -/
def Native.debug : Native → String
  | .none => "None"
  | .bool truth => if truth then "True" else "False"
  | .int n => toString n
  | .float x => Double.debug x
  | .string text => Text.quoted text
  | .list items => "[" ++ ", ".intercalate (Native.debugAll items) ++ "]"
  | .tuple items => Native.tupleText (Native.debugAll items)
  | .mapping entries => "\x7b" ++ ", ".intercalate (Native.debugEntries entries) ++ "\x7d"
  | .object _ text => text
  | .value value => value.debug

/-- The debugging views of host values. -/
def Native.debugAll : List Native → List String
  | [] => []
  | item :: rest => item.debug :: Native.debugAll rest

/-- The debugging views of the entries of a host dictionary. -/
def Native.debugEntries : List (NativeKey × Native) → List String
  | [] => []
  | (key, item) :: rest => (key.debug ++ ": " ++ item.debug) :: Native.debugEntries rest

end

mutual

/-- The rendering of a value. -/
def Value.render : Value → String
  | .null => "null"
  | .boolean truth => if truth then "true" else "false"
  | .string text => text
  | .integer _ n => toString n
  | .float32 x => Single.render x
  | .float64 x => Double.render x
  | .array elements => "[" ++ ", ".intercalate (Value.renderAll elements) ++ "]"
  | .map entries => "\x7b" ++ ", ".intercalate (Value.renderEntries entries) ++ "\x7d"
  | .object payload => payload.text

/-- The renderings of the values of a list. -/
def Value.renderAll : List Value → List String
  | [] => []
  | value :: rest => value.render :: Value.renderAll rest

/-- The renderings of entries, each with its key. -/
def Value.renderEntries : List (String × Value) → List String
  | [] => []
  | (key, value) :: rest => (key ++ ": " ++ value.render) :: Value.renderEntries rest

/-- The text of a host value: its debugging view, except that a string is not quoted and a value of
a script is rendered. -/
def Native.text : Native → String
  | .string text => text
  | .value value => value.render
  | native => native.debug

end

end FilterScript
