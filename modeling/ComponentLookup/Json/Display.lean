import ComponentLookup.Text.Quoted

/-!
# Values inside messages

Messages and rendered nodes show a value in a notation of its own: `Json.display` gives a text
without quotes and every other value as `Json.quoted` does, which writes lists and objects in
brackets and braces with their texts quoted.
-/

namespace ComponentLookup.Json

mutual

/-- A value with its texts quoted. -/
def quoted : Json → String
  | .null => "None"
  | .bool b => if b then "True" else "False"
  | .int n => String.ofList (integerChars n)
  | .float x => x.numeral "nan" "inf"
  | .str s => Text.quote s
  | .arr vs => "[" ++ ", ".intercalate (quotedItems vs) ++ "]"
  | .obj fs => "\x7b" ++ ", ".intercalate (quotedFields fs) ++ "\x7d"

/-- The items of a list, each with its texts quoted. -/
def quotedItems : List Json → List String
  | [] => []
  | v :: rest => quoted v :: quotedItems rest

/-- The fields of an object, each with its texts quoted. -/
def quotedFields : List (String × Json) → List String
  | [] => []
  | (k, v) :: rest => (Text.quote k ++ ": " ++ quoted v) :: quotedFields rest

end

/-- A value as a message shows it: a text bare, anything else with its texts quoted. -/
def display : Json → String
  | .str s => s
  | v => v.quoted

end ComponentLookup.Json
