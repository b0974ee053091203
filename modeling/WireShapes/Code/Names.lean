import WireShapes.Model.Shape
import WireShapes.Text.Casing
import WireShapes.Text.Quoted

/-!
Names in generated code.

* `identifier`: a name that may stand for a field, a function or a module
* `pascal`: a name of a type or of a variant
* `unknownVariant`: the variant for values that the model does not list
-/

namespace WireShapes.Code

/-- Words that cannot be names in any spelling. -/
def reservedSegments : List String := ["self", "super", "crate", "Self"]

/-- Keywords, which are names only in their raw spelling. -/
def keywords : List String :=
  ["as", "async", "await", "break", "const", "continue", "dyn", "else", "enum", "extern", "false",
    "fn", "for", "if", "impl", "in", "let", "loop", "match", "mod", "move", "mut", "pub", "ref",
    "return", "static", "struct", "trait", "true", "type", "unsafe", "use", "where", "while",
    "abstract", "become", "box", "do", "final", "gen", "macro", "override", "priv", "try", "typeof",
    "unsized", "virtual", "yield"]

def startsWithDigit (text : String) : Bool :=
  match text.toList with
  | c :: _ => Text.isAsciiDigit c
  | [] => false

/-- A name that may stand for a field, a function or a module. -/
def identifier (name : String) : String :=
  if reservedSegments.contains name then name ++ "_"
  else if keywords.contains name then "r#" ++ name
  else if startsWithDigit name then "_" ++ name
  else name

/-- A name of a type or of a variant. -/
def pascal (name : String) : String :=
  let converted := Text.camelCase name
  if converted.isEmpty || startsWithDigit converted then "Value" ++ converted
  else if converted = "Self" then "SelfValue"
  else converted

def typeName (id : ShapeId) : String := pascal id.name

/-- What the names of functions for a shape are built from. -/
def stem (id : ShapeId) : String := Text.snakeCase id.name

def moduleName (id : ShapeId) : String := identifier (stem id)

/-- The field or variant argument of a member. -/
def fieldName (member : Member) : String := identifier (Text.snakeCase member.name)

def setterName (member : Member) : String := "set_" ++ Text.snakeCase member.name

/-- The variant for values that are not listed, whose name is not one of the listed ones. -/
def unknownVariant (names : List String) : String :=
  if names.any fun name => pascal name = "Unknown" then "UnknownValue" else "Unknown"

end WireShapes.Code
