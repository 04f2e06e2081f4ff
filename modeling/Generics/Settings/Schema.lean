import Generics.Settings.Basic

/-!
# The schema of the settings

A description of the settings as a JSON schema, for editors and for checks of configuration files.

## Main definitions

* `Settings.SchemaTree`: JSON, as far as the schema needs it, and `SchemaTree.pretty`.
* `Settings.schema` and `Settings.schemaText`.
-/

namespace Generics

namespace Settings

/-- JSON, as far as the schema needs it. -/
inductive SchemaTree where
  /-- A string without characters that would have to be escaped. -/
  | text (s : String)
  /-- A number or a truth value as it is written. -/
  | plain (s : String)
  /-- An array with at least one item. -/
  | list (items : List SchemaTree)
  /-- An object with at least one member. -/
  | object (members : List (String × SchemaTree))

namespace SchemaTree

/-- A string in double quotes. -/
def inQuotes (s : String) : String := "\"" ++ s ++ "\""

/-- A new line, indented by two spaces for each level. -/
def lineBreak (level : Nat) : String := "\n" ++ String.ofList (List.replicate (2 * level) ' ')

/-- Lines between brackets, given the level outside of them. -/
def block (level : Nat) (opening closing : String) (lines : List String) : String :=
  opening ++ ",".intercalate (lines.map (lineBreak (level + 1) ++ ·)) ++
    lineBreak level ++ closing

mutual

/-- The tree with every item on a line of its own, inside a given number of levels. -/
def pretty (level : Nat) : SchemaTree → String
  | .text s => inQuotes s
  | .plain s => s
  | .list items => block level "[" "]" (prettyItems (level + 1) items)
  | .object members => block level "\x7b" "\x7d" (prettyMembers (level + 1) members)

/-- The items of an array. -/
def prettyItems (level : Nat) : List SchemaTree → List String
  | [] => []
  | t :: ts => pretty level t :: prettyItems level ts

/-- The members of an object. -/
def prettyMembers (level : Nat) : List (String × SchemaTree) → List String
  | [] => []
  | (key, t) :: ts => (inQuotes key ++ ": " ++ pretty level t) :: prettyMembers level ts

end

end SchemaTree

open SchemaTree

/-- The schema of a group, by name. -/
def groupSchema (name description : String) (default : List (String × SchemaTree)) :
    SchemaTree :=
  .object
    [("description", .text description), ("default", .object default),
     ("allOf", .list [.object [("$ref", .text ("#/definitions/" ++ name))]])]

/-- An object with these properties and no others. -/
def closedObject (properties : List (String × SchemaTree)) : SchemaTree :=
  .object
    [("type", .text "object"), ("properties", .object properties),
     ("additionalProperties", .plain "false")]

/-- The schema of the depth. -/
def depthSchema : SchemaTree :=
  .object
    [("description",
        .text "Nesting level past which type variables and wildcards are left unresolved."),
     ("default", .plain (toString defaultMaxDepth)), ("type", .text "integer"),
     ("format", .text "uint"), ("maximum", .plain (toString maxSupportedDepth ++ ".0")),
     ("minimum", .plain "0.0")]

/-- The schema of the log format. -/
def jsonSchema : SchemaTree :=
  .object
    [("description", .text "Emit logs in JSON format."), ("default", .plain "false"),
     ("type", .text "boolean")]

/-- The schema of the log level. -/
def levelSchema : SchemaTree :=
  .object
    [("description",
        .text "A simple level (`info`, `debug`, ...) or a full `EnvFilter` directive string."),
     ("default", .text "info"), ("type", .text "string")]

/-- The schema of all settings. -/
def schema : SchemaTree :=
  .object
    [("$schema", .text "http://json-schema.org/draft-07/schema#"), ("title", .text "EvoConfig"),
     ("type", .text "object"),
     ("properties", .object
        [("generics", groupSchema "GenericsConfig" "Generic type resolution settings."
            [("max_generic_depth", .plain (toString defaultMaxDepth))]),
         ("logging", groupSchema "LoggingConfig" "Logging settings for all evo crates."
            [("json", .plain "false"), ("level", .text "info")])]),
     ("additionalProperties", .plain "false"),
     ("definitions", .object
        [("GenericsConfig", closedObject [("max_generic_depth", depthSchema)]),
         ("LoggingConfig", closedObject [("json", jsonSchema), ("level", levelSchema)])])]

/-- The schema as text. -/
def schemaText : String := schema.pretty 0

end Settings

end Generics
