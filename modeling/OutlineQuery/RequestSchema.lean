import OutlineQuery.Condition
import OutlineQuery.Hierarchy.Operator
import OutlineQuery.Json.Value

/-!
A description of requests for the authors of tools, in the vocabulary of JSON Schema. It lists the
names that requests should use; what is accepted beyond them it leaves out.
-/
namespace OutlineQuery.RequestSchema

def ofType (name : String) : Json :=
  .obj [("type", .str name)]

def reference (name : String) : Json :=
  .obj [("$ref", .str ("#/$defs/" ++ name))]

def choice (options : List String) : Json :=
  .obj [("enum", .strings options), ("type", .str "string")]

def describedChoice (description : String) (options : List String) : Json :=
  .obj [("description", .str description), ("enum", .strings options), ("type", .str "string")]

def listOf (item : Json) : Json :=
  .obj [("items", item), ("type", .str "array")]

def having (field : String) : Json :=
  .obj [("required", .strings [field])]

def combinator : Json :=
  describedChoice "Case-insensitive. Defaults to AND." ["AND", "OR", "and", "or"]

def condition : Json :=
  .obj
    [("properties", .obj
      [("match_mode", describedChoice
          "Alias: match. Defaults to contains (pattern for kind pattern)."
          (MatchMode.all.map MatchMode.name)),
       ("negate", ofType "boolean"),
       ("semantic_expansion", .obj
          [("description", .str "Strategy tag for the term expansion service."),
           ("type", .str "string")]),
       ("type", describedChoice "Alias: kind. Unknown kinds are treated as text."
          (Kind.all.map Kind.name)),
       ("value", .obj [("minLength", .nat 1), ("type", .str "string")]),
       ("weight", ofType "number")]),
     ("required", .strings ["value"]),
     ("type", .str "object")]

def group : Json :=
  .obj
    [("properties", .obj
      [("combinator", reference "combinator"),
       ("conditions", .obj
          [("items", reference "condition"), ("minItems", .nat 1), ("type", .str "array")])]),
     ("required", .strings ["conditions"]),
     ("type", .str "object")]

def groupSet : Json :=
  .obj
    [("oneOf", .arr [having "conditions", having "groups"]),
     ("properties", .obj
      [("combinator", reference "combinator"),
       ("conditions", listOf (reference "condition")),
       ("group_combinator", reference "combinator"),
       ("groups", listOf (reference "group"))]),
     ("type", .str "object")]

def hierarchy : Json :=
  .obj
    [("additionalProperties", .bool false),
     ("properties", .obj
      [("left", reference "group_set"),
       ("operator", choice (Operator.all.map Operator.name)),
       ("right", reference "group_set")]),
     ("required", .strings ["left", "operator", "right"]),
     ("type", .str "object")]

def scope : Json :=
  .obj
    [("additionalProperties", .bool false),
     ("properties", .obj
      [("block_ids", listOf (ofType "string")),
       ("exclude_journals", ofType "boolean"),
       ("page_ids", listOf (ofType "string"))]),
     ("type", .str "object")]

/-- The schema of requests, with the keys of every object in code point order. -/
def request : Json :=
  .obj
    [("$defs", .obj
      [("combinator", combinator), ("condition", condition), ("group", group),
       ("group_set", groupSet)]),
     ("oneOf", .arr [having "conditions", having "groups", having "hierarchy"]),
     ("properties", .obj
      [("combinator", reference "combinator"),
       ("conditions", listOf (reference "condition")),
       ("entity", choice ["block", "page"]),
       ("group_combinator", reference "combinator"),
       ("groups", listOf (reference "group")),
       ("hierarchy", hierarchy),
       ("scope", scope),
       ("version", .obj [("const", .nat 1), ("type", .str "integer")])]),
     ("type", .str "object")]

end OutlineQuery.RequestSchema
