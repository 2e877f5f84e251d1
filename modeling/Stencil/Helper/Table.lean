import Stencil.Helper.Call
import Stencil.Helper.Casing
import Stencil.Helper.Kinds
import Stencil.Helper.References
import Stencil.Helper.Sources
import Stencil.Helper.Structure
import Stencil.Helper.Switch
import Stencil.Language.Formatting
import Stencil.Value.Number

namespace Stencil

/-- A helper. It is run with the engine, the met parameters, and the data document that the caller
sees. -/
structure Helper where
  name : Text
  signature : Helper.Signature
  run : Engine → Helper.Bound → Value → Act Value

namespace Helper

def required (names : List String) : List (Text × Option Value) :=
  names.map fun name => (name.toList, none)

def optional (name : String) (default : Value := .null) : List (Text × Option Value) :=
  [(name.toList, some default)]

def caller : List (Text × Option Value) :=
  optional "caller"

def ofText (name : String) (f : Engine → Text → Text) : Helper where
  name := name.toList
  signature := { parameters := required ["value"] }
  run e b _ := do return .markup (f e (← Act.textOf (b.get "value")))

def ofType (name : String) (f : Language → Value → Text) : Helper where
  name := name.toList
  signature := { parameters := required ["value"] }
  run e b _ := do return .markup (f e.language (plain (← Act.resolve (b.get "value"))))

def ofProperty (name : String) (f : Language → Value → Text → Text) : Helper where
  name := name.toList
  signature := { parameters := required ["type_like", "property_id"] }
  run e b _ := do
    let type ← Act.resolve (b.get "type_like")
    return .markup (f e.language (plain type) (← Act.textOf (b.get "property_id")))

def ofBlock (name : String) (parameters : List String) (f : Engine → Bound → Act Value) : Helper where
  name := name.toList
  signature := { parameters := required parameters ++ caller }
  run e b _ := f e b

def ofCollection (name collection : String) : Helper :=
  ofBlock name ["kind"] fun e b => do
    eachMatching e collection (← Act.textOf (b.get "kind")) b.block

def ofJoined (name collection : String) : Helper :=
  ofBlock name ["kind", "joiner"] fun e b => do
    let kind ← Act.textOf (b.get "kind")
    eachMatching e collection kind b.block (← Act.textOf (b.get "joiner"))

def ofSource (name : String) (options : Entries) : Helper where
  name := name.toList
  signature :=
    { parameters := required ["source"] ++ caller ++ optional "namespace" ++ optional "valid_types" }
  run e b data :=
    eachEntity e options (b.get "source") (b.get "namespace") (b.get "valid_types") data b.block

def requestTexts (v : Value) : Act (List Text) := do
  (← Act.ofExcept (← Act.look v).asList).mapM Act.textOf

def textHelpers : List Helper :=
  (casings.map fun (name, f) => ofText (String.ofList name) fun _ => f) ++
  [{ name := "default"
     signature := { parameters := required ["value"] ++ optional "default_value" }
     run := fun _ b _ => do
       return if (b.get "value").isMissing then b.get "default_value" else b.get "value" },
   { name := "json"
     signature := { parameters := required ["value"] }
     run := fun _ b _ => do
       return .markup (← Act.ofExcept (json (← Act.resolve (b.get "value")))) },
   { name := "json_string"
     signature := { parameters := required ["value"] }
     run := fun _ b _ => do
       return .markup (← Act.ofExcept (jsonString (← Act.resolve (b.get "value")))) },
   { name := "toJSON"
     signature := { parameters := required ["value"] }
     run := fun _ b _ => do
       return .text (← Act.ofExcept (jsonPretty (← Act.resolve (b.get "value")))) },
   { name := "curly"
     signature := { parameters := optional "open_brace" (.bool false) }
     run := fun _ b _ => do return .text (curly (← Act.truthy (b.get "open_brace"))) },
   { name := "concat"
     signature := { parameters := required ["a", "b"] }
     run := fun _ b _ => do
       return .text ((← Act.textOf (b.get "a")) ++ (← Act.textOf (b.get "b"))) },
   { name := "toArray"
     signature := { takesRest := true }
     run := fun _ b _ => return .list b.rest },
   { name := "first"
     signature := { takesRest := true }
     run := fun _ b _ => do
       let look := (← get).store.look
       return firstOf (fun v => (look v).truthy) b.rest },
   { name := "when"
     signature := { parameters := required ["value"] ++ caller, takesOptions := true }
     run := fun _ b _ => do
       let type ← Act.resolve ((b.options.lookup "type".toList).getD .null)
       let inner ← renderBlock b.block []
       return .markup (side (type.same (← Act.resolve (b.get "value"))) inner) }]

def kindHelpers : List Helper :=
  [ofBlock "consumes" ["kind"] fun e b => do
     ifMatching e "consumers" (← Act.textOf (b.get "kind")) b.block,
   ofBlock "provides" ["kind"] fun e b => do
     ifMatching e "providers" (← Act.textOf (b.get "kind")) b.block,
   ofCollection "consumers_of_type" "consumers",
   ofJoined "consumers_of_type_joined" "consumers",
   ofCollection "providers_of_type" "providers",
   ofJoined "providers_of_type_joined" "providers",
   ofBlock "usesAnyOf" ["requested_kinds"] fun e b => do
     ifUsingAny e (← requestTexts (b.get "requested_kinds")) b.block]

def formattingHelpers : List Helper :=
  [ofType "type" Language.type,
   ofText "constant" fun e => e.language.constant,
   ofText "comment" fun e => e.language.comment,
   ofText "namespace" fun e => e.language.packageName,
   ofType "variable" Language.variableName,
   ofText "string" fun e => e.language.literal,
   ofText "method" fun e => e.language.method,
   ofType "returnType" Language.returnType,
   ofProperty "getter" Language.getter,
   ofProperty "setter" fun l _ => l.setter]

def structureHelpers : List Helper :=
  [ofBlock "eachProperty" ["items"] fun _ b => eachProperty (b.get "items") b.block,
   ofBlock "arguments" ["items"] fun e b => eachArgument e.language (b.get "items") b.block,
   ofBlock "methods" ["items"] fun e b => eachMethod e.language (b.get "items") b.block,
   ofBlock "switch" ["value"] fun _ b => switch (b.get "value") b.block,
   ofBlock "case" ["value"] fun _ b => case (b.get "value") b.block]

def referenceHelpers : List Helper :=
  [{ name := "eachTypeReference"
     signature :=
       { parameters := required ["value"] ++ caller ++ optional "all" (.bool false) ++
           optional "allow" }
     run := fun e b _ => do
       let allowed ← Act.ofExcept (← Act.resolve (b.get "allow")).asList
       eachTypeReference e (b.get "value") (← Act.truthy (b.get "all")) allowed b.block },
   ofBlock "hasTypeReference" ["value", "type_ref"] fun _ b => do
     ifTypeReference (b.get "value") (← Act.textOf (b.get "type_ref")) b.block,
   ofBlock "ifValueType" ["type_like"] fun _ b => ifValueType (b.get "type_like") b.block]

def sourceHelpers : List Helper :=
  [ofSource "kaplang_config" Source.configOptions,
   ofSource "kaplang_types" Source.typeOptions,
   ofSource "kaplang_methods" (Source.methodOptions false),
   ofSource "kaplang_rest_methods" (Source.methodOptions true),
   ofBlock "kaplang_has_reference" ["entity", "type_ref"] fun _ b => do
     ifEntityReference (b.get "entity") (← Act.textOf (b.get "type_ref")) b.block,
   ofBlock "kaplang_render" ["entity"] fun _ b => ifRendered (b.get "entity") b.block,
   { name := "controller_name"
     signature := { parameters := required ["entity"] }
     run := fun _ b _ => do
       return .markup (← Act.ofExcept (Entity.controllerName (← Act.resolve (b.get "entity")))) }]

def all : List Helper :=
  textHelpers ++ kindHelpers ++ formattingHelpers ++ structureHelpers ++ referenceHelpers ++
    sourceHelpers

def find? (name : Text) : Option Helper :=
  all.find? fun h => h.name = name

def filterNames : List Text :=
  (casings.map Prod.fst) ++
    ["json", "json_string", "toJSON", "type", "constant", "comment", "namespace", "variable",
      "string", "method", "returnType"].map String.toList

/-- What was given as the block of a call: a given value is taken as one that cannot be called. -/
def blockOf (b : Bound) : Option Block :=
  match b.block with
  | some block => some block
  | none =>
    match b.get "caller" with
    | .null => none
    | .undefined => some fun _ => Act.fail .undefined
    | _ => some fun _ => Act.fail .wrongType

def call (e : Engine) (data : Value) (h : Helper) (a : Arguments) : Act Value := do
  let bound ← Act.ofExcept (h.signature.bind a)
  h.run e { bound with block := blockOf bound } data

end Helper

end Stencil
