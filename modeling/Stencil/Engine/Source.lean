import Stencil.Engine.Session
import Stencil.Entity
import Stencil.Value.Iterate

namespace Stencil.Source

def configOptions : Entries :=
  [(.text "types", .bool true), (.text "enums", .bool true), (.text "config", .bool true)]

def typeOptions : Entries :=
  [(.text "types", .bool true), (.text "enums", .bool true)]

def methodOptions (rest : Bool) : Entries :=
  [(.text "types", .bool false), (.text "enums", .bool false), (.text "methods", .bool true),
    (.text "controllers", .bool true), (.text "rest", .bool rest)]

def parserOptions (options : Entries) (validTypes : List Value) : Entries :=
  options ++ [(.text "valid_types", .list validTypes), (.text "ignore_semantics", .bool true)]

def blockWarning (source : Text) : Text :=
  "Failed to parse source code:\n\n----\n" ++ source

def failureWarning (detail source : Text) : Text :=
  "Failed to parse source code: " ++ detail ++ "\n\n----\n" ++ source

/-- The entities of a source block, in order. A failure is reported together with the block. -/
def parse (parser : Option SourceParser) (source : Value) (options : Entries)
    (validTypes : Value) : Act (List Value) := do
  let some parser := parser | throw (.source .noParser)
  let validTypes ← Act.ofExcept (← Act.look validTypes).iteratePresent
  let options := parserOptions options validTypes
  let seen ← Act.resolve (.dict options)
  let block ← Act.resolve source
  modify fun s => { s with calls := s.calls ++ [(block, seen)] }
  match parser source options with
  | .refused message =>
    Act.warn (blockWarning block.display)
    throw (.source (.refused message))
  | .failed detail =>
    Act.warn (failureWarning detail block.display)
    throw (.source (.failed detail))
  | .parsed entities errors =>
    let errors ← Act.look errors
    if errors.truthy then
      Act.warn (blockWarning block.display)
      let details ← (← Act.ofExcept errors.iterate).mapM Act.display
      throw (.source (.failed (Text.join ", " details)))
    Act.ofExcept (← Act.look entities).iteratePresent

def parseData (parser : Option SourceParser) (source : Value) : Act (List Value) := do
  let look := (← get).store.look
  return (← parse parser source typeOptions .null).filter fun entity => Entity.isData (look entity)

end Stencil.Source
