import Stencil.Fault
import Stencil.Language.Words
import Stencil.Text.Case
import Stencil.Text.Order

namespace Stencil

structure Registry (α : Type) where
  formatters : List (Text × α) := []
  aliases : List (Text × Text) := []
  deriving DecidableEq, Repr

namespace Registry

variable {α : Type}

/-- Gives a name a value: in its place if it is there, and behind the others if not. -/
def assign {β : Type} (name : Text) (v : β) : List (Text × β) → List (Text × β)
  | [] => [(name, v)]
  | (other, w) :: rest =>
    if name = other then (other, v) :: rest else (other, w) :: assign name v rest

/-- Adds aliases of a language one by one; the first that conflicts stops it. -/
def addAliases (language : Text) (replace : Bool) :
    List Text → Registry α → Option RegistryFault × Registry α
  | [], r => (none, r)
  | name :: rest, r =>
    let key := Text.lower name
    if key = language then addAliases language replace rest r
    else if !replace && (r.formatters.lookup key).isSome then (some (.aliasIsLanguage name), r)
    else
      match if replace then none else r.aliases.lookup key with
      | some target =>
        if target = language then
          addAliases language replace rest { r with aliases := assign key language r.aliases }
        else (some (.aliasTaken name target), r)
      | none => addAliases language replace rest { r with aliases := assign key language r.aliases }

/-- Registers a formatter with its aliases. `none` stands for what is no formatter. A registered
language is kept unless it is to be replaced. -/
def register (r : Registry α) (language : Text) (formatter : Option α) (aliases : List Text := [])
    (replace : Bool := false) : Option RegistryFault × Registry α :=
  match formatter with
  | none => (some .notFormatter, r)
  | some f =>
    let key := Text.lower language
    if (r.formatters.lookup key).isSome && !replace then (none, r)
    else addAliases key replace aliases { r with formatters := assign key f r.formatters }

def unregister (r : Registry α) (language : Text) : Registry α where
  formatters := r.formatters.filter fun (name, _) => name ≠ Text.lower language
  aliases := r.aliases.filter fun (_, target) => target ≠ Text.lower language

def languages (r : Registry α) : List Text :=
  Text.sorted (r.formatters.map Prod.fst)

/-- The formatter of a language or alias. An alias that points to no language is an error of its
own. -/
def get (r : Registry α) (language : Text) : Except Fault α :=
  let key := Text.lower language
  match r.formatters.lookup key with
  | some f => .ok f
  | none =>
    match r.aliases.lookup key with
    | none => .error (.registry (.unknownLanguage language r.languages))
    | some target =>
      match r.formatters.lookup target with
      | some f => .ok f
      | none => .error (.general .missingKey)

def aliasesOf (r : Registry α) (language : Text) : List Text :=
  Text.sorted ((r.aliases.filter fun (_, target) => target = Text.lower language).map Prod.fst)

def names (r : Registry α) : List (Text × List Text) :=
  r.languages.map fun language => (language, language :: r.aliasesOf language)

def supports (r : Registry α) (language : Text) : Bool :=
  (r.formatters.lookup (Text.lower language)).isSome ||
    (r.aliases.lookup (Text.lower language)).isSome

def standard : Registry Language :=
  let r : Registry Language := {}
  let r := (r.register "default" (some .plain) (["java", "typescript", "ts"].map String.toList)).2
  let r := (r.register "go" (some .go) ["golang".toList]).2
  (r.register "python" (some .python) ["py".toList]).2

end Registry

end Stencil
