import Stencil.Text.Numeral
import Stencil.Text.Quoted

namespace Stencil

inductive ConfigFault
  | missingData
  | missingContext
  | noTemplate (kind : Text)
  | noTemplateDirectory (directory kind : Text)
  | noBaseDirectory
  | notFound (path : Text)
  | notJson (path : Text)
  | invalidJson (path : Text)
  | unreadable (path : Text)
  | notObject (path : Text)
  deriving DecidableEq

inductive SourceFault
  | noParser
  | failed (detail : Text)
  | refused (message : Text)
  deriving DecidableEq

inductive RegistryFault
  | notFormatter
  | aliasIsLanguage (name : Text)
  | aliasTaken (name language : Text)
  | unknownLanguage (language : Text) (available : List Text)
  deriving DecidableEq

inductive DocumentFault
  | invalid (name : Text)
  | notFound (path : Text)
  | unreadable (path : Text)
  | invalidUrl (url : Text)
  | timeout (url : Text)
  | noConnection (url : Text)
  | status (code : Int) (url : Text)
  | request (url detail : Text)
  | noSource
  | twoSources
  deriving DecidableEq

/-- Causes that belong to no class of the library. -/
inductive GeneralFault
  | wrongType
  | noAttribute
  | badValue
  | missingKey
  | divisionByZero
  | overflow
  | recursion
  | undecodable
  | isDirectory
  | notDirectory
  | fileExists
  | fileNotFound
  | osError
  | undefined
  | syntaxError
  | assertion
  | templateRuntime
  | templateNotFound
  | templatesNotFound
  | badMarkup
  deriving DecidableEq

inductive Fault
  | config (cause : ConfigFault)
  | render (path : Text) (cause : Fault)
  | source (cause : SourceFault)
  | mergeUnsupported (filename : Text)
  | registry (cause : RegistryFault)
  | document (cause : DocumentFault)
  | general (cause : GeneralFault)
  deriving DecidableEq

namespace ConfigFault

def message : ConfigFault → Text
  | missingData => "Missing data"
  | missingContext => "Missing context"
  | noTemplate kind => "No template found for kind: " ++ kind
  | noTemplateDirectory directory kind =>
    "Template not found \"" ++ directory ++ "\" for kind: " ++ kind
  | noBaseDirectory => "No base directory configured for target"
  | notFound path => "Configuration file not found: " ++ path
  | notJson path => "Configuration file must be JSON: " ++ path
  | invalidJson path => "Invalid JSON in configuration file " ++ path ++ ": ..."
  | unreadable path => "Failed to load configuration file " ++ path ++ ": ..."
  | notObject path => "Configuration file must contain a JSON object: " ++ path

end ConfigFault

namespace SourceFault

def message : SourceFault → Text
  | noParser => "No DSL parser configured - cannot parse source code"
  | failed detail => "Failed to parse source code: " ++ detail
  | refused message => message

end SourceFault

namespace RegistryFault

def message : RegistryFault → Text
  | notFormatter => "Formatter class must inherit from CodeFormatter"
  | aliasIsLanguage name => "Alias '" ++ name ++ "' conflicts with existing primary language"
  | aliasTaken name language => "Alias '" ++ name ++ "' already points to '" ++ language ++ "'"
  | unknownLanguage language available =>
    "No formatter registered for language: " ++ language ++ ". Available: " ++
      Text.join ", " available

end RegistryFault

namespace DocumentFault

def message : DocumentFault → Text
  | invalid name => "Invalid document " ++ name ++ ": ..."
  | notFound path => "File not found: " ++ path
  | unreadable path => "Error reading file " ++ path ++ ": ..."
  | invalidUrl url => "Invalid URL: " ++ url
  | timeout url => "Request timeout for URL: " ++ url
  | noConnection url => "Connection error for URL: " ++ url
  | status code url => "HTTP error " ++ Text.ofInt code ++ " for URL: " ++ url
  | request url detail => "Request error for URL " ++ url ++ ": " ++ detail
  | noSource => "Either file_path or url must be provided"
  | twoSources => "Cannot specify both file_path and url"

end DocumentFault

namespace GeneralFault

def label : GeneralFault → Text
  | wrongType => "TypeError"
  | noAttribute => "AttributeError"
  | badValue => "ValueError"
  | missingKey => "KeyError"
  | divisionByZero => "ZeroDivisionError"
  | overflow => "OverflowError"
  | recursion => "RecursionError"
  | undecodable => "UnicodeDecodeError"
  | isDirectory => "IsADirectoryError"
  | notDirectory => "NotADirectoryError"
  | fileExists => "FileExistsError"
  | fileNotFound => "FileNotFoundError"
  | osError => "OSError"
  | undefined => "UndefinedError"
  | syntaxError => "TemplateSyntaxError"
  | assertion => "TemplateAssertionError"
  | templateRuntime => "TemplateRuntimeError"
  | templateNotFound => "TemplateNotFound"
  | templatesNotFound => "TemplatesNotFound"
  | badMarkup => "MarkupError"

end GeneralFault

namespace Fault

def label : Fault → Text
  | config _ => "ConfigurationError"
  | render _ _ => "RenderError"
  | source _ => "DSLParseError"
  | mergeUnsupported _ => "UnsupportedOperationError"
  | registry _ => "RegistryError"
  | document _ => "DocumentLoadError"
  | general cause => cause.label

/-- The message of a fault; a general fault has its details elided. -/
def message : Fault → Text
  | config cause => cause.message
  | render path cause =>
    "Failed to compile source: " ++ path ++ ". " ++ cause.label ++ ": " ++ cause.message
  | source cause => cause.message
  | mergeUnsupported filename =>
    "Could not merge changes for file: " ++ filename ++ ". Merge not supported."
  | registry cause => cause.message
  | document cause => cause.message
  | general _ => "..."

def isOwn : Fault → Bool
  | general _ => false
  | _ => true

end Fault

end Stencil
