import Stencil.Document.Reader
import Stencil.Document.Url
import Stencil.Job

namespace Stencil

structure Document where
  source : Text
  value : Value

namespace Document

def yamlEndings : List Text :=
  [".yml", ".yaml"]

def isYaml (name : Text) : Bool :=
  yamlEndings.any fun ending => Text.endsWith ending (Text.lower name)

def parseBy (readers : Readers) (text name : Text) : Except Fault Value :=
  match (if isYaml name then readers.yaml else readers.json) text with
  | .ok v => .ok v
  | .error .refused => .error (.document (.invalid name))
  | .error (.broken cause) => .error (.general cause)

def parse : Text → Text → Except Fault Value :=
  parseBy {}

def ofFileBy (readers : Readers) (d : Disk) (p : Path) : Except Fault Document := do
  if !(← d.exists p) then throw (.document (.notFound p.toText))
  match d.read p with
  | .error _ => throw (.document (.unreadable p.toText))
  | .ok bytes =>
    match Text.decode? bytes with
    | none => throw (.general .undecodable)
    | some t => return ⟨p.toText, ← parseBy readers (Text.normalizeNewlines t) p.name⟩

def ofFile : Disk → Path → Except Fault Document :=
  ofFileBy {}

def firstFailure : Int := 400

def header (name : Text) (headers : List (Text × Text)) : Text :=
  ((headers.find? fun (other, _) => Text.lower other = name).map Prod.snd).getD []

/-- The name of a document on a server; a content type can tell that it is YAML. -/
def nameOf (path contentType : Text) : Text :=
  if Text.includes "yaml" (Text.lower contentType) && !isYaml path then path ++ ".yaml" else path

def ofReply (url path : Text) : Reply → Except Fault Document
  | .timedOut => .error (.document (.timeout url))
  | .noConnection => .error (.document (.noConnection url))
  | .failed detail => .error (.document (.request url detail))
  | .answered status body headers => do
    if firstFailure ≤ status then throw (.document (.status status url))
    return ⟨url, ← parse body (nameOf path (header "content-type" headers))⟩

def defaultTimeout : Int := 30

/-- Loads a document from a server. The URL has to name a scheme and a host. -/
def ofUrl (fetch : Request → Reply) (url : Text) (timeout : Int := defaultTimeout) :
    Work Document := do
  let parts ← Work.ofExcept (Url.parse url)
  if parts.scheme.isEmpty || parts.host.isEmpty then throw (.document (.invalidUrl url))
  Work.ofExcept (ofReply url parts.path (← Work.ask fetch ⟨url, timeout⟩))

/-- Loads a document from a file or a server, exactly one of which is named. -/
def load (fetch : Request → Reply) (file url : Text) (timeout : Int := defaultTimeout) :
    Work Document := do
  if file.isEmpty && url.isEmpty then throw (.document .noSource)
  if !file.isEmpty && !url.isEmpty then throw (.document .twoSources)
  if file.isEmpty then ofUrl fetch url timeout
  else Work.ofExcept (ofFile (← get).disk (Path.parse file))

def ofSource (fetch : Request → Reply) (source : Text) (timeout : Int := defaultTimeout) :
    Work Document := do
  let scheme := (← Work.ofExcept (Url.parse source)).scheme
  if scheme = "http" || scheme = "https" then load fetch [] source timeout
  else load fetch source [] timeout

end Document

end Stencil
