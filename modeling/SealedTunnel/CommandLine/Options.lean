import SealedTunnel.Config.Document
import SealedTunnel.Text.CharClass
import SealedTunnel.Text.Split

/-! Options of the command line. They go before what the file of settings says. -/
namespace SealedTunnel.CommandLine

structure Options where
  /-- The path of a file of settings. -/
  settings : Option String := none
  accessKey : Option String := none
  domain : Option String := none
  /-- Separated by commas. -/
  resolvers : Option String := none
  protocols : Option String := none
  collectorUrl : Option String := none
  isVerbose : Bool := false
  deriving DecidableEq, Repr

inductive UsageFault
  | missingValue (option : String)
  | unknownOption (argument : String)
  deriving DecidableEq, Repr

def UsageFault.message : UsageFault → String
  | missingValue option => option ++ " requires a value"
  | unknownOption argument => "unknown option: " ++ argument

inductive Request
  | help
  | test (options : Options)
  deriving DecidableEq, Repr

def setter? (argument : String) : Option (String → Options → Options) :=
  if argument = "-k" ∨ argument = "--key" then some fun value options => { options with accessKey := some value }
  else if argument = "-d" ∨ argument = "--domain" then some fun value options => { options with domain := some value }
  else if argument = "-r" ∨ argument = "--resolver" then some fun value options => { options with resolvers := some value }
  else if argument = "-p" ∨ argument = "--proto" then some fun value options => { options with protocols := some value }
  else if argument = "-c" ∨ argument = "--config" then some fun value options => { options with settings := some value }
  else if argument = "--report-to" then some fun value options => { options with collectorUrl := some value }
  else none

/-- Reads arguments in their order; of two options of a kind the later one counts. -/
def readArguments (options : Options) : List String → Except UsageFault Request
  | [] => .ok (.test options)
  | argument :: rest =>
    if argument = "-h" ∨ argument = "--help" then .ok .help
    else if argument = "-v" ∨ argument = "--verbose" then readArguments { options with isVerbose := true } rest
    else
      match setter? argument, rest with
      | none, _ => .error (.unknownOption argument)
      | some _, [] => .error (.missingValue argument)
      | some set, value :: rest => readArguments (set value options) rest

/-- Without arguments, help is what is asked for. -/
def Request.parse (arguments : List String) : Except UsageFault Request :=
  if arguments.isEmpty then .ok .help else readArguments {} arguments

def listItems (text : String) : List String :=
  ((Text.pieces ',' text.toList).map fun item => String.ofList (Text.trimmed item)).filter (!·.isEmpty)

def Options.applyTo (options : Options) (config : Config) : Config where
  accessKey := options.accessKey.getD config.accessKey
  domain := options.domain.getD config.domain
  resolvers := (options.resolvers.map listItems).getD config.resolvers
  protocols := (options.protocols.map listItems).getD config.protocols
  timeout := config.timeout
  upload :=
    match options.collectorUrl, config.upload with
    | none, upload => upload
    | some url, none => some { collectorUrl := url }
    | some url, some upload => some { upload with collectorUrl := url }

end SealedTunnel.CommandLine
