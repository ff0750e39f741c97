import SealedTunnel.Error

namespace SealedTunnel.Connectivity

inductive Stage
  | connect
  | send
  | receive
  deriving DecidableEq, Repr

namespace Stage

def text : Stage → String
  | connect => "connect"
  | send => "send"
  | receive => "receive"

def ofText? (text : String) : Option Stage := [connect, send, receive].find? (·.text = text)

end Stage

structure Failure where
  stage : Stage
  posixName : String
  error : IoError
  deriving DecidableEq, Repr

namespace Failure

def ofError (stage : Stage) (error : IoError) : Failure := ⟨stage, error.posixName, error⟩

def timedOut (stage : Stage) (limit : Duration) : Failure := ofError stage (.ofFault (.timeout limit))

def message (failure : Failure) : String := failure.stage.text ++ ": " ++ failure.error.message

end Failure
end SealedTunnel.Connectivity
