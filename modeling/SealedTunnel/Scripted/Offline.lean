import SealedTunnel.Scripted.Account

/-! The command line on a machine without a network. -/
namespace SealedTunnel.Scripted

open CommandLine (Environment Trial)
open Report (CollectorError Surroundings Upload)

def unreachable : TunnelError := .network (.os 101)

def offline : Attempt := ⟨0, .failed unreachable⟩

structure Console where
  /-- The files that there are. -/
  files : List (String × String)
  output : String := ""
  complaints : String := ""
  /-- The documents of printed reports. -/
  reports : List String := []

namespace Console

def read (console : Console) (path : String) : Except IoError String :=
  (console.files.lookup path).elim (.error (.os 2)) .ok

/-- The only name that is known is that of the machine itself. -/
def lookup (host : String) : Except IoError (List IpAddress) :=
  if host = "localhost" then .ok (["127.0.0.1", "::1"].filterMap IpAddress.parse?)
  else .error (.note .other "failed to lookup address information: Temporary failure in name resolution")

def probe (key : AccessKey) (trial : Trial) (domain : String) (limit : Nat) : Except TunnelError Connectivity.Result :=
  (Course.ofAccount key (fun _ _ => 0) 0 trial domain limit ⟨offline, []⟩).result

def printReport (console : Console) (report : Report) : Except CollectorError Unit × Console :=
  match report.document with
  | .error reason => (.error (.serialize reason), console)
  | .ok document => (.ok (), { console with reports := console.reports ++ [document] })

def exchange (_ : Upload) : StateM Console (Except String Nat) := return .error "error sending request"

def collectors : Surroundings String (StateM Console) where
  deliver := Report.post exchange
  sleep _ := return
  draw := return .zero

def environment : Environment (StateM Console) where
  readFile path console := (console.read path, console)
  lookup host := return Console.lookup host
  now := return ⟨0, 0⟩
  probe key trial domain limit := return Console.probe key trial domain limit
  print text console := ((), { console with output := console.output ++ text })
  printReport report console := console.printReport report
  complain text console := ((), { console with complaints := console.complaints ++ text })
  collectors := collectors

def run (files : List (String × String)) (arguments : List String) : Nat × Console :=
  (CommandLine.run environment arguments).run { files }

end Console
end SealedTunnel.Scripted
