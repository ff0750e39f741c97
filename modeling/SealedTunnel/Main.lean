import SealedTunnel.Machine

def main (arguments : List String) : IO UInt32 :=
  return .ofNat (← SealedTunnel.CommandLine.run SealedTunnel.Machine.environment arguments)
