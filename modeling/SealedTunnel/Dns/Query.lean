import SealedTunnel.Dns.Name

namespace SealedTunnel.Dns

def encodeQuery (id : UInt16) (name : Bytes) : Bytes :=
  let flags := 0x0100
  let counts := [1, 0, 0, 0]
  let typeAndClass := [1, 1]
  (id.toNat :: flags :: counts).flatMap (Bytes.ofNatBE 2) ++ name ++ typeAndClass.flatMap (Bytes.ofNatBE 2)

def buildQuery (id : UInt16) (domain : String) : Except Fault Bytes :=
  if domain.isEmpty then .error (.config .emptyDomain)
  else
    match Name.ofText domain with
    | .error cause => .error (.config (.badDomain domain cause))
    | .ok name =>
      match name.encode with
      | .error cause => .error (.config (.unencodableDomain cause))
      | .ok name => .ok (encodeQuery id name)

end SealedTunnel.Dns
