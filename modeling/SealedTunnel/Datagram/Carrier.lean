import SealedTunnel.Poll

namespace SealedTunnel

class Carrier (κ : Type) where
  /-- What a payload goes out as. -/
  wrap : κ → Bytes → Except TunnelError Bytes × κ
  /-- Hands over what was wrapped. -/
  send : κ → Bytes → Poll (Except TunnelError Unit) × κ
  /-- The next payload, cut if it is longer than there is room for. -/
  receive : κ → (room : Nat) → Poll (Except TunnelError Bytes) × κ
  /-- No more datagrams than this come before receiving stalls or fails. -/
  backlog : κ → Nat
  backlog_receive : ∀ carrier room bytes, (receive carrier room).1 = .ready (.ok bytes) →
    backlog (receive carrier room).2 < backlog carrier

end SealedTunnel
