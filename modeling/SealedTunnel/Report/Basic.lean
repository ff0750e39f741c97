namespace SealedTunnel

structure Report where
  /-- The report as one document, or why there is none. -/
  document : Except String String
  /-- Whether it reports a success, if it knows. -/
  isSuccess : Option Bool

end SealedTunnel
