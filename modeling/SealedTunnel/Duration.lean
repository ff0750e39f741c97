import SealedTunnel.Text.Number

namespace SealedTunnel

structure Duration where
  nanos : Nat
  deriving DecidableEq, Repr

namespace Duration

def perSecond : Nat := 1000000000

def ofSeconds (seconds nanos : Nat) : Duration := ⟨seconds * perSecond + nanos⟩

def ofMillis (millis : Nat) : Duration := ⟨millis * 1000000⟩

def longest : Duration := ofSeconds (UInt64.size - 1) 999999999

/-- `count` times the span, or the longest one if that is shorter. -/
def scaled (span : Duration) (count : Nat) : Duration := ⟨min (span.nanos * count) longest.nanos⟩

def millis (span : Duration) : Nat := span.nanos / 1000000

/-- `whole` and `part` parts of `10 ^ places` as a decimal fraction without needless zeros. -/
def fraction (whole part places : Nat) : String :=
  if part = 0 then toString whole
  else
    let digits := ((Text.zeroPadded places part).reverse.dropWhile (· = '0')).reverse
    toString whole ++ "." ++ String.ofList digits

/-- The span in the largest of four units that leaves a whole part. -/
def text (span : Duration) : String :=
  let n := span.nanos
  if n ≥ perSecond then fraction (n / perSecond) (n % perSecond) 9 ++ "s"
  else if n ≥ 1000000 then fraction (n / 1000000) (n % 1000000) 6 ++ "ms"
  else if n ≥ 1000 then fraction (n / 1000) (n % 1000) 3 ++ "µs"
  else fraction n 0 0 ++ "ns"

end Duration
end SealedTunnel
