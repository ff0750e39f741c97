import SealedTunnel.Decimal.Binary64
import SealedTunnel.Duration
import SealedTunnel.Report.Basic
import SealedTunnel.Report.CollectorError

/-!
Delivering reports. The leaves of a collector deliver; around them stand those that try again, that
fall back on another one, and that leave some reports out.
-/
namespace SealedTunnel.Report

open Decimal (Binary64)

inductive Collector (leaf : Type)
  | leaf (destination : leaf)
  /-- Tries again so many times, after a delay that doubles. -/
  | retry (maxRetry : Nat) (initialDelay : Duration) (inner : Collector leaf)
  /-- The first of these that delivers. -/
  | fallback (alternatives : List (Collector leaf))
  /-- Delivers a fraction of the successes, and one of the failures. -/
  | sampling (successes failures : Binary64) (inner : Collector leaf)

structure Surroundings (leaf : Type) (m : Type → Type) where
  deliver : leaf → Report → m (Except CollectorError Unit)
  sleep : Duration → m Unit
  /-- A number from zero on, below one. -/
  draw : m Binary64

abbrev Delivery (m : Type → Type) := m (Except CollectorError Unit)

def largestFactor : Nat := UInt32.size - 1

def backoff (initialDelay : Duration) (attempts : Nat) : Duration :=
  initialDelay.scaled (min (Nat.pow 2 (min attempts 32)) largestFactor)

variable {leaf : Type} {m : Type → Type} [Monad m]

/-- Attempts until one succeeds or is turned down; `left` more after the first of them. -/
def retrying (sleep : Duration → m Unit) (initialDelay : Duration) (attempt : Delivery m) :
    (left attempts : Nat) → Delivery m
  | left, attempts => do
    match ← attempt with
    | .ok () => return .ok ()
    | .error error =>
      if error.isBadRequest then return .error error
      else
        match left with
        | 0 => return .error .maxRetryExceeded
        | left + 1 =>
          sleep (backoff initialDelay attempts)
          retrying sleep initialDelay attempt left (attempts + 1)

/-- Delivers at a rate, by a number that is drawn; what is left out counts as delivered. -/
def sampling (draw : m Binary64) (rate : Binary64) (delivery : Delivery m) : Delivery m := do
  if (← draw).lt rate then delivery else return .ok ()

mutual

def Collector.collect (surroundings : Surroundings leaf m) (report : Report) : Collector leaf → Delivery m
  | .leaf destination => surroundings.deliver destination report
  | .retry maxRetry initialDelay inner =>
    retrying surroundings.sleep initialDelay (inner.collect surroundings report) maxRetry 0
  | .fallback alternatives => do return (← firstOf surroundings report alternatives).mapError .allFailed
  | .sampling successes failures inner =>
    match report.isSuccess with
    | none => inner.collect surroundings report
    | some isSuccess =>
      sampling surroundings.draw (if isSuccess then successes else failures) (inner.collect surroundings report)

def firstOf (surroundings : Surroundings leaf m) (report : Report) :
    List (Collector leaf) → m (Except (List CollectorError) Unit)
  | [] => return .error []
  | collector :: rest => do
    match ← collector.collect surroundings report with
    | .ok () => return .ok ()
    | .error error => return (← firstOf surroundings report rest).mapError (error :: ·)

end

end SealedTunnel.Report
