import SealedTunnel.Url.Host

/-!
Addresses of resources, as far as they are used here: the path and the fragment are read over.
-/
namespace SealedTunnel

structure Url where
  /-- In small letters. -/
  scheme : String
  /-- As it is written; it may hold percent escapes. -/
  username : String
  /-- As it is written; there is none if it is empty. -/
  password : Option String
  host : Option Url.Host
  port : Option UInt16
  /-- As it is written, without the question mark. -/
  query : Option String
  deriving DecidableEq, Repr

namespace Url

inductive SchemeKind
  /-- Of the web: there is a host, and a backslash is a slash. -/
  | web (defaultPort : UInt16)
  | file
  | other
  deriving DecidableEq, Repr

def SchemeKind.ofScheme (scheme : String) : SchemeKind :=
  if scheme = "http" ∨ scheme = "ws" then web 80
  else if scheme = "https" ∨ scheme = "wss" then web 443
  else if scheme = "ftp" then web 21
  else if scheme = "file" then file
  else other

def SchemeKind.isWeb : SchemeKind → Bool
  | web _ => true
  | _ => false

def SchemeKind.defaultPort? : SchemeKind → Option UInt16
  | web port => some port
  | _ => none

def SchemeKind.isEnd (kind : SchemeKind) (c : Char) : Bool :=
  c = '/' ∨ c = '?' ∨ c = '#' ∨ (kind ≠ other ∧ c = '\\')

end Url
end SealedTunnel
