import SealedTunnel.Error
import SealedTunnel.Text.CharClass
import SealedTunnel.Text.Percent
import SealedTunnel.Text.Split
import SealedTunnel.Url.Punycode

/-!
Names of hosts in addresses of the web. They may be written with characters of every script, of which
some stand for others and some for nothing.
-/
namespace SealedTunnel.Url.DomainName

def isForbidden (c : Char) : Bool := c ≤ ' ' ∨ c = '\x7f' ∨ "%#/:<>?@[\\]^|".toList.contains c

def isIgnored (c : Char) : Bool :=
  c = '\u00AD' ∨ c = '\u200B' ∨ c = '\u2060' ∨ c = '\uFEFF' ∨ ('\uFE00' ≤ c ∧ c ≤ '\uFE0F')

/-- What a character stands for: letters for small ones, full-width forms for ASCII characters. -/
def canonical (c : Char) : Char :=
  if c = '\u3002' ∨ c = '\uFF0E' ∨ c = '\uFF61' then '.'
  else if '\uFF01' ≤ c ∧ c ≤ '\uFF5E' then (Char.ofNat (c.toNat - 0xFEE0)).toLower
  else c.toLower

def isUnassigned (c : Char) : Bool :=
  0x80 ≤ c.toNat ∧
    (Text.isBlank c ∨ Text.isControl c ∨ c = '\uFFFD' ∨ ('\u200C' ≤ c ∧ c ≤ '\u200F') ∨ ('\u2028' ≤ c ∧ c ≤ '\u202F') ∨
      ('\uE000' ≤ c ∧ c ≤ '\uF8FF') ∨ ('\uFDD0' ≤ c ∧ c ≤ '\uFDEF') ∨ ('\uFFF9' ≤ c ∧ c ≤ '\uFFFC') ∨
      c.toNat % 0x10000 ≥ 0xFFFE ∨ 0xE0000 ≤ c.toNat)

/-- A label written in digits stands for one that could not be written otherwise. -/
def isLabel (label : List Char) : Bool :=
  if label.take 4 = ['x', 'n', '-', '-'] then
    match Punycode.decode (label.drop 4) with
    | none => false
    | some decoded => decoded.any (0x80 ≤ ·.toNat) ∧ decoded.all fun c => !isUnassigned c ∧ canonical c = c
  else true

def read (chars : List Char) : Except UrlFault (List Char) :=
  match Text.Percent.decodeText? chars with
  | none => .error .internationalName
  | some text =>
    let name := (text.toList.filter (!isIgnored ·)).map canonical
    if name.any isForbidden ∨ name.any isUnassigned ∨ !(Text.pieces '.' name).all isLabel then .error .internationalName
    else .ok name

end SealedTunnel.Url.DomainName
