import Wildflow.Relay.Strings

/-!
# Allowed targets

`ValidateNetworkTarget` of `common/ssrf_protection.go`, on texts as lists of characters. `Network` is what it takes from
`unicode` and `net`, with the tests of an address.
-/

namespace Wildflow.System
open Wildflow.Store Wildflow.Relay

structure Network (Address : Type) where
  toLower : Char → Char
  parseIP : List Char → Option Address
  isPrivateIP : Address → Bool
  isIPListed : Address → List String → Bool

structure SSRFProtection where
  allowPrivateIp : Bool
  domainFilterMode : Bool
  domainList : List (List Char)
  ipFilterMode : Bool
  ipList : List String
  allowedPorts : List Int

inductive TargetError (Address : Type) where
  | invalidHost
  | invalidPort (port : Int)
  | portNotAllowed (port : Int)
  | privateIPNotAllowed (ip : Address)
  | ipNotInWhitelist (ip : Address)
  | ipInBlacklist (ip : Address)
  | domainNotInWhitelist (host : List Char)
  | domainInBlacklist (host : List Char)

namespace SSRFProtection
variable {Address : Type} (net : Network Address) (p : SSRFProtection)

def isAllowedPort (port : Int) : Bool := p.allowedPorts = [] || port ∈ p.allowedPorts

/-- One round of the loop of `isDomainListed`. -/
def itemCovers (domain item : List Char) : Bool :=
  match (trim isSpace item).map net.toLower with
  | [] => false
  | '*' :: '.' :: suffix => domain = '*' :: '.' :: suffix || ('.' :: suffix).isSuffixOf domain || domain = suffix
  | item => domain = item

def isDomainListed (domain : List Char) (list : List (List Char)) : Bool :=
  list.any (itemCovers net (domain.map net.toLower))

def isDomainAllowed (domain : List Char) : Bool := isDomainListed net domain p.domainList == p.domainFilterMode

def isIPAccessAllowed (ip : Address) : Bool :=
  (!net.isPrivateIP ip || p.allowPrivateIp) && net.isIPListed ip p.ipList == p.ipFilterMode

def ipAccessError (ip : Address) : TargetError Address :=
  if net.isPrivateIP ip && !p.allowPrivateIp then .privateIPNotAllowed ip
  else if p.ipFilterMode then .ipNotInWhitelist ip
  else .ipInBlacklist ip

def validateNetworkTarget (host : List Char) (port : Int) : Except (TargetError Address) Unit :=
  let host := trim isSpace host
  if host = [] then .error .invalidHost
  else if port < 1 ∨ port > 65535 then .error (.invalidPort port)
  else if ¬p.isAllowedPort port then .error (.portNotAllowed port)
  else match net.parseIP host with
    | some ip => if p.isIPAccessAllowed net ip then .ok () else .error (p.ipAccessError net ip)
    | none =>
      if p.isDomainAllowed net host then .ok ()
      else .error (if p.domainFilterMode then .domainNotInWhitelist host else .domainInBlacklist host)

end SSRFProtection

end Wildflow.System
