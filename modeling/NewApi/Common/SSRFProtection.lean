import NewApi.Foundation.IPAddress

/-!
# Protection against forged server-side requests

A configuration says which ports, addresses and domain names the server may connect to. Addresses
and names are compared with a list of allowed or of denied ones, and private addresses are denied
unless they are allowed.

Source: `common/ssrf_protection.go`.
-/

namespace NewApi.Common

open IPAddress GoText

/-- The configuration, with the ranges of ports expanded. -/
structure SSRFProtection where
  allowPrivateIp : Bool
  domainFilterMode : Bool
  domainList : List String
  ipFilterMode : Bool
  ipList : List String
  allowedPorts : List Int
  applyIPFilterForDomain : Bool

/-! ### Addresses -/

def privateIPv4Nets : List Prefix :=
  [.v4 (v4 0 0 0 0) 8,
    .v4 (v4 10 0 0 0) 8,
    .v4 (v4 100 64 0 0) 10,
    .v4 (v4 127 0 0 0) 8,
    .v4 (v4 169 254 0 0) 16,
    .v4 (v4 172 16 0 0) 12,
    .v4 (v4 192 0 0 0) 24,
    .v4 (v4 192 0 2 0) 24,
    .v4 (v4 192 168 0 0) 16,
    .v4 (v4 198 18 0 0) 15,
    .v4 (v4 198 51 100 0) 24,
    .v4 (v4 203 0 113 0) 24,
    .v4 (v4 224 0 0 0) 4,
    .v4 (v4 240 0 0 0) 4,
    .v4 (v4 255 255 255 255) 32]

def privateIPv6Nets : List Prefix :=
  ["::/128", "::1/128", "::ffff:0:0/96", "64:ff9b::/96", "100::/64", "2001::/23", "2001:db8::/32",
    "fc00::/7", "fe80::/10", "ff00::/8"].filterMap parseCIDR

def isPrivateIP (ip : IPAddress) : Bool :=
  if isUnspecified ip then true
  else if isLoopback ip || isLinkLocalUnicast ip || isLinkLocalMulticast ip then true
  else if isInterfaceLocalMulticast ip then true
  else if (to4 ip).isSome then privateIPv4Nets.any fun net => net.contains ip
  else if privateIPv6Nets.any fun net => net.contains ip then true
  else isPrivate ip

def isIpInCIDRList (ip : IPAddress) (cidrList : List String) : Bool :=
  cidrList.any fun cidr =>
    match parseCIDR cidr with
    | some network => network.contains ip
    | none => parseIP cidr == some ip

namespace SSRFProtection

variable (p : SSRFProtection)

def isAllowedPort (port : Int) : Bool :=
  if p.allowedPorts.isEmpty then true else p.allowedPorts.contains port

def isIPAccessAllowed (ip : IPAddress) : Bool :=
  if isPrivateIP ip && !p.allowPrivateIp then false
  else if p.ipFilterMode then isIpInCIDRList ip p.ipList
  else !isIpInCIDRList ip p.ipList

end SSRFProtection

/-! ### Names -/

def isDomainListed (letters : GoText.LetterCase) (domain : String) (list : List String) : Bool :=
  let domain := letters.toLower domain
  list.any fun item =>
    let item := letters.toLower (trimSpace item)
    if item = "" then false
    else if domain = item then true
    else
      match cutPrefix item "*." with
      | some ending => hasSuffix domain ("." ++ ending) || domain == ending
      | none => false

def SSRFProtection.isDomainAllowed (p : SSRFProtection) (letters : GoText.LetterCase)
    (domain : String) : Bool :=
  if p.domainFilterMode then isDomainListed letters domain p.domainList
  else !isDomainListed letters domain p.domainList

section

variable {p : SSRFProtection} {letters : GoText.LetterCase} {domain : String}

theorem isDomainAllowed_toLower :
    p.isDomainAllowed letters (letters.toLower domain) = p.isDomainAllowed letters domain := by
  simp [SSRFProtection.isDomainAllowed, isDomainListed, GoText.LetterCase.toLower_toLower]

end

/-! ### Targets -/

/-- Why a host and a port are refused. `host` is the name that was resolved to the address, or
empty. -/
inductive TargetError
  | invalidHost
  | invalidPort (port : Int)
  | portNotAllowed (port : Int)
  | privateIP (host : String) (ip : IPAddress)
  | ipNotInWhitelist (host : String) (ip : IPAddress)
  | ipInBlacklist (host : String) (ip : IPAddress)
  | domainNotInWhitelist (host : String)
  | domainInBlacklist (host : String)
  deriving DecidableEq, Repr

namespace SSRFProtection

variable (p : SSRFProtection)

def ipAccessError (host : String) (ip : IPAddress) : TargetError :=
  if isPrivateIP ip && !p.allowPrivateIp then .privateIP host ip
  else if p.ipFilterMode then .ipNotInWhitelist host ip
  else .ipInBlacklist host ip

/-- The check of a host and a port before anything is resolved. -/
def validateNetworkTarget (letters : GoText.LetterCase) (host : String) (port : Int) :
    Except TargetError Unit :=
  let host := trimSpace host
  if host = "" then .error .invalidHost
  else if port < 1 ∨ port > 65535 then .error (.invalidPort port)
  else if !p.isAllowedPort port then .error (.portNotAllowed port)
  else
    match parseIP host with
    | some ip => if p.isIPAccessAllowed ip then .ok () else .error (p.ipAccessError "" ip)
    | none =>
      if p.isDomainAllowed letters host then .ok ()
      else if p.domainFilterMode then .error (.domainNotInWhitelist host)
      else .error (.domainInBlacklist host)

/-- The check of each address that a name resolves to. -/
def validateResolvedIP (host : String) (ip : IPAddress) : Except TargetError Unit :=
  if p.isIPAccessAllowed ip then .ok () else .error (p.ipAccessError host ip)

variable {p} {letters : GoText.LetterCase} {host : String} {port : Int} {ip : IPAddress}

theorem validateNetworkTarget_ok (h : p.validateNetworkTarget letters host port = .ok ()) :
    p.isAllowedPort port = true ∧
      (∀ ip, parseIP (trimSpace host) = some ip → p.isIPAccessAllowed ip = true) ∧
      (parseIP (trimSpace host) = none → p.isDomainAllowed letters (trimSpace host) = true) := by
  revert h
  fun_cases validateNetworkTarget p letters host port with
  | case4 host _ _ hport ip hip hallowed =>
    refine fun _ => ⟨by simpa using hport, fun ip' hip' => ?_, fun hnone => ?_⟩
    · obtain rfl := Option.some.inj (hip.symm.trans hip')
      exact hallowed
    · cases hip.symm.trans hnone
  | case6 host _ _ hport hnone hallowed =>
    exact fun _ => ⟨by simpa using hport, fun ip hip => (by cases hnone.symm.trans hip),
      fun _ => hallowed⟩
  | _ => rintro ⟨⟩

theorem validateResolvedIP_ok :
    p.validateResolvedIP host ip = .ok () ↔ p.isIPAccessAllowed ip = true := by
  rw [validateResolvedIP]
  constructor
  · intro h
    split at h
    · assumption
    · cases h
  · intro hallowed
    rw [if_pos hallowed]

end SSRFProtection

end NewApi.Common
