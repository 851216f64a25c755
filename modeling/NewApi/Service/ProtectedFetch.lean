import NewApi.Common.SSRFProtection

/-!
# The dialer of protected fetches

The dialer checks the host and the port of an address before it connects. It connects to the address
of an IP literal. For a name it may resolve the name, check all addresses and connect to one of
them, or else leave the name to the network.

The resolver and the network are inputs. A network is `Regular` if its resolver gives a literal back
as its address, and if nothing but a text without white space around it is taken for a name.

Source: `service/protected_fetch_client.go`.
-/

namespace NewApi.Service

open Common IPAddress List Option Except GoText

/-- What is connected to: an address with a port, or the text of an address that the network
resolves. -/
inductive DialTarget
  | address (ip : IPAddress) (portText : String)
  | text (addr : String)
  deriving DecidableEq, Repr

inductive NetworkName
  | tcp
  | tcp4
  | tcp6

def networkAllowsIP (network : NetworkName) (ip : IPAddress) : Bool :=
  match network with
  | .tcp4 => (to4 ip).isSome
  | .tcp6 => (to4 ip).isNone
  | .tcp => true

inductive DialError
  | protection (err : String)
  | invalidAddress (addr : String)
  | invalidPort (portText : String)
  | refused (err : TargetError)
  | resolution (host err : String)
  | dial (err : String)
  | noUsableAddress (host : String)
  deriving DecidableEq, Repr

/-- The configuration, with whether it is enabled, the resolver and the network. -/
structure Dialer where
  letters : GoText.LetterCase
  getProtection : Except String (SSRFProtection × Bool)
  lookupIPAddr : String → Except String (List (Option IPAddress))
  dial : DialTarget → Except String Unit

namespace Dialer

variable (d : Dialer)

def connect (target : DialTarget) : Except DialError DialTarget :=
  match d.dial target with
  | .error err => .error (.dial err)
  | .ok () => .ok target

/-- The resolved addresses that the network allows, if all of them are permitted. -/
def candidateIPs (p : SSRFProtection) (network : NetworkName) (host : String) :
    List (Option IPAddress) → Except DialError (List IPAddress)
  | [] => .ok []
  | none :: rest => candidateIPs p network host rest
  | some ip :: rest =>
    if !networkAllowsIP network ip then candidateIPs p network host rest
    else
      match p.validateResolvedIP host ip with
      | .error err => .error (.refused err)
      | .ok () =>
        match candidateIPs p network host rest with
        | .error err => .error err
        | .ok ips => .ok (ip :: ips)

/-- Connect to the first address that answers. `lastDialErr` is the error of the one before. -/
def dialFirst (host portText : String) : List IPAddress → Option String →
    Except DialError DialTarget
  | [], none => .error (.noUsableAddress host)
  | [], some lastDialErr => .error (.dial lastDialErr)
  | ip :: ips, _ =>
    match d.dial (.address ip portText) with
    | .ok () => .ok (.address ip portText)
    | .error err => dialFirst host portText ips (some err)

def dialHost (p : SSRFProtection) (network : NetworkName) (addr host portText : String) :
    Except DialError DialTarget :=
  match parseIP host with
  | some ip => d.connect (.address ip portText)
  | none =>
    if !p.applyIPFilterForDomain then d.connect (.text addr)
    else
      match d.lookupIPAddr host with
      | .error err => .error (.resolution host err)
      | .ok resolved =>
        match candidateIPs p network host resolved with
        | .error err => .error err
        | .ok ips => d.dialFirst host portText ips none

/-- `DialContext`: the checks, then the connection. -/
def dialContext (network : NetworkName) (addr : String) : Except DialError DialTarget :=
  match d.getProtection with
  | .error err => .error (.protection err)
  | .ok (_, false) => d.connect (.text addr)
  | .ok (p, true) =>
    match splitHostPort addr with
    | .error _ => .error (.invalidAddress addr)
    | .ok (host, portText) =>
      match atoi portText with
      | none => .error (.invalidPort portText)
      | some port =>
        match p.validateNetworkTarget d.letters host port with
        | .error err => .error (.refused err)
        | .ok () => d.dialHost p network addr host portText

end Dialer

/-! ### The loops -/

section

variable {d : Dialer} {p : SSRFProtection} {network : NetworkName} {host portText : String}
  {resolved : List (Option IPAddress)} {ips : List IPAddress} {target : DialTarget}

theorem candidateIPs_ok (h : Dialer.candidateIPs p network host resolved = .ok ips) :
    (∀ ip ∈ ips, some ip ∈ resolved ∧ networkAllowsIP network ip = true) ∧
      ∀ ip, some ip ∈ resolved → networkAllowsIP network ip = true →
        p.isIPAccessAllowed ip = true := by
  induction resolved generalizing ips with
  | nil =>
    obtain rfl := ok.inj h
    exact ⟨fun ip hip => absurd hip not_mem_nil, fun ip hip => absurd hip not_mem_nil⟩
  | cons first rest ih =>
    rcases first with - | first
    · obtain ⟨hmem, hallowed⟩ := ih h
      exact ⟨fun ip hip => ⟨mem_cons_of_mem none (hmem ip hip).1, (hmem ip hip).2⟩, fun ip hip =>
        hallowed ip ((mem_cons.mp hip).resolve_left (some_ne_none ip))⟩
    rw [Dialer.candidateIPs] at h
    split at h
    next hskip =>
      obtain ⟨hmem, hallowed⟩ := ih h
      refine ⟨fun ip hip => ⟨mem_cons_of_mem _ (hmem ip hip).1, (hmem ip hip).2⟩,
        fun ip hip hnetwork => ?_⟩
      rcases mem_cons.mp hip with heq | hrest
      · obtain rfl := some.inj heq
        rw [hnetwork] at hskip
        cases hskip
      · exact hallowed ip hrest hnetwork
    rename_i hnetwork
    split at h
    · cases h
    rename_i hfirst
    split at h
    · cases h
    rename_i restIps hrest
    obtain rfl := ok.inj h
    obtain ⟨hmem, hallowed⟩ := ih hrest
    refine ⟨fun ip hip => ?_, fun ip hip hnetwork => ?_⟩
    · rcases mem_cons.mp hip with rfl | hip
      · exact ⟨mem_cons_self, by simpa using hnetwork⟩
      · exact ⟨mem_cons_of_mem _ (hmem ip hip).1, (hmem ip hip).2⟩
    · rcases mem_cons.mp hip with heq | hrest
      · obtain rfl := some.inj heq
        exact SSRFProtection.validateResolvedIP_ok.mp hfirst
      · exact hallowed ip hrest hnetwork

theorem dialFirst_ok {lastDialErr : Option String}
    (h : d.dialFirst host portText ips lastDialErr = .ok target) :
    ∃ ip ∈ ips, target = .address ip portText := by
  induction ips generalizing lastDialErr with
  | nil => cases lastDialErr <;> cases h
  | cons ip ips ih =>
    rw [Dialer.dialFirst] at h
    split at h
    · obtain rfl := ok.inj h
      exact ⟨ip, mem_cons_self, rfl⟩
    · obtain ⟨ip', hip', htarget⟩ := ih h
      exact ⟨ip', mem_cons_of_mem ip hip', htarget⟩

theorem connect_ok {target' : DialTarget} (h : d.connect target = .ok target') :
    target' = target ∧ d.dial target = .ok () := by
  rw [Dialer.connect] at h
  split at h
  · cases h
  next hdial => exact ⟨(ok.inj h).symm, hdial⟩

end

/-! ### The connections -/

/-- The addresses that a name was resolved to, with the one that is connected to. -/
def ConnectedTo (d : Dialer) (p : SSRFProtection) (network : NetworkName) (host portText : String)
    (target : DialTarget) : Prop :=
  ∃ resolved ip, d.lookupIPAddr host = .ok resolved ∧ some ip ∈ resolved ∧
    target = .address ip portText ∧ p.isIPAccessAllowed ip = true ∧
    ∀ ip', some ip' ∈ resolved → networkAllowsIP network ip' = true → p.isIPAccessAllowed ip' = true

section

variable {d : Dialer} {p : SSRFProtection} {network : NetworkName}
  {addr host portText : String} {target : DialTarget}

theorem dialHost_ok (h : d.dialHost p network addr host portText = .ok target) :
    (∃ ip, parseIP host = some ip ∧ target = .address ip portText) ∨
    (parseIP host = none ∧ p.applyIPFilterForDomain = false ∧ target = .text addr ∧
      d.dial (.text addr) = .ok ()) ∨
    (parseIP host = none ∧ p.applyIPFilterForDomain = true ∧
      ConnectedTo d p network host portText target) := by
  unfold Dialer.dialHost at h
  split at h
  next ip hip => exact .inl ⟨ip, hip, (connect_ok h).1⟩
  rename_i hname
  split at h
  next hfilter =>
    obtain ⟨htarget, hdial⟩ := connect_ok h
    exact .inr (.inl ⟨hname, by simpa using hfilter, htarget, hdial⟩)
  rename_i hfilter
  split at h
  · cases h
  rename_i resolved hresolved
  split at h
  · cases h
  rename_i ips hips
  obtain ⟨hcandidates, hallowed⟩ := candidateIPs_ok hips
  obtain ⟨ip, hip, htarget⟩ := dialFirst_ok h
  obtain ⟨hmem, hnetwork⟩ := hcandidates ip hip
  exact .inr (.inr ⟨hname, by simpa using hfilter, resolved, ip, hresolved, hmem, htarget,
    hallowed ip hmem hnetwork, hallowed⟩)

theorem dialContext_ok (hprotection : d.getProtection = .ok (p, true))
    (h : d.dialContext network addr = .ok target) :
    ∃ host portText port, splitHostPort addr = .ok (host, portText) ∧ atoi portText = some port ∧
      p.validateNetworkTarget d.letters host port = .ok () ∧
      d.dialHost p network addr host portText = .ok target := by
  simp only [Dialer.dialContext, hprotection] at h
  split at h
  · cases h
  rename_i host portText hsplit
  split at h
  · cases h
  rename_i port hport
  split at h
  · cases h
  next hvalid => exact ⟨host, portText, port, hsplit, hport, hvalid, h⟩

end

/-! ### Permitted connections -/

/-- The resolver gives a literal back as its address. Only a text without white space around it is
resolved as a name. A number that only a system resolver reads as an address, such as `127.1`, is a
name here. -/
structure Dialer.Regular (d : Dialer) : Prop where
  lookup_literal : ∀ host literal, parseAddr host = some literal →
    d.lookupIPAddr host = .ok [some literal.ip]
  lookup_name : ∀ host resolved, parseAddr host = none → d.lookupIPAddr host = .ok resolved →
    trimSpace host = host
  dial_name : ∀ addr host portText, splitHostPort addr = .ok (host, portText) →
    parseAddr host = none → d.dial (.text addr) = .ok () → trimSpace host = host

/-- The configuration permits the connection to a host and a port. A literal is every text that
`netip.ParseAddr` reads, with or without a zone, and every other text is a name (`127.1` too); the
case of a name and a dot at its end do not count. -/
structure Permitted (d : Dialer) (p : SSRFProtection) (network : NetworkName)
    (host portText : String) (port : Int) (target : DialTarget) : Prop where
  port : p.isAllowedPort port = true
  literal : ∀ literal, parseAddr host = some literal → p.isIPAccessAllowed literal.ip = true
  name : parseAddr host = none →
    p.isDomainAllowed d.letters (trimRootDot (d.letters.toLower host)) = true
  resolved : parseAddr host = none → p.applyIPFilterForDomain = true →
    ConnectedTo d p network host portText target

/-- The hosts for which the checks are enough: a literal with a zone is resolved or is a permitted
address, and a name with a dot at its end is also permitted without the dot. -/
structure HostChecked (letters : GoText.LetterCase) (p : SSRFProtection) (host : String) :
    Prop where
  zone : ∀ literal, parseAddr host = some literal → literal.zone ≠ "" →
    p.applyIPFilterForDomain = false → p.isIPAccessAllowed literal.ip = true
  rootDot : parseAddr host = none → host.toList.getLast? = some '.' →
    p.isDomainAllowed letters (trimRootDot host) = true

section

variable {d : Dialer} {p : SSRFProtection} {network : NetworkName}
  {addr host portText : String} {port : Int} {target : DialTarget}

theorem isDomainAllowed_trimRootDot {letters : GoText.LetterCase} :
    p.isDomainAllowed letters (trimRootDot (letters.toLower host)) =
      p.isDomainAllowed letters (trimRootDot host) := by
  rw [← letters.toLower_trimRootDot, isDomainAllowed_toLower]

theorem parseIP_of_name (hname : parseAddr host = none) : parseIP host = none := by
  rw [parseIP, hname]
  rfl

variable (hreg : d.Regular) (h : d.dialHost p network addr host portText = .ok target)
include hreg h

theorem literal_allowed (hchecked : HostChecked d.letters p host)
    (hvalid : p.validateNetworkTarget d.letters host port = .ok ()) {literal : Literal}
    (hliteral : parseAddr host = some literal) : p.isIPAccessAllowed literal.ip = true := by
  rcases dialHost_ok h with ⟨ip, hip, -⟩ | ⟨hip, hfilter, -⟩ | ⟨hip, hfilter, hconnected⟩
  · obtain ⟨is4, hparse⟩ := parseIP_eq_some_iff.mp hip
    obtain rfl := some.inj (hparse.symm.trans hliteral)
    have htrim := trimSpace_of_parseIP hip
    exact (SSRFProtection.validateNetworkTarget_ok hvalid).2.1 ip (htrim.symm ▸ hip)
  · refine hchecked.zone literal hliteral (fun hzone => ?_) hfilter
    rw [parseIP, hliteral, bind_some, if_pos hzone] at hip
    cases hip
  · obtain ⟨resolved, ip, hresolved, hmem, -, hallowed, -⟩ := hconnected
    rw [hreg.lookup_literal host literal hliteral] at hresolved
    obtain rfl := ok.inj hresolved
    obtain rfl := some.inj (mem_singleton.mp hmem)
    exact hallowed

theorem trimSpace_of_name (hsplit : splitHostPort addr = .ok (host, portText))
    (hname : parseAddr host = none) : trimSpace host = host := by
  rcases dialHost_ok h with ⟨ip, hip, -⟩ | ⟨-, -, -, hdial⟩ | ⟨-, -, resolved, -, hresolved, -⟩
  · rw [parseIP_of_name hname] at hip
    cases hip
  · exact hreg.dial_name addr host portText hsplit hname hdial
  · exact hreg.lookup_name host resolved hname hresolved

theorem name_allowed (hchecked : HostChecked d.letters p host)
    (hsplit : splitHostPort addr = .ok (host, portText))
    (hvalid : p.validateNetworkTarget d.letters host port = .ok ())
    (hname : parseAddr host = none) :
    p.isDomainAllowed d.letters (trimRootDot (d.letters.toLower host)) = true := by
  rw [isDomainAllowed_trimRootDot]
  by_cases hdot : host.toList.getLast? = some '.'
  · exact hchecked.rootDot hname hdot
  have htrim := trimSpace_of_name hreg h hsplit hname
  have hallowed := (SSRFProtection.validateNetworkTarget_ok hvalid).2.2
  rw [htrim] at hallowed
  rw [trimRootDot, if_neg hdot]
  exact hallowed (parseIP_of_name hname)

end

/-- **Protected fetches.** A connection that the dialer opens under an enabled configuration is
permitted exactly if its host is one of those for which the checks are enough. -/
theorem protected_fetch_iff (d : Dialer) (hreg : d.Regular) (p : SSRFProtection)
    (hprotection : d.getProtection = .ok (p, true)) (network : NetworkName) (addr : String)
    (target : DialTarget) (hopened : d.dialContext network addr = .ok target) :
    ∃ host portText port, splitHostPort addr = .ok (host, portText) ∧
      atoi portText = some port ∧
      (Permitted d p network host portText port target ↔ HostChecked d.letters p host) := by
  obtain ⟨host, portText, port, hsplit, hport, hvalid, hdial⟩ := dialContext_ok hprotection hopened
  refine ⟨host, portText, port, hsplit, hport, fun hpermitted => ?_, fun hchecked => ?_⟩
  · exact
      { zone := fun literal hliteral _ _ => hpermitted.literal literal hliteral
        rootDot := fun hname _ => isDomainAllowed_trimRootDot ▸ hpermitted.name hname }
  exact
    { port := (SSRFProtection.validateNetworkTarget_ok hvalid).1
      literal := fun literal hliteral => literal_allowed hreg hdial hchecked hvalid hliteral
      name := name_allowed hreg hdial hchecked hsplit hvalid
      resolved := fun hname hfilter => by
        rcases dialHost_ok hdial with ⟨ip, hip, -⟩ | ⟨-, hoff, -⟩ | ⟨-, -, hconnected⟩
        · rw [parseIP_of_name hname] at hip
          cases hip
        · rw [hfilter] at hoff
          cases hoff
        · exact hconnected }

def asciiLower (c : Char) : Char :=
  if 65 ≤ c.toNat ∧ c.toNat ≤ 90 then Char.ofNat (c.toNat + 32) else c

theorem asciiLower_toNat (c : Char) : (asciiLower c).toNat =
    if 65 ≤ c.toNat ∧ c.toNat ≤ 90 then c.toNat + 32 else c.toNat := by
  rw [asciiLower]
  split
  next hupper =>
    have hvalid : (c.toNat + 32).isValidChar := .inl (by omega)
    rw [Char.ofNat, dif_pos hvalid]
    rfl
  · rfl

def asciiLetters : GoText.LetterCase where
  lower := asciiLower
  lower_lower c := by
    rw [← Char.toNat_inj, asciiLower_toNat, asciiLower_toNat]
    split
    · rw [if_neg (by omega)]
    · rfl
  lower_dot c := by
    have hdot : '.'.toNat = 46 := by decide
    rw [← Char.toNat_inj, ← Char.toNat_inj, asciiLower_toNat, hdot]
    split <;> omega

/-- A network that knows no names, but answers on every address and every name without white space
around it. -/
def openNetwork (p : SSRFProtection) : Dialer where
  letters := asciiLetters
  getProtection := .ok (p, true)
  lookupIPAddr host :=
    match parseAddr host with
    | some literal => .ok [some literal.ip]
    | none => .error "no such host"
  dial target :=
    match target with
    | .address _ _ => .ok ()
    | .text addr =>
      match splitHostPort addr with
      | .error _ => .error "invalid address"
      | .ok (host, _) => if trimSpace host = host then .ok () else .error "no such host"

theorem regular_openNetwork (p : SSRFProtection) : (openNetwork p).Regular where
  lookup_literal host literal hliteral := by
    simp [openNetwork, hliteral]
  lookup_name host resolved hname hresolved := by
    simp only [openNetwork, hname] at hresolved
    cases hresolved
  dial_name addr host portText hsplit hname hdial := by
    simp only [openNetwork, hsplit] at hdial
    split at hdial
    · assumption
    · cases hdial

/-- Private addresses and the domain `evil.example` are denied, and names are not resolved. -/
def denyList : SSRFProtection where
  allowPrivateIp := false
  domainFilterMode := false
  domainList := ["evil.example"]
  ipFilterMode := false
  ipList := []
  allowedPorts := [80, 443]
  applyIPFilterForDomain := false

theorem protected_fetch_denyList :
    (openNetwork denyList).Regular ∧ (openNetwork denyList).getProtection = .ok (denyList, true) ∧
      (openNetwork denyList).dialContext .tcp "Good.example:443" = .ok (.text "Good.example:443") ∧
      ∃ host portText port, splitHostPort "Good.example:443" = .ok (host, portText) ∧
        atoi portText = some port ∧
        (Permitted (openNetwork denyList) denyList .tcp host portText port
          (.text "Good.example:443") ↔ HostChecked asciiLetters denyList host) := by
  have hopened : (openNetwork denyList).dialContext .tcp "Good.example:443" =
      .ok (.text "Good.example:443") := by decide +kernel
  exact ⟨regular_openNetwork denyList, rfl, hopened, protected_fetch_iff (openNetwork denyList)
    (regular_openNetwork denyList) denyList rfl .tcp "Good.example:443" _ hopened⟩

/-- A link-local address with a zone is connected to though private addresses are denied, and so is
a denied domain with a dot at its end. -/
theorem protected_fetch_bypassed : ((openNetwork denyList).dialContext .tcp "[fe80::1%eth0]:80" =
        .ok (.text "[fe80::1%eth0]:80") ∧
      (parseAddr "fe80::1%eth0").map (fun literal => denyList.isIPAccessAllowed literal.ip) =
        some false) ∧
    (openNetwork denyList).dialContext .tcp "evil.example.:443" = .ok (.text "evil.example.:443") ∧
      denyList.isDomainAllowed asciiLetters "evil.example" = false := by
  decide +kernel

end NewApi.Service
