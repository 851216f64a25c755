import NewApi.Foundation.GoText

/-!
# IP addresses

The addresses of the Go package `net`: sixteen bytes, with the IPv4 addresses among them as the
IPv4-mapped ones. `to4` is `IP.To4`, and the predicates after it are the methods of `net.IP` of the
same names. A `Prefix` is a `net.IPNet`.

The texts of addresses are read as `netip.ParseAddr` reads them: dotted decimal, or groups of
hexadecimal digits with at most one `::` and an optional dotted decimal end, then an optional zone.
`parseIP` is `net.ParseIP`, which accepts no zone, and `parseCIDR` is `net.ParseCIDR`.
`splitHostPort` is `net.SplitHostPort`.
-/

abbrev IPAddress := BitVec 128

namespace IPAddress

open List Option

/-! ### Classes of addresses -/

def ofV4 (v4 : BitVec 32) : IPAddress := 0xffff00000000#128 ||| v4.setWidth 128

def v4 (a b c d : BitVec 8) : BitVec 32 := a ++ b ++ c ++ d

def to4 (ip : IPAddress) : Option (BitVec 32) :=
  if ip >>> 32 = 0xffff#128 then some (ip.setWidth 32) else none

def agree {w : ℕ} (bits : ℕ) (x y : BitVec w) : Bool := x >>> (w - bits) == y >>> (w - bits)

def isUnspecified (ip : IPAddress) : Bool := ip == ofV4 0 || ip == 0

def isLoopback (ip : IPAddress) : Bool :=
  match ip.to4 with
  | some x => agree 8 x (v4 127 0 0 0)
  | none => ip == 1

def isLinkLocalUnicast (ip : IPAddress) : Bool :=
  match ip.to4 with
  | some x => agree 16 x (v4 169 254 0 0)
  | none => agree 10 ip (0xfe80#128 <<< 112)

def isLinkLocalMulticast (ip : IPAddress) : Bool :=
  match ip.to4 with
  | some x => agree 24 x (v4 224 0 0 0)
  | none => agree 8 ip (0xff#128 <<< 120) && ip.extractLsb' 112 4 == 2

def isInterfaceLocalMulticast (ip : IPAddress) : Bool :=
  agree 8 ip (0xff#128 <<< 120) && ip.extractLsb' 112 4 == 1

def isPrivate (ip : IPAddress) : Bool :=
  match ip.to4 with
  | some x => agree 8 x (v4 10 0 0 0) || agree 12 x (v4 172 16 0 0) || agree 16 x (v4 192 168 0 0)
  | none => agree 7 ip (0xfc#128 <<< 120)

/-! ### Prefixes -/

inductive Prefix
  | v4 (number : BitVec 32) (bits : ℕ)
  | v6 (number : BitVec 128) (bits : ℕ)
  deriving DecidableEq, Repr

def Prefix.contains : Prefix → IPAddress → Bool
  | .v4 number bits, ip => (ip.to4.map (agree bits number)).getD false
  | .v6 number bits, ip =>
    match to4 number, ip.to4 with
    | some n, some x => agree (bits - 96) n x
    | none, none => agree bits number ip
    | _, _ => false

/-! ### Texts -/

def hexValue (c : Char) : Option ℕ :=
  if '0' ≤ c ∧ c ≤ '9' then some (c.toNat - '0'.toNat)
  else if 'a' ≤ c ∧ c ≤ 'f' then some (c.toNat - 'a'.toNat + 10)
  else if 'A' ≤ c ∧ c ≤ 'F' then some (c.toNat - 'A'.toNat + 10)
  else none

def octet (l : List Char) : Option (BitVec 8) :=
  if 1 < l.length ∧ l.head? = some '0' then none
  else (GoText.number 10 GoText.digitValue l).bind fun n =>
    if n ≤ 255 then some (.ofNat 8 n) else none

def parseIPv4 (l : List Char) : Option (BitVec 32) :=
  match l.splitOn '.' with
  | [a, b, c, d] => do return v4 (← octet a) (← octet b) (← octet c) (← octet d)
  | _ => none

def group (l : List Char) : Option (BitVec 16) :=
  if 4 < l.length then none else (GoText.number 16 hexValue l).map (.ofNat 16)

/-- Groups that are separated by colons. The last one may be a dotted decimal address, if these are
the last groups of the address. -/
def groups (last : Bool) (l : List Char) : Option (List (BitVec 16)) :=
  if l.isEmpty then some []
  else
    let parts := l.splitOn ':'
    match parts.getLast? with
    | none => none
    | some part =>
      if last ∧ '.' ∈ part then do
        let v4 ← parseIPv4 part
        let before ← parts.dropLast.mapM group
        return before ++ [v4.extractLsb' 16 16, v4.extractLsb' 0 16]
      else parts.mapM group

def ofGroups (l : List (BitVec 16)) : IPAddress :=
  l.foldl (fun ip g => ip <<< 16 ||| g.setWidth 128) 0

def cutEllipsis : List Char → Option (List Char × List Char)
  | ':' :: ':' :: l => some ([], l)
  | c :: l => (cutEllipsis l).map fun cut => (c :: cut.1, cut.2)
  | [] => none

def parseGroups (l : List Char) : Option IPAddress :=
  match cutEllipsis l with
  | none => do
    let all ← groups true l
    if all.length = 8 then some (ofGroups all) else none
  | some (before, after) => do
    let before ← groups false before
    let after ← groups true after
    let count := before.length + after.length
    if count < 8 then some (ofGroups (before ++ List.replicate (8 - count) 0 ++ after)) else none

structure Literal where
  ip : IPAddress
  is4 : Bool
  zone : String
  deriving DecidableEq, Repr

def parseIPv6 (l : List Char) : Option Literal :=
  let s := l.takeWhile (· ≠ '%')
  let zone := (l.dropWhile (· ≠ '%')).drop 1
  if '%' ∈ l ∧ zone = [] then none
  else (parseGroups s).map fun ip => ⟨ip, false, .ofList zone⟩

/-- `netip.ParseAddr`: the first dot, colon or percent sign decides about the form. -/
def parseAddr (s : String) : Option Literal :=
  match s.toList.find? fun c => c = '.' ∨ c = ':' ∨ c = '%' with
  | some '.' => (parseIPv4 s.toList).map fun v4 => ⟨ofV4 v4, true, ""⟩
  | some ':' => parseIPv6 s.toList
  | _ => none

def parseIP (s : String) : Option IPAddress :=
  (parseAddr s).bind fun literal => if literal.zone = "" then some literal.ip else none

variable {ip : IPAddress} {l : List Char}

theorem parseIP_eq_some_iff {s : String} :
    parseIP s = some ip ↔ ∃ is4, parseAddr s = some ⟨ip, is4, ""⟩ := by
  rw [parseIP, bind_eq_some_iff]
  constructor
  · rintro ⟨⟨ip', is4, zone⟩, hparse, hzone⟩
    split at hzone
    next hempty =>
      obtain rfl := some.inj hzone
      refine ⟨is4, ?_⟩
      rw [hparse]
      exact congrArg (fun zone => some (Literal.mk ip' is4 zone)) hempty
    · cases hzone
  · rintro ⟨is4, hparse⟩
    exact ⟨_, hparse, rfl⟩

/-! ### Literals have no white space -/

def NoSpace (l : List Char) : Prop := ∀ c ∈ l, GoText.isSpace c = false

variable {c : Char}

theorem isSpace_eq_false (hlow : 0x21 ≤ c.toNat) (hhigh : c.toNat < 0x85) :
    GoText.isSpace c = false := by
  rw [GoText.isSpace]
  simp
  omega

theorem noSpace_hex (h : (hexValue c).isSome = true) : GoText.isSpace c = false := by
  have hrange : 48 ≤ c.toNat ∧ c.toNat ≤ 102 := by
    have hletter : ('0' ≤ c ∧ c ≤ '9') ∨ ('a' ≤ c ∧ c ≤ 'f') ∨ ('A' ≤ c ∧ c ≤ 'F') := by
      unfold hexValue at h
      split at h
      · exact .inl ‹_›
      split at h
      · exact .inr (.inl ‹_›)
      split at h
      · exact .inr (.inr ‹_›)
      · cases h
    have hle : ∀ a b : Char, a ≤ b ↔ a.toNat ≤ b.toNat := fun a b => UInt32.le_iff_toNat_le
    simp only [hle] at hletter
    have hends : '0'.toNat = 48 ∧ '9'.toNat = 57 ∧ 'a'.toNat = 97 ∧ 'f'.toNat = 102 ∧
      'A'.toNat = 65 ∧ 'F'.toNat = 70 := by decide
    omega
  exact isSpace_eq_false (by omega) (by omega)

theorem hexValue_of_digitValue (h : (GoText.digitValue c).isSome = true) :
    (hexValue c).isSome = true := by
  rw [GoText.digitValue] at h
  rw [hexValue]
  split at h
  next hdigit =>
    rw [if_pos hdigit]
    rfl
  · cases h

theorem noSpace_of_splitOn (sep : Char) (hsep : GoText.isSpace sep = false)
    (h : ∀ part ∈ l.splitOn sep, NoSpace part) : NoSpace l := by
  intro c hc
  rcases GoText.eq_or_mem_of_splitOn sep hc with rfl | ⟨part, hpart, hc⟩
  · exact hsep
  · exact h part hpart c hc

theorem noSpace_octet {b : BitVec 8} (h : octet l = some b) : NoSpace l := by
  rw [octet] at h
  split at h
  · cases h
  · obtain ⟨n, hn, -⟩ := Option.bind_eq_some_iff.mp h
    exact fun c hc => noSpace_hex (hexValue_of_digitValue (GoText.isSome_of_number hn c hc))

theorem noSpace_parseIPv4 {ip : BitVec 32} (h : parseIPv4 l = some ip) : NoSpace l := by
  rw [parseIPv4] at h
  split at h
  next a b c d hparts =>
    refine noSpace_of_splitOn '.' (by decide) ?_
    rw [hparts]
    obtain ⟨a', ha, h⟩ := Option.bind_eq_some_iff.mp h
    obtain ⟨b', hb, h⟩ := Option.bind_eq_some_iff.mp h
    obtain ⟨c', hc, h⟩ := Option.bind_eq_some_iff.mp h
    obtain ⟨d', hd, -⟩ := Option.bind_eq_some_iff.mp h
    simp only [forall_mem_cons, not_mem_nil, false_implies, implies_true, and_true]
    exact ⟨noSpace_octet ha, noSpace_octet hb, noSpace_octet hc, noSpace_octet hd⟩
  · cases h

theorem noSpace_group {g : BitVec 16} (h : group l = some g) : NoSpace l := by
  rw [group] at h
  split at h
  · cases h
  · obtain ⟨n, hn, -⟩ := map_eq_some_iff.mp h
    exact fun c hc => noSpace_hex (GoText.isSome_of_number hn c hc)

theorem noSpace_groups {last : Bool} {gs : List (BitVec 16)} (h : groups last l = some gs) :
    NoSpace l := by
  have hmap : ∀ {parts : List (List Char)} {gs : List (BitVec 16)}, parts.mapM group = some gs →
      ∀ part ∈ parts, NoSpace part := by
    intro parts gs hparts part hpart
    obtain ⟨g, hg⟩ := isSome_iff_exists.mp (GoText.isSome_of_mapM hparts part hpart)
    exact noSpace_group hg
  rw [groups] at h
  split at h
  next hempty =>
    rw [isEmpty_iff.mp hempty]
    exact fun c hc => absurd hc not_mem_nil
  dsimp only at h
  refine noSpace_of_splitOn ':' (by decide) ?_
  split at h
  · cases h
  rename_i part hlast
  split at h
  · obtain ⟨v4, hv4, h⟩ := Option.bind_eq_some_iff.mp h
    obtain ⟨before, hbefore, -⟩ := Option.bind_eq_some_iff.mp h
    rw [← dropLast_append_getLast? part hlast]
    intro part' hpart'
    rcases mem_append.mp hpart' with hmem | hmem
    · exact hmap hbefore part' hmem
    · obtain rfl := mem_singleton.mp hmem
      exact noSpace_parseIPv4 hv4
  · exact hmap h

theorem cutEllipsis_eq {before after : List Char} (h : cutEllipsis l = some (before, after)) :
    l = before ++ ':' :: ':' :: after := by
  induction l generalizing before with
  | nil => cases h
  | cons c l ih =>
    rw [cutEllipsis.eq_def] at h
    split at h
    next heq =>
      obtain ⟨rfl, rfl⟩ := Prod.mk.inj (some.inj h)
      exact heq
    next heq =>
      obtain ⟨rfl, rfl⟩ := cons.inj heq
      obtain ⟨cut, hcut, heq⟩ := map_eq_some_iff.mp h
      obtain ⟨rfl, rfl⟩ := Prod.mk.inj heq
      rw [ih hcut]
      rfl
    · cases h

theorem noSpace_parseGroups (h : parseGroups l = some ip) : NoSpace l := by
  rw [parseGroups] at h
  split at h
  · obtain ⟨all, hall, -⟩ := Option.bind_eq_some_iff.mp h
    exact noSpace_groups hall
  rename_i before after hcut
  obtain ⟨gs, hbefore, h⟩ := Option.bind_eq_some_iff.mp h
  obtain ⟨gs', hafter, -⟩ := Option.bind_eq_some_iff.mp h
  rw [cutEllipsis_eq hcut]
  intro c hc
  rcases mem_append.mp hc with hc | hc
  · exact noSpace_groups hbefore c hc
  rcases mem_cons.mp hc with rfl | hc
  · decide
  · rcases mem_cons.mp hc with rfl | hc
    · decide
    · exact noSpace_groups hafter c hc

theorem noSpace_parseIPv6 {is4 : Bool} (h : parseIPv6 l = some ⟨ip, is4, ""⟩) : NoSpace l := by
  rw [parseIPv6] at h
  split at h
  · cases h
  rename_i hzone
  obtain ⟨ip', hip, hliteral⟩ := map_eq_some_iff.mp h
  have hempty : (l.dropWhile (· ≠ '%')).drop 1 = [] := by
    have := (Literal.mk.inj hliteral).2.2
    simpa using congrArg String.toList this
  have hpercent : '%' ∉ l := fun hmem => hzone ⟨hmem, hempty⟩
  have htake : l.takeWhile (· ≠ '%') = l := by
    rw [takeWhile_eq_self_iff]
    intro c hc
    simp
    rintro rfl
    exact hpercent hc
  rw [htake] at hip
  exact noSpace_parseGroups hip

theorem trimSpace_of_parseIP {s : String} (h : parseIP s = some ip) : GoText.trimSpace s = s := by
  apply GoText.trimSpace_of_forall
  obtain ⟨is4, hparse⟩ := parseIP_eq_some_iff.mp h
  rw [parseAddr] at hparse
  split at hparse
  · obtain ⟨v4, hv4, -⟩ := map_eq_some_iff.mp hparse
    exact noSpace_parseIPv4 hv4
  · exact noSpace_parseIPv6 hparse
  · cases hparse

/-! ### Prefixes as texts, hosts and ports -/

def parseCIDR (s : String) : Option Prefix :=
  let addr := s.toList.takeWhile (· ≠ '/')
  let mask := (s.toList.dropWhile (· ≠ '/')).drop 1
  if '/' ∉ s.toList then none
  else
    match parseAddr (.ofList addr), GoText.number 10 GoText.digitValue mask with
    | some ⟨ip, true, _⟩, some bits =>
      if bits ≤ 32 then
        some (.v4 ((ip.setWidth 32 >>> (32 - bits)) <<< (32 - bits)) bits) else none
    | some ⟨ip, false, zone⟩, some bits =>
      if zone = "" ∧ bits ≤ 128 then some (.v6 ((ip >>> (128 - bits)) <<< (128 - bits)) bits)
      else none
    | _, _ => none

example : parseAddr "2001:db8::1" = some ⟨0x20010db8000000000000000000000001#128, false, ""⟩ ∧
    parseAddr "::ffff:10.0.0.1%eth0" = some ⟨ofV4 (v4 10 0 0 1), false, "eth0"⟩ ∧
    parseAddr "127.1" = none ∧ parseAddr "1::2::3" = none := by
  decide +kernel

inductive SplitError
  | missingPort
  | tooManyColons
  | missingBracket
  | unexpectedBracket (c : Char)
  deriving DecidableEq, Repr

/-- `net.SplitHostPort`: the port follows the last colon, and a host with colons is in brackets. -/
def splitHostPort (s : String) : Except SplitError (String × String) :=
  let l := s.toList
  let port := (l.reverse.takeWhile (· ≠ ':')).reverse
  let beforePort := l.take (l.length - port.length - 1)
  if ':' ∉ l then .error .missingPort
  else if l.head? = some '[' then
    let inside := l.tail.takeWhile (· ≠ ']')
    let rest := (l.tail.dropWhile (· ≠ ']')).drop 1
    if ']' ∉ l then .error .missingBracket
    else if beforePort = '[' :: inside ++ [']'] then
      if '[' ∈ l.tail then .error (.unexpectedBracket '[')
      else if ']' ∈ rest then .error (.unexpectedBracket ']')
      else .ok (.ofList inside, .ofList port)
    else if rest.head? = some ':' then .error .tooManyColons
    else .error .missingPort
  else if ':' ∈ beforePort then .error .tooManyColons
  else if '[' ∈ l then .error (.unexpectedBracket '[')
  else if ']' ∈ l then .error (.unexpectedBracket ']')
  else .ok (.ofList beforePort, .ofList port)

example : splitHostPort "[fe80::1%eth0]:80" = .ok ("fe80::1%eth0", "80") ∧
    splitHostPort "example.com:443" = .ok ("example.com", "443") ∧
    splitHostPort "::1:80" = .error .tooManyColons ∧
    splitHostPort "[::1]" = .error .missingPort := by
  refine ⟨?_, ?_, ?_, ?_⟩ <;> rfl

end IPAddress
