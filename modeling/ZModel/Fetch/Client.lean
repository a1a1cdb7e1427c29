import ZModel.Lib.Text

/-!
# The protected fetch client

`common/ssrf_protection.go` and `service/protected_fetch_client.go`, for a client without a proxy.
A URL is what `url.Parse` and `net.SplitHostPort` make of its text. What resolvers answer, which
dials connect, what the settings are at each call and where redirects lead are inputs.
-/

namespace ZModel.Fetch

open Lib

/-- An address in its 16-byte form. -/
abbrev IP := BitVec 128

def IP.to4 (ip : IP) : Option (BitVec 32) :=
  if ip >>> 32 = 0xffff then some (ip.setWidth 32) else none

/-- Go's functions on texts. An address has no space around it, and `80` is a number. -/
structure GoNet where
  parseIP : String → Option IP
  parseCIDR : String → Option (IP → Bool)
  atoi : String → Option Int
  parseIP_trim : ∀ s, (parseIP s).isSome → trimSpace s = s
  atoi_80 : atoi "80" = some 80

def inNets {w : Nat} (nets : List (BitVec w × Nat)) (ip : BitVec w) : Bool :=
  nets.any fun net => (ip ^^^ net.1) >>> (w - net.2) == 0

def privateIPv4Nets : List (BitVec 32 × Nat) :=
  [(0, 8), (0x0a000000, 8), (0x64400000, 10), (0x7f000000, 8), (0xa9fe0000, 16), (0xac100000, 12),
    (0xc0000000, 24), (0xc0000200, 24), (0xc0a80000, 16), (0xc6120000, 15), (0xc6336400, 24),
    (0xcb007100, 24), (0xe0000000, 4), (0xf0000000, 4), (0xffffffff, 32)]

def privateIPv6Nets : List (IP × Nat) :=
  [(0, 128), (1, 128), (0xffff <<< 32, 96), (0x64ff9b <<< 96, 96), (0x100 <<< 112, 64),
    (0x2001 <<< 112, 23), (0x20010db8 <<< 96, 32), (0xfc00 <<< 112, 7), (0xfe80 <<< 112, 10),
    (0xff00 <<< 112, 8)]

def isPrivateIP (ip : IP) : Bool :=
  match ip.to4 with
  | some v4 =>
    -- Unspecified, loopback, link-local and link-local multicast.
    inNets [(0, 32), (0x7f000000, 8), (0xa9fe0000, 16), (0xe0000000, 24)] v4 ||
      inNets privateIPv4Nets v4
  | none =>
    let multicast (scope : IP) := ip >>> 120 == 0xff && (ip >>> 112) &&& 0xf == scope
    inNets [(0, 128), (1, 128), (0xfe80 <<< 112, 10)] ip || multicast 2 || multicast 1 ||
      inNets privateIPv6Nets ip || inNets [(0xfc00 <<< 112, 7)] ip

structure SSRFProtection where
  allowPrivateIp : Bool
  domainFilterMode : Bool
  domainList : List String
  ipFilterMode : Bool
  ipList : List String
  allowedPorts : List Int
  applyIPFilterForDomain : Bool

def isDomainListed (domain : String) (list : List String) : Bool :=
  let domain := (lower domain).toList
  list.any fun item =>
    let item := (lower (trimSpace item)).toList
    item != [] && (domain == item || ['*', '.'].isPrefixOf item &&
      (('.' :: item.drop 2).isSuffixOf domain || domain == item.drop 2))

namespace SSRFProtection

variable (n : GoNet) (p : SSRFProtection)

def isAllowedPort (port : Int) : Bool := p.allowedPorts.isEmpty || p.allowedPorts.contains port

def isDomainAllowed (domain : String) : Bool :=
  if p.domainFilterMode then isDomainListed domain p.domainList
  else !isDomainListed domain p.domainList

def isIPListed (ip : IP) : Bool :=
  p.ipList.any fun cidr =>
    match n.parseCIDR cidr with
    | some contains => contains ip
    | none => n.parseIP cidr == some ip

def isIPAccessAllowed (ip : IP) : Bool :=
  if isPrivateIP ip && !p.allowPrivateIp then false
  else if p.ipFilterMode then p.isIPListed n ip
  else !p.isIPListed n ip

def validateNetworkTarget (host : String) (port : Int) : Bool :=
  let host := trimSpace host
  host != "" && 1 ≤ port && port ≤ 65535 && p.isAllowedPort port &&
    match n.parseIP host with
    | some ip => p.isIPAccessAllowed n ip
    | none => p.isDomainAllowed host

end SSRFProtection

structure URL where
  scheme : String
  host : String
  port : Option String

def URL.portText (u : URL) : String :=
  u.port.getD (if u.scheme = "https" then "443" else "80")

/-- What `getProtection` returns: an error, that protection is off, or the protection. -/
inductive Settings where
  | invalid
  | off
  | on (p : SSRFProtection)

variable (n : GoNet)

def SSRFProtection.validateURL (p : SSRFProtection) (u : URL) (lookup : Option (List IP)) : Bool :=
  (u.scheme == "http" || u.scheme == "https") &&
    match n.atoi u.portText with
    | none => false
    | some port =>
      p.validateNetworkTarget n u.host port &&
        ((n.parseIP u.host).isSome || !p.applyIPFilterForDomain ||
          lookup.any fun ips => ips.all (p.isIPAccessAllowed n))

def validateURLWithProtection (u : URL) (lookup : Option (List IP)) : Settings → Bool
  | .invalid => false
  | .off => true
  | .on p => p.validateURL n u lookup

inductive Network where
  | tcp | tcp4 | tcp6

def networkAllowsIP (ip : IP) : Network → Bool
  | .tcp => true
  | .tcp4 => ip.to4.isSome
  | .tcp6 => ip.to4.isNone

/-- What is dialled for a host: an address or, if `ip` is `none`, its name. -/
structure Target where
  host : String
  portText : String
  ip : Option IP
deriving DecidableEq

/-- One call of `DialContext` by the transport. -/
structure Dial where
  settings : Settings
  network : Network
  lookup : Option (List IP)
  connects : Target → Bool

def Dial.candidateIPs (d : Dial) (p : SSRFProtection) : List IP :=
  let ips := (d.lookup.getD []).filter fun ip => networkAllowsIP ip d.network
  if ips.all (p.isIPAccessAllowed n) then ips else []

def Dial.candidates (d : Dial) (u : URL) : List Target :=
  match d.settings with
  | .invalid => []
  | .off => [⟨u.host, u.portText, none⟩]
  | .on p =>
    if (n.atoi u.portText).any (p.validateNetworkTarget n u.host) then
      match n.parseIP u.host with
      | some ip => [⟨u.host, u.portText, some ip⟩]
      | none =>
        if p.applyIPFilterForDomain then
          (d.candidateIPs n p).map fun ip => ⟨u.host, u.portText, some ip⟩
        else [⟨u.host, u.portText, none⟩]
    else []

/-- The candidates dialled: up to the first that connects. -/
def dialContext (d : Dial) (u : URL) : List Target :=
  let candidates := d.candidates n u
  candidates.take (candidates.findIdx d.connects + 1)

/-- One request of a chain, with the settings and the answer that each check of its URL meets. -/
structure Hop where
  url : URL
  redirect : Settings × Option (List IP)
  send : Settings × Option (List IP)
  dials : List Dial

def checkRedirect (via : Nat) (hop : Hop) : Bool :=
  validateURLWithProtection n hop.url hop.redirect.2 hop.redirect.1 && via < 10

/-- All that a request and the redirects after it dial. -/
def follow (n : GoNet) (via : Nat) : List Hop → List Target
  | [] => []
  | hop :: rest =>
    if validateURLWithProtection n hop.url hop.send.2 hop.send.1 then
      hop.dials.flatMap (fun d => dialContext n d hop.url) ++
        if rest.head?.any (checkRedirect n (via + 1)) then follow n (via + 1) rest else []
    else []

variable {n : GoNet} {p : SSRFProtection} {d : Dial} {u : URL} {t : Target} {hops : List Hop}

/-- What `p` has checked before the target is dialled. -/
structure Checked (n : GoNet) (p : SSRFProtection) (t : Target) (port : Int) : Prop where
  atoi : n.atoi t.portText = some port
  valid : p.validateNetworkTarget n t.host port = true
  filtered : p.applyIPFilterForDomain = true →
    ∃ ip, t.ip = some ip ∧ p.isIPAccessAllowed n ip = true

theorem mem_candidateIPs {ip : IP} (h : ip ∈ d.candidateIPs n p) :
    p.isIPAccessAllowed n ip = true := by
  unfold Dial.candidateIPs at h
  dsimp only at h
  split at h
  next hall => exact List.all_eq_true.mp hall ip h
  · cases h

theorem candidates_checked (hon : d.settings = .on p) (ht : t ∈ d.candidates n u) :
    t.host = u.host ∧ ∃ port, Checked n p t port := by
  simp only [Dial.candidates, hon] at ht
  split at ht
  next hvalid =>
    obtain ⟨port, hport, hvalid⟩ := (Option.any_eq_true _ _).mp hvalid
    split at ht
    next ip hip =>
      cases List.mem_singleton.mp ht
      have hallowed : p.isIPAccessAllowed n ip = true := by
        have htrim := n.parseIP_trim _ (Option.isSome_of_eq_some hip)
        simpa [htrim, hip] using (Bool.and_eq_true_iff.mp hvalid).2
      exact ⟨rfl, port, hport, hvalid, fun _ => ⟨ip, rfl, hallowed⟩⟩
    split at ht
    · obtain ⟨ip, hip, rfl⟩ := List.mem_map.mp ht
      exact ⟨rfl, port, hport, hvalid, fun _ => ⟨ip, rfl, mem_candidateIPs hip⟩⟩
    next hoff =>
      cases List.mem_singleton.mp ht
      exact ⟨rfl, port, hport, hvalid, fun hfilter => absurd hfilter hoff⟩
  · cases ht

/-- Whatever the resolvers and the remote side do, what is dialled was a candidate of its dial. -/
theorem mem_follow {via : Nat} (h : t ∈ follow n via hops) :
    ∃ hop ∈ hops, ∃ d ∈ hop.dials, t ∈ d.candidates n hop.url := by
  induction hops generalizing via with
  | nil => cases h
  | cons hop rest ih =>
    unfold follow at h
    split at h
    · obtain h | h := List.mem_append.mp h
      · obtain ⟨d, hd, h⟩ := List.mem_flatMap.mp h
        exact ⟨hop, .head _, d, hd, List.mem_of_mem_take h⟩
      · split at h
        · obtain ⟨hop', hhop, hrest⟩ := ih h
          exact ⟨hop', .tail _ hhop, hrest⟩
        · cases h
    · cases h

theorem follow_checked (hon : ∀ hop ∈ hops, ∀ d ∈ hop.dials, d.settings ≠ .off)
    (h : t ∈ follow n 0 hops) : ∃ hop ∈ hops, ∃ d ∈ hop.dials, t ∈ d.candidates n hop.url ∧
      ∃ p port, d.settings = .on p ∧ t.host = hop.url.host ∧ Checked n p t port := by
  obtain ⟨hop, hhop, d, hd, ht⟩ := mem_follow h
  cases hsettings : d.settings with
  | invalid => simp [Dial.candidates, hsettings] at ht
  | off => exact absurd hsettings (hon hop hhop d hd)
  | on p =>
    obtain ⟨hhost, port, hchecked⟩ := candidates_checked hsettings ht
    exact ⟨hop, hhop, d, hd, ht, p, port, hsettings, hhost, hchecked⟩

/-- Every target dialled was checked by the settings its own dial read: an allowed port, and an
address that may be accessed. -/
theorem dialled_filtered (n : GoNet) (hops : List Hop)
    (hon : ∀ hop ∈ hops, ∀ d ∈ hop.dials, d.settings ≠ .off)
    (hfilter : ∀ hop ∈ hops, ∀ d ∈ hop.dials, ∀ p, d.settings = .on p →
      p.applyIPFilterForDomain = true) :
    ∀ t ∈ follow n 0 hops, ∃ hop ∈ hops, ∃ d ∈ hop.dials, t ∈ d.candidates n hop.url ∧
      ∃ p port ip, d.settings = .on p ∧ n.atoi t.portText = some port ∧
        p.isAllowedPort port = true ∧ t.ip = some ip ∧ p.isIPAccessAllowed n ip = true := by
  intro t ht
  obtain ⟨hop, hhop, d, hd, hcandidate, p, port, hp, -, hchecked⟩ := follow_checked hon ht
  obtain ⟨ip, hip, hallowed⟩ := hchecked.filtered (hfilter hop hhop d hd p hp)
  have hport : p.isAllowedPort port = true := by
    have hvalid := hchecked.valid
    simp only [SSRFProtection.validateNetworkTarget, Bool.and_eq_true] at hvalid
    exact hvalid.1.2
  exact ⟨hop, hhop, d, hd, hcandidate, p, port, ip, hp, hchecked.atoi, hport, hip, hallowed⟩

def sampleNet : GoNet where
  parseIP _ := none
  parseCIDR _ := none
  atoi s := if s = "80" then some 80 else none
  parseIP_trim _ h := nomatch h
  atoi_80 := rfl

def sampleProtection : SSRFProtection := ⟨false, false, ["evil.com"], false, [], [80], true⟩

/-- A request whose host resolves to `1.1.1.1`. -/
def sampleHop (host : String) : Hop :=
  ⟨⟨"http", host, none⟩, (.off, none), (.off, none),
    [⟨.on sampleProtection, .tcp, some [0xffff01010101], fun _ => true⟩]⟩

theorem dialled_filtered_sample :
    sampleProtection.isAllowedPort 80 = true ∧
      sampleProtection.isIPAccessAllowed sampleNet 0xffff01010101 = true := by
  obtain ⟨hop, hhop, d, hd, -, p, port, ip, hp, hport, hallowed, hip, haccess⟩ :=
    dialled_filtered sampleNet [sampleHop "good.com"] (by simp [sampleHop])
      (by simp [sampleHop, sampleProtection]) ⟨"good.com", "80", some 0xffff01010101⟩
      (by decide +kernel)
  cases List.mem_singleton.mp hhop
  cases List.mem_singleton.mp hd
  cases hp
  cases hport
  cases hip
  exact ⟨hallowed, haccess⟩

/-- The name without the trailing dot of its fully qualified spelling. -/
def unrooted (name : List Char) : List Char :=
  if name.getLast? = some '.' then name.dropLast else name

def spelled (text : String) : List Char := (lower (trimSpace text)).toList

def Rooted (text : String) : Prop := (spelled text).getLast? = some '.'

/-- The host is the name of the entry, or a name under the suffix of the entry. -/
def Denotes (item host : String) : Prop :=
  spelled item ≠ [] ∧ (unrooted (spelled host) = unrooted (spelled item) ∨
    ∃ suffix, spelled item = '*' :: '.' :: suffix ∧
      unrooted ('.' :: suffix) <:+ unrooted (spelled host))

/-- The host is the suffix of the entry. -/
def IsSuffix (item host : String) : Prop :=
  ∃ suffix, spelled item = '*' :: '.' :: suffix ∧ suffix ≠ [] ∧
    unrooted (spelled host) = unrooted suffix

section Spelling

variable {a b : List Char}

theorem unrooted_append (h : a.getLast? = some '.') : unrooted a ++ ['.'] = a := by
  rw [unrooted, if_pos h]
  exact List.dropLast_append_getLast? _ h

/-- Two names are spelled alike if they are the same names and both have the dot or neither. -/
theorem eq_iff_unrooted :
    a = b ↔ unrooted a = unrooted b ∧ (b.getLast? = some '.' ↔ a.getLast? = some '.') := by
  refine ⟨by rintro rfl; exact ⟨rfl, Iff.rfl⟩, fun ⟨heq, h⟩ => ?_⟩
  by_cases ha : a.getLast? = some '.'
  · rw [← unrooted_append ha, heq, unrooted_append (h.mpr ha)]
  · simpa [unrooted, ha, mt h.mp ha] using heq

theorem suffix_iff_unrooted (ha : a ≠ []) : a <:+ b ↔
    unrooted a <:+ unrooted b ∧ (a.getLast? = some '.' ↔ b.getLast? = some '.') := by
  constructor
  · rintro ⟨front, rfl⟩
    have hlast : (front ++ a).getLast? = a.getLast? := List.getLast?_append_of_ne_nil front ha
    refine ⟨?_, by rw [hlast]⟩
    unfold unrooted
    rw [hlast]
    split
    · rw [List.dropLast_append_of_ne_nil ha]
      exact List.suffix_append _ _
    · exact List.suffix_append _ _
  rintro ⟨⟨front, hfront⟩, h⟩
  by_cases hdot : a.getLast? = some '.'
  · rw [← unrooted_append hdot, ← unrooted_append (h.mp hdot), ← hfront]
    exact ⟨front, (List.append_assoc ..).symm⟩
  · rw [unrooted, if_neg hdot, unrooted, if_neg (mt h.mpr hdot)] at hfront
    exact ⟨front, hfront⟩

end Spelling

/-- The comparisons of texts find an entry that names the host with its own spelling of the trailing
dot, or has it as its suffix. -/
theorem isDomainListed_iff {host : String} (hhost : trimSpace host ≠ "") {list : List String} :
    isDomainListed (trimSpace host) list = true ↔ ∃ item ∈ list,
      (Denotes item host ∨ IsSuffix item host) ∧ (Rooted item ↔ Rooted host) := by
  have hname : spelled host ≠ [] := by simpa [spelled, lower] using hhost
  simp only [isDomainListed, List.any_eq_true]
  refine exists_congr fun item => and_congr_right fun _ => ?_
  change (spelled item != [] && (spelled host == spelled item ||
    ['*', '.'].isPrefixOf (spelled item) &&
      (('.' :: (spelled item).drop 2).isSuffixOf (spelled host) ||
        spelled host == (spelled item).drop 2))) = true ↔ _
  unfold Denotes IsSuffix Rooted
  generalize spelled item = entry, spelled host = name at *
  by_cases hpattern : ∃ suffix, entry = '*' :: '.' :: suffix
  · obtain ⟨suffix, rfl⟩ := hpattern
    have hlast : ('*' :: '.' :: suffix).getLast? = ('.' :: suffix).getLast? :=
      List.getLast?_cons_cons
    have hsuffix : name = suffix ↔ (suffix ≠ [] ∧ unrooted name = unrooted suffix) ∧
        (('*' :: '.' :: suffix).getLast? = some '.' ↔ name.getLast? = some '.') := by
      cases suffix with
      | nil => simp [hname]
      | cons c rest => rw [eq_iff_unrooted]; simp
    have hunder := hlast ▸ suffix_iff_unrooted (b := name) (List.cons_ne_nil '.' suffix)
    simp [hsuffix, hunder, eq_iff_unrooted (a := name), or_and_right, or_assoc]
  · have hnot : ¬['*', '.'] <+: entry := by
      rintro ⟨suffix, h⟩
      exact hpattern ⟨suffix, h.symm⟩
    rw [← List.isPrefixOf_iff_prefix] at hnot
    simp [hnot, not_exists.mp hpattern, eq_iff_unrooted (a := name), and_assoc]

/-- Nothing is ever dialled for the host while `list` is the blacklist of the dials. -/
def NeverDialled (n : GoNet) (list : List String) (host : String) : Prop :=
  ∀ hops : List Hop, (∀ hop ∈ hops, ∀ d ∈ hop.dials, ∃ p, d.settings = .on p ∧
    p.domainFilterMode = false ∧ p.domainList = list) → ∀ t ∈ follow n 0 hops, t.host ≠ host

theorem neverDialled_iff {list : List String} {host : String}
    (hname : n.parseIP (trimSpace host) = none) : NeverDialled n list host ↔
      trimSpace host = "" ∨ isDomainListed (trimSpace host) list = true := by
  constructor
  · intro hnever
    by_contra! hfree
    have hip : n.parseIP host = none := by
      by_contra hsome
      rw [n.parseIP_trim host (Option.isSome_iff_ne_none.mpr hsome)] at hname
      exact hsome hname
    -- A request for the host while any port is allowed and addresses are not looked at.
    let p : SSRFProtection := ⟨false, false, list, false, [], [], false⟩
    let hop : Hop := ⟨⟨"http", host, none⟩, (.on p, none), (.on p, none),
      [⟨.on p, .tcp, none, fun _ => true⟩]⟩
    have hvalid : p.validateNetworkTarget n host 80 = true := by
      simp [SSRFProtection.validateNetworkTarget, SSRFProtection.isAllowedPort,
        SSRFProtection.isDomainAllowed, p, hname, hfree]
    refine hnever [hop] ?_ ⟨host, "80", none⟩ ?_ rfl
    · simp [hop, p]
    · simp [follow, hop, validateURLWithProtection, SSRFProtection.validateURL, URL.portText,
        n.atoi_80, hvalid, p, dialContext, Dial.candidates, hip]
  · rintro hblocked hops hlist t ht rfl
    have hon : ∀ hop ∈ hops, ∀ d ∈ hop.dials, d.settings ≠ .off := by
      intro hop hhop d hd hoff
      obtain ⟨p, hp, -⟩ := hlist hop hhop d hd
      cases hoff.symm.trans hp
    obtain ⟨hop, hhop, d, hd, -, p, port, hp, -, hchecked⟩ := follow_checked hon ht
    obtain ⟨p', hp', hmode, rfl⟩ := hlist hop hhop d hd
    cases hp.symm.trans hp'
    have hvalid := hchecked.valid
    simp only [SSRFProtection.validateNetworkTarget, Bool.and_eq_true, hname,
      SSRFProtection.isDomainAllowed, hmode] at hvalid
    obtain hblank | hlisted := hblocked
    · simp [hblank] at hvalid
    · simp [hlisted] at hvalid

/-- For every list and every spelling of a host that the list denotes: it is never dialled exactly
if it is blank, or an entry names it with its own spelling of the trailing dot, or has it as its
suffix. -/
theorem blacklisted_never_dialled_iff {list : List String} {host : String}
    (hname : n.parseIP (trimSpace host) = none) :
    ((∃ item ∈ list, Denotes item host) → NeverDialled n list host) ↔
      ((∃ item ∈ list, Denotes item host) → trimSpace host = "" ∨ ∃ item ∈ list,
        (Denotes item host ∨ IsSuffix item host) ∧ (Rooted item ↔ Rooted host)) := by
  rw [neverDialled_iff hname]
  by_cases hhost : trimSpace host = ""
  · simp [hhost]
  · rw [isDomainListed_iff hhost]

theorem rooted_host_dialled : Denotes "evil.com" "evil.com." ∧
    follow sampleNet 0 [sampleHop "evil.com."] = [⟨"evil.com.", "80", some 0xffff01010101⟩] :=
  ⟨⟨by decide +kernel, .inl (by decide +kernel)⟩, by decide +kernel⟩

theorem blacklisted_never_dialled_sample :
    NeverDialled sampleNet ["evil.com", "*.evil.com."] "EVIL.com." := by
  have hdenotes : Denotes "evil.com" "EVIL.com." := ⟨by decide +kernel, .inl (by decide +kernel)⟩
  have hsuffix : IsSuffix "*.evil.com." "EVIL.com." :=
    ⟨"evil.com.".toList, by decide +kernel, by decide +kernel, by decide +kernel⟩
  refine (blacklisted_never_dialled_iff rfl).mpr (fun _ => .inr ?_) ⟨_, .head _, hdenotes⟩
  exact ⟨_, .tail _ (.head _), .inr hsuffix, by unfold Rooted; decide +kernel⟩

end ZModel.Fetch
