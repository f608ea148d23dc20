import Jrok.Stun.Discovery
import Jrok.Stun.Endpoints
import Jrok.Tcp.Facilitator

/-!
# Detection of the NAT type

`detect` of `nat/mod.rs`. It takes the first endpoint that a STUN server tells, and compares texts;
where no server tells any, the class of the bind address decides.
-/

namespace Jrok.Stun

open Imperative

namespace NatDetector

/-- The servers of `NatDetector::new`. -/
def stunServers : List String :=
  ["stun.l.google.com:19302", "stun1.l.google.com:19302", "stun.cloudflare.com:3478"]

def createStunRequest (transactionId : Vector UInt8 12) : List UInt8 :=
  header bindingRequest 0 transactionId

/-- `try_stun_discovery`. -/
def tryStunDiscovery (fuel : Nat) (stunServerAddr bindAddr : String) (a : Attempt) :
    Exec (Except Error PublicEndpointDiscovered) :=
  match Net.SocketAddr.parse stunServerAddr with
  | none => return .error (.internal ("Invalid STUN server address: " ++ stunServerAddr))
  | some serverAddr =>
    match a.bind bindAddr with
    | .error e => return .error (.internal ("Failed to bind UDP socket: " ++ e))
    | .ok () =>
      match a.setReadTimeout with
      | .error e => return .error (.internal ("Failed to set socket timeout: " ++ e))
      | .ok () =>
        match a.sendTo (createStunRequest a.transactionId) serverAddr with
        | .error e => return .error (.internal ("Failed to send STUN request: " ++ e))
        | .ok () =>
          match a.recvFrom with
          | .error e => return .error (.internal ("Failed to receive STUN response: " ++ e))
          | .ok (response, _from) => parseStunResponse fuel response stunServerAddr

/-- The part of `detect` that has an endpoint. -/
def compareEndpoint (bindAddr : String) (endpoint : PublicEndpointDiscovered) :
    Except Error NatInfo :=
  match Net.SocketAddr.parse bindAddr with
  | none => .error (.internal "Invalid address: invalid socket address syntax")
  | some localAddr => .ok {
      localAddr := bindAddr
      publicIp := endpoint.publicIp
      publicPort := endpoint.publicPort
      natType := if localAddr.ip.text = endpoint.publicIp then .openNat else .symmetric
      hairpinning := false }

/-- `detect_by_ip`. -/
def detectByIp (bindAddr : String) : Except Error NatInfo :=
  match Net.SocketAddr.parse bindAddr with
  | none => .error (.internal "Invalid address: invalid socket address syntax")
  | some addr =>
    if isPrivateIp addr.ip then .ok {
      localAddr := bindAddr
      publicIp := "0.0.0.0"
      publicPort := 0
      natType := .unknown
      hairpinning := false }
    else .ok {
      localAddr := bindAddr
      publicIp := addr.ip.text
      publicPort := addr.port
      natType := .openNat
      hairpinning := false }

/-- The loop of `detect`, with the outcome of the attempt at each of its servers. -/
def detectWith (bindAddr : String) :
    List (Exec (Except Error PublicEndpointDiscovered)) → Exec (Except Error NatInfo)
  | [] => return detectByIp bindAddr
  | outcome :: outcomes => do
    match ← outcome with
    | .ok endpoint => return compareEndpoint bindAddr endpoint
    | .error _ => detectWith bindAddr outcomes

/-- The attempts of `detect`, with what each of them meets. -/
def attempts (fuel : Nat) (servers : List String) (bindAddr : String) (attempt : Nat → Attempt) :
    List (Exec (Except Error PublicEndpointDiscovered)) :=
  servers.mapIdx fun i stunServerAddr => tryStunDiscovery fuel stunServerAddr bindAddr (attempt i)

/-- `detect`. -/
def detect (fuel : Nat) (servers : List String) (bindAddr : String) (attempt : Nat → Attempt) :
    Exec (Except Error NatInfo) :=
  detectWith bindAddr (attempts fuel servers bindAddr attempt)

/-! ## Which attempt decides -/

/-- Every attempt returns an error. -/
def AllFail (outcomes : List (Exec (Except Error PublicEndpointDiscovered))) : Prop :=
  ∀ outcome ∈ outcomes, ∃ e, outcome = .ok (.error e)

/-- The endpoint is the one of the first attempt that returns any. -/
def FirstSuccess (outcomes : List (Exec (Except Error PublicEndpointDiscovered)))
    (endpoint : PublicEndpointDiscovered) : Prop :=
  ∃ failed rest, outcomes = failed ++ .ok (.ok endpoint) :: rest ∧ AllFail failed

section

variable {bindAddr : String} {outcomes : List (Exec (Except Error PublicEndpointDiscovered))}
  {endpoint : PublicEndpointDiscovered}

theorem detectWith_append {failed : List (Exec (Except Error PublicEndpointDiscovered))}
    (h : AllFail failed) :
    detectWith bindAddr (failed ++ outcomes) = detectWith bindAddr outcomes := by
  induction failed with
  | nil => rfl
  | cons outcome failed ih =>
    obtain ⟨⟨e, rfl⟩, hfailed⟩ := List.forall_mem_cons.mp h
    exact ih hfailed

theorem detectWith_allFail (h : AllFail outcomes) :
    detectWith bindAddr outcomes = .ok (detectByIp bindAddr) := by
  rw [← List.append_nil outcomes, detectWith_append h]
  rfl

theorem detectWith_firstSuccess (bindAddr : String) (h : FirstSuccess outcomes endpoint) :
    detectWith bindAddr outcomes = .ok (compareEndpoint bindAddr endpoint) := by
  obtain ⟨failed, rest, rfl, hfailed⟩ := h
  rw [detectWith_append hfailed]
  rfl

/-- A result comes from the first endpoint, or from the bind address alone. -/
theorem detectWith_eq_ok {r : Except Error NatInfo} (h : detectWith bindAddr outcomes = .ok r) :
    (AllFail outcomes ∧ r = detectByIp bindAddr) ∨
      ∃ endpoint, FirstSuccess outcomes endpoint ∧ r = compareEndpoint bindAddr endpoint := by
  induction outcomes with
  | nil =>
    cases h
    exact Or.inl ⟨by simp [AllFail], rfl⟩
  | cons outcome outcomes ih =>
    obtain ⟨found, rfl, h⟩ := Exec.bind_eq_ok h
    cases found with
    | ok endpoint =>
      cases h
      exact Or.inr ⟨endpoint, ⟨[], outcomes, rfl, by simp [AllFail]⟩, rfl⟩
    | error e =>
      cases ih h with
      | inl hfail => exact Or.inl ⟨List.forall_mem_cons.mpr ⟨⟨e, rfl⟩, hfail.1⟩, hfail.2⟩
      | inr hfirst =>
        obtain ⟨endpoint, ⟨failed, rest, rfl, hfailed⟩, hr⟩ := hfirst
        apply Or.inr
        refine ⟨endpoint, ⟨.ok (.error e) :: failed, rest, rfl, ?_⟩, hr⟩
        exact List.forall_mem_cons.mpr ⟨⟨e, rfl⟩, hfailed⟩

end

/-! ## What Open tells -/

/-- A detection that ends in Open names the IP address of the bind address, which is known and
    public, and without any STUN server an address that is not public has an unknown NAT type. -/
structure OpenMeansPublic (bindAddr : String)
    (outcomes : List (Exec (Except Error PublicEndpointDiscovered))) : Prop where
  known : ∀ info, detectWith bindAddr outcomes = .ok (.ok info) → info.natType = .openNat →
    ∃ addr, Net.SocketAddr.parse bindAddr = some addr ∧ info.publicIp = addr.ip.text ∧
      info.publicIp ≠ "0.0.0.0" ∧ isPrivateIp addr.ip = false
  unknown : AllFail outcomes → ∀ addr, Net.SocketAddr.parse bindAddr = some addr →
    (isPrivateIp addr.ip = true ∨ addr.ip.isUnspecified = true) →
      ∃ info, detectWith bindAddr outcomes = .ok (.ok info) ∧ info.natType = .unknown

section

variable {bindAddr : String} {addr : Net.SocketAddr} {info : NatInfo}

theorem detectByIp_private (haddr : Net.SocketAddr.parse bindAddr = some addr)
    (h : isPrivateIp addr.ip = true) :
    detectByIp bindAddr = .ok ⟨bindAddr, "0.0.0.0", 0, .unknown, false⟩ := by
  unfold detectByIp
  simp only [haddr, h, if_true]

theorem detectByIp_public (haddr : Net.SocketAddr.parse bindAddr = some addr)
    (h : isPrivateIp addr.ip = false) :
    detectByIp bindAddr = .ok ⟨bindAddr, addr.ip.text, addr.port, .openNat, false⟩ := by
  unfold detectByIp
  simp [haddr, h]

/-- Without a server, Open stands for an address that is not private. -/
theorem detectByIp_open (h : detectByIp bindAddr = .ok info) (hopen : info.natType = .openNat) :
    ∃ addr, Net.SocketAddr.parse bindAddr = some addr ∧ isPrivateIp addr.ip = false ∧
      info.publicIp = addr.ip.text := by
  cases haddr : Net.SocketAddr.parse bindAddr with
  | none =>
    unfold detectByIp at h
    simp [haddr] at h
  | some addr =>
    refine ⟨addr, rfl, ?_⟩
    cases hprivate : isPrivateIp addr.ip with
    | true =>
      rw [detectByIp_private haddr hprivate] at h
      cases h
      cases hopen
    | false =>
      rw [detectByIp_public haddr hprivate] at h
      cases h
      exact ⟨rfl, rfl⟩

theorem compareEndpoint_same {endpoint : PublicEndpointDiscovered}
    (haddr : Net.SocketAddr.parse bindAddr = some addr) (hsame : endpoint.publicIp = addr.ip.text) :
    compareEndpoint bindAddr endpoint =
      .ok ⟨bindAddr, endpoint.publicIp, endpoint.publicPort, .openNat, false⟩ := by
  unfold compareEndpoint
  simp [haddr, hsame]

/-- With a server, Open stands for equal texts. -/
theorem compareEndpoint_open {endpoint : PublicEndpointDiscovered}
    (h : compareEndpoint bindAddr endpoint = .ok info) (hopen : info.natType = .openNat) :
    ∃ addr, Net.SocketAddr.parse bindAddr = some addr ∧ endpoint.publicIp = addr.ip.text ∧
      info.publicIp = addr.ip.text := by
  unfold compareEndpoint at h
  cases haddr : Net.SocketAddr.parse bindAddr with
  | none =>
    rw [haddr] at h
    cases h
  | some addr =>
    rw [haddr] at h
    cases h
    dsimp only at hopen
    split at hopen
    · rename_i hsame
      exact ⟨addr, rfl, hsame.symm, hsame.symm⟩
    · cases hopen

/-- An address that is not private is an IPv4 address, and it has the text of the unknown address
    only where it is the wildcard. -/
theorem text_eq_unknown_iff {ip : Net.IpAddr} (h : isPrivateIp ip = false) :
    ip.text = "0.0.0.0" ↔ ip = .v4 0 0 0 0 := by
  cases ip with
  | v4 a b c d => exact Net.textV4_eq_unspecified_iff
  | v6 groups => cases h

theorem isPrivateIp_or_isUnspecified {ip : Net.IpAddr}
    (h : isPrivateIp ip = true ∨ ip.isUnspecified = true) (hne : ip ≠ .v4 0 0 0 0) :
    isPrivateIp ip = true := by
  rcases h with h | h
  · exact h
  cases ip with
  | v4 a b c d =>
    unfold Net.IpAddr.isUnspecified at h
    simp only [Bool.and_eq_true, decide_eq_true_eq] at h
    obtain ⟨⟨⟨rfl, rfl⟩, rfl⟩, rfl⟩ := h
    exact absurd rfl hne
  | v6 groups => rfl

variable {outcomes : List (Exec (Except Error PublicEndpointDiscovered))}

theorem OpenMeansPublic.allFail (h : OpenMeansPublic bindAddr outcomes) (hfail : AllFail outcomes)
    (haddr : Net.SocketAddr.parse bindAddr = some addr) : addr.ip ≠ .v4 0 0 0 0 := by
  intro hwildcard
  obtain ⟨info, hinfo, hunknown⟩ := h.unknown hfail addr haddr
    (Or.inr (congrArg Net.IpAddr.isUnspecified hwildcard))
  have hpublic : isPrivateIp addr.ip = false := congrArg isPrivateIp hwildcard
  rw [detectWith_allFail hfail, detectByIp_public haddr hpublic] at hinfo
  cases hinfo
  cases hunknown

theorem OpenMeansPublic.same (h : OpenMeansPublic bindAddr outcomes)
    {endpoint : PublicEndpointDiscovered} (hfirst : FirstSuccess outcomes endpoint)
    (haddr : Net.SocketAddr.parse bindAddr = some addr) (hsame : endpoint.publicIp = addr.ip.text) :
    addr.ip ≠ .v4 0 0 0 0 ∧ isPrivateIp addr.ip = false := by
  have hresult := detectWith_firstSuccess bindAddr hfirst
  rw [compareEndpoint_same haddr hsame] at hresult
  obtain ⟨addr', haddr', hip, hknown, hpublic⟩ := h.known _ hresult rfl
  rw [haddr] at haddr'
  cases haddr'
  dsimp only at hip hknown
  rw [hip, Ne, text_eq_unknown_iff hpublic] at hknown
  exact ⟨hknown, hpublic⟩

theorem openMeansPublic
    (hfail : ∀ addr, Net.SocketAddr.parse bindAddr = some addr → AllFail outcomes →
      addr.ip ≠ .v4 0 0 0 0)
    (hsame : ∀ addr, Net.SocketAddr.parse bindAddr = some addr → ∀ endpoint,
      FirstSuccess outcomes endpoint → endpoint.publicIp = addr.ip.text →
        addr.ip ≠ .v4 0 0 0 0 ∧ isPrivateIp addr.ip = false) :
    OpenMeansPublic bindAddr outcomes := by
  constructor
  · intro info hinfo hopen
    cases detectWith_eq_ok hinfo with
    | inl hfallback =>
      obtain ⟨addr, haddr, hpublic, hip⟩ := detectByIp_open hfallback.2.symm hopen
      refine ⟨addr, haddr, hip, ?_, hpublic⟩
      rw [hip, Ne, text_eq_unknown_iff hpublic]
      exact hfail addr haddr hfallback.1
    | inr hcompared =>
      obtain ⟨endpoint, hfirst, hcompare⟩ := hcompared
      obtain ⟨addr, haddr, htexts, hip⟩ := compareEndpoint_open hcompare.symm hopen
      obtain ⟨hknown, hpublic⟩ := hsame addr haddr endpoint hfirst htexts
      refine ⟨addr, haddr, hip, ?_, hpublic⟩
      rw [hip, Ne, text_eq_unknown_iff hpublic]
      exact hknown
  · intro hall addr haddr hclass
    have hprivate := isPrivateIp_or_isUnspecified hclass (hfail addr haddr hall)
    refine ⟨⟨bindAddr, "0.0.0.0", 0, .unknown, false⟩, ?_, rfl⟩
    rw [detectWith_allFail hall, detectByIp_private haddr hprivate]

end

/-- Open means a public address unless the wildcard address is bound and no server answers, or a
    server answers with the very address that is bound, and that is the wildcard or private. -/
theorem openMeansPublic_iff (bindAddr : String)
    (outcomes : List (Exec (Except Error PublicEndpointDiscovered))) :
    OpenMeansPublic bindAddr outcomes ↔
      ∀ addr, Net.SocketAddr.parse bindAddr = some addr →
        (AllFail outcomes → addr.ip ≠ .v4 0 0 0 0) ∧
        ∀ endpoint, FirstSuccess outcomes endpoint → endpoint.publicIp = addr.ip.text →
          addr.ip ≠ .v4 0 0 0 0 ∧ isPrivateIp addr.ip = false := by
  constructor
  · intro h addr haddr
    constructor
    · intro hfail
      exact h.allFail hfail haddr
    · intro endpoint hfirst hsame
      exact h.same hfirst haddr hsame
  · intro h
    apply openMeansPublic
    · intro addr haddr
      exact (h addr haddr).1
    · intro addr haddr
      exact (h addr haddr).2

/-- None of the servers of `new` is a socket address: their names are never resolved. -/
theorem tryStunDiscovery_stunServers {fuel : Nat} {stunServerAddr bindAddr : String} {a : Attempt}
    (h : stunServerAddr ∈ stunServers) :
    tryStunDiscovery fuel stunServerAddr bindAddr a =
      .ok (.error (.internal ("Invalid STUN server address: " ++ stunServerAddr))) := by
  have hnames : ∀ name ∈ stunServers, Net.SocketAddr.parse name = none := by decide
  unfold tryStunDiscovery
  rw [hnames stunServerAddr h]
  rfl

/-- With the servers of `new` only the bind address decides. -/
theorem detect_stunServers (fuel : Nat) (bindAddr : String) (attempt : Nat → Attempt) :
    detect fuel stunServers bindAddr attempt = .ok (detectByIp bindAddr) := by
  apply detectWith_allFail
  intro outcome houtcome
  unfold attempts at houtcome
  obtain ⟨i, hi, rfl⟩ := List.mem_mapIdx.mp houtcome
  exact ⟨_, tryStunDiscovery_stunServers (List.getElem_mem hi)⟩

/-- The wildcard address, which is the one usually bound, is Open at the unknown address. -/
theorem detect_wildcard :
    detect 1024 stunServers "0.0.0.0:45000"
        (fun _ => StunClient.undisturbed (Vector.replicate 12 0) []) =
        .ok (.ok ⟨"0.0.0.0:45000", "0.0.0.0", 45000, .openNat, false⟩) ∧
      ¬ OpenMeansPublic "0.0.0.0:45000" (attempts 1024 stunServers "0.0.0.0:45000"
        fun _ => StunClient.undisturbed (Vector.replicate 12 0) []) := by
  have hresult : detect 1024 stunServers "0.0.0.0:45000"
      (fun _ => StunClient.undisturbed (Vector.replicate 12 0) []) =
        .ok (.ok ⟨"0.0.0.0:45000", "0.0.0.0", 45000, .openNat, false⟩) := by
    rw [detect_stunServers]
    decide
  refine ⟨hresult, ?_⟩
  intro h
  obtain ⟨addr, -, -, hknown, -⟩ := h.known _ hresult rfl
  exact hknown rfl

/-! ## The detector's own endpoints -/

theorem readMappedAddress_dotted {response : List UInt8} {i : Nat} {ip : String} {port : UInt16}
    (h : readMappedAddress response i = .ok (ip, port)) : ∃ a b c, ip = dotted a b c := by
  unfold readMappedAddress at h
  obtain ⟨port', -, h⟩ := Exec.bind_eq_ok h
  obtain ⟨ipBytes, -, h⟩ := Exec.bind_eq_ok h
  obtain ⟨a, -, h⟩ := Exec.bind_eq_ok h
  obtain ⟨b, -, h⟩ := Exec.bind_eq_ok h
  obtain ⟨c, -, h⟩ := Exec.bind_eq_ok h
  cases h
  exact ⟨a, b, c, rfl⟩

/-- What an iteration of the search does. -/
theorem searchAttribute_cases {response : List UInt8} {s : Search} {flow : Flow Search Empty}
    (h : searchAttribute response s = .ok flow) :
    flow = .leave s ∨ (∃ i, flow = .next { s with i := i }) ∨
      ∃ i a b c port, flow = .leave ⟨i, some (dotted a b c), some port⟩ := by
  unfold searchAttribute at h
  split at h
  · cases h
    exact Or.inl rfl
  obtain ⟨attrType, -, h⟩ := Exec.bind_eq_ok h
  obtain ⟨attrLen, -, h⟩ := Exec.bind_eq_ok h
  dsimp only at h
  split at h
  · obtain ⟨⟨ip, port⟩, hread, h⟩ := Exec.bind_eq_ok h
    obtain ⟨a, b, c, rfl⟩ := readMappedAddress_dotted hread
    cases h
    exact Or.inr (Or.inr ⟨s.i + 4, a, b, c, port, rfl⟩)
  · cases h
    exact Or.inr (Or.inl ⟨s.i + 4 + align4 attrLen.toNat, rfl⟩)

/-- What the search has found are three octets. -/
def Search.Dotted (s : Search) : Prop := ∀ ip, s.publicIp = some ip → ∃ a b c, ip = dotted a b c

theorem searchAttribute_dotted {response : List UInt8} {s s' : Search} (hs : s.Dotted)
    (h : searchAttribute response s = .ok (.next s') ∨
      searchAttribute response s = .ok (.leave s')) : s'.Dotted := by
  rcases h with h | h
  · rcases searchAttribute_cases h with hflow | ⟨i, hflow⟩ | ⟨i, a, b, c, port, hflow⟩
    · cases hflow
    · cases hflow
      exact hs
    · cases hflow
  · rcases searchAttribute_cases h with hflow | ⟨i, hflow⟩ | ⟨i, a, b, c, port, hflow⟩
    · cases hflow
      exact hs
    · cases hflow
    · cases hflow
      intro ip hip
      cases hip
      exact ⟨a, b, c, rfl⟩

theorem parseStunResponse_dotted {fuel : Nat} {response : List UInt8} {stunServer : String}
    {found : PublicEndpointDiscovered}
    (h : parseStunResponse fuel response stunServer = .ok (.ok found)) :
    ∃ a b c, found.publicIp = dotted a b c := by
  unfold parseStunResponse at h
  split at h
  · cases h
  obtain ⟨msgType, -, h⟩ := Exec.bind_eq_ok h
  obtain ⟨msgLen, -, h⟩ := Exec.bind_eq_ok h
  obtain ⟨cookie, -, h⟩ := Exec.bind_eq_ok h
  split at h
  · cases h
  obtain ⟨r, hloop, h⟩ := Exec.bind_eq_ok h
  cases r with
  | inr e => cases e
  | inl s =>
    have hstart : (⟨20, none, none⟩ : Search).Dotted := by
      intro ip hip
      cases hip
    have hs := loop_invariant Search.Dotted (fun s s' => searchAttribute_dotted) hstart hloop
    obtain ⟨i, ip, port⟩ := s
    cases ip with
    | none => cases h
    | some ip =>
      cases port with
      | none => cases h
      | some port =>
        cases h
        exact hs ip rfl

theorem tryStunDiscovery_dotted {fuel : Nat} {stunServerAddr bindAddr : String} {a : Attempt}
    {found : PublicEndpointDiscovered}
    (h : tryStunDiscovery fuel stunServerAddr bindAddr a = .ok (.ok found)) :
    ∃ a b c, found.publicIp = dotted a b c := by
  unfold tryStunDiscovery at h
  split at h
  · cases h
  split at h
  · cases h
  split at h
  · cases h
  split at h
  · cases h
  split at h
  · cases h
  exact parseStunResponse_dotted h

/-- The endpoints that the detector reads never name the address that is bound. -/
theorem attempts_ne_text {fuel : Nat} {servers : List String} {bindAddr : String}
    {attempt : Nat → Attempt} {endpoint : PublicEndpointDiscovered}
    (h : FirstSuccess (attempts fuel servers bindAddr attempt) endpoint) (ip : Net.IpAddr) :
    endpoint.publicIp ≠ ip.text := by
  obtain ⟨failed, rest, hattempts, -⟩ := h
  have hmem : .ok (.ok endpoint) ∈ attempts fuel servers bindAddr attempt := by
    rw [hattempts]
    simp
  unfold attempts at hmem
  obtain ⟨i, hi, htry⟩ := List.mem_mapIdx.mp hmem
  obtain ⟨a, b, c, hdotted⟩ := tryStunDiscovery_dotted htry
  rw [hdotted]
  exact dotted_ne_text a b c ip

/-- Of a run of `detect` Open means a public address unless the wildcard address is bound and no
    server answers. -/
theorem detect_openMeansPublic (fuel : Nat) (servers : List String) (bindAddr : String)
    (attempt : Nat → Attempt) :
    OpenMeansPublic bindAddr (attempts fuel servers bindAddr attempt) ↔
      (AllFail (attempts fuel servers bindAddr attempt) →
        ∀ addr, Net.SocketAddr.parse bindAddr = some addr → addr.ip ≠ .v4 0 0 0 0) := by
  constructor
  · intro h hfail addr haddr
    exact h.allFail hfail haddr
  · intro h
    apply openMeansPublic
    · intro addr haddr hfail
      exact h hfail addr haddr
    · intro addr haddr endpoint hfirst hsame
      exact absurd hsame (attempts_ne_text hfirst addr.ip)

end NatDetector

end Jrok.Stun
