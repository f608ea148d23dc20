import Jrok.Stun.Endpoints
import Mathlib.Data.List.Forall2

/-!
# Discovery of the public endpoint

`discover_public_endpoint` and `try_stun_server` of `stun/mod.rs`. What happens at the sockets is an
input: what their calls return, and what arrives in which order.
-/

namespace Jrok.Stun

open BigEndian Imperative

def bindingRequest : UInt16 := 0x0001

/-- `to_socket_addr`: the text of an IP address, never a host name. -/
def StunServer.toSocketAddr (s : StunServer) : Except Error Net.SocketAddr :=
  match Net.SocketAddr.parse (s.addr ++ ":" ++ toString s.port.toNat) with
  | some addr => .ok addr
  | none => .error (.internal
      ("Invalid STUN server address: " ++ s.addr ++ ":" ++ toString s.port.toNat))

/-- The label of the endpoints that are found by way of a server. -/
def StunServer.label (s : StunServer) : String := s.addr ++ ":" ++ toString s.port.toNat

/-- What a bound socket has for `recv_from`. -/
inductive Arrival where
  | datagram (bytes : List UInt8) (sender : Net.SocketAddr)
  | failure (error : String)

/-- What one `try_stun_server` meets: the results of its calls, the random bytes of its request, and
    what arrives at its socket before the timeout, in this order. -/
structure Attempt where
  bind : String → Except String Unit
  setReadTimeout : Except String Unit
  transactionId : Vector UInt8 12
  sendTo : List UInt8 → Net.SocketAddr → Except String Unit
  arrivals : List Arrival

/-- `recv_from` with a buffer of 1024 bytes: whatever came first, from whomever. -/
def Attempt.recvFrom (a : Attempt) : Except String (List UInt8 × Net.SocketAddr) :=
  match a.arrivals with
  | [] => .error "Resource temporarily unavailable (os error 11)"
  | .failure error :: _ => .error error
  | .datagram bytes sender :: _ => .ok (bytes.take 1024, sender)

/-! ## Other contents of the same arrivals -/

/-- The client reads the same type, cookie and transaction id of both. -/
structure SameIds (bytes bytes' : List UInt8) : Prop where
  type : u16At bytes 0 = u16At bytes' 0
  cookie : u32At bytes 4 = u32At bytes' 4
  transactionId : slice bytes 8 20 = slice bytes' 8 20

/-- The same arrives from the same sender, but for the rest of the contents. -/
inductive Arrival.Alike : Arrival → Arrival → Prop where
  | datagram {bytes bytes' : List UInt8} (sender : Net.SocketAddr) (h : SameIds bytes bytes') :
    Alike (.datagram bytes sender) (.datagram bytes' sender)
  | failure (error : String) : Alike (.failure error) (.failure error)

/-- The same calls return the same, and the same senders send the same ids in the same order. -/
structure Attempt.Alike (a a' : Attempt) : Prop where
  bind : a.bind = a'.bind
  setReadTimeout : a.setReadTimeout = a'.setReadTimeout
  transactionId : a.transactionId = a'.transactionId
  sendTo : a.sendTo = a'.sendTo
  arrivals : List.Forall₂ Arrival.Alike a.arrivals a'.arrivals

theorem SameIds.refl (bytes : List UInt8) : SameIds bytes bytes := ⟨rfl, rfl, rfl⟩

theorem SameIds.trans {bytes bytes' bytes'' : List UInt8} (h : SameIds bytes bytes')
    (h' : SameIds bytes' bytes'') : SameIds bytes bytes'' :=
  ⟨h.type.trans h'.type, h.cookie.trans h'.cookie, h.transactionId.trans h'.transactionId⟩

theorem sameIds_take {n : Nat} (h : 20 ≤ n) (bytes : List UInt8) :
    SameIds bytes (bytes.take n) :=
  ⟨(u16At_take (by omega)).symm, (u32At_take (by omega)).symm, (slice_take h).symm⟩

theorem Arrival.Alike.refl (arrival : Arrival) : arrival.Alike arrival := by
  cases arrival with
  | datagram bytes sender => exact .datagram sender (.refl bytes)
  | failure error => exact .failure error

/-- The arrivals of an attempt without what follows the headers. -/
def Arrival.header : Arrival → Arrival
  | .datagram bytes sender => .datagram (bytes.take 20) sender
  | .failure error => .failure error

def Attempt.headers (a : Attempt) : Attempt := { a with arrivals := a.arrivals.map Arrival.header }

theorem Attempt.alike_headers (a : Attempt) : a.Alike a.headers := by
  refine ⟨rfl, rfl, rfl, rfl, List.forall₂_map_right_iff.mpr (List.forall₂_same.mpr ?_)⟩
  intro arrival _
  cases arrival with
  | datagram bytes sender => exact .datagram sender (sameIds_take (Nat.le_refl 20) bytes)
  | failure error => exact .failure error

theorem Attempt.recvFrom_eq_ok {a : Attempt} {bytes : List UInt8} {sender : Net.SocketAddr}
    (h : a.recvFrom = .ok (bytes, sender)) :
    ∃ full rest, a.arrivals = .datagram full sender :: rest ∧ full.take 1024 = bytes := by
  unfold recvFrom at h
  cases harrivals : a.arrivals with
  | nil => simp [harrivals] at h
  | cons first rest =>
    cases first with
    | failure error => simp [harrivals] at h
    | datagram full sender' =>
      obtain ⟨hbytes, rfl⟩ : full.take 1024 = bytes ∧ sender' = sender := by
        simpa [harrivals] using h
      exact ⟨full, rest, rfl, hbytes⟩

namespace StunClient

/-- `create_stun_binding_request`. -/
def createStunBindingRequest (transactionId : Vector UInt8 12) : List UInt8 :=
  header bindingRequest 0 transactionId

/-- `try_stun_server`. -/
def tryStunServer (fuel : Nat) (stunServer : StunServer) (localAddr : String) (a : Attempt) :
    Exec (Except Error PublicEndpoint) :=
  match stunServer.toSocketAddr with
  | .error e => return .error e
  | .ok serverAddr =>
    match a.bind localAddr with
    | .error e => return .error (.internal ("Failed to bind UDP socket: " ++ e))
    | .ok () =>
      match a.setReadTimeout with
      | .error e => return .error (.internal ("Failed to set socket timeout: " ++ e))
      | .ok () =>
        match a.sendTo (createStunBindingRequest a.transactionId) serverAddr with
        | .error e => return .error (.internal ("Failed to send STUN request: " ++ e))
        | .ok () =>
          match a.recvFrom with
          | .error e => return .error (.internal ("Failed to receive STUN response: " ++ e))
          | .ok (response, _from) => parseStunResponse fuel response stunServer localAddr

/-- The endpoint that is returned when all servers fail. -/
def unknownEndpoint (localAddr : String) : PublicEndpoint where
  publicIp := "0.0.0.0"
  publicPort := 0
  localAddr := localAddr
  stunServer := "none"

/-- `discover_public_endpoint`, with what the attempt at each server meets. -/
def discoverPublicEndpoint (fuel : Nat) :
    List StunServer → String → (Nat → Attempt) → Exec (Except Error PublicEndpoint)
  | [], localAddr, _ => return .ok (unknownEndpoint localAddr)
  | stunServer :: servers, localAddr, attempt => do
    match ← tryStunServer fuel stunServer localAddr (attempt 0) with
    | .ok endpoint => return .ok endpoint
    | .error _ => discoverPublicEndpoint fuel servers localAddr fun i => attempt (i + 1)

/-- The attempt gets as far as to send its request. -/
def Sends (stunServer : StunServer) (localAddr : String) (a : Attempt) : Prop :=
  ∃ serverAddr, stunServer.toSocketAddr = .ok serverAddr ∧ a.bind localAddr = .ok () ∧
    a.setReadTimeout = .ok () ∧
    a.sendTo (createStunBindingRequest a.transactionId) serverAddr = .ok ()

/-- The attempt parses these bytes. -/
def Receives (stunServer : StunServer) (localAddr : String) (a : Attempt) (bytes : List UInt8) :
    Prop :=
  Sends stunServer localAddr a ∧ ∃ sender, a.recvFrom = .ok (bytes, sender)

/-- The bytes begin like a Binding Success response. -/
def IsSuccess (bytes : List UInt8) : Prop :=
  20 ≤ bytes.length ∧ u16At bytes 0 = .ok bindingResponse ∧ u32At bytes 4 = .ok magicCookie

theorem parseStunResponse_eq_ok {fuel : Nat} {response : List UInt8} {stunServer : StunServer}
    {localAddr : String} {found : PublicEndpoint}
    (h : parseStunResponse fuel response stunServer localAddr = .ok (.ok found)) :
    IsSuccess response ∧ found.stunServer = stunServer.label := by
  unfold parseStunResponse at h
  by_cases hshort : response.length < 20
  · rw [if_pos hshort] at h
    cases h
  rw [if_neg hshort] at h
  obtain ⟨msgType, htype, h⟩ := Exec.bind_eq_ok h
  obtain ⟨msgLen, -, h⟩ := Exec.bind_eq_ok h
  obtain ⟨cookie, hcookie, h⟩ := Exec.bind_eq_ok h
  by_cases hmagic : cookie ≠ magicCookie
  · rw [if_pos hmagic] at h
    cases h
  rw [if_neg hmagic] at h
  by_cases hresponse : msgType ≠ bindingResponse
  · rw [if_pos hresponse] at h
    cases h
  rw [if_neg hresponse] at h
  rw [not_not.mp hmagic] at hcookie
  rw [not_not.mp hresponse] at htype
  apply And.intro ⟨Nat.le_of_not_lt hshort, htype, hcookie⟩
  obtain ⟨transactionId, -, h⟩ := Exec.bind_eq_ok h
  obtain ⟨r, -, h⟩ := Exec.bind_eq_ok h
  cases r with
  | inr e => cases h
  | inl w =>
    obtain ⟨pos, ip, port⟩ := w
    cases ip with
    | none => cases h
    | some ip =>
      cases port with
      | none => cases h
      | some port =>
        cases h
        rfl

/-- A response that ends with its header names no endpoint. -/
theorem parseStunResponse_header {fuel : Nat} (hfuel : 0 < fuel) (response : List UInt8)
    (stunServer : StunServer) (localAddr : String) :
    ∃ e, parseStunResponse fuel (response.take 20) stunServer localAddr = .ok (.error e) := by
  have hlength : (response.take 20).length ≤ 20 := List.length_take_le 20 response
  generalize response.take 20 = header at hlength
  unfold parseStunResponse
  by_cases hshort : header.length < 20
  · exact ⟨_, if_pos hshort⟩
  obtain ⟨msgType, htype⟩ : ∃ n, u16At header 0 = .ok n := u16At_of_lt (by omega)
  obtain ⟨msgLen, hlen⟩ : ∃ n, u16At header 2 = .ok n := u16At_of_lt (by omega)
  obtain ⟨cookie, hcookie⟩ : ∃ n, u32At header 4 = .ok n := u32At_of_lt (by omega)
  have hslice := slice_of_le (by omega : 8 ≤ 20) (by omega : 20 ≤ header.length)
  simp only [if_neg hshort, htype, hlen, hcookie, hslice, Exec.ok_bind]
  by_cases hmagic : cookie ≠ magicCookie
  · exact ⟨_, if_pos hmagic⟩
  by_cases hresponse : msgType ≠ bindingResponse
  · exact ⟨_, by rw [if_neg hmagic, if_pos hresponse]; rfl⟩
  rw [if_neg hmagic, if_neg hresponse]
  have hbody : readAttribute header ⟨20, none, none⟩ = .ok (.leave ⟨20, none, none⟩) :=
    if_pos (by show header.length < 20 + 4; omega)
  have hloop : loop (Walk.before (20 + msgLen.toNat)) (readAttribute header) fuel
      ⟨20, none, none⟩ = .ok (.inl ⟨20, none, none⟩) := by
    obtain ⟨fuel, rfl⟩ := Nat.exists_eq_add_of_lt hfuel
    rw [Nat.zero_add, loop, hbody]
    split <;> rfl
  exact ⟨_, by rw [hloop]; rfl⟩

/-- The length field has two bytes. -/
theorem messageLength_lt (response : List UInt8) : messageLength response < 65536 := by
  match response with
  | _ :: _ :: hi :: lo :: _ => exact (u16 hi lo).toNat_lt
  | [] => decide
  | [_] => exact Nat.zero_lt_succ _
  | [_, _] => exact Nat.zero_lt_succ _
  | [_, _, _] => exact Nat.zero_lt_succ _

section

variable {fuel : Nat} {stunServer : StunServer} {localAddr : String} {a : Attempt}

theorem tryStunServer_receives {bytes : List UInt8} (h : Receives stunServer localAddr a bytes) :
    tryStunServer fuel stunServer localAddr a =
      parseStunResponse fuel bytes stunServer localAddr := by
  obtain ⟨⟨serverAddr, haddr, hbind, htimeout, hsend⟩, sender, hrecv⟩ := h
  unfold tryStunServer
  simp only [haddr, hbind, htimeout, hsend, hrecv]

theorem tryStunServer_silent (fuel : Nat) (h : ∀ bytes, ¬ Receives stunServer localAddr a bytes) :
    ∃ e, tryStunServer fuel stunServer localAddr a = .ok (.error e) := by
  unfold tryStunServer
  split
  · exact ⟨_, rfl⟩
  · rename_i serverAddr haddr
    split
    · exact ⟨_, rfl⟩
    · rename_i hbind
      split
      · exact ⟨_, rfl⟩
      · rename_i htimeout
        split
        · exact ⟨_, rfl⟩
        · rename_i hsend
          split
          · exact ⟨_, rfl⟩
          · rename_i response sender hrecv
            exact (h response ⟨⟨serverAddr, haddr, hbind, htimeout, hsend⟩, sender, hrecv⟩).elim

theorem tryStunServer_ok (stunServer : StunServer) (localAddr : String) (a : Attempt)
    (hfuel : 16384 ≤ fuel) :
    ∃ r, tryStunServer fuel stunServer localAddr a = .ok r := by
  by_cases h : ∃ bytes, Receives stunServer localAddr a bytes
  · obtain ⟨bytes, hbytes⟩ := h
    obtain ⟨⟨r, hr⟩, -⟩ := parseStunResponse_total bytes stunServer localAddr
    have hlen := messageLength_lt bytes
    exact ⟨r, (tryStunServer_receives hbytes).trans (hr fuel (by omega))⟩
  · obtain ⟨e, he⟩ := tryStunServer_silent fuel (fun bytes hbytes => h ⟨bytes, hbytes⟩)
    exact ⟨.error e, he⟩

theorem tryStunServer_eq_ok {found : PublicEndpoint}
    (h : tryStunServer fuel stunServer localAddr a = .ok (.ok found)) :
    ∃ bytes, Receives stunServer localAddr a bytes ∧
      parseStunResponse fuel bytes stunServer localAddr = .ok (.ok found) := by
  by_cases hreceives : ∃ bytes, Receives stunServer localAddr a bytes
  · obtain ⟨bytes, hbytes⟩ := hreceives
    rw [tryStunServer_receives hbytes] at h
    exact ⟨bytes, hbytes, h⟩
  · obtain ⟨e, he⟩ := tryStunServer_silent fuel
      (fun bytes hbytes => hreceives ⟨bytes, hbytes⟩)
    rw [he] at h
    cases h

end

/-! ## Which answer is taken -/

section

variable (fuel : Nat) (servers : List StunServer) (localAddr : String) (attempt : Nat → Attempt)

/-- The endpoint was parsed from the bytes that the attempt at the server `i` received, after
    those at the servers in front of it had failed. -/
structure ParsedFrom (found : PublicEndpoint) (i : Nat) (server : StunServer)
    (bytes : List UInt8) : Prop where
  asked : servers[i]? = some server
  received : Receives server localAddr (attempt i) bytes
  parsed : parseStunResponse fuel bytes server localAddr = .ok (.ok found)
  earlier : ∀ j s, j < i → servers[j]? = some s →
    ∃ e, tryStunServer fuel s localAddr (attempt j) = .ok (.error e)

/-- The bytes carry the transaction id of a request that this call sent to the server. -/
def AnswersRequest (i : Nat) (server : StunServer) (bytes : List UInt8) : Prop :=
  ∃ j s, j ≤ i ∧ servers[j]? = some s ∧ s.label = server.label ∧ Sends s localAddr (attempt j) ∧
    slice bytes 8 20 = .ok (attempt j).transactionId.toList

/-- The endpoint that is returned under the label of a server was parsed from an answer to the
    request of this call to the server. -/
def Attributed : Prop :=
  ∀ found s, discoverPublicEndpoint fuel servers localAddr attempt = .ok (.ok found) →
    s ∈ servers → found.stunServer = s.label →
    ∃ i server bytes, ParsedFrom fuel servers localAddr attempt found i server bytes ∧
      server.label = s.label ∧ AnswersRequest servers localAddr attempt i server bytes

/-- What comes first in an attempt and begins like a Binding Success response carries the id of a
    request of this call to the server, whoever has sent it. -/
def OwnIds : Prop :=
  ∀ i server bytes, servers[i]? = some server → Receives server localAddr (attempt i) bytes →
    IsSuccess bytes → AnswersRequest servers localAddr attempt i server bytes

end

section

variable {fuel : Nat} {servers : List StunServer} {localAddr : String} {attempt : Nat → Attempt}

/-- The search, by induction on the servers: the first attempt that finds an endpoint decides. -/
theorem discoverPublicEndpoint_eq_ok {found : PublicEndpoint}
    (h : discoverPublicEndpoint fuel servers localAddr attempt = .ok (.ok found)) :
    (∃ i server bytes, ParsedFrom fuel servers localAddr attempt found i server bytes) ∨
      found = unknownEndpoint localAddr := by
  induction servers generalizing attempt with
  | nil =>
    cases h
    exact Or.inr rfl
  | cons server servers ih =>
    obtain ⟨r, hr, h⟩ := Exec.bind_eq_ok h
    cases r with
    | ok endpoint =>
      cases h
      obtain ⟨bytes, hreceived, hparsed⟩ := tryStunServer_eq_ok hr
      apply Or.inl
      refine ⟨0, server, bytes, rfl, hreceived, hparsed, ?_⟩
      intro j s hj
      exact absurd hj (Nat.not_lt_zero j)
    | error e =>
      cases ih h with
      | inr hunknown => exact Or.inr hunknown
      | inl hfound =>
        obtain ⟨i, server', bytes, hparsed⟩ := hfound
        apply Or.inl
        refine ⟨i + 1, server', bytes, hparsed.asked, hparsed.received, hparsed.parsed, ?_⟩
        intro j s hj hs
        cases j with
        | zero =>
          cases hs
          exact ⟨e, hr⟩
        | succ j => exact hparsed.earlier j s (Nat.lt_of_succ_lt_succ hj) hs

/-- The search ends for all servers and whatever arrives. -/
theorem discoverPublicEndpoint_total (hfuel : 16384 ≤ fuel) :
    ∃ r, discoverPublicEndpoint fuel servers localAddr attempt = .ok r := by
  induction servers generalizing attempt with
  | nil => exact ⟨_, rfl⟩
  | cons server servers ih =>
    obtain ⟨r, hr⟩ := tryStunServer_ok server localAddr (attempt 0) hfuel
    rw [discoverPublicEndpoint, hr]
    cases r with
    | ok endpoint => exact ⟨_, rfl⟩
    | error e => exact ih

theorem ParsedFrom.discoverPublicEndpoint_eq {found : PublicEndpoint} {i : Nat}
    {server : StunServer} {bytes : List UInt8}
    (h : ParsedFrom fuel servers localAddr attempt found i server bytes) :
    discoverPublicEndpoint fuel servers localAddr attempt = .ok (.ok found) := by
  induction servers generalizing attempt i with
  | nil => cases h.asked
  | cons first servers ih =>
    rw [discoverPublicEndpoint]
    cases i with
    | zero =>
      obtain rfl : first = server := Option.some.inj h.asked
      rw [tryStunServer_receives h.received, h.parsed]
      rfl
    | succ i =>
      obtain ⟨e, he⟩ := h.earlier 0 first (Nat.zero_lt_succ i) rfl
      rw [he]
      have hparsed : ParsedFrom fuel servers localAddr (fun i => attempt (i + 1)) found i server
          bytes := by
        refine ⟨h.asked, h.received, h.parsed, ?_⟩
        intro j s hj hs
        exact h.earlier (j + 1) s (Nat.succ_lt_succ hj) hs
      exact ih hparsed

theorem Receives.unique {stunServer : StunServer} {a : Attempt} {bytes bytes' : List UInt8}
    (h : Receives stunServer localAddr a bytes) (h' : Receives stunServer localAddr a bytes') :
    bytes = bytes' := by
  obtain ⟨-, sender, hrecv⟩ := h
  obtain ⟨-, sender', hrecv'⟩ := h'
  rw [hrecv] at hrecv'
  cases hrecv'
  rfl

theorem ParsedFrom.not_lt {found found' : PublicEndpoint} {i i' : Nat} {server server' : StunServer}
    {bytes bytes' : List UInt8}
    (h : ParsedFrom fuel servers localAddr attempt found i server bytes)
    (h' : ParsedFrom fuel servers localAddr attempt found' i' server' bytes') : ¬ i < i' := by
  intro hlt
  obtain ⟨e, he⟩ := h'.earlier i server hlt h.asked
  rw [tryStunServer_receives h.received, h.parsed] at he
  cases he

/-- Only one attempt can have found the endpoint. -/
theorem ParsedFrom.unique {found found' : PublicEndpoint} {i i' : Nat} {server server' : StunServer}
    {bytes bytes' : List UInt8}
    (h : ParsedFrom fuel servers localAddr attempt found i server bytes)
    (h' : ParsedFrom fuel servers localAddr attempt found' i' server' bytes') :
    i = i' ∧ server = server' ∧ bytes = bytes' := by
  have hi : i = i' := Nat.le_antisymm (Nat.not_lt.mp (h'.not_lt h)) (Nat.not_lt.mp (h.not_lt h'))
  subst hi
  have hserver : server = server' := Option.some.inj (h.asked.symm.trans h'.asked)
  subst hserver
  exact ⟨rfl, rfl, h.received.unique h'.received⟩

/-- A label has a colon in it. -/
theorem label_ne_none (s : StunServer) : s.label ≠ "none" := by
  intro h
  have hmem : ':' ∈ s.label.toList := by
    unfold StunServer.label
    simp [String.toList_append]
  rw [h] at hmem
  exact absurd hmem (by decide)

theorem attributed_of_ownIds (h : OwnIds servers localAddr attempt) :
    Attributed fuel servers localAddr attempt := by
  intro found s hfound hmem hlabel
  cases discoverPublicEndpoint_eq_ok hfound with
  | inr hunknown =>
    rw [hunknown] at hlabel
    exact (label_ne_none s hlabel.symm).elim
  | inl hfrom =>
    obtain ⟨i, server, bytes, hfrom⟩ := hfrom
    obtain ⟨hsuccess, hserver⟩ := parseStunResponse_eq_ok hfrom.parsed
    refine ⟨i, server, bytes, hfrom, ?_, ?_⟩
    · rw [← hlabel, hserver]
    · exact h i server bytes hfrom.asked hfrom.received hsuccess

/-! ## Other contents -/

theorem sends_iff_of_alike {a a' : Attempt} (h : a.Alike a') {stunServer : StunServer}
    {localAddr : String} : Sends stunServer localAddr a ↔ Sends stunServer localAddr a' := by
  unfold Sends
  rw [h.bind, h.setReadTimeout, h.transactionId, h.sendTo]

/-- Nothing but the ids and the calls says which request is answered. -/
theorem AnswersRequest.of_alike {attempt' : Nat → Attempt} {i : Nat} {server : StunServer}
    {bytes bytes' : List UInt8} (halike : ∀ j, (attempt j).Alike (attempt' j))
    (hids : SameIds bytes bytes') (h : AnswersRequest servers localAddr attempt' i server bytes') :
    AnswersRequest servers localAddr attempt i server bytes := by
  obtain ⟨j, s, hj, hs, hlabel, hsends, hid⟩ := h
  refine ⟨j, s, hj, hs, hlabel, (sends_iff_of_alike (halike j)).mpr hsends, ?_⟩
  rw [hids.transactionId, hid, (halike j).transactionId]

/-- Without attributes every attempt fails. -/
theorem tryStunServer_headers (hfuel : 0 < fuel) (stunServer : StunServer) (a : Attempt) :
    ∃ e, tryStunServer fuel stunServer localAddr a.headers = .ok (.error e) := by
  by_cases h : ∃ bytes, Receives stunServer localAddr a.headers bytes
  · obtain ⟨bytes, hbytes⟩ := h
    rw [tryStunServer_receives hbytes]
    obtain ⟨-, sender, hrecv⟩ := hbytes
    obtain ⟨full, rest, harrivals, rfl⟩ := Attempt.recvFrom_eq_ok hrecv
    have hheader : full.take 1024 = (full.take 1024).take 20 := by
      unfold Attempt.headers at harrivals
      cases hfirst : a.arrivals with
      | nil => simp [hfirst] at harrivals
      | cons first others =>
        cases first with
        | failure error => simp [hfirst, Arrival.header] at harrivals
        | datagram whole sender' =>
          obtain ⟨⟨rfl, -⟩, -⟩ : (whole.take 20 = full ∧ sender' = sender) ∧ _ := by
            simpa [hfirst, Arrival.header] using harrivals
          simp [List.take_take]
    rw [hheader]
    exact parseStunResponse_header hfuel _ stunServer localAddr
  · exact tryStunServer_silent fuel fun bytes hbytes => h ⟨bytes, hbytes⟩

/-- What begins like a Binding Success response may as well name an endpoint. -/
theorem IsSuccess.exists_endpoint {bytes : List UInt8} (h : IsSuccess bytes) (hfuel : 0 < fuel)
    (stunServer : StunServer) (localAddr : String) :
    ∃ bytes' found, SameIds bytes bytes' ∧ bytes'.length ≤ 1024 ∧
      parseStunResponse fuel bytes' stunServer localAddr = .ok (.ok found) := by
  obtain ⟨hlength, htype, hcookie⟩ := h
  have hslice := slice_of_le (by omega : 8 ≤ 20) hlength
  have hid : ((bytes.take 20).drop 8).length = 12 := by
    rw [List.length_drop, List.length_take]
    omega
  let transactionId : Vector UInt8 12 := ⟨((bytes.take 20).drop 8).toArray, hid⟩
  have hfits : (encodeAttributes
      ([] ++ mappedAddress 0 203 0 113 7 8080 :: [])).length < 65536 := by decide
  obtain ⟨found, hparse, -⟩ := parseStunResponse_mappedAddress transactionId stunServer localAddr
    (by simp) (by simp) hfits hfuel
  refine ⟨_, found, ⟨?_, ?_, ?_⟩, ?_, hparse⟩
  · exact htype.trans (u16At_header_type ..).symm
  · exact hcookie.trans (u32At_header ..).symm
  · exact hslice.trans (slice_header bindingResponse 12 transactionId _).symm
  · show (header bindingResponse 12 transactionId ++ _).length ≤ 1024
    rw [List.length_append, length_header]
    decide

/-- One attempt forged and the others cut down to their headers. -/
theorem alike_update {attempt : Nat → Attempt} {i : Nat} {forged : Attempt}
    (h : (attempt i).Alike forged) (j : Nat) :
    (attempt j).Alike (Function.update (fun j => (attempt j).headers) i forged j) := by
  by_cases hj : j = i
  · subst hj
    rw [Function.update_self]
    exact h
  · rw [Function.update_of_ne hj]
    exact (attempt j).alike_headers

/-- Where an id is not the right one, the contents decide, and may name an endpoint. -/
theorem exists_not_attributed (hfuel : 0 < fuel) (h : ¬ OwnIds servers localAddr attempt) :
    ∃ attempt', (∀ i, (attempt i).Alike (attempt' i)) ∧
      ¬ Attributed fuel servers localAddr attempt' := by
  unfold OwnIds at h
  push Not at h
  obtain ⟨i, server, bytes, hserver, ⟨hsends, sender, hrecv⟩, hsuccess, hforeign⟩ := h
  obtain ⟨full, rest, harrivals, rfl⟩ := Attempt.recvFrom_eq_ok hrecv
  obtain ⟨bytes', found, hids, hfits, hparse⟩ := hsuccess.exists_endpoint hfuel server localAddr
  -- the attempts in front of this one fail, and this one finds an endpoint
  let forged : Attempt := { attempt i with arrivals := .datagram bytes' sender :: rest }
  let attempt' : Nat → Attempt := Function.update (fun j => (attempt j).headers) i forged
  have hsame : attempt' i = forged := Function.update_self ..
  have hfirst : (attempt i).Alike forged := by
    refine ⟨rfl, rfl, rfl, rfl, ?_⟩
    rw [harrivals]
    exact .cons (.datagram sender ((sameIds_take (by omega) full).trans hids))
      (List.forall₂_same.mpr fun arrival _ => .refl arrival)
  have halike : ∀ j, (attempt j).Alike (attempt' j) := alike_update hfirst
  have hfrom : ParsedFrom fuel servers localAddr attempt' found i server bytes' := by
    refine ⟨hserver, ⟨(sends_iff_of_alike (halike i)).mp hsends, sender, ?_⟩, hparse, ?_⟩
    · rw [hsame]
      show Except.ok (bytes'.take 1024, sender) = _
      rw [List.take_of_length_le hfits]
    · intro j s hj hs
      rw [show attempt' j = (attempt j).headers from Function.update_of_ne (Nat.ne_of_lt hj) ..]
      exact tryStunServer_headers hfuel s (attempt j)
  refine ⟨attempt', halike, ?_⟩
  intro hattributed
  obtain ⟨i', server', bytes'', hfrom', -, hanswers⟩ := hattributed found server
    hfrom.discoverPublicEndpoint_eq (List.mem_of_getElem? hserver)
    (parseStunResponse_eq_ok hparse).2
  obtain ⟨rfl, rfl, rfl⟩ := hfrom.unique hfrom'
  exact hforeign (hanswers.of_alike halike hids)

end

/-- No transaction id is compared: the endpoint is attributed rightly where what arrives first
    carries the right ids anyway, and where it does not, the rest of the contents can have any
    endpoint reported under the label of a server. -/
theorem discoverPublicEndpoint_attributed (fuel : Nat) (servers : List StunServer)
    (localAddr : String) (attempt : Nat → Attempt) (hfuel : 0 < fuel) :
    (OwnIds servers localAddr attempt → Attributed fuel servers localAddr attempt) ∧
      (¬ OwnIds servers localAddr attempt → ∃ attempt', (∀ i, (attempt i).Alike (attempt' i)) ∧
        ¬ Attributed fuel servers localAddr attempt') :=
  ⟨attributed_of_ownIds, exists_not_attributed hfuel⟩

/-- An attempt of which all calls succeed. -/
def undisturbed (transactionId : Vector UInt8 12) (arrivals : List Arrival) : Attempt where
  bind _ := .ok ()
  setReadTimeout := .ok ()
  transactionId := transactionId
  sendTo _ _ := .ok ()
  arrivals := arrivals

/-- What arrives first is a response from elsewhere, with another transaction id. -/
def spoofed : Attempt :=
  undisturbed (Vector.replicate 12 1)
    [.datagram (bindingSuccess (Vector.replicate 12 7) [mappedAddress 0 203 0 113 7 8080])
      ⟨.v4 198 51 100 9, 4444⟩]

theorem discoverPublicEndpoint_spoofed :
    discoverPublicEndpoint 16384 [⟨"192.0.2.1", 3478⟩] "0.0.0.0:0" (fun _ => spoofed) =
        .ok (.ok ⟨"203.0.113.7", 8080, "0.0.0.0:0", "192.0.2.1:3478"⟩) ∧
      ¬ Attributed 16384 [⟨"192.0.2.1", 3478⟩] "0.0.0.0:0" (fun _ => spoofed) := by
  have hfound : discoverPublicEndpoint 16384 [⟨"192.0.2.1", 3478⟩] "0.0.0.0:0" (fun _ => spoofed) =
      .ok (.ok ⟨"203.0.113.7", 8080, "0.0.0.0:0", "192.0.2.1:3478"⟩) := rfl
  apply And.intro hfound
  intro h
  obtain ⟨i, server, bytes, hfrom, -, j, s, -, -, -, -, hcarries⟩ :=
    h _ ⟨"192.0.2.1", 3478⟩ hfound List.mem_cons_self rfl
  obtain ⟨-, sender, hrecv⟩ := hfrom.received
  cases hrecv
  have hother : slice ((bindingSuccess (Vector.replicate 12 7)
      [mappedAddress 0 203 0 113 7 8080]).take 1024) 8 20 ≠
      .ok spoofed.transactionId.toList := by decide
  exact hother hcarries

/-- Two servers, of which the first is too late: these arrive in the attempt at the second. -/
def late (id : UInt8) : Nat → Attempt
  | 0 => undisturbed (Vector.replicate 12 1) []
  | _ => undisturbed (Vector.replicate 12 2)
    [.datagram (bindingSuccess (Vector.replicate 12 id) [mappedAddress 0 203 0 113 7 8080])
      ⟨.v4 192 0 2 2, 3478⟩]

/-- The answer of the second server is attributed to it; the late answer of the first need not
    be attributed rightly. -/
theorem discoverPublicEndpoint_attributed_late :
    discoverPublicEndpoint 1 [⟨"192.0.2.1", 3478⟩, ⟨"192.0.2.2", 3478⟩] "0.0.0.0:0" (late 2) =
      .ok (.ok ⟨"203.0.113.7", 8080, "0.0.0.0:0", "192.0.2.2:3478"⟩) ∧
    Attributed 1 [⟨"192.0.2.1", 3478⟩, ⟨"192.0.2.2", 3478⟩] "0.0.0.0:0" (late 2) ∧
    ∃ attempt', (∀ i, (late 1 i).Alike (attempt' i)) ∧
      ¬ Attributed 1 [⟨"192.0.2.1", 3478⟩, ⟨"192.0.2.2", 3478⟩] "0.0.0.0:0" attempt' := by
  have hown : OwnIds [⟨"192.0.2.1", 3478⟩, ⟨"192.0.2.2", 3478⟩] "0.0.0.0:0" (late 2) := by
    rintro i server bytes hserver ⟨hsends, sender, hrecv⟩ -
    rcases i with _ | _ | i
    · cases hrecv
    · cases hrecv
      exact ⟨1, server, Nat.le_refl 1, hserver, rfl, hsends, by decide⟩
    · cases hserver
  have hforeign : ¬ OwnIds [⟨"192.0.2.1", 3478⟩, ⟨"192.0.2.2", 3478⟩] "0.0.0.0:0" (late 1) := by
    intro h
    obtain ⟨j, s, hj, hs, hlabel, -, hid⟩ := h 1 ⟨"192.0.2.2", 3478⟩ _ rfl
      ⟨⟨_, rfl, rfl, rfl, rfl⟩, _, rfl⟩ ⟨by decide, rfl, rfl⟩
    rcases j with _ | _ | j
    · cases hs
      exact absurd hlabel (by decide)
    · exact absurd hid (by decide)
    · omega
  exact ⟨rfl,
    (discoverPublicEndpoint_attributed 1 _ "0.0.0.0:0" (late 2) Nat.one_pos).1 hown,
    (discoverPublicEndpoint_attributed 1 _ "0.0.0.0:0" (late 1) Nat.one_pos).2 hforeign⟩

end StunClient

end Jrok.Stun
