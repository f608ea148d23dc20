import Jrok.Stun.Detection
import Jrok.Tcp.Records

/-!
# Hole punching

`HolePuncher` of `nat/mod.rs`: how it chooses its strategy, and what it sends. Its detector is that
of `NatDetector::new`, and its socket is an input.
-/

namespace Jrok

open Concurrency Imperative Stun

inductive HolePunchStrategy where
  | direct
  | holePunch
  | relay
  deriving DecidableEq, Repr

/-- What `perform_hole_punch` meets at its socket; a send is told by its number. -/
structure PunchSocket where
  bind : String → Except String Unit
  setWriteTimeout : Except String Unit
  sendTo : Nat → List UInt8 → Net.SocketAddr → Except String Nat

namespace HolePuncher

/-- `determine_strategy`. -/
def determineStrategy : NatType → NatType → HolePunchStrategy
  | .openNat, _ => .direct
  | _, .openNat => .direct
  | .fullCone, _ => .holePunch
  | _, .fullCone => .holePunch
  | .symmetric, .symmetric => .relay
  | _, _ => .holePunch

def punchCount : Nat := 5

/-- `[0u8; 4]`. -/
def punchPacket : List UInt8 := [0, 0, 0, 0]

/-- The loop over the packets, which goes on whatever `send_to` returns. -/
def sendPunches (socket : PunchSocket) (remoteAddr : Net.SocketAddr) : List Net.Packet :=
  (List.range punchCount).map fun i =>
    ⟨punchPacket, remoteAddr, socket.sendTo i punchPacket remoteAddr⟩

/-- `perform_hole_punch`, with the packets it sends. -/
def performHolePunch (socket : PunchSocket) (localNat : NatInfo) (remotePublic : String) :
    Except Error String × List Net.Packet :=
  match Net.SocketAddr.parse remotePublic with
  | none => (.error (.internal "Invalid remote address: invalid socket address syntax"), [])
  | some remoteAddr =>
    match socket.bind localNat.localAddr with
    | .error e => (.error (.internal ("Failed to bind UDP socket: " ++ e)), [])
    | .ok () =>
      match socket.setWriteTimeout with
      | .error e => (.error (.internal ("Failed to set socket timeout: " ++ e)), [])
      | .ok () => (.ok remotePublic, sendPunches socket remoteAddr)

/-- The part of `punch_hole` after the detection. -/
def punchWith (socket : PunchSocket) (remotePublic : String) (remoteNatType : NatType)
    (natInfo : NatInfo) : Except Error String × List Net.Packet :=
  match determineStrategy natInfo.natType remoteNatType with
  | .direct => (.ok remotePublic, [])
  | .holePunch => performHolePunch socket natInfo remotePublic
  | .relay => (.error (.internal "Direct connection not possible, relay required"), [])

/-- `punch_hole`, with what the detector's attempts and the socket meet. -/
def punchHole (fuel : Nat) (attempt : Nat → Attempt) (socket : PunchSocket)
    (localAddr remotePublic : String) (remoteNatType : NatType) :
    Exec (Except Error String × List Net.Packet) := do
  match ← NatDetector.detect fuel NatDetector.stunServers localAddr attempt with
  | .error e => return (.error e, [])
  | .ok natInfo => return punchWith socket remotePublic remoteNatType natInfo

/-! ## The strategy -/

theorem determineStrategy_comm (a b : NatType) : determineStrategy a b = determineStrategy b a := by
  cases a <;> cases b <;> rfl

theorem determineStrategy_eq_direct_iff {a b : NatType} :
    determineStrategy a b = .direct ↔ a = .openNat ∨ b = .openNat := by
  cases a <;> cases b <;> simp [determineStrategy]

theorem determineStrategy_eq_relay_iff {a b : NatType} :
    determineStrategy a b = .relay ↔ a = .symmetric ∧ b = .symmetric := by
  cases a <;> cases b <;> simp [determineStrategy]

/-- Where one of the two is not symmetric and none is open, a hole is punched. -/
theorem determineStrategy_eq_holePunch {a b : NatType} (ha : a ≠ .openNat) (hb : b ≠ .openNat)
    (hsymmetric : a ≠ .symmetric) : determineStrategy a b = .holePunch := by
  cases hstrategy : determineStrategy a b with
  | direct => exact absurd (determineStrategy_eq_direct_iff.mp hstrategy) (by simp [ha, hb])
  | holePunch => rfl
  | relay => exact absurd (determineStrategy_eq_relay_iff.mp hstrategy).1 hsymmetric

/-! ## What a detector tells -/

/-- The address is one that `is_private_ip` does not refuse, as the wildcard address is. No NAT is
    taken to be in front of it. -/
def NotPrivate (localAddr : String) : Prop :=
  ∃ addr, Net.SocketAddr.parse localAddr = some addr ∧ isPrivateIp addr.ip = false

/-- A detection that succeeds tells whether the address is private, and nothing else. -/
theorem detect_natType {fuel : Nat} {attempt : Nat → Attempt} {localAddr : String} {info : NatInfo}
    (h : NatDetector.detect fuel NatDetector.stunServers localAddr attempt = .ok (.ok info)) :
    info.localAddr = localAddr ∧ (info.natType = .openNat ↔ NotPrivate localAddr) ∧
      (info.natType = .openNat ∨ info.natType = .unknown) := by
  rw [NatDetector.detect_stunServers] at h
  have hinfo : NatDetector.detectByIp localAddr = .ok info := Exec.ok.inj h
  cases haddr : Net.SocketAddr.parse localAddr with
  | none =>
    rw [NatDetector.detectByIp, haddr] at hinfo
    cases hinfo
  | some addr =>
    cases hprivate : isPrivateIp addr.ip with
    | true =>
      rw [NatDetector.detectByIp_private haddr hprivate] at hinfo
      cases hinfo
      simp [NotPrivate, haddr, hprivate]
    | false =>
      rw [NatDetector.detectByIp_public haddr hprivate] at hinfo
      cases hinfo
      simp [NotPrivate, haddr, hprivate]

theorem ofSer_ofType (natType : NatType) : NatType.ofSer (.ofType natType) = natType := by
  cases natType <;> rfl

/-! ## Two peers -/

/-- What a peer brings along: its detector's attempts, its socket, the address that it binds and
    the one that it tells the other peer. -/
structure Peer where
  fuel : Nat
  attempt : Nat → Attempt
  socket : PunchSocket
  localAddr : String
  publicAddr : String

/-- What the peer detects. -/
def Peer.detect (p : Peer) : Exec (Except Error NatInfo) :=
  NatDetector.detect p.fuel NatDetector.stunServers p.localAddr p.attempt

/-- The peer punches, having received what the other one detected. -/
def Peer.punch (p other : Peer) (otherInfo : NatInfo) :
    Exec (Except Error String × List Net.Packet) :=
  punchHole p.fuel p.attempt p.socket p.localAddr other.publicAddr
    (NatInfo.ofSer (.ofInfo otherInfo)).natType

/-- A hole punch that fails has sent nothing. One that succeeds has sent its five packets, each of
    four zero bytes and to the address that it was given, and returns this address. -/
structure Punched (socket : PunchSocket) (localAddr remotePublic : String)
    (r : Except Error String) (sent : List Net.Packet) : Prop where
  failed : ∀ e, r = .error e → sent = []
  succeeded : ∀ endpoint, r = .ok endpoint → endpoint = remotePublic ∧
    socket.bind localAddr = .ok () ∧ ∃ remote, Net.SocketAddr.parse remotePublic = some remote ∧
      sent.length = 5 ∧ ∀ p ∈ sent, p.bytes = [0, 0, 0, 0] ∧ p.remote = remote

theorem performHolePunch_punched (socket : PunchSocket) (localNat : NatInfo)
    (remotePublic : String) :
    Punched socket localNat.localAddr remotePublic (performHolePunch socket localNat remotePublic).1
      (performHolePunch socket localNat remotePublic).2 := by
  unfold performHolePunch
  cases hremote : Net.SocketAddr.parse remotePublic with
  | none => exact ⟨fun _ _ => rfl, nofun⟩
  | some remoteAddr =>
    cases hbind : socket.bind localNat.localAddr with
    | error e => exact ⟨fun _ _ => rfl, nofun⟩
    | ok bound =>
      cases htimeout : socket.setWriteTimeout with
      | error e => exact ⟨fun _ _ => rfl, nofun⟩
      | ok set =>
        refine ⟨nofun, fun endpoint hendpoint => ?_⟩
        obtain rfl := Except.ok.inj hendpoint
        exact ⟨rfl, hbind, remoteAddr, hremote, rfl, by simp [sendPunches, punchPacket]⟩

/-- What one of two peers does, as seen from the address of each: with one that is not private on
    either side it goes straight to the other's address, else it punches a hole. -/
structure Meets (p other : Peer) (r : Except Error String) (sent : List Net.Packet) : Prop where
  direct : NotPrivate p.localAddr ∨ NotPrivate other.localAddr →
    r = .ok other.publicAddr ∧ sent = []
  punched : ¬ (NotPrivate p.localAddr ∨ NotPrivate other.localAddr) →
    Punched p.socket p.localAddr other.publicAddr r sent

theorem Peer.punch_eq {p other : Peer} {info : NatInfo} (h : p.detect = .ok (.ok info))
    (otherInfo : NatInfo) : p.punch other otherInfo =
      .ok (punchWith p.socket other.publicAddr otherInfo.natType info) := by
  have hseen : (NatInfo.ofSer (.ofInfo otherInfo)).natType = otherInfo.natType :=
    ofSer_ofType otherInfo.natType
  rw [punch, punchHole, hseen, show NatDetector.detect _ _ _ _ = _ from h]
  rfl

theorem Peer.punch_meets {p other : Peer} {info otherInfo : NatInfo}
    (h : p.detect = .ok (.ok info)) (hother : other.detect = .ok (.ok otherInfo)) :
    ∃ r sent, p.punch other otherInfo = .ok (r, sent) ∧ Meets p other r sent := by
  obtain ⟨hlocal, hpublic, htype⟩ := detect_natType h
  obtain ⟨-, hpublic', -⟩ := detect_natType hother
  rw [punch_eq h otherInfo]
  by_cases hreach : NotPrivate p.localAddr ∨ NotPrivate other.localAddr
  · have hdirect : determineStrategy info.natType otherInfo.natType = .direct := by
      rwa [determineStrategy_eq_direct_iff, hpublic, hpublic']
    refine ⟨.ok other.publicAddr, [], ?_,
      ⟨fun _ => ⟨rfl, rfl⟩, fun hhidden => absurd hreach hhidden⟩⟩
    simp only [punchWith, hdirect]
  · have hpunched := performHolePunch_punched p.socket info other.publicAddr
    rw [hlocal] at hpunched
    refine ⟨_, _, ?_, ⟨fun hpublic => absurd hpublic hreach, fun _ => hpunched⟩⟩
    rw [← hpublic, ← hpublic', not_or] at hreach
    have hunknown : info.natType = .unknown := htype.resolve_left hreach.1
    have hpunch := determineStrategy_eq_holePunch hreach.1 hreach.2 (by simp [hunknown])
    simp only [punchWith, hpunch]

/-- Two peers that tell each other what they have detected choose the same strategy, which is never
    the relay: no server of `new` is ever asked, so that the bind addresses alone decide. Each of
    them does what this strategy says. -/
theorem peers_meet {a b : Peer} {infoA infoB : NatInfo} (ha : a.detect = .ok (.ok infoA))
    (hb : b.detect = .ok (.ok infoB)) :
    determineStrategy infoA.natType infoB.natType = determineStrategy infoB.natType infoA.natType ∧
    determineStrategy infoA.natType infoB.natType ≠ .relay ∧
    (∃ r sent, a.punch b infoB = .ok (r, sent) ∧ Meets a b r sent) ∧
    ∃ r sent, b.punch a infoA = .ok (r, sent) ∧ Meets b a r sent := by
  refine ⟨determineStrategy_comm _ _, fun hrelay => ?_, Peer.punch_meets ha hb,
    Peer.punch_meets hb ha⟩
  obtain ⟨-, -, htype⟩ := detect_natType ha
  rw [(determineStrategy_eq_relay_iff.mp hrelay).1] at htype
  simp at htype

/-- A peer behind a private address whose socket works, though its second send fails. -/
def privatePeer (localAddr publicAddr : String) : Peer where
  fuel := 1024
  attempt _ := StunClient.undisturbed (Vector.replicate 12 0) []
  socket := ⟨fun _ => .ok (), .ok (), fun i _ _ => if i = 1 then .error "ENETDOWN" else .ok 4⟩
  localAddr := localAddr
  publicAddr := publicAddr

theorem peers_meet_private :
    let a := privatePeer "10.0.0.7:4000" "203.0.113.7:4000"
    let b := privatePeer "192.168.1.5:4000" "198.51.100.7:9000"
    let infoA : NatInfo := ⟨a.localAddr, "0.0.0.0", 0, .unknown, false⟩
    let infoB : NatInfo := ⟨b.localAddr, "0.0.0.0", 0, .unknown, false⟩
    determineStrategy infoA.natType infoB.natType = determineStrategy infoB.natType infoA.natType ∧
    determineStrategy infoA.natType infoB.natType ≠ .relay ∧
    (∃ r sent, a.punch b infoB = .ok (r, sent) ∧ Meets a b r sent) ∧
    ∃ r sent, b.punch a infoA = .ok (r, sent) ∧ Meets b a r sent := by
  refine peers_meet ?_ ?_
  · rw [Peer.detect, NatDetector.detect_stunServers]
    decide
  · rw [Peer.detect, NatDetector.detect_stunServers]
    decide

/-! ## The sessions of a facilitator -/

variable {B : Backend} {faulty : Bool} {me k : String}

/-- The NAT of a client is detected from its address. -/
theorem detectClientNat_natType {clientAddr : String} {client : NatInfo}
    (h : Facilitator.detectClientNat clientAddr = some client) :
    client.natType = .openNat ∨ client.natType = .unknown := by
  obtain ⟨addr, -, rfl⟩ := Option.map_eq_some_iff.mp h
  split <;> simp

theorem inserted_new {τ : Type} {log : Log serverSig τ} {first : ConnectionSession}
    (hnew : ∀ e ∈ log, NewSessions e.2.1) (h : inserted me k log = some first) :
    ∃ sessionId now subdomain clientAddr agentId,
      first = Tcp.newSession sessionId now subdomain clientAddr agentId := by
  induction log with
  | nil => cases h
  | cons e log ih =>
    obtain ⟨he, hlog⟩ := List.forall_mem_cons.mp hnew
    obtain ⟨t, o, r⟩ := e
    by_cases hinsert : ∃ session, o = .node me (.sessionsInsert session) ∧ k = session.sessionId
    · obtain ⟨session, rfl, hk⟩ := hinsert
      rw [inserted, if_pos ⟨rfl, hk⟩] at h
      obtain rfl := Option.some.inj h
      exact he
    · rw [inserted_cons fun session ho hk => hinsert ⟨session, ho, hk⟩] at h
      exact ih hlog h

/-- The status tells the strategy of both sides, and it is not the relay. -/
structure SameStrategy (session : ConnectionSession) (client agent : NatInfo) : Prop where
  holePunching : session.status = .holePunching →
    determineStrategy client.natType agent.natType = .holePunch ∧
    determineStrategy agent.natType client.natType = .holePunch
  ready : session.status = .ready →
    determineStrategy client.natType agent.natType = .direct ∧
    determineStrategy agent.natType client.natType = .direct

/-- In every state that calls of the facilitator reach from an empty one, the two sides of a
    session whose NATs are both known choose the strategy that the status of the session says. -/
theorem session_strategy {calls : Nat → Tcp.FacilitatorCall}
    {c₀ c : Config serverSig Nat (Option Unit) (World × Log serverSig Nat)}
    (hnew : (c₀.shared.1.node me).facilitator = .new) (hidle : ∀ n, c₀.task n = .idle none)
    (hlog : c₀.shared.2 = [])
    (hr : (facilitatorCalls B faulty me calls).logged.Reachable c₀ c)
    {session : ConnectionSession} {client agent : NatInfo}
    (hsession : c.shared.1.session me k = some session)
    (hclient : session.clientNat = some client) (hagent : session.agentNat = some agent) :
    SameStrategy session client agent := by
  obtain ⟨hrecorded, hissued⟩ := System.Reachable.logged_invariant hr hidle hlog
    (fun w log => Recorded me w log ∧ ∀ e ∈ log, NewSessions e.2.1)
    (by simp [Recorded, World.session, hnew, Facilitator.new])
    (fun w log n c o r w' _ hfollows hI hop => by
      obtain ⟨p, hp⟩ := hfollows n
      have ho : NewSessions o := (hp.issues (FacilitatorCall.run_issues (calls n))).1 ⟨o, r⟩
        (Log.mem_own.mpr (List.mem_cons_self ..))
      exact ⟨hI.1.step ho hop, List.forall_mem_cons.mpr ⟨ho, hI.2⟩⟩)
  obtain ⟨first, hfirst, hrecord⟩ := hrecorded k session hsession
  obtain ⟨sessionId, now, subdomain, clientAddr, agentId, rfl⟩ := inserted_new hissued hfirst
  have htype := detectClientNat_natType (hrecord.clientNat.symm.trans hclient)
  constructor
  · intro hstatus
    obtain ⟨client', agent', hclient', hagent', hne, hne'⟩ :=
      (hrecord.reported (.inr hstatus)).2.mp hstatus
    obtain rfl := Option.some.inj (hclient.symm.trans hclient')
    obtain rfl := Option.some.inj (hagent.symm.trans hagent')
    have hunknown : client.natType = .unknown := htype.resolve_left hne
    have hpunch := determineStrategy_eq_holePunch hne hne' (by simp [hunknown])
    exact ⟨hpunch, (determineStrategy_comm _ _).trans hpunch⟩
  · intro hstatus
    have hopen : client.natType = .openNat ∨ agent.natType = .openNat := by
      by_contra hclosed
      rw [not_or] at hclosed
      have hpunching := (hrecord.reported (.inl hstatus)).2.mpr
        ⟨client, agent, hclient, hagent, hclosed.1, hclosed.2⟩
      simp [hstatus] at hpunching
    exact ⟨determineStrategy_eq_direct_iff.mpr hopen,
      determineStrategy_eq_direct_iff.mpr hopen.symm⟩

/-- Both sides of the session punch, although the agent is behind a symmetric NAT. -/
theorem session_strategy_punch :
    ∃ c session, (facilitatorCalls .migrated false "s" punchCalls).logged.Reachable noCalls c ∧
      c.shared.1.session "s" "session" = some session ∧ session.status = .holePunching ∧
      SameStrategy session ⟨"10.0.0.7:4000", "0.0.0.0", 0, .unknown, false⟩
        ⟨"10.1.1.1:22", "198.51.100.7", 9000, .symmetric, false⟩ := by
  have hrun : ((facilitatorCalls .migrated false "s" punchCalls).logged.replay punchMoves
      noCalls).map (fun c => (c.shared.1.session "s" "session").map fun session =>
        (session.status, session.clientNat, session.agentNat)) =
      some (some (.holePunching, some ⟨"10.0.0.7:4000", "0.0.0.0", 0, .unknown, false⟩,
        some ⟨"10.1.1.1:22", "198.51.100.7", 9000, .symmetric, false⟩)) := by decide +kernel
  obtain ⟨c, hc, hproj⟩ := Option.map_eq_some_iff.mp hrun
  obtain ⟨session, hsession, heq⟩ := Option.map_eq_some_iff.mp hproj
  obtain ⟨hstatus, hnats⟩ := Prod.mk.inj heq
  obtain ⟨hclient, hagent⟩ := Prod.mk.inj hnats
  exact ⟨c, session, ⟨_, hc⟩, hsession, hstatus,
    session_strategy rfl (fun _ => rfl) rfl ⟨_, hc⟩ hsession hclient hagent⟩

end HolePuncher

end Jrok
