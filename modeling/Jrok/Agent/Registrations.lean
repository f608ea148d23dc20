import Jrok.Agent.Replies

/-!
# The registrations of a connection

The events of `handle_agent_connection` tell which of its `Register` frames have gone through. For
each of these its key has been validated, its row upserted, and an entry inserted into the agents
map under the id drawn for it, before its `Welcome` is offered.
-/

namespace Jrok

open Concurrency

namespace Connection

/-- A `Register` frame that has gone through, with what has been drawn for it. -/
structure Registration where
  subdomain : String
  localPort : UInt16
  localHost : String
  protocol : String
  apiKey : String
  agentId : String
  tx : Nat
  seen : Int

namespace Registration

def frame (r : Registration) : Option Message :=
  some (.register r.subdomain r.localPort r.localHost r.protocol r.apiKey)

def welcome (r : Registration) : Message := .welcome r.agentId r.subdomain r.protocol

/-- The entry of the agents map. -/
def entry (r : Registration) : String × AgentState :=
  (r.agentId, ⟨r.tx, r.subdomain, r.localPort, r.localHost, .fromStr r.protocol, r.seen⟩)

/-- The row that the upsert of the agents table is given. A row that the subdomain has already takes
    the rest of it and keeps its own id. -/
structure Row (me : String) (r : Registration) (row : AgentRow) : Prop where
  id : row.id = r.agentId
  subdomain : row.subdomain = r.subdomain
  serverId : row.serverId = me
  localPort : row.localPort = r.localPort.toNat
  localHost : row.localHost = r.localHost
  protocol : row.protocol = (Protocol.fromStr r.protocol).text
  active : row.active = true

end Registration

variable {X : Codec} {B : Backend} {me : String}

/-- The entry that an event inserts into the agents map of `me`. -/
def enteredAgent (me : String) : Event serverSig → Option (String × AgentState)
  | ⟨.node n (.agentsInsert id st), _⟩ => if n = me then some (id, st) else none
  | _ => none

def entries (me : String) (es : List (Event serverSig)) : List (String × AgentState) :=
  es.filterMap (enteredAgent me)

@[simp] theorem entries_append (es es' : List (Event serverSig)) :
    entries me (es ++ es') = entries me es ++ entries me es' := by simp [entries]

theorem entries_insert (id : String) (st : AgentState) (r : Unit) :
    entries me [⟨.node me (.agentsInsert id st), r⟩] = [(id, st)] := by
  simp [entries, enteredAgent]

def drawnUuid : Event serverSig → Option String
  | ⟨.uuid, u⟩ => some u
  | _ => none

def uuids (es : List (Event serverSig)) : List String := es.filterMap drawnUuid

@[simp] theorem uuids_append (es es' : List (Event serverSig)) :
    uuids (es ++ es') = uuids es ++ uuids es' := by simp [uuids]

def isWelcome : Message → Bool
  | .welcome .. => true
  | _ => false

def welcomes (ms : List Message) : List Message := ms.filter isWelcome

@[simp] theorem welcomes_append (ms ms' : List Message) :
    welcomes (ms ++ ms') = welcomes ms ++ welcomes ms' := by simp [welcomes]

variable (X me) in
/-- The events of frames in which the registrations have gone through. -/
structure Registered (frames : List (Option Message)) (es : List (Event serverSig))
    (rs : List Registration) : Prop where
  frames : (rs.map (·.frame)).Sublist frames
  entries : entries me es = rs.map (·.entry)
  ids : (rs.map (·.agentId)).Sublist (uuids es)
  stored : ∀ r ∈ rs, ∃ i row n,
    (⟨.sql (.validateApiKey (X.hashApiKey r.apiKey)), .ok (some i)⟩ : Event serverSig) ∈ es ∧
    (⟨.sql (.registerAgent row), .ok n⟩ : Event serverSig) ∈ es ∧ r.Row me row

theorem Registered.nil {frames : List (Option Message)} {es : List (Event serverSig)}
    (h : Connection.entries me es = []) : Registered X me frames es [] :=
  ⟨List.nil_sublist _, h, List.nil_sublist _, by simp⟩

theorem Registered.append {frames frames' : List (Option Message)}
    {es es' : List (Event serverSig)} {rs rs' : List Registration}
    (h : Registered X me frames es rs) (h' : Registered X me frames' es' rs') :
    Registered X me (frames ++ frames') (es ++ es') (rs ++ rs') where
  frames := by
    rw [List.map_append]
    exact h.frames.append h'.frames
  entries := by rw [entries_append, h.entries, h'.entries, List.map_append]
  ids := by
    rw [List.map_append, uuids_append]
    exact h.ids.append h'.ids
  stored r hr := by
    rcases List.mem_append.mp hr with hr | hr
    · obtain ⟨i, row, n, hvalid, hupsert, hrow⟩ := h.stored r hr
      exact ⟨i, row, n, List.mem_append_left _ hvalid, List.mem_append_left _ hupsert, hrow⟩
    · obtain ⟨i, row, n, hvalid, hupsert, hrow⟩ := h'.stored r hr
      exact ⟨i, row, n, List.mem_append_right _ hvalid, List.mem_append_right _ hupsert, hrow⟩

/-- All registrations have been welcomed, or all but the last, and then there is more to do. -/
def Welcomed {α : Type} (es : List (Event serverSig)) (rs : List Registration)
    (q : ServerProg α) : Prop :=
  welcomes (replies es) = rs.map (·.welcome) ∨
  ∃ before last, rs = before ++ [last] ∧ welcomes (replies es) = before.map (·.welcome) ∧
    ∀ a, q ≠ .ret a

/-! ## One registration -/

theorem entries_eq_nil {es : List (Event serverSig)}
    (h : ∀ e ∈ es, enteredAgent me e = none) : entries me es = [] :=
  List.filterMap_eq_nil_iff.mpr h

section Register

variable {subdomain : String} {localPort : UInt16} {localHost : String} {protocol : Protocol}

theorem checkOwner_entries {es : List (Event serverSig)} {q : ServerProg (Except Error Unit)}
    (h : (AgentRegistry.checkOwner B me subdomain).run.Path es q) : entries me es = [] := by
  refine entries_eq_nil fun e he => ?_
  obtain ⟨o, r⟩ := e
  have hop := (h.issues (AgentRegistry.checkOwner_issues B me subdomain)).1 ⟨o, r⟩ he
  cases hop <;> rfl

/-- The row and the entry that `register` makes under an id. -/
structure Stores (me subdomain : String) (localPort : UInt16) (localHost : String)
    (protocol : Protocol) (agentId : String) (tx : Nat) (es : List (Event serverSig)) : Prop where
  entry : ∃ seen, entries me es =
    [(agentId, ⟨tx, subdomain, localPort, localHost, protocol, seen⟩)]
  row : ∃ row n, (⟨.sql (.registerAgent row), .ok n⟩ : Event serverSig) ∈ es ∧
    row.id = agentId ∧ row.subdomain = subdomain ∧ row.serverId = me ∧
    row.localPort = localPort.toNat ∧ row.localHost = localHost ∧ row.protocol = protocol.text ∧
    row.active = true

/-- An entry is the last thing that a registration makes. -/
theorem registerWith_stores {agentId token : String} {tx : Nat} {es : List (Event serverSig)}
    {q : ServerProg (Except Error (String × Nat))}
    (h : (AgentRegistry.registerWith B me agentId token tx subdomain localPort localHost
      protocol).run.Path es q) :
    (entries me es = [] ∧ ∀ a, q ≠ .ret (.ok a)) ∨
    (q = .ret (.ok (agentId, tx)) ∧
      Stores me subdomain localPort localHost protocol agentId tx es) := by
  rw [AgentRegistry.registerWith_eq] at h
  rcases Prog.path_bind_iff.mp h with ⟨p, hp, rfl⟩ | ⟨owned, rest, owner, rfl, howned, hrest⟩
  · refine .inl ⟨checkOwner_entries hp, ?_⟩
    rcases p with ⟨_ | _⟩ | _ <;> exact nofun
  have hnone : entries me owned = [] := checkOwner_entries howned
  -- no operation before the insertion makes an entry
  have hbefore : ∀ {rest : List (Event serverSig)}, entries me rest = [] →
      entries me (owned ++ rest) = [] := fun hrest => by rw [entries_append, hnone, hrest]; rfl
  cases owner with
  | error e =>
    obtain ⟨rfl, rfl⟩ := Prog.path_ret_iff.mp hrest
    exact .inl ⟨hbefore rfl, nofun⟩
  | ok u =>
    rcases Prog.path_op_iff.mp hrest with ⟨rfl, rfl⟩ | ⟨connectedAt, es₁, rfl, h₁⟩
    · exact .inl ⟨hbefore rfl, nofun⟩
    rcases Prog.path_op_iff.mp h₁ with ⟨rfl, rfl⟩ | ⟨beat, es₂, rfl, h₂⟩
    · exact .inl ⟨hbefore rfl, nofun⟩
    rcases Prog.path_op_iff.mp h₂ with ⟨rfl, rfl⟩ | ⟨now, es₃, rfl, h₃⟩
    · exact .inl ⟨hbefore rfl, nofun⟩
    rcases Prog.path_op_iff.mp h₃ with ⟨rfl, rfl⟩ | ⟨result, es₄, rfl, h₄⟩
    · exact .inl ⟨hbefore rfl, nofun⟩
    cases result with
    | error e =>
      obtain ⟨rfl, rfl⟩ := Prog.path_ret_iff.mp h₄
      exact .inl ⟨hbefore rfl, nofun⟩
    | ok n =>
      rcases Prog.path_op_iff.mp h₄ with ⟨rfl, rfl⟩ | ⟨seen, es₅, rfl, h₅⟩
      · exact .inl ⟨hbefore rfl, nofun⟩
      rcases Prog.path_op_iff.mp h₅ with ⟨rfl, rfl⟩ | ⟨_, es₆, rfl, h₆⟩
      · exact .inl ⟨hbefore rfl, nofun⟩
      obtain ⟨rfl, rfl⟩ := Prog.path_ret_iff.mp h₆
      refine .inr ⟨rfl, ⟨seen, ?_⟩, _, n, by simp, rfl, rfl, rfl, rfl, rfl, rfl, rfl⟩
      rw [entries_append, hnone, List.nil_append]
      exact entries_insert agentId _ ()

/-- A call of `register` that has made an entry has drawn its id, and returns it. -/
theorem register_stores {es : List (Event serverSig)}
    {q : ServerProg (Except Error (String × Nat))}
    (h : (AgentRegistry.register B me subdomain localPort localHost protocol).Path es q) :
    (entries me es = [] ∧ ∀ a, q ≠ .ret (.ok a)) ∨
    ∃ agentId tx, Stores me subdomain localPort localHost protocol agentId tx es ∧
      agentId ∈ uuids es ∧ ∀ a, q = .ret a → a = .ok (agentId, tx) := by
  rw [AgentRegistry.register_eq] at h
  rcases Prog.path_op_iff.mp h with ⟨rfl, rfl⟩ | ⟨agentId, es₁, rfl, h₁⟩
  · exact .inl ⟨rfl, nofun⟩
  rcases Prog.path_op_iff.mp h₁ with ⟨rfl, rfl⟩ | ⟨token, es₂, rfl, h₂⟩
  · exact .inl ⟨rfl, nofun⟩
  rcases Prog.path_op_iff.mp h₂ with ⟨rfl, rfl⟩ | ⟨tx, es₃, rfl, h₃⟩
  · exact .inl ⟨rfl, nofun⟩
  have hdrawn : ∀ es, agentId ∈ uuids (⟨.uuid, agentId⟩ :: es) := fun es => by
    simp [uuids, drawnUuid]
  have hstores : ∀ {es es' : List (Event serverSig)},
      Stores me subdomain localPort localHost protocol agentId tx es → entries me es' = [] →
      Stores me subdomain localPort localHost protocol agentId tx
        (⟨.uuid, agentId⟩ :: ⟨.uuid, token⟩ :: ⟨.node me .channel, tx⟩ :: (es ++ es')) := by
    intro es es' ⟨⟨seen, hentry⟩, row, n, hupsert, hrow⟩ hnone
    refine ⟨⟨seen, ?_⟩, row, n, by simp [hupsert], hrow⟩
    show entries me (es ++ es') = _
    rw [entries_append, hentry, hnone]
    rfl
  rcases Prog.path_bind_iff.mp h₃ with ⟨p, hp, rfl⟩ | ⟨es₄, es₅, result, rfl, hp, hlast⟩
  · rcases registerWith_stores hp with ⟨hnone, hp⟩ | ⟨rfl, hs⟩
    · refine .inl ⟨hnone, ?_⟩
      rcases p with _ | _ <;> exact nofun
    · refine .inr ⟨agentId, tx, ?_, hdrawn _, nofun⟩
      have hall := hstores hs (show entries me [] = [] from rfl)
      rwa [List.append_nil] at hall
  · have hnone : entries me es₅ = [] := by
      rcases Prog.path_op_iff.mp hlast with ⟨rfl, -⟩ | ⟨_, _, rfl, hret⟩
      · rfl
      · obtain ⟨rfl, -⟩ := Prog.path_ret_iff.mp hret
        rfl
    have hresult : ∀ a, q = .ret a → a = result := by
      rintro a rfl
      obtain ⟨_, _, -, hret⟩ := Prog.path_op_ret_iff.mp hlast
      exact Prog.ret.inj (Prog.path_ret_iff.mp hret).2
    rcases registerWith_stores hp with ⟨hentries, hfailed⟩ | ⟨hreturned, hs⟩
    · refine .inl ⟨?_, fun a heq => hfailed a (congrArg Prog.ret (hresult _ heq).symm)⟩
      show entries me (es₄ ++ es₅) = []
      rw [entries_append, hentries, hnone]
      rfl
    · obtain rfl := Prog.ret.inj hreturned
      exact .inr ⟨agentId, tx, hstores hs hnone, hdrawn _, hresult⟩

end Register

/-! ## Frame by frame -/

section Frames

variable {reader : Reader} {subdomain : String} {localPort : UInt16}
  {localHost protocol apiKey : String} {es es' : List (Event serverSig)}

/-- A registration after its key has been validated. -/
theorem Stores.registered {agentId : String} {tx : Nat}
    (hs : Stores me subdomain localPort localHost (.fromStr protocol) agentId tx es)
    (X : Codec) (apiKey i : String) (hid : agentId ∈ uuids es) (hnone : entries me es' = []) :
    ∃ r : Registration,
      Registered X me [some (.register subdomain localPort localHost protocol apiKey)]
        (⟨.sql (.validateApiKey (X.hashApiKey apiKey)), .ok (some i)⟩ :: (es ++ es')) [r] ∧
      r.welcome = .welcome agentId subdomain protocol := by
  obtain ⟨⟨seen, hentry⟩, row, n, hupsert, hrowId, hsub, hserver, hport, hhost, hprotocol,
    hactive⟩ := hs
  refine ⟨⟨subdomain, localPort, localHost, protocol, apiKey, agentId, tx, seen⟩,
    ⟨List.Sublist.refl _, ?_, ?_, ?_⟩, rfl⟩
  · show entries me (es ++ es') = _
    rw [entries_append, hentry, hnone]
    rfl
  · show [agentId].Sublist (uuids (es ++ es'))
    rw [uuids_append, List.singleton_sublist]
    exact List.mem_append_left _ hid
  · intro r hr
    obtain rfl := List.mem_singleton.mp hr
    exact ⟨i, row, n, .head _, by simp [hupsert],
      ⟨hrowId, hsub, hserver, hport, hhost, hprotocol, hactive⟩⟩

/-- Where nothing is entered and nobody welcomed, nothing has been registered. -/
theorem registered_none {α : Type} {frames : List (Option Message)} {q : ServerProg α}
    (hentries : entries me es = []) (hwelcomes : welcomes (replies es) = []) :
    ∃ rs, Registered X me frames es rs ∧ Welcomed es rs q :=
  ⟨[], .nil hentries, .inl hwelcomes⟩

theorem handleRegister_registered {q : ServerProg (Option Reader)}
    (h : (handleRegister X B me reader subdomain localPort localHost protocol apiKey).Path es q) :
    ∃ rs, Registered X me [some (.register subdomain localPort localHost protocol apiKey)] es rs ∧
      Welcomed es rs q := by
  have hrefused : ∀ {text : String} {es : List (Event serverSig)} {q : ServerProg (Option Reader)},
      (Prog.op (.node me (.send reader.msgTx (.error text))) fun _ => .ret none :
        ServerProg (Option Reader)).Path es q →
      entries me es = [] ∧ welcomes (replies es) = [] := by
    intro text es q h
    rcases Prog.path_op_iff.mp h with ⟨rfl, -⟩ | ⟨_, _, rfl, hret⟩
    · exact ⟨rfl, rfl⟩
    · obtain ⟨rfl, -⟩ := Prog.path_ret_iff.mp hret
      exact ⟨rfl, rfl⟩
  rw [handleRegister_eq] at h
  rcases Prog.path_op_iff.mp h with ⟨rfl, rfl⟩ | ⟨valid, rest, rfl, hrest⟩
  · exact registered_none rfl rfl
  rcases valid with e | _ | i
  · obtain ⟨hentries, hwelcomes⟩ := hrefused hrest
    exact registered_none hentries hwelcomes
  · obtain ⟨hentries, hwelcomes⟩ := hrefused hrest
    exact registered_none hentries hwelcomes
  rcases Prog.path_bind_iff.mp hrest with ⟨p, hp, rfl⟩ | ⟨es₁, es₂, result, rfl, hp, hlast⟩
  · -- the registration is under way
    have hsilent : welcomes (replies rest) = [] := by rw [replies_register hp]; rfl
    rcases register_stores hp with ⟨hentries, -⟩ | ⟨agentId, tx, hs, hid, -⟩
    · exact registered_none hentries hsilent
    · obtain ⟨r, hr, -⟩ := hs.registered X apiKey i hid (show entries me [] = [] from rfl)
      rw [List.append_nil] at hr
      refine ⟨[r], hr, .inr ⟨[], r, rfl, hsilent, ?_⟩⟩
      rcases p with ⟨_ | _⟩ | _ <;> exact nofun
  · have hsilent : welcomes (replies es₁) = [] := by rw [replies_register hp]; rfl
    rcases result with e | ⟨id, tx⟩
    · obtain ⟨hentries', hwelcomes'⟩ := hrefused hlast
      rcases register_stores hp with ⟨hentries, -⟩ | ⟨_, _, -, -, hreturned⟩
      · refine registered_none ?_ ?_
        · show entries me (es₁ ++ es₂) = []
          rw [entries_append, hentries, hentries']
          rfl
        · show welcomes (replies (es₁ ++ es₂)) = []
          rw [replies_append, welcomes_append, hsilent, hwelcomes']
          rfl
      · cases hreturned _ rfl
    · rcases register_stores hp with ⟨-, hfailed⟩ | ⟨agentId, tx', hs, hid, hreturned⟩
      · exact absurd rfl (hfailed _)
      cases hreturned _ rfl
      have hentries' : entries me es₂ = [] := by
        rcases Prog.path_op_iff.mp hlast with ⟨rfl, -⟩ | ⟨_, _, rfl, hret⟩
        · rfl
        · obtain ⟨rfl, -⟩ := Prog.path_ret_iff.mp hret
          rfl
      obtain ⟨r, hr, hwelcome⟩ := hs.registered X apiKey i hid hentries'
      refine ⟨[r], hr, ?_⟩
      have hall : welcomes (replies (es₁ ++ es₂)) = welcomes (replies es₂) := by
        rw [replies_append, welcomes_append, hsilent, List.nil_append]
      rcases path_reply hlast with ⟨hreplies, hq⟩ | ⟨hreplies, rfl⟩
      · refine .inr ⟨[], r, rfl, ?_, hq⟩
        show welcomes (replies (es₁ ++ es₂)) = []
        rw [hall, hreplies]
        rfl
      · refine .inl ?_
        show welcomes (replies (es₁ ++ es₂)) = _
        rw [hall, hreplies, List.map_singleton, hwelcome]
        rfl

/-- Only a `Register` leads to an entry or to a `Welcome`. -/
theorem frameOp_unregistered {frame : Option Message} {o : Op} (r : o.Res)
    (h : FrameOp X me reader frame o) (hframe : isRegister frame = false) :
    enteredAgent me ⟨o, r⟩ = none ∧ ∀ m, offeredMessage ⟨o, r⟩ = some m → isWelcome m = false := by
  rcases frame with _ | m
  · exact h.elim
  cases m with
  | register => cases hframe
  | heartbeat =>
    obtain ⟨id, -, rfl | rfl | ⟨now, rfl⟩⟩ := h <;> exact ⟨rfl, nofun⟩
  | httpResponse | tcpListenResponse | connectionEstablished =>
    obtain ⟨-, rfl⟩ := h
    exact ⟨rfl, nofun⟩
  | tcpConnect | tcpDisconnect =>
    obtain ⟨-, rfl⟩ := h
    refine ⟨rfl, fun m heq => ?_⟩
    obtain rfl := Option.some.inj heq
    rfl
  | _ => exact h.elim

theorem handleFrame_registered {frame : Option Message} {q : ServerProg (Option Reader)}
    (h : (handleFrame X B me reader frame).Path es q) :
    ∃ rs, Registered X me [frame] es rs ∧ Welcomed es rs q := by
  cases hframe : isRegister frame with
  | true =>
    rcases frame with _ | m
    · cases hframe
    cases m with
    | register => exact handleRegister_registered h
    | _ => cases hframe
  | false =>
    have hops := fun e he =>
      frameOp_unregistered e.2 ((h.issues (handleFrame_issues reader frame)).1 e he) hframe
    refine registered_none (entries_eq_nil fun e he => (hops e he).1) ?_
    refine List.filter_eq_nil_iff.mpr fun m hm => ?_
    obtain ⟨e, he, hoffered⟩ := List.mem_filterMap.mp hm
    simp [(hops e he).2 m hoffered]

theorem handleFrames_registered {frames : List (Option Message)}
    {q : ServerProg (List (Option Message))}
    (h : (handleFrames X B me reader frames).Path es q) :
    ∃ rs, Registered X me frames es rs ∧ Welcomed es rs q := by
  induction frames generalizing reader es with
  | nil =>
    obtain ⟨rfl, -⟩ := Prog.path_ret_iff.mp h
    exact registered_none rfl rfl
  | cons frame frames ih =>
    rw [handleFrames_cons] at h
    rcases Prog.path_bind_iff.mp h with ⟨p, hp, rfl⟩ | ⟨es₁, es₂, next, rfl, hp, hrest⟩
    · obtain ⟨rs, hrs, hwelcomed⟩ := handleFrame_registered hp
      have hlater : Registered X me frames [] [] := .nil rfl
      have hall := hrs.append hlater
      rw [List.append_nil, List.append_nil] at hall
      refine ⟨rs, hall, hwelcomed.imp id ?_⟩
      rintro ⟨before, last, hlast, hbefore, hlive⟩
      refine ⟨before, last, hlast, hbefore, ?_⟩
      rcases p with next | _
      · exact absurd rfl (hlive next)
      · exact nofun
    · obtain ⟨rs, hrs, hwelcomed | ⟨_, _, -, -, hlive⟩⟩ := handleFrame_registered hp
      swap
      · exact absurd rfl (hlive next)
      have hthen : ∃ rs', Registered X me frames es₂ rs' ∧ Welcomed es₂ rs' q := by
        cases next with
        | none =>
          obtain ⟨rfl, -⟩ := Prog.path_ret_iff.mp hrest
          exact registered_none rfl rfl
        | some reader' => exact ih hrest
      obtain ⟨rs', hrs', hwelcomed'⟩ := hthen
      refine ⟨rs ++ rs', hrs.append hrs', ?_⟩
      rcases hwelcomed' with hall | ⟨before, last, rfl, hbefore, hlive⟩
      · refine .inl ?_
        rw [replies_append, welcomes_append, hwelcomed, hall, List.map_append]
      · refine .inr ⟨rs ++ before, last, (List.append_assoc ..).symm, ?_, hlive⟩
        rw [replies_append, welcomes_append, hwelcomed, hbefore, List.map_append]

/-- What a connection has done tells its registrations. -/
theorem connection_registered {conn : Nat} {frames : List (Option Message)}
    {q : ServerProg (List (Option Message))}
    (h : (handleAgentConnection X B me conn frames).Path es q) :
    ∃ rs, Registered X me frames es rs ∧ Welcomed es rs q := by
  rw [handleAgentConnection_eq] at h
  rcases Prog.path_op_iff.mp h with ⟨rfl, -⟩ | ⟨msgTx, rest, rfl, hrest⟩
  · exact registered_none rfl rfl
  have hopened : ∀ {rs : List Registration}, Registered X me frames rest rs →
      Registered X me frames (⟨.node me (.openConnection conn), msgTx⟩ :: rest) rs :=
    fun hrs => ⟨hrs.frames, hrs.entries, hrs.ids, fun r hr => by
      obtain ⟨i, row, n, hvalid, hupsert, hrow⟩ := hrs.stored r hr
      exact ⟨i, row, n, .tail _ hvalid, .tail _ hupsert, hrow⟩⟩
  rcases Prog.path_bind_iff.mp hrest with ⟨p, hp, rfl⟩ | ⟨es₁, es₂, unread, rfl, hp, hlast⟩
  · obtain ⟨rs, hrs, hwelcomed⟩ := handleFrames_registered hp
    refine ⟨rs, hopened hrs, hwelcomed.imp id ?_⟩
    rintro ⟨before, last, hsplit, hbefore, hlive⟩
    refine ⟨before, last, hsplit, hbefore, ?_⟩
    rcases p with unread | _ <;> exact nofun
  · obtain ⟨rs, hrs, hwelcomed | ⟨_, _, -, -, hlive⟩⟩ := handleFrames_registered hp
    swap
    · exact absurd rfl (hlive unread)
    have hquiet : entries me es₂ = [] ∧ replies es₂ = [] := by
      rcases Prog.path_op_iff.mp hlast with ⟨rfl, -⟩ | ⟨_, _, rfl, hret⟩
      · exact ⟨rfl, rfl⟩
      · obtain ⟨rfl, -⟩ := Prog.path_ret_iff.mp hret
        exact ⟨rfl, rfl⟩
    have hclosed : Registered X me [] es₂ [] := .nil hquiet.1
    have hall := hrs.append hclosed
    rw [List.append_nil, List.append_nil] at hall
    refine ⟨rs, hopened hall, .inl ?_⟩
    show welcomes (replies (es₁ ++ es₂)) = _
    rw [replies_append, hquiet.2, List.append_nil, hwelcomed]

end Frames

end Connection

end Jrok
