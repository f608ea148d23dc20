import Jrok.Agent.Registrations
import Jrok.Server.Streams
import Jrok.Tunnel.Pending

/-!
# What an agent is told of its registration

A `Welcome` names an agent id. On every socket the welcomes are, in their order, those of the
registrations that have gone through on its connection, and no id is named twice. So an agent that
has been welcomed was in the map of its server under that id, and an upsert of the table went
through, both with the data of its own `Register`. The row of a subdomain that had one already keeps
its id.
-/

namespace Jrok

open Concurrency

theorem World.openHandler_agents {B : Backend} {faulty lookups : Bool} {c : Choice} {o : Op}
    {w w' : World} {r : o.Res} (h : World.openHandler B faulty lookups c o w = some (r, w'))
    (s : String) : (w'.node s).agents = o.onAgents s (w.node s).agents := by
  rcases World.openHandler_cases h with hop | ⟨rfl, ⟨n, id, m, rfl⟩ | ⟨n, rfl, -⟩⟩
  · exact World.handler_agents hop s
  · simp [Op.onAgents, NodeOp.onAgents]
  · simp [Op.onAgents, NodeOp.onAgents]

namespace Connection

variable {D : Deployment} {T : Traffic} {me : String} {conn : Nat} {log : ServerLog}

/-- A task draws each of its UUIDs once. -/
theorem uuids_nodup {t : String × Work} (h : Causal (Accounted me) log) :
    (uuids (Log.own t log)).Nodup := by
  induction log with
  | nil => exact List.nodup_nil
  | cons head log ih =>
    obtain ⟨u, o, r⟩ := head
    have hold := ih h.2
    by_cases hu : u = t
    swap
    · rwa [Log.own, if_neg hu]
    rw [Log.own, if_pos hu, uuids_append]
    cases o with
    | uuid =>
      refine List.nodup_append.mpr ⟨hold, List.nodup_singleton _, fun a ha b hb => ?_⟩
      obtain rfl := List.mem_singleton.mp hb
      rintro rfl
      obtain ⟨⟨o, r'⟩, he, hdrawn⟩ := List.mem_filterMap.mp ha
      cases o with
      | uuid =>
        obtain rfl := Option.some.inj hdrawn
        exact h.1 _ (Log.mem_own.mp he) rfl
      | _ => cases hdrawn
    | _ => rwa [show uuids [_] = [] from rfl, List.append_nil]

/-- The registrations of a connection, and what its agent is told of them. -/
structure WelcomesTold (D : Deployment) (T : Traffic) (me : String) (conn : Nat) (c : ServerPool)
    (rs : List Registration) : Prop where
  registered : Registered D.codec me (T.frames me conn)
    (Log.own (me, .connection conn) c.shared.2) rs
  distinct : (rs.map (·.agentId)).Nodup
  /-- the `Welcome` of the last one may still be on its way to the writer -/
  offered : welcomes (replied me conn c.shared.2) = rs.map (·.welcome) ∨
    (∃ before last, rs = before ++ [last] ∧
      welcomes (replied me conn c.shared.2) = before.map (·.welcome)) ∧
    ∀ a, c.task (me, .connection conn) ≠ .idle (some a)
  told : welcomes ((c.shared.1.node me).sent conn) <+: rs.map (·.welcome)

/-- The registrations of all connections. Their ids are all different, and every entry of an agents
    map is from one of them. -/
structure WelcomesTrue (D : Deployment) (T : Traffic) (c : ServerPool)
    (registrations : String → Nat → List Registration) : Prop where
  told : ∀ me conn, WelcomesTold D T me conn c (registrations me conn)
  once : ∀ me conn me' conn', ∀ r ∈ registrations me conn, ∀ r' ∈ registrations me' conn',
    r.agentId = r'.agentId → me = me' ∧ conn = conn'
  entries : ∀ me id st, (c.shared.1.node me).agents.lookup id = some st →
    ∃ conn, ∃ r ∈ registrations me conn, r.entry = (id, st)

section Runs

variable {faulty lookups : Bool} {c₀ c : ServerPool}

/-- The registrations of a connection, with all of them welcomed once its task has ended. -/
theorem exists_registrations (h : System.Traced (program D T) c) (me : String) (conn : Nat) :
    ∃ rs, Registered D.codec me (T.frames me conn)
        (Log.own (me, .connection conn) c.shared.2) rs ∧
      (welcomes (replied me conn c.shared.2) = rs.map (·.welcome) ∨
        (∃ before last, rs = before ++ [last] ∧
          welcomes (replied me conn c.shared.2) = before.map (·.welcome)) ∧
        ∀ a, c.task (me, .connection conn) ≠ .idle (some a)) := by
  by_cases hdone : ∃ a, c.task (me, .connection conn) = .idle (some a)
  · obtain ⟨a, ha⟩ := hdone
    obtain ⟨es₁, es₂, unread, hown, hp, hret⟩ := Prog.path_bind_ret_iff.mp (h.returned ha)
    obtain ⟨rfl, -⟩ := Prog.path_ret_iff.mp hret
    rw [List.append_nil] at hown
    obtain ⟨rs, hrs, hall | ⟨_, _, -, -, hlive⟩⟩ := connection_registered hp
    · exact ⟨rs, hown ▸ hrs, .inl (by rw [replied, hown, hall])⟩
    · exact absurd rfl (hlive unread)
  · obtain ⟨p, hp⟩ := connection_own h.follows conn
    obtain ⟨rs, hrs, hwelcomed⟩ := connection_registered hp
    refine ⟨rs, hrs, hwelcomed.imp id ?_⟩
    rintro ⟨before, last, hsplit, hbefore, -⟩
    exact ⟨⟨before, last, hsplit, hbefore⟩, fun a ha => hdone ⟨a, ha⟩⟩

/-- An entry that a connection has inserted is from one of its registrations. -/
theorem Registered.exists_entry {X : Codec} {frames : List (Option Message)}
    {es : List (Event serverSig)} {rs : List Registration} {id : String} {st : AgentState}
    (h : Registered X me frames es rs)
    (he : (⟨.node me (.agentsInsert id st), ()⟩ : Event serverSig) ∈ es) :
    ∃ r ∈ rs, r.entry = (id, st) := by
  have hentry : (id, st) ∈ Connection.entries me es :=
    List.mem_filterMap.mpr ⟨_, he, if_pos rfl⟩
  rw [h.entries] at hentry
  exact List.mem_map.mp hentry

/-- The id of a registration has been drawn by its connection. -/
theorem Registered.drawn {X : Codec} {frames : List (Option Message)} {rs : List Registration}
    (h : Registered X me frames (Log.own (me, .connection conn) log) rs) {r : Registration}
    (hr : r ∈ rs) : ((me, Work.connection conn), (⟨.uuid, r.agentId⟩ : Event serverSig)) ∈ log := by
  have hid := h.ids.subset (List.mem_map_of_mem hr)
  obtain ⟨⟨o, u⟩, he, hdrawn⟩ := List.mem_filterMap.mp hid
  cases o with
  | uuid =>
    obtain rfl := Option.some.inj hdrawn
    exact Log.mem_own.mp he
  | _ => cases hdrawn

/-- In every run of any number of servers, whatever their other tasks do. -/
theorem welcomes_true (hidle : ∀ t, c₀.task t = .idle none) (hlog : c₀.shared.2 = [])
    (hnew : ∀ s, c₀.shared.1.node s = .new) (hr : (writing D T faulty lookups).Reachable c₀ c) :
    ∃ registrations, WelcomesTrue D T c registrations := by
  have htraced : System.Traced (program D T) c :=
    (streaming_reachable hidle hlog (hnew "") hr).1
  have hremembers : Remembers "" c.shared.1 c.shared.2 :=
    .of_reachable (by rw [hnew]; rfl) (by rw [hnew]; exact fun _ => rfl) hidle hlog hr.of_restrict
  choose registrations hregistered hoffered using exists_registrations htraced
  refine ⟨registrations, fun me conn => ?_, fun me conn me' conn' r hr r' hr' hsame => ?_,
    fun me id st hentry => ?_⟩
  · have hS : Streaming me c.shared.1 c.shared.2 :=
      (streaming_reachable hidle hlog (hnew me) hr).2
    have hsent := (hS.sent_prefix conn).filter isWelcome
    refine ⟨hregistered me conn, (hregistered me conn).ids.nodup (uuids_nodup hremembers.causal),
      hoffered me conn, hsent.trans ?_⟩
    rcases hoffered me conn with hall | ⟨⟨before, last, hsplit, hbefore⟩, -⟩
    · exact hall ▸ List.prefix_refl _
    · rw [hsplit, List.map_append]
      exact hbefore ▸ List.prefix_append _ _
  · have hdrawn := (hregistered me conn).drawn hr
    have hdrawn' := (hregistered me' conn').drawn hr'
    rw [← hsame] at hdrawn'
    obtain ⟨hme, hconn⟩ := Prod.mk.inj (handedOut_unique hremembers.causal hdrawn hdrawn')
    exact ⟨hme, Work.connection.inj hconn⟩
  · obtain ⟨t, ht⟩ := entry_event System.keepsLog_restrict
      (fun _ _ _ _ _ _ hop => World.openHandler_agents hop _) (by rw [hnew]; rfl) hidle hlog hr
      id st hentry
    obtain ⟨newer, older, hsplit⟩ := List.append_of_mem ht
    have hf := htraced.follows
    rw [hsplit] at hf
    obtain ⟨conn, rfl⟩ := connection_task rfl hf.of_append
    exact ⟨conn, (hregistered me conn).exists_entry (Log.mem_own.mpr ht)⟩

end Runs

/-- An agent registers two subdomains on one connection. -/
def registeringTwice : Traffic where
  request _ _ := .sessionStatus ""
  frames _ _ := [some (.register "app" 8080 "localhost" "http" "secret"),
    some (.register "api" 8081 "localhost" "http" "secret")]

/-- The agent has been told of the first; the second has been entered. -/
def registeredTwice : List (Move (String × Work) Unit Choice) :=
  registering 0 "agent" "token" ++
    [.start ("s", .writer 0 0) (), .act ("s", .writer 0 0) .go,
      .act ("s", .writer 0 0) (.io true)] ++
    [.go, .fresh "other", .fresh "token'", .go, .go, .read 2000, .read 2000, .read 2000, .go,
      .read 2000, .go].map fun c => .act ("s", .connection 0) c

theorem welcomes_true_twice :
    ∃ c, (writing .sample registeringTwice false false).Reachable ready c ∧
      (c.shared.1.node "s").sent 0 = [.welcome "agent" "app" "http"] ∧
      ((c.shared.1.node "s").agents.lookup "other").map (·.subdomain) = some "api" ∧
      ∃ registrations, WelcomesTrue .sample registeringTwice c registrations := by
  have hrun : ((writing .sample registeringTwice false false).replay registeredTwice ready).map
      (fun c => ((c.shared.1.node "s").sent 0,
        ((c.shared.1.node "s").agents.lookup "other").map (·.subdomain))) =
      some ([.welcome "agent" "app" "http"], some "api") := by decide +kernel
  obtain ⟨c, hc, hproj⟩ := Option.map_eq_some_iff.mp hrun
  obtain ⟨hsent, hentry⟩ := Prod.mk.inj hproj
  exact ⟨c, ⟨_, hc⟩, hsent, hentry, welcomes_true (fun _ => rfl) rfl (fun _ => rfl) ⟨_, hc⟩⟩

end Connection

end Jrok
