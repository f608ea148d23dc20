import Jrok.Agent.Uniqueness

/-!
# Heartbeats and sweeps

There are two staleness clocks: the `last_heartbeat` of a map entry, read by the first half of
`cleanup_stale`, and the `last_heartbeat` of a row, read by the second half. `update_heartbeat`
moves the second only. An agent is therefore evicted once its registration is older than the
timeout, however recent its heartbeats are.
-/

namespace Jrok

open Concurrency

namespace AgentRegistry

/-- The contacts of the agents: the clock reading that a registration took for its entry, and
    the readings that heartbeats took. -/
structure Contacts where
  registered : String → Option Int
  beats : List (String × Int)

def contactAfter (me : String) : (o : Op) → o.Res → World → Contacts → Contacts
  | .node n (.agentsInsert id st), _, _, g =>
    if n = me then
      { g with registered := Function.update g.registered id (some st.lastHeartbeat) }
    else g
  | .sql (.sendAgentHeartbeat now id), .ok _, _, g => { g with beats := (id, now) :: g.beats }
  | _, _, _, g => g

/-- The agent registered or sent a heartbeat in the last `timeoutMs` milliseconds before `now`. -/
def Contacts.Recent (g : Contacts) (id : String) (timeoutMs now : Int) : Prop :=
  ∃ t, (g.registered id = some t ∨ (id, t) ∈ g.beats) ∧ now - timeoutMs ≤ t ∧ t ≤ now

/-- Concurrent calls on the registry of `me`, with the contacts as history. -/
abbrev contactPool (B : Backend) (me : String) :
    System serverSig Nat Unit RegistryCall (World × Contacts) Choice :=
  (registryPool B me).observe fun _ => contactAfter me

/-- An entry is as old as the registration: no heartbeat moves it. -/
structure ContactInv (me : String) (x : World × Contacts) : Prop where
  clock_nonneg : 0 ≤ x.1.clock
  entry : ∀ id st, (x.1.node me).agents.lookup id = some st →
    x.2.registered id = some st.lastHeartbeat

theorem contactAfter_registered {me : String} {o : Op} {r : o.Res} {w : World} {g : Contacts}
    (ho : ∀ id st, o ≠ .node me (.agentsInsert id st)) :
    (contactAfter me o r w g).registered = g.registered := by
  unfold contactAfter
  split
  · rw [if_neg fun hn => ho _ _ (congrArg (Op.node · _) hn)]
  · rfl
  · rfl

theorem ContactInv.step {B : Backend} {me : String} {c : Choice} {o : Op} {r : o.Res}
    {x x' : World × Contacts} (hI : ContactInv me x)
    (h : (World.handler B false).observe (contactAfter me) c o x = some (r, x')) :
    ContactInv me x' := by
  obtain ⟨hop, hg⟩ := Handler.observe_eq_some.mp h
  refine ⟨le_trans hI.clock_nonneg (World.handler_clock hop), fun k st hk => ?_⟩
  rcases World.agents_cases hop me with ⟨id, st', rfl, hmap⟩ | ⟨id, rfl, hmap⟩ | ⟨hins, -, hmap⟩
  · rw [hmap] at hk
    by_cases hkid : k = id
    · subst hkid
      obtain rfl : st' = st := by simpa using hk
      simp [hg, contactAfter]
    · rw [AList.lookup_insert_ne hkid] at hk
      simpa [hg, contactAfter, hkid] using hI.entry k st hk
  · rw [hmap] at hk
    by_cases hkid : k = id
    · subst hkid
      simp at hk
    · rw [AList.lookup_erase_ne hkid] at hk
      rw [hg, contactAfter_registered (by simp)]
      exact hI.entry k st hk
  · rw [hmap] at hk
    rw [hg, contactAfter_registered hins]
    exact hI.entry k st hk

/-! ## What a sweep does -/

/-- The entries of `ids` are gone; every other entry and every row of another id is as before. -/
structure Unregistered (me : String) (ids : List String) (w w' : World) : Prop where
  gone : ∀ id ∈ ids, (w'.node me).agents.lookup id = none
  kept : ∀ id, id ∉ ids → (w'.node me).agents.lookup id = (w.node me).agents.lookup id
  rows : ∀ r : AgentRow, r.id ∉ ids → (r ∈ w'.db.agents ↔ r ∈ w.db.agents)
  clock : w.clock ≤ w'.clock

theorem Unregistered.nil (me : String) (w : World) : Unregistered me [] w w where
  gone _ hid := absurd hid List.not_mem_nil
  kept _ _ := rfl
  rows _ _ := Iff.rfl
  clock := le_refl _

theorem Unregistered.append {me : String} {ids ids' : List String} {w₁ w₂ w₃ : World}
    (h₁ : Unregistered me ids w₁ w₂) (h₂ : Unregistered me ids' w₂ w₃) :
    Unregistered me (ids ++ ids') w₁ w₃ where
  gone id hid := by
    by_cases hid' : id ∈ ids'
    · exact h₂.gone id hid'
    · rw [h₂.kept id hid']
      exact h₁.gone id ((List.mem_append.mp hid).resolve_right hid')
  kept id hid := by
    obtain ⟨hid₁, hid₂⟩ := not_or.mp (mt List.mem_append.mpr hid)
    rw [h₂.kept id hid₂, h₁.kept id hid₁]
  rows r hid := by
    obtain ⟨hid₁, hid₂⟩ := not_or.mp (mt List.mem_append.mpr hid)
    exact (h₂.rows r hid₂).trans (h₁.rows r hid₁)
  clock := le_trans h₁.clock h₂.clock

section Sweep

variable {B : Backend} {me : String} {w w' : World}

theorem unregister_post (id : String) :
    (unregister me id).run.post (World.handler B false) (fun _ => Unregistered me [id] w) w := by
  rw [unregister_eq, Prog.post_op]
  intro c st w₁ hremove
  obtain ⟨rfl, hdb, hclock, -, hmap⟩ := remove_step hremove
  have hremoved : Unregistered me [id] w w₁ := by
    refine ⟨by simp [hmap], fun k hk => ?_, fun r _ => by rw [hdb],
      le_of_eq hclock.symm⟩
    rw [hmap]
    exact AList.lookup_erase_ne (by simpa using hk)
  cases (w.node me).agents.lookup id with
  | none => exact Prog.post_ret.mpr hremoved
  | some st =>
    simp only [Prog.post_op, Prog.post_ret]
    intro c now w₂ hnow c r w₃ hsql
    have hsame := AgentsKept.now.same hnow
    obtain ⟨-, -, rfl⟩ := World.exec_sql_go.mp hsql
    refine ⟨fun k hk => ?_, fun k hk => ?_, fun r hr => ?_, le_trans hremoved.clock hsame.clock⟩
    · rw [← hremoved.gone k hk, ← hsame.map me]
    · rw [← hremoved.kept k hk, ← hsame.map me]
    · rw [← hremoved.rows r hr, ← hsame.rows]
      exact Relational.Table.mem_updateWhere_key_ne (by intro; rfl) (by simpa using hr)

theorem unregisterAll_post (ids : List String) :
    (unregisterAll me ids).run.post (World.handler B false)
      (fun r w' => r = .ok () → Unregistered me ids w w') w := by
  induction ids generalizing w with
  | nil => exact Prog.post_ret.mpr fun _ => .nil me w
  | cons id rest ih =>
    rw [unregisterAll_cons, Prog.post_bind]
    refine Prog.post_mono (fun r w₁ hfirst => ?_) (unregister_post id)
    cases r with
    | ok u => exact Prog.post_mono (fun r w₂ hrest hr => hfirst.append (hrest hr)) ih
    | error e => exact Prog.post_ret.mpr fun hr => by simp at hr

/-- The ids that a sweep collects are those whose entry is older than the cutoff. -/
theorem mem_staleIds {m : StringMap AgentState} {entries : List (Σ _ : String, AgentState)}
    (hp : entries.Perm m.entries) {cutoff : Int} {id : String} :
    id ∈ staleIds cutoff entries ↔
      ∃ st, m.lookup id = some st ∧ st.lastHeartbeat < cutoff := by
  simp only [staleIds, List.mem_map, List.mem_filter, decide_eq_true_eq]
  constructor
  · rintro ⟨⟨k, st⟩, ⟨hmem, hold⟩, rfl⟩
    exact ⟨st, AList.mem_lookup_iff.mpr (hp.subset hmem), hold⟩
  · rintro ⟨st, hlookup, hold⟩
    exact ⟨⟨id, st⟩, ⟨hp.symm.subset (AList.mem_lookup_iff.mp hlookup), hold⟩, rfl⟩

/-- A sweep that returns `Ok` has unregistered the entries older than its first reading allows,
    and then deactivated the rows of `me` older than its second reading allows. -/
theorem cleanupStale_ok {timeoutMs now : Int} {cs : List Choice}
    (h : (cleanupStale me timeoutMs).run.play (World.handler B false) (.read now :: cs) w =
      some (.ok (), w')) :
    w.clock ≤ now ∧ now < clockBound ∧ ∃ entries mid now' w₁,
      entries.Perm (w.node me).agents.entries ∧ cs = mid ++ [.read now', .go] ∧
      Unregistered me (staleIds (subI64 now timeoutMs) entries) w w₁ ∧
      now ≤ now' ∧ now' < clockBound ∧
      (w'.node me).agents = (w₁.node me).agents ∧
      w'.db = ((Sql.cleanupStaleAgents me
        (subI64 now' (u64AsI64 (i64AsU64 timeoutMs)))).exec B w₁.db).2 := by
  rw [cleanupStale_eq] at h
  obtain ⟨c, rest, n, w₂, hcs, hnow, h⟩ := Prog.play_op_iff.mp h
  obtain ⟨rfl, rfl⟩ := List.cons.inj hcs
  obtain ⟨hn, hlo, hhi, rfl⟩ := World.exec_now.mp hnow
  obtain rfl : now = n := by simpa using hn
  obtain ⟨c, rest, entries, w₃, rfl, hiter, h⟩ := Prog.play_op_iff.mp h
  obtain ⟨hp, rfl⟩ := iter_step hiter
  obtain ⟨cs₁, cs₂, r, w₄, rfl, hall, h⟩ := Prog.play_bind_iff.mp h
  cases r with
  | error e =>
    obtain ⟨-, hr, -⟩ := Prog.play_ret_iff.mp h
    simp at hr
  | ok u =>
    have hun := unregisterAll_post _ _ _ _ hall rfl
    obtain ⟨c, rest, now', w₅, rfl, hnow', h⟩ := Prog.play_op_iff.mp h
    obtain ⟨rfl, hlo', hhi', rfl⟩ := World.exec_now.mp hnow'
    obtain ⟨c, rest, r, w₆, rfl, hsql, h⟩ := Prog.play_op_iff.mp h
    obtain ⟨rfl, -, rfl⟩ := World.exec_sql_go.mp hsql
    obtain ⟨rfl, -, rfl⟩ := Prog.play_ret_iff.mp h
    exact ⟨hlo, hhi, entries, _ :: cs₁, now', w₄, hp, rfl,
      ⟨hun.gone, hun.kept, hun.rows, le_trans hlo hun.clock⟩, le_trans hun.clock hlo', hhi', rfl,
      rfl⟩

/-- The agent is still in the map, and its row is still active if it was. -/
def Kept (me id : String) (w w' : World) : Prop :=
  id ∈ (w'.node me).agents ∧
    ∀ r ∈ w.db.agents, r.id = id → r.active = true →
      ∃ r' ∈ w'.db.agents, r'.id = id ∧ r'.active = true

/-- Whether a sweep keeps an agent is decided by the age of its entry at the first reading and by
    the age of its row at the second. -/
theorem kept_iff {ids : List String} {id : String} {cutoff : Int} {w₁ : World}
    (hun : Unregistered me ids w w₁) (hmap : (w'.node me).agents = (w₁.node me).agents)
    (hdb : w'.db = ((Sql.cleanupStaleAgents me cutoff).exec B w₁.db).2) :
    Kept me id w w' ↔ id ∈ (w.node me).agents ∧ id ∉ ids ∧
      ∀ r ∈ w.db.agents, r.id = id → r.serverId = me → r.active = true →
        cutoff ≤ r.lastHeartbeat := by
  have hrows : ∀ r', r' ∈ w'.db.agents ↔ ∃ r ∈ w₁.db.agents,
      (if r.serverId = me && r.lastHeartbeat < cutoff && r.active then
        { r with active := false } else r) = r' := by
    intro r'
    rw [hdb]
    exact Relational.Table.mem_updateWhere (by intro; rfl)
  have hentry : id ∈ (w'.node me).agents ↔ id ∈ (w.node me).agents ∧ id ∉ ids := by
    rw [hmap]
    by_cases hid : id ∈ ids
    · simp [hid, ← AList.lookup_isSome, hun.gone id hid]
    · simp [hid, ← AList.lookup_isSome, hun.kept id hid]
  unfold Kept
  rw [hentry, and_assoc]
  refine and_congr_right fun _ => and_congr_right fun hid => ?_
  constructor
  · intro hkept r hr hrid hserver hactive
    obtain ⟨r', hr', hrid', hactive'⟩ := hkept r hr hrid hactive
    obtain ⟨r₁, hr₁, rfl⟩ := (hrows r').mp hr'
    have hr₁' : r ∈ w₁.db.agents := (hun.rows r (hrid ▸ hid)).mpr hr
    have hkey : r₁.id = r.id := by
      rw [hrid, ← hrid']
      split <;> rfl
    obtain rfl := Relational.Table.eq_of_key_eq hr₁ hr₁' hkey
    by_contra hold
    simp [hserver, hactive, not_le.mp hold] at hactive'
  · intro hfresh r hr hrid hactive
    refine ⟨r, (hrows r).mpr ⟨r, (hun.rows r (hrid ▸ hid)).mpr hr, ?_⟩, hrid, hactive⟩
    by_cases hserver : r.serverId = me
    · simp [not_lt.mpr (hfresh r hr hrid hserver hactive)]
    · simp [hserver]

end Sweep

/-- After any interleaving of calls: a sweep keeps an agent that it has heard from in time exactly
    if the agent is in the map, registered in time, and has a row that is recent enough when the
    sweep gets to the table. -/
theorem heartbeat_keeps_iff {B : Backend} {me id : String} {timeoutMs now : Int} {cs : List Choice}
    {c₀ c : Config serverSig Nat Unit (World × Contacts)} {w' : World}
    (hclock : 0 ≤ c₀.shared.1.clock) (hempty : (c₀.shared.1.node me).agents = ∅)
    (hr : (contactPool B me).Reachable c₀ c)
    (hsweep : (cleanupStale me timeoutMs).run.play (World.handler B false) (.read now :: cs)
      c.shared.1 = some (.ok (), w'))
    (htimeout : timeoutMs < 2 ^ 63) (hrecent : c.shared.2.Recent id timeoutMs now) :
    ∃ mid now', cs = mid ++ [.read now', .go] ∧
      (Kept me id c.shared.1 w' ↔
        id ∈ (c.shared.1.node me).agents ∧
        (∃ t, c.shared.2.registered id = some t ∧ now - t ≤ timeoutMs) ∧
        ∀ r ∈ c.shared.1.db.agents, r.id = id → r.serverId = me → r.active = true →
          now' - r.lastHeartbeat ≤ timeoutMs) := by
  have hI : ContactInv me c.shared := by
    refine hr.shared_invariant (ContactInv me) ?_ ⟨hclock, fun k st hk => ?_⟩
    · intro t ch o x r x' hI hop
      exact hI.step hop
    · simp [hempty] at hk
  obtain ⟨hlo, hhi, entries, mid, now', w₁, hp, rfl, hun, hle, hhi', hmap, hdb⟩ :=
    cleanupStale_ok hsweep
  have hbound : clockBound = 2 ^ 63 := rfl
  have hnonneg : 0 ≤ timeoutMs := by
    obtain ⟨t, -, hfrom, hto⟩ := hrecent
    omega
  have hstart := hI.clock_nonneg
  have hcut : subI64 now timeoutMs = now - timeoutMs := subI64_of_range (by omega) (by omega)
  have hcut' : subI64 now' (u64AsI64 (i64AsU64 timeoutMs)) = now' - timeoutMs := by
    rw [u64AsI64_i64AsU64 (by omega) htimeout]
    exact subI64_of_range (by omega) (by omega)
  rw [hcut] at hun
  rw [hcut'] at hdb
  refine ⟨mid, now', rfl, (kept_iff hun hmap hdb).trans ?_⟩
  refine and_congr_right fun hmem => and_congr ?_ ?_
  · obtain ⟨st, hst⟩ := Option.isSome_iff_exists.mp (AList.lookup_isSome.mpr hmem)
    rw [mem_staleIds hp, hI.entry id st hst, hst]
    constructor
    · intro hfresh
      refine ⟨_, rfl, ?_⟩
      by_contra hold
      exact hfresh ⟨st, rfl, by omega⟩
    · rintro ⟨t, ht, hage⟩ ⟨st', hst', hold⟩
      obtain rfl := Option.some.inj ht
      obtain rfl := Option.some.inj hst'
      omega
  · refine forall_congr' fun r => forall_congr' fun _ => forall_congr' fun _ =>
      forall_congr' fun _ => forall_congr' fun _ => ?_
    omega

/-- A server before its first call. -/
def idleContacts : Config serverSig Nat Unit (World × Contacts) :=
  ⟨(.started "a", ⟨fun _ => none, []⟩), fun _ => .idle ()⟩

def beatMoves (t : Nat) (id : String) (now : Int) : List (Move Nat RegistryCall Choice) :=
  [.start t (.updateHeartbeat id), .act t .go, .act t (.read now), .act t .go, .finish t]

/-- A sweep right after a registration keeps the agent. -/
theorem heartbeat_keeps_iff_registered :
    ∃ c w', (contactPool (.keyed none) "a").Reachable idleContacts c ∧
      (cleanupStale "a" 5000).run.play (World.handler (.keyed none) false)
        [.read 2000, .order [demoEntry "i" 0 1000], .read 2000, .go] c.shared.1 =
          some (.ok (), w') ∧
      Kept "a" "i" c.shared.1 w' := by
  have hrun : ((contactPool (.keyed none) "a").replay (demoChecks 0 "i" "k" ++ demoStores 0 1000)
      idleContacts).bind (fun c => ((cleanupStale "a" 5000).run.play
        (World.handler (.keyed none) false)
        [.read 2000, .order [demoEntry "i" 0 1000], .read 2000, .go] c.shared.1).map fun x =>
          (x.1.toBool, (c.shared.1.node "a").agents.keys, c.shared.2.registered "i",
            c.shared.1.db.agents.rows.map (·.lastHeartbeat))) =
      some (true, ["i"], some 1000, [1000]) := by decide +kernel
  obtain ⟨c, hc, hplay⟩ := Option.bind_eq_some_iff.mp hrun
  obtain ⟨⟨r, w'⟩, hsweep, hproj⟩ := Option.map_eq_some_iff.mp hplay
  simp only [Prod.mk.injEq] at hproj
  obtain ⟨hok, hkeys, hregistered, hrows⟩ := hproj
  cases r with
  | error e => simp [Except.toBool] at hok
  | ok u =>
    refine ⟨c, w', ⟨_, hc⟩, hsweep, ?_⟩
    obtain ⟨mid, now', hcs, hiff⟩ := heartbeat_keeps_iff (le_refl 0) rfl ⟨_, hc⟩ hsweep (by decide)
      ⟨1000, .inl hregistered, by decide, by decide⟩
    refine hiff.mpr ⟨?_, ⟨1000, hregistered, by decide⟩, fun r hr _ _ _ => ?_⟩
    · show "i" ∈ (c.shared.1.node "a").agents.keys
      simp [hkeys]
    · have hbeat : r.lastHeartbeat ∈ c.shared.1.db.agents.rows.map (·.lastHeartbeat) :=
        List.mem_map_of_mem hr
      rw [hrows, List.mem_singleton] at hbeat
      have hnow : now' = 2000 := by
        have hlast := congrArg (fun l => l.dropLast.getLast?) hcs
        simpa [← List.append_assoc] using hlast.symm
      omega

/-- An agent registers at 1000 and sends a heartbeat at 30000. The sweep at 31000 with a timeout
    of 5000 removes its entry and deactivates its row. -/
theorem heartbeating_agent_evicted :
    ∃ c w', (contactPool (.keyed none) "a").Reachable idleContacts c ∧
      (cleanupStale "a" 5000).run.play (World.handler (.keyed none) false)
        [.read 31000, .order [demoEntry "i" 0 1000], .go, .read 31000, .go, .read 31000, .go]
        c.shared.1 = some (.ok (), w') ∧
      "i" ∈ (c.shared.1.node "a").agents ∧ c.shared.2.Recent "i" 5000 31000 ∧
      "i" ∉ (w'.node "a").agents ∧ ¬ Kept "a" "i" c.shared.1 w' := by
  have hrun : ((contactPool (.keyed none) "a").replay
      (demoChecks 0 "i" "k" ++ demoStores 0 1000 ++ beatMoves 0 "i" 30000)
      idleContacts).bind (fun c => ((cleanupStale "a" 5000).run.play
        (World.handler (.keyed none) false)
        [.read 31000, .order [demoEntry "i" 0 1000], .go, .read 31000, .go, .read 31000, .go]
        c.shared.1).map fun x =>
          (x.1.toBool, (c.shared.1.node "a").agents.keys, c.shared.2.beats,
            (x.2.node "a").agents.keys)) =
      some (true, ["i"], [("i", 30000)], []) := by decide +kernel
  obtain ⟨c, hc, hplay⟩ := Option.bind_eq_some_iff.mp hrun
  obtain ⟨⟨r, w'⟩, hsweep, hproj⟩ := Option.map_eq_some_iff.mp hplay
  simp only [Prod.mk.injEq] at hproj
  obtain ⟨hok, hkeys, hbeats, hgone⟩ := hproj
  cases r with
  | error e => simp [Except.toBool] at hok
  | ok u =>
    have hnot : "i" ∉ (w'.node "a").agents := by
      show "i" ∉ (w'.node "a").agents.keys
      simp [hgone]
    refine ⟨c, w', ⟨_, hc⟩, hsweep, ?_, ⟨30000, .inr ?_, by decide, by decide⟩, hnot,
      fun hkept => hnot hkept.1⟩
    · show "i" ∈ (c.shared.1.node "a").agents.keys
      simp [hkeys]
    · simp [hbeats]

end AgentRegistry

end Jrok
