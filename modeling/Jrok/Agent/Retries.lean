import Jrok.Agent.Heartbeats

/-!
# Retries after a failed call

What `unregister` and `cleanup_stale` leave behind where a database call fails. The entry of the
map is removed before the row is updated, so the agent of a failed update is out of the map with its
row still active, where a retry does not look for it.
-/

namespace Jrok

open Concurrency

namespace AgentRegistry

/-- The last statement that has failed. -/
def failedAfter : (o : Op) → o.Res → World → Option Sql → Option Sql
  | .sql q, .error _, _, _ => some q
  | _, _, _, g => g

/-- The operations of a call whose database calls may fail. -/
abbrev failingHandler (B : Backend) (faulty : Bool) :
    Handler serverSig (World × Option Sql) Choice :=
  (World.handler B faulty).observe failedAfter

/-- The table of agents has an active row of this id. -/
def HasActiveRow (w : World) (id : String) : Prop :=
  ∃ row ∈ w.db.agents, row.id = id ∧ row.active = true

/-- The entries of `done` and `lost` are gone from the map, and the rows of `done` are inactive. -/
structure Swept (me : String) (done lost : List String) (w w' : World) : Prop where
  map : ∀ k, (w'.node me).agents.lookup k =
    if k ∈ done ++ lost then none else (w.node me).agents.lookup k
  rows : ∀ k, HasActiveRow w' k ↔ HasActiveRow w k ∧ k ∉ done

theorem Swept.nil (me : String) (w : World) : Swept me [] [] w w where
  map _ := by simp
  rows _ := by simp

theorem Swept.append {me : String} {done done' lost : List String} {w₁ w₂ w₃ : World}
    (h₁ : Swept me done [] w₁ w₂) (h₂ : Swept me done' lost w₂ w₃) :
    Swept me (done ++ done') lost w₁ w₃ where
  map k := by
    rw [h₂.map, h₁.map, List.append_nil, List.append_assoc]
    by_cases hlater : k ∈ done' ++ lost
    · rw [if_pos hlater, if_pos (List.mem_append_right done hlater)]
    · rw [if_neg hlater]
      by_cases hdone : k ∈ done
      · rw [if_pos hdone, if_pos (List.mem_append_left _ hdone)]
      · rw [if_neg hdone, if_neg (by simp only [List.mem_append] at hlater ⊢; tauto)]
  rows k := by
    rw [h₂.rows, h₁.rows, List.mem_append, not_or, and_assoc]

section Specs

variable {B : Backend} {faulty : Bool} {me : String} {w : World} {g : Option Sql}
  {x' : World × Option Sql} {cs : List Choice} {r : Except Error Unit} {id : String}

theorem hasActiveRow_unregisterAgent {w' : World} {now : Int}
    (hdb : w'.db = ((Sql.unregisterAgent now id).exec B w.db).2) (k : String) :
    HasActiveRow w' k ↔ HasActiveRow w k ∧ k ≠ id := by
  unfold HasActiveRow
  rw [hdb]
  simp only [Sql.exec, Database.updateAgents, Relational.Table.mem_updateWhere,
    decide_eq_true_eq]
  constructor
  · rintro ⟨row, ⟨row', hrow', rfl⟩, hid, hactive⟩
    by_cases heq : row'.id = id
    · rw [if_pos heq] at hactive
      cases hactive
    · rw [if_neg heq] at hid hactive
      refine ⟨⟨row', hrow', hid, hactive⟩, ?_⟩
      rw [← hid]
      exact heq
  · rintro ⟨⟨row, hrow, hid, hactive⟩, hne⟩
    have heq : ¬ row.id = id := by
      rw [hid]
      exact hne
    exact ⟨row, ⟨row, hrow, if_neg heq⟩, hid, hactive⟩

theorem hasActiveRow_congr {w' : World} (hdb : w'.db = w.db) (k : String) :
    HasActiveRow w' k ↔ HasActiveRow w k := by
  unfold HasActiveRow
  rw [hdb]

theorem observed_remove {c : Choice} {st : Option AgentState} {x : World × Option Sql}
    (h : failingHandler B faulty c (.node me (.agentsRemove id)) x = some (st, x')) :
    st = (x.1.node me).agents.lookup id ∧ x'.1.db = x.1.db ∧
      (x'.1.node me).agents = (x.1.node me).agents.erase id ∧ x'.2 = x.2 := by
  obtain ⟨hop, hg⟩ := Handler.observe_eq_some.mp h
  obtain ⟨hst, hdb, -, -, hmap⟩ := remove_step hop
  exact ⟨hst, hdb, hmap, hg⟩

theorem observed_now {c : Choice} {n : Int} {x : World × Option Sql}
    (h : failingHandler B faulty c .now x = some (n, x')) :
    c = .read n ∧ x'.1.db = x.1.db ∧ x'.1.node = x.1.node ∧ x'.2 = x.2 := by
  obtain ⟨hop, hg⟩ := Handler.observe_eq_some.mp h
  obtain ⟨hc, -, -, hw⟩ := World.exec_now.mp hop
  exact ⟨hc, by rw [hw], by rw [hw], hg⟩

/-- A statement is executed, or it fails without effect. -/
theorem observed_sql {c : Choice} {q : Sql} {a : Except DbError q.Res} {x : World × Option Sql}
    (h : failingHandler B faulty c (.sql q) x = some (a, x')) :
    (a = (q.exec B x.1.db).1 ∧ x'.1.db = (q.exec B x.1.db).2 ∧ x'.1.node = x.1.node ∧
      x'.2 = failedAfter (.sql q) a x.1 x.2) ∨
    (∃ e, a = .error e ∧ faulty = true ∧ x'.1 = x.1 ∧ x'.2 = some q) := by
  obtain ⟨hop, hg⟩ := Handler.observe_eq_some.mp h
  obtain ⟨-, ha, hw⟩ | ⟨e, -, hf, ha, hw⟩ := World.exec_sql.mp hop
  · exact Or.inl ⟨ha, by rw [hw], by rw [hw], hg⟩
  · apply Or.inr
    refine ⟨e, ha, hf, hw, ?_⟩
    rw [hg, ha]
    rfl

/-- An `unregister` of an agent that is not in the map does nothing. -/
theorem unregister_absent (habsent : id ∉ (w.node me).agents)
    (h : (unregister me id).run.play (failingHandler B faulty) cs (w, g) = some (r, x')) :
    r = .ok () ∧ Swept me [] [] w x'.1 ∧ x'.2 = g := by
  rw [unregister_eq] at h
  obtain ⟨c, rest, st, x₁, -, hremove, h⟩ := Prog.play_op_iff.mp h
  obtain ⟨hst, hdb, hmap, hg⟩ := observed_remove hremove
  have hnone : (w.node me).agents.lookup id = none := AList.lookup_eq_none.mpr habsent
  have hst' : st = none := hst.trans hnone
  subst hst'
  obtain ⟨-, rfl, rfl⟩ := Prog.play_ret_iff.mp h
  refine ⟨rfl, ⟨?_, ?_⟩, hg⟩
  · intro k
    rw [hmap, erase_of_lookup_none hnone]
    rfl
  · intro k
    rw [hasActiveRow_congr hdb]
    simp

/-- An `unregister` of an agent in the map removes its entry; then the row is updated, or the
    update fails. -/
theorem unregister_present (hpresent : id ∈ (w.node me).agents)
    (h : (unregister me id).run.play (failingHandler B faulty) cs (w, g) = some (r, x')) :
    (r = .ok () ∧ Swept me [id] [] w x'.1 ∧ x'.2 = g) ∨
    (∃ e now, r = .error e ∧ faulty = true ∧ Swept me [] [id] w x'.1 ∧
      x'.2 = some (.unregisterAgent now id)) := by
  rw [unregister_eq] at h
  obtain ⟨c, rest, st, x₁, -, hremove, h⟩ := Prog.play_op_iff.mp h
  obtain ⟨hst, hdb, hmap, hg⟩ := observed_remove hremove
  obtain ⟨entry, hentry⟩ := Option.isSome_iff_exists.mp (AList.lookup_isSome.mpr hpresent)
  have hst' : st = some entry := hst.trans hentry
  subst hst'
  obtain ⟨c, rest, now, x₂, -, hnow, h⟩ := Prog.play_op_iff.mp h
  obtain ⟨c, rest, a, x₃, -, hsql, h⟩ := Prog.play_op_iff.mp h
  obtain ⟨-, hr, rfl⟩ := Prog.play_ret_iff.mp h
  obtain ⟨-, hdb₂, hnode₂, hg₂⟩ := observed_now hnow
  have hlookup : ∀ k, (x₂.1.node me).agents.lookup k =
      if k = id then none else (w.node me).agents.lookup k := by
    intro k
    rw [hnode₂, hmap]
    by_cases hk : k = id
    · rw [if_pos hk, hk]
      exact AList.lookup_erase id _
    · rw [if_neg hk]
      exact AList.lookup_erase_ne hk
  obtain ⟨ha, hdb₃, hnode₃, hg₃⟩ | ⟨e, ha, hf, hw₃, hg₃⟩ := observed_sql hsql
  · apply Or.inl
    rw [ha] at hr
    refine ⟨hr, ⟨?_, ?_⟩, ?_⟩
    · intro k
      rw [hnode₃, hlookup]
      simp
    · intro k
      rw [hasActiveRow_unregisterAgent hdb₃, hasActiveRow_congr (hdb₂.trans hdb)]
      simp
    · rw [hg₃, ha]
      exact hg₂.trans hg
  · apply Or.inr
    rw [ha] at hr
    refine ⟨_, now, hr, hf, ⟨?_, ?_⟩, hg₃⟩
    · intro k
      rw [hw₃, hlookup]
      simp
    · intro k
      rw [hasActiveRow_congr (w := w) (by rw [hw₃, hdb₂, hdb])]
      simp

theorem unregisterAll_swept {ids : List String} (hnodup : ids.Nodup)
    (hpresent : ∀ id ∈ ids, id ∈ (w.node me).agents)
    (h : (unregisterAll me ids).run.play (failingHandler B faulty) cs (w, g) = some (r, x')) :
    (r = .ok () ∧ Swept me ids [] w x'.1 ∧ x'.2 = g) ∨
    (∃ done id rest e now, ids = done ++ id :: rest ∧ r = .error e ∧ faulty = true ∧
      Swept me done [id] w x'.1 ∧ x'.2 = some (.unregisterAgent now id)) := by
  induction ids generalizing w g cs with
  | nil =>
    obtain ⟨-, rfl, rfl⟩ := Prog.play_ret_iff.mp h
    exact Or.inl ⟨rfl, .nil me w, rfl⟩
  | cons id ids ih =>
    obtain ⟨hnotin, hnodup'⟩ := List.nodup_cons.mp hnodup
    rw [unregisterAll_cons] at h
    obtain ⟨cs₁, cs₂, r₁, x₁, -, hfirst, h⟩ := Prog.play_bind_iff.mp h
    obtain ⟨rfl, hswept, hg⟩ | ⟨e, now, rfl, hf, hswept, hg⟩ :=
      unregister_present (hpresent id List.mem_cons_self) hfirst
    · have hpresent' : ∀ k ∈ ids, k ∈ (x₁.1.node me).agents := by
        intro k hk
        have hne : k ≠ id := by
          intro heq
          exact hnotin (heq ▸ hk)
        rw [← AList.lookup_isSome, hswept.map, if_neg (by simpa using hne), AList.lookup_isSome]
        exact hpresent k (List.mem_cons_of_mem id hk)
      obtain ⟨rfl, hrest, hg'⟩ | ⟨done, id', rest, e, now, rfl, rfl, hf, hrest, hg'⟩ :=
        ih hnodup' hpresent' h
      · exact Or.inl ⟨rfl, hswept.append hrest, hg'.trans hg⟩
      · exact Or.inr ⟨id :: done, id', rest, e, now, rfl, rfl, hf, hswept.append hrest, hg'⟩
    · obtain ⟨-, rfl, rfl⟩ := Prog.play_ret_iff.mp h
      exact Or.inr ⟨[], id, ids, e, now, rfl, rfl, hf, hswept, hg⟩

theorem Swept.of_same {done lost : List String} {w₁ w₂ : World} (hnode : w₁.node = w.node)
    (hdb : w₁.db = w.db) (h : Swept me done lost w₁ w₂) : Swept me done lost w w₂ where
  map k := by rw [h.map, hnode]
  rows k := by rw [h.rows, hasActiveRow_congr hdb]

theorem nodup_staleIds {m : StringMap AgentState} {entries : List (Σ _ : String, AgentState)}
    (hperm : entries.Perm m.entries) (cutoff : Int) : (staleIds cutoff entries).Nodup := by
  have hkeys : (entries.map (·.1)).Nodup := (hperm.map _).nodup_iff.mpr m.nodupKeys
  exact hkeys.sublist (List.filter_sublist.map _)

theorem hasActiveRow_cleanupStaleAgents {w' : World} {serverId : String} {cutoff : Int}
    (hdb : w'.db = ((Sql.cleanupStaleAgents serverId cutoff).exec B w.db).2) {k : String}
    (h : HasActiveRow w' k) : HasActiveRow w k := by
  obtain ⟨row, hrow, hid, hactive⟩ := h
  rw [hdb] at hrow
  obtain ⟨row', hrow', rfl⟩ := (Relational.Table.mem_updateWhere (by intro; rfl)).mp hrow
  split at hactive
  · cases hactive
  · rename_i hkept
    rw [if_neg hkept] at hid
    exact ⟨row', hrow', hid, hactive⟩

/-- The sweep of the table makes rows inactive, or it fails. -/
theorem sweepTable_spec {timeoutMs : Int} {x : World × Option Sql}
    (h : Prog.play (failingHandler B faulty) (.op .now fun now =>
      .op (.sql (.cleanupStaleAgents me (subI64 now (u64AsI64 (i64AsU64 timeoutMs))))) fun r =>
        .ret ((r.mapError .database).map fun _ => ())) cs x = some (r, x')) :
    (x'.1.node me).agents = (x.1.node me).agents ∧
      (∀ k, HasActiveRow x'.1 k → HasActiveRow x.1 k) ∧
      (x'.2 = x.2 ∨ ∃ cutoff, x'.2 = some (.cleanupStaleAgents me cutoff)) := by
  obtain ⟨_, _, now, x₁, -, hnow, h⟩ := Prog.play_op_iff.mp h
  obtain ⟨_, _, a, x₂, -, hsql, h⟩ := Prog.play_op_iff.mp h
  obtain ⟨-, -, rfl⟩ := Prog.play_ret_iff.mp h
  obtain ⟨-, hdb₁, hnode₁, hg₁⟩ := observed_now hnow
  obtain ⟨ha, hdb₂, hnode₂, hg₂⟩ | ⟨e, -, -, hw₂, hg₂⟩ := observed_sql hsql
  · refine ⟨by rw [hnode₂, hnode₁], ?_, Or.inl ?_⟩
    · intro k hk
      rw [← hasActiveRow_congr hdb₁]
      exact hasActiveRow_cleanupStaleAgents hdb₂ hk
    · rw [hg₂, ha]
      exact hg₁
  · refine ⟨by rw [hw₂, hnode₁], ?_, Or.inr ⟨_, hg₂⟩⟩
    intro k hk
    rw [hw₂] at hk
    exact (hasActiveRow_congr hdb₁ k).mp hk

/-- How a sweep ends: all stale agents are unregistered, and the sweep of the table succeeds or
    fails; or it ends at an agent whose update fails. -/
theorem cleanupStale_swept {timeoutMs : Int}
    (h : (cleanupStale me timeoutMs).run.play (failingHandler B faulty) cs (w, g) = some (r, x')) :
    ∃ now ids, cs.head? = some (.read now) ∧ ids.Nodup ∧
      (∀ id, id ∈ ids ↔ ∃ st, (w.node me).agents.lookup id = some st ∧
        st.lastHeartbeat < subI64 now timeoutMs) ∧
      ((∃ w₁, Swept me ids [] w w₁ ∧ (x'.1.node me).agents = (w₁.node me).agents ∧
          (∀ k, HasActiveRow x'.1 k → HasActiveRow w₁ k) ∧
          (x'.2 = g ∨ ∃ cutoff, x'.2 = some (.cleanupStaleAgents me cutoff))) ∨
        (∃ done id rest e now', ids = done ++ id :: rest ∧ r = .error e ∧ faulty = true ∧
          Swept me done [id] w x'.1 ∧ x'.2 = some (.unregisterAgent now' id))) := by
  rw [cleanupStale_eq] at h
  obtain ⟨c, rest, now, x₁, rfl, hnow, h⟩ := Prog.play_op_iff.mp h
  obtain ⟨c, rest, entries, x₂, rfl, hiter, h⟩ := Prog.play_op_iff.mp h
  obtain ⟨cs₁, cs₂, r₁, x₃, -, hall, h⟩ := Prog.play_bind_iff.mp h
  obtain ⟨rfl, hdb₁, hnode₁, hg₁⟩ := observed_now hnow
  obtain ⟨hiter, hg₂⟩ := Handler.observe_eq_some.mp hiter
  obtain ⟨hperm, hw₂⟩ := iter_step hiter
  have hnode₂ : x₂.1.node = w.node := by rw [hw₂, hnode₁]
  have hdb₂ : x₂.1.db = w.db := by rw [hw₂, hdb₁]
  have hg : x₂.2 = g := Eq.trans hg₂ hg₁
  have hperm' : entries.Perm (w.node me).agents.entries := by
    rw [← hnode₁]
    exact hperm
  have hstale : ∀ id, id ∈ staleIds (subI64 now timeoutMs) entries ↔
      ∃ st, (w.node me).agents.lookup id = some st ∧ st.lastHeartbeat < subI64 now timeoutMs :=
    fun id => mem_staleIds hperm'
  have hnodup := nodup_staleIds hperm' (subI64 now timeoutMs)
  have hpresent : ∀ id ∈ staleIds (subI64 now timeoutMs) entries, id ∈ (x₂.1.node me).agents := by
    intro id hid
    obtain ⟨st, hst, -⟩ := (hstale id).mp hid
    rw [hnode₂, ← AList.lookup_isSome, hst]
    rfl
  refine ⟨now, staleIds (subI64 now timeoutMs) entries, rfl, hnodup, hstale, ?_⟩
  obtain ⟨rfl, hswept, hg₃⟩ | ⟨done, id, rest, e, now', hids, rfl, hf, hswept, hg₃⟩ :=
    unregisterAll_swept hnodup hpresent hall
  · obtain ⟨hmap, hrows, hend⟩ := sweepTable_spec h
    rw [hg₃, hg] at hend
    exact Or.inl ⟨x₃.1, hswept.of_same hnode₂ hdb₂, hmap, hrows, hend⟩
  · obtain ⟨-, rfl, rfl⟩ := Prog.play_ret_iff.mp h
    exact Or.inr ⟨done, id, rest, e, now', hids, rfl, hf, hswept.of_same hnode₂ hdb₂, hg₃⟩

end Specs

/-! ## What a retry does -/

/-- The agent is out of the map, and no row of it is active. -/
def Gone (me id : String) (w : World) : Prop := id ∉ (w.node me).agents ∧ ¬ HasActiveRow w id

/-- An `unregister` without failures, and a `cleanup_stale` without failures that finds the agent
    stale, leave it out of the map with its row inactive. -/
def RetryWorks (B : Backend) (me id : String) (w : World) : Prop :=
  (∀ cs r w', (unregister me id).run.play (World.handler B false) cs w = some (r, w') →
    Gone me id w') ∧
  ∀ timeoutMs now cs r w', (cleanupStale me timeoutMs).run.play (World.handler B false)
      (.read now :: cs) w = some (r, w') →
    ∀ st, (w.node me).agents.lookup id = some st → st.lastHeartbeat < subI64 now timeoutMs →
      Gone me id w'

section Retry

variable {B : Backend} {me id : String} {w w' : World}

theorem Swept.gone {done lost : List String} (h : Swept me done lost w w') (hid : id ∈ done) :
    Gone me id w' := by
  constructor
  · rw [← AList.lookup_eq_none, h.map, if_pos (List.mem_append_left _ hid)]
  · intro hactive
    exact ((h.rows id).mp hactive).2 hid

/-- A retry works for the agents that are still in the map, and has nothing to do for those without
    an active row. -/
theorem retryWorks_iff : RetryWorks B me id w ↔ (id ∈ (w.node me).agents ∨ ¬ HasActiveRow w id) := by
  constructor
  · intro h
    by_cases hpresent : id ∈ (w.node me).agents
    · exact Or.inl hpresent
    · -- the retry that finds nothing to remove leaves the row as it is
      have hnone : (w.node me).agents.lookup id = none := AList.lookup_eq_none.mpr hpresent
      have hplay : ∃ w', (unregister me id).run.play (World.handler B false) [.go] w =
          some (.ok (), w') := by
        rw [unregister_eq]
        apply Exists.intro
        apply Prog.play_op_iff.mpr
        refine ⟨.go, [], (w.node me).agents.lookup id, _, rfl, rfl, ?_⟩
        rw [hnone]
        rfl
      obtain ⟨w', hplay⟩ := hplay
      obtain ⟨g', hobserved⟩ := Prog.exists_play_observe (f := failedAfter) none hplay
      obtain ⟨-, hswept, -⟩ := unregister_absent hpresent hobserved
      apply Or.inr
      intro hactive
      exact (h.1 _ _ _ hplay).2 ((hswept.rows id).mpr ⟨hactive, List.not_mem_nil⟩)
  · intro h
    constructor
    · intro cs r w' hplay
      obtain ⟨g', hobserved⟩ := Prog.exists_play_observe (f := failedAfter) none hplay
      by_cases hpresent : id ∈ (w.node me).agents
      · obtain ⟨-, hswept, -⟩ | ⟨e, now, -, hf, -⟩ := unregister_present hpresent hobserved
        · exact hswept.gone List.mem_cons_self
        · cases hf
      · obtain ⟨-, hswept, -⟩ := unregister_absent hpresent hobserved
        constructor
        · rw [← AList.lookup_eq_none, hswept.map, if_neg (by simp)]
          exact AList.lookup_eq_none.mpr hpresent
        · intro hactive
          exact h.resolve_left hpresent ((hswept.rows id).mp hactive).1
    · intro timeoutMs now cs r w' hplay st hst hstale
      obtain ⟨g', hobserved⟩ := Prog.exists_play_observe (f := failedAfter) none hplay
      obtain ⟨now', ids, hnow, -, hids, hend⟩ := cleanupStale_swept hobserved
      obtain rfl : now = now' := by simpa using hnow
      have hid : id ∈ ids := (hids id).mpr ⟨st, hst, hstale⟩
      obtain ⟨w₁, hswept, hmap, hrows, -⟩ | ⟨_, _, _, _, _, -, -, hf, -⟩ := hend
      · have hgone := hswept.gone hid
        refine ⟨?_, fun hactive => hgone.2 (hrows id hactive)⟩
        intro hmem
        apply hgone.1
        rw [← hmap]
        exact hmem
      · cases hf

end Retry

/-- The calls that take agents out of the map. -/
inductive Removal where
  | unregister (agentId : String)
  | cleanupStale (timeoutMs : Int)

def Removal.run (me : String) : Removal → ServerProg (Except Error Unit)
  | .unregister agentId => (AgentRegistry.unregister me agentId).run
  | .cleanupStale timeoutMs => (AgentRegistry.cleanupStale me timeoutMs).run

/-- Each agent that the call was to unregister and that has an active row can be unregistered
    afterwards; and after a sweep each of them with an active row is still in the map. -/
def Retryable (B : Backend) (me : String) (cs : List Choice) (w w' : World) : Removal → Prop
  | .unregister id => id ∈ (w.node me).agents → HasActiveRow w id → RetryWorks B me id w'
  | .cleanupStale timeoutMs => ∀ now, cs.head? = some (.read now) →
    ∀ id st, (w.node me).agents.lookup id = some st → st.lastHeartbeat < subI64 now timeoutMs →
      HasActiveRow w id →
        RetryWorks B me id w' ∧ (HasActiveRow w' id → id ∈ (w'.node me).agents)

section Removals

variable {B : Backend} {me : String} {cs : List Choice} {w : World} {r : Except Error Unit}
  {x' : World × Option Sql}

/-- What a failed update leaves behind can be unregistered exactly if its row was not active. -/
theorem Swept.retryWorks_iff {done : List String} {w' : World} {id : String}
    (h : Swept me done [id] w w') (hid : id ∉ done) :
    RetryWorks B me id w' ↔ ¬ HasActiveRow w id := by
  have hmap : id ∉ (w'.node me).agents := by
    rw [← AList.lookup_eq_none, h.map, if_pos (by simp)]
  rw [AgentRegistry.retryWorks_iff, or_iff_right hmap, h.rows id, and_iff_left hid]

theorem Swept.retryWorks {done lost : List String} {w' : World} {id : String}
    (h : Swept me done lost w w') (hid : id ∈ done) : RetryWorks B me id w' :=
  AgentRegistry.retryWorks_iff.mpr (.inr (h.gone hid).2)

theorem Swept.mem_map {done lost : List String} {w' : World} {id : String}
    (h : Swept me done lost w w') (hid : id ∉ done ++ lost)
    (hpresent : id ∈ (w.node me).agents) : id ∈ (w'.node me).agents := by
  rw [← AList.lookup_isSome, h.map, if_neg hid, AList.lookup_isSome]
  exact hpresent

theorem unregister_retryable_iff {agentId : String}
    (h : (unregister me agentId).run.play (failingHandler B true) cs (w, none) = some (r, x')) :
    ((∃ e, r = .error e) → Retryable B me cs w x'.1 (.unregister agentId)) ↔
      ∀ now id, x'.2 = some (.unregisterAgent now id) → ¬ HasActiveRow w id := by
  by_cases hpresent : agentId ∈ (w.node me).agents
  · obtain ⟨rfl, -, hg⟩ | ⟨e, now, rfl, -, hswept, hg⟩ := unregister_present hpresent h
    · apply iff_of_true
      · rintro ⟨e, he⟩
        cases he
      · intro now id hfailed
        rw [hg] at hfailed
        cases hfailed
    · have hretry := hswept.retryWorks_iff (B := B) List.not_mem_nil
      constructor
      · intro hretryable now' id hfailed
        rw [hg] at hfailed
        cases hfailed
        intro hactive
        exact hretry.mp (hretryable ⟨e, rfl⟩ hpresent hactive) hactive
      · intro hinactive _ _ hactive
        exact (hinactive now agentId hg hactive).elim
  · obtain ⟨rfl, -, hg⟩ := unregister_absent hpresent h
    apply iff_of_true
    · rintro ⟨e, he⟩
      cases he
    · intro now id hfailed
      rw [hg] at hfailed
      cases hfailed

/-- Every stale agent is gone after a sweep that came to its end. -/
theorem Swept.retryable {ids : List String} {timeoutMs now : Int} {w₁ w' : World}
    (h : Swept me ids [] w w₁) (hnow : cs.head? = some (.read now))
    (hids : ∀ id, id ∈ ids ↔ ∃ st, (w.node me).agents.lookup id = some st ∧
      st.lastHeartbeat < subI64 now timeoutMs)
    (hrows : ∀ k, HasActiveRow w' k → HasActiveRow w₁ k) :
    Retryable B me cs w w' (.cleanupStale timeoutMs) := by
  intro now' hnow' k st hst hstale _
  rw [hnow] at hnow'
  cases hnow'
  have hgone := h.gone ((hids k).mpr ⟨st, hst, hstale⟩)
  have hinactive : ¬ HasActiveRow w' k := fun hactive => hgone.2 (hrows k hactive)
  constructor
  · exact AgentRegistry.retryWorks_iff.mpr (.inr hinactive)
  · intro hactive
    exact (hinactive hactive).elim

/-- After a sweep that ended at an agent, the agents before it are gone, and those behind it are
    still in the map. -/
theorem Swept.retryable_iff {done rest : List String} {id : String} {timeoutMs now : Int}
    {w' : World} (h : Swept me done [id] w w') (hnow : cs.head? = some (.read now))
    (hnodup : (done ++ id :: rest).Nodup)
    (hids : ∀ k, k ∈ done ++ id :: rest ↔ ∃ st, (w.node me).agents.lookup k = some st ∧
      st.lastHeartbeat < subI64 now timeoutMs) :
    Retryable B me cs w w' (.cleanupStale timeoutMs) ↔ ¬ HasActiveRow w id := by
  have hid : id ∉ done := by
    intro hdone
    exact (List.nodup_append.mp hnodup).2.2 id hdone id List.mem_cons_self rfl
  have hretry : RetryWorks B me id w' ↔ ¬ HasActiveRow w id := h.retryWorks_iff hid
  constructor
  · intro hretryable hactive
    obtain ⟨st, hst, hstale⟩ := (hids id).mp (by simp)
    exact hretry.mp (hretryable now hnow id st hst hstale hactive).1 hactive
  · intro hinactive now' hnow' k st hst hstale hactive
    rw [hnow] at hnow'
    cases hnow'
    have hpresent : k ∈ (w.node me).agents := by
      rw [← AList.lookup_isSome, hst]
      rfl
    have hne : k ≠ id := by
      intro heq
      exact hinactive (heq ▸ hactive)
    by_cases hdone : k ∈ done
    · constructor
      · exact h.retryWorks hdone
      · intro hactive'
        exact ((h.gone hdone).2 hactive').elim
    · have hmap : k ∈ (w'.node me).agents := h.mem_map (by simp [hdone, hne]) hpresent
      constructor
      · exact AgentRegistry.retryWorks_iff.mpr (.inl hmap)
      · intro _
        exact hmap

theorem cleanupStale_retryable_iff {timeoutMs : Int}
    (h : (cleanupStale me timeoutMs).run.play (failingHandler B true) cs (w, none) =
      some (r, x')) :
    ((∃ e, r = .error e) → Retryable B me cs w x'.1 (.cleanupStale timeoutMs)) ↔
      ∀ now id, x'.2 = some (.unregisterAgent now id) → ¬ HasActiveRow w id := by
  obtain ⟨now, ids, hnow, hnodup, hids, hend⟩ := cleanupStale_swept h
  obtain ⟨w₁, hswept, -, hrows, hg⟩ | ⟨done, id, rest, e, now', rfl, rfl, -, hswept, hg⟩ := hend
  · apply iff_of_true
    · intro _
      exact hswept.retryable hnow hids hrows
    · intro now' k hfailed
      obtain hg | ⟨cutoff, hg⟩ := hg
      · rw [hg] at hfailed
        cases hfailed
      · rw [hg] at hfailed
        cases hfailed
  · have hretryable : Retryable B me cs w x'.1 (.cleanupStale timeoutMs) ↔ ¬ HasActiveRow w id :=
      hswept.retryable_iff hnow hnodup hids
    constructor
    · intro hretry now'' k hfailed
      rw [hg] at hfailed
      cases hfailed
      exact hretryable.mp (hretry ⟨e, rfl⟩)
    · intro hinactive _
      exact hretryable.mpr (hinactive now' id hg)

/-- A call that returns an error can be retried exactly if what failed was not the update of an
    active row. -/
theorem removal_retryable_iff {removal : Removal}
    (h : (removal.run me).play (failingHandler B true) cs (w, none) = some (r, x')) :
    ((∃ e, r = .error e) → Retryable B me cs w x'.1 removal) ↔
      ∀ now id, x'.2 = some (.unregisterAgent now id) → ¬ HasActiveRow w id := by
  cases removal with
  | unregister agentId => exact unregister_retryable_iff h
  | cleanupStale timeoutMs => exact cleanupStale_retryable_iff h

end Removals

/-- The agent of "app", in the map and with an active row. -/
def registered : World :=
  { World.boot.setNode "s"
      { Node.new with
        agents := AList.insert "agent" ⟨0, "app", 22, "localhost", .tcp, 0⟩ ∅ } with
    db := { Database.migrated with
      agents := ⟨[⟨"agent", "app", "s", none, 22, "localhost", "tcp", "token", 0, 0, true⟩],
        by simp⟩ } }

theorem registered_active : HasActiveRow registered "agent" :=
  ⟨_, List.mem_cons_self, rfl, rfl⟩

theorem run_registered :
    ∃ x', ((Removal.unregister "agent").run "s").play (failingHandler .migrated true)
        [.go, .read 1000, .fail (.other "database is locked")] (registered, none) =
          some (.error (.database (.other "database is locked")), x') ∧
      x'.2 = some (.unregisterAgent 1000 "agent") :=
  ⟨_, rfl, rfl⟩

/-- After an `unregister` that failed at the database, the next one succeeds and leaves the row
    active. -/
theorem unregister_not_retryable :
    ∃ x' w'', ((Removal.unregister "agent").run "s").play (failingHandler .migrated true)
        [.go, .read 1000, .fail (.other "database is locked")] (registered, none) =
          some (.error (.database (.other "database is locked")), x') ∧
      (unregister "s" "agent").run.play (World.handler .migrated false) [.go] x'.1 =
          some (.ok (), w'') ∧
      HasActiveRow w'' "agent" ∧
      ¬ Retryable .migrated "s" [.go, .read 1000, .fail (.other "database is locked")]
          registered x'.1 (.unregister "agent") := by
  refine ⟨_, _, rfl, rfl, ⟨_, List.mem_cons_self, rfl, rfl⟩, ?_⟩
  intro hretryable
  have hretry := hretryable (by decide) registered_active
  exact (hretry.1 [.go] _ _ rfl).2 ⟨_, List.mem_cons_self, rfl, rfl⟩

theorem removal_retryable_iff_registered :
    ∃ x' : World × Option Sql,
      (((∃ e, (.error (.database (.other "database is locked")) : Except Error Unit) = .error e) →
          Retryable .migrated "s" [.go, .read 1000, .fail (.other "database is locked")]
            registered x'.1 (.unregister "agent")) ↔
        ∀ now id, x'.2 = some (.unregisterAgent now id) → ¬ HasActiveRow registered id) ∧
      x'.2 = some (.unregisterAgent 1000 "agent") := by
  obtain ⟨x', hrun, hfailed⟩ := run_registered
  exact ⟨x', removal_retryable_iff hrun, hfailed⟩

end AgentRegistry

end Jrok
