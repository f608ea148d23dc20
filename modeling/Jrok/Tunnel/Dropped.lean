import Jrok.Concurrency.Cancel
import Jrok.Tunnel.Responses

/-!
# Requests that are dropped

When its client disconnects, the future of a request is dropped at the await where it stands.
Every way in which `proxy_http` returns removes the entry of the request from the pending map; a
future that is dropped in between leaves it there for good.
-/

namespace Jrok

open Concurrency

namespace Tunnel

/-- The tasks whose futures a client can have dropped. -/
def isRequest : String × Work → Bool
  | (_, .request _) => true
  | _ => false

/-- The servers at work, and the requests that have been dropped. -/
abbrev DroppingPool : Type :=
  Cancelled serverSig (String × Work) (Option (Option Answer)) (World × ServerLog)

/-- The ids that a task has drawn. -/
def drawn (t : String × Work) (log : ServerLog) : List String :=
  (Log.own t log).filterMap fun e => handedOut (t, e)

/-- The request has returned, or its future has been dropped. -/
def Ended (me : String) (n : Nat) (d : DroppingPool) : Prop :=
  (me, .request n) ∈ d.dropped ∨ ∃ answer, d.config.task (me, .request n) = .idle (some answer)

/-- No call of `proxy_http` that has ended has an entry in the pending map. -/
def NoneOutlives (T : Traffic) (me : String) (d : DroppingPool) : Prop :=
  ∀ n request, T.request me n = .proxy request → Ended me n d →
    ∀ requestId ∈ drawn (me, .request n) d.config.shared.2,
      (d.config.shared.1.node me).pending.lookup requestId = none

/-- The request is between the insertion of its entry and the removal: since it has inserted the
    entry, nobody has handled a response under its id or removed it. -/
def Exposed (me : String) (n : Nat) (log : ServerLog) : Prop :=
  ∃ newer requestId k older,
    log = newer ++ ((me, .request n), ⟨.node me (.pendingInsert requestId), k⟩) :: older ∧
    ∀ e ∈ newer, touches me requestId e.2 = false

variable {D : Deployment} {T : Traffic} {me requestId : String} {n : Nat} {log : ServerLog}
variable {request : ProxyRequest}

theorem mem_drawn {t : String × Work} :
    requestId ∈ drawn t log ↔ (t, (⟨.uuid, requestId⟩ : Event serverSig)) ∈ log := by
  rw [drawn, List.mem_filterMap, ← Log.mem_own]
  constructor
  · rintro ⟨⟨o, r⟩, he, hdrawn⟩
    cases o with
    | uuid =>
      obtain rfl := Option.some.inj hdrawn
      exact he
    | _ => cases hdrawn
  · intro he
    exact ⟨_, he, rfl⟩

/-! ## A request and its entry -/

/-- An entry under the id of a request is its own, and nothing has removed it since. -/
theorem exposed_of_entry {k : Nat} (hf : System.Follows (program D T) log)
    (hcausal : Causal (Accounted me) log) (hdrawn : requestId ∈ drawn (me, .request n) log)
    (hentry : pendingEntry me requestId log = some k) : Exposed me n log := by
  obtain ⟨newer, t, older, rfl, hnewer⟩ := pendingEntry_eq_some hentry
  obtain ⟨listed, hown⟩ := insert_own hf
  have htheirs : (t, (⟨.uuid, requestId⟩ : Event serverSig)) ∈ older := by
    rw [← Log.mem_own, hown]
    simp
  obtain rfl := handedOut_unique hcausal (List.mem_append_right _ (.tail _ htheirs))
    (mem_drawn.mp hdrawn)
  exact ⟨newer, requestId, k, older, rfl, hnewer⟩

/-- A request that is exposed has an entry under the id that it has drawn. -/
theorem Exposed.entry (h : Exposed me n log) (hf : System.Follows (program D T) log) :
    ∃ requestId ∈ drawn (me, .request n) log, ∃ k, pendingEntry me requestId log = some k := by
  obtain ⟨newer, requestId, k, older, rfl, hnewer⟩ := h
  refine ⟨requestId, ?_, k, ?_⟩
  · obtain ⟨listed, hown⟩ := insert_own hf
    rw [mem_drawn]
    apply List.mem_append_right
    apply List.mem_cons_of_mem
    rw [← Log.mem_own, hown]
    simp
  · rw [pendingEntry_append hnewer, pendingEntry_insert]

/-- Only an event of its own exposes a request. -/
theorem Exposed.of_cons {t : String × Work} {e : Event serverSig}
    (h : Exposed me n ((t, e) :: log)) (ht : t ≠ (me, .request n)) : Exposed me n log := by
  obtain ⟨newer, requestId, k, older, hlog, hnewer⟩ := h
  cases newer with
  | nil =>
    obtain ⟨hhead, -⟩ := List.cons.inj hlog
    exact absurd (congrArg Prod.fst hhead) ht
  | cons head newer =>
    obtain ⟨-, hrest⟩ := List.cons.inj hlog
    exact ⟨newer, requestId, k, older, hrest, fun e he => hnewer e (.tail _ he)⟩

/-- A request that has returned is not exposed: it has removed its entry, or has received the
    response that took it. -/
theorem not_exposed_of_returned {c : ServerPool} {answer : Option Answer}
    (htraced : System.Traced (program D T) c) (hcausal : Causal (Accounted me) c.shared.2)
    (hcall : T.request me n = .proxy request)
    (hidle : c.task (me, .request n) = .idle (some answer)) : ¬ Exposed me n c.shared.2 := by
  rintro ⟨newer, requestId, k, older, hlog, hnewer⟩
  have hf := htraced.follows
  obtain ⟨response, -, hpath⟩ := proxy_returned hcall htraced hidle
  rw [hlog] at hf hcausal hpath
  obtain ⟨listed, hown⟩ := inserted_own hf
  rw [hown] at hpath
  rcases proxyHttp_returned hpath with hnone | ⟨_, _, _, rest, hown', hend⟩
  · exact hnone requestId k (by simp [entered])
  · obtain ⟨hentered, rfl⟩ := List.append_inj hown' rfl
    obtain ⟨-, rfl, rfl⟩ : _ ∧ requestId = _ ∧ k = _ := by simpa [entered] using hentered
    rcases hend with ⟨taken, hremoved⟩ | ⟨received, hreceived⟩
    · have htouched := hnewer _ (Log.mem_own.mp hremoved)
      simp [touches] at htouched
    · obtain ⟨later, between, rfl⟩ := List.append_of_mem (Log.mem_own.mp hreceived)
      rw [List.append_assoc] at hcausal
      have hentry : pendingEntry me requestId (between ++
          ((me, .request n), ⟨.node me (.pendingInsert requestId), k⟩) :: older) = some k := by
        rw [pendingEntry_append fun e he => hnewer e (by simp [he]), pendingEntry_insert]
      have hvalue : some received = oneshotValue me k (between ++
          ((me, .request n), ⟨.node me (.pendingInsert requestId), k⟩) :: older) :=
        hcausal.at_split rfl
      have hempty := oneshotValue_of_entry hcausal.of_append.2 hentry
      have hsome : some received = none := hvalue.trans hempty
      cases hsome

/-! ## Every run -/

section Runs

variable {faulty lookups : Bool} {c₀ : ServerPool} {d d' : DroppingPool}

/-- No request that has been dropped is exposed. -/
def Tidy (me : String) (d : DroppingPool) : Prop :=
  ∀ n, (me, Work.request n) ∈ d.dropped → ¬ Exposed me n d.config.shared.2

/-- A move that drops a request finds it not exposed. -/
def DropsUnexposed (me : String) (m : CancelMove (String × Work) Unit Choice) (d : DroppingPool) :
    Prop := ∀ n, m = .drop (me, .request n) → ¬ Exposed me n d.config.shared.2

theorem Tidy.step {m : CancelMove (String × Work) Unit Choice} (h : Tidy me d)
    (hm : DropsUnexposed me m d)
    (hmove : (openServing D T faulty lookups).cancelMove isRequest m d = some d') : Tidy me d' := by
  intro n hn
  cases m with
  | run m =>
    obtain ⟨hstands, hmove, hdropped⟩ := System.cancelMove_run hmove
    rw [hdropped] at hn
    rcases System.logged_move hmove with hsame | ⟨e, hlog⟩
    · rw [hsame]
      exact h n hn
    · -- a dropped request does not move, so the event is another task's
      rw [hlog]
      intro hexposed
      exact h n hn (hexposed.of_cons fun heq => hstands (heq ▸ hn))
  | drop t =>
    obtain rfl := System.cancelMove_drop hmove
    rcases List.mem_cons.mp hn with rfl | hn
    · exact hm n rfl
    · exact h n hn

/-- Only `proxy_http` exposes a request. -/
theorem Exposed.proxy (h : Exposed me n log) (hf : System.Follows (program D T) log) :
    ∃ request, T.request me n = .proxy request := by
  obtain ⟨newer, requestId, k, older, rfl, -⟩ := h
  obtain ⟨n', request, _, _, _, hn, hcall, -⟩ := insert_event hf
  obtain rfl : n = n' := by simpa using hn
  exact ⟨request, hcall⟩

/-- No entry has outlived its request where no dropped request is exposed, and only there. -/
theorem noneOutlives_iff_tidy (htraced : System.Traced (program D T) d.config)
    (hremembers : Remembers me d.config.shared.1 d.config.shared.2) :
    NoneOutlives T me d ↔ Tidy me d := by
  have hf := htraced.follows
  constructor
  · intro hnone n hdropped hexposed
    obtain ⟨request, hcall⟩ := hexposed.proxy hf
    obtain ⟨requestId, hdrawn, k, hentry⟩ := hexposed.entry hf
    have hgone := hnone n request hcall (.inl hdropped) requestId hdrawn
    rw [hremembers.pending, hentry] at hgone
    cases hgone
  · intro htidy n request hcall hended requestId hdrawn
    rw [hremembers.pending]
    cases hentry : pendingEntry me requestId d.config.shared.2 with
    | none => rfl
    | some k =>
      have hexposed := exposed_of_entry hf hremembers.causal hdrawn hentry
      rcases hended with hdropped | ⟨answer, hidle⟩
      · exact absurd hexposed (htidy n hdropped)
      · exact absurd hexposed (not_exposed_of_returned htraced hremembers.causal hcall hidle)

/-- In every run of requests, drops, connections and everything else: no entry ever outlives its
    request, exactly if no request is dropped between the insertion of its entry and the removal. -/
theorem none_outlives_iff {ms : List (CancelMove (String × Work) Unit Choice)}
    (hpending : (c₀.shared.1.node me).pending = ∅)
    (honeshot : ∀ k, (c₀.shared.1.node me).oneshot k = none)
    (hidle : ∀ t, c₀.task t = .idle none) (hlog : c₀.shared.2 = [])
    (hrun : (openServing D T faulty lookups).cancelReplay isRequest ms ⟨c₀, []⟩ = some d) :
    (openServing D T faulty lookups).Throughout isRequest ms ⟨c₀, []⟩ (NoneOutlives T me) ↔
      (openServing D T faulty lookups).EachMove isRequest ms ⟨c₀, []⟩ (DropsUnexposed me) := by
  have htidy : ∀ earlier d',
      (openServing D T faulty lookups).cancelReplay isRequest earlier ⟨c₀, []⟩ = some d' →
        (NoneOutlives T me d' ↔ Tidy me d') := by
    intro earlier d' hearlier
    have hr : (openServing D T faulty lookups).Reachable c₀ d'.config :=
      System.reachable_of_cancelReplay hearlier
    exact noneOutlives_iff_tidy (hr.traced hidle hlog) (.of_reachable hpending honeshot hidle hlog hr)
  constructor
  · rintro hnone earlier m later d' rfl hearlier n rfl
    -- the drop leaves the log as it is
    rw [System.cancelReplay_append, hearlier, Option.bind_some] at hrun
    obtain ⟨d₁, hdrop, -⟩ := Option.bind_eq_some_iff.mp hrun
    have hreplay : (openServing D T faulty lookups).cancelReplay isRequest
        (earlier ++ [.drop (me, .request n)]) ⟨c₀, []⟩ = some d₁ := by
      rw [System.cancelReplay_append, hearlier, Option.bind_some, System.cancelReplay, hdrop]
      rfl
    have hafter := (htidy _ d₁ hreplay).mp (hnone _ later d₁ (by simp) hreplay)
    rw [System.cancelMove_drop hdrop] at hafter
    exact hafter n (List.mem_cons_self ..)
  · rintro hdrops earlier later d' rfl hearlier
    rw [htidy earlier d' hearlier]
    apply hdrops.of_append.invariant (Tidy me) _ _ hearlier
    · intro m e e' he hm hmove
      exact he.step hm hmove
    · intro n hn
      cases hn

end Runs

/-- An agent is registered, and a request for it draws its id, inserts its entry and goes on with
    the choices. -/
def requested (choices : List Choice) : List (Move (String × Work) Unit Choice) :=
  let agent : AgentState := ⟨1, "app", 80, "localhost", .http, 1000⟩
  let request := ("s", Work.request 0)
  registering 0 "i" "k" ++
    [.start request (), .act request (.order [⟨"i", agent⟩]), .act request (.fresh "r"),
      .act request .go] ++ choices.map fun c => .act request c

/-- The request is dropped then. -/
def abandoned (choices : List Choice) : List (CancelMove (String × Work) Unit Choice) :=
  (requested choices).map .run ++ [.drop ("s", .request 0)]

/-- The send fails and the request removes its entry; dropped after that, it leaves none. -/
theorem none_outlives_removed :
    ∃ d, (openServing .sample answering false false).cancelReplay isRequest (abandoned [.go, .go])
        ⟨ready, []⟩ = some d ∧
      (openServing .sample answering false false).EachMove isRequest (abandoned [.go, .go])
        ⟨ready, []⟩ (DropsUnexposed "s") ∧
      (openServing .sample answering false false).Throughout isRequest (abandoned [.go, .go])
        ⟨ready, []⟩ (NoneOutlives answering "s") := by
  have hrun : ((openServing .sample answering false false).cancelReplay isRequest
      (abandoned [.go, .go]) ⟨ready, []⟩).isSome := by decide +kernel
  have hremoved : ((openServing .sample answering false false).cancelReplay isRequest
      ((requested [.go, .go]).map .run) ⟨ready, []⟩).map (fun d =>
        (drawn ("s", .request 0) d.config.shared.2, pendingEntry "s" "r" d.config.shared.2)) =
      some (["r"], none) := by decide +kernel
  obtain ⟨d, hd⟩ := Option.isSome_iff_exists.mp hrun
  have hdrops : (openServing .sample answering false false).EachMove isRequest
      (abandoned [.go, .go]) ⟨ready, []⟩ (DropsUnexposed "s") := by
    refine System.eachMove_of_last_drop ?_ ?_
    · intro m e n hm
      cases hm
    · intro e he n hn hexposed
      obtain rfl : n = 0 := by simpa [eq_comm] using hn
      have htraced := (System.reachable_of_cancelReplay he).traced (fun _ => rfl) rfl
      obtain ⟨requestId, hdrawn, k, hentry⟩ := hexposed.entry htraced.follows
      rw [he] at hremoved
      obtain ⟨hids, hnone⟩ := Prod.mk.inj (Option.some.inj hremoved)
      rw [hids, List.mem_singleton] at hdrawn
      rw [hdrawn, hnone] at hentry
      cases hentry
  exact ⟨d, hd, hdrops,
    (none_outlives_iff rfl (fun _ => rfl) (fun _ => rfl) rfl hd).mpr hdrops⟩

/-- The request is dropped before its message is sent, and its entry stays. -/
theorem entry_outlives_request :
    ∃ d, (openServing .sample answering false false).cancelReplay isRequest (abandoned [])
        ⟨ready, []⟩ = some d ∧
      Ended "s" 0 d ∧ "r" ∈ drawn ("s", .request 0) d.config.shared.2 ∧
      (d.config.shared.1.node "s").pending.lookup "r" = some 0 ∧ ¬ NoneOutlives answering "s" d := by
  have hrun : ((openServing .sample answering false false).cancelReplay isRequest (abandoned [])
      ⟨ready, []⟩).map (fun d => (d.dropped, drawn ("s", .request 0) d.config.shared.2,
        (d.config.shared.1.node "s").pending.lookup "r")) =
      some ([("s", .request 0)], ["r"], some 0) := by decide +kernel
  obtain ⟨d, hd, hproj⟩ := Option.map_eq_some_iff.mp hrun
  simp only [Prod.mk.injEq] at hproj
  obtain ⟨hdropped, hdrawn, hentry⟩ := hproj
  have hended : Ended "s" 0 d := .inl (by simp [hdropped])
  have hid : "r" ∈ drawn ("s", .request 0) d.config.shared.2 := by simp [hdrawn]
  refine ⟨d, hd, hended, hid, hentry, fun hnone => ?_⟩
  have hgone := hnone 0 getIndex rfl hended "r" hid
  rw [hentry] at hgone
  cases hgone

end Tunnel

end Jrok
