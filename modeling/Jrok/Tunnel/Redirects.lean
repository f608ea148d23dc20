import Jrok.Http.Router
import Jrok.Tunnel.Proxy
import Jrok.World

/-!
# Where a redirect leads

`proxy_http` redirects to `http://<server_id>/<path>`: it puts the id of the server where its host
belongs, leaves the subdomain out, and does not compare the server with itself.
-/

namespace Jrok

open Concurrency

namespace Tunnel

/-- The server that holds the newest active row of the subdomain. -/
def holder (db : Database) (subdomain : String) : Option String :=
  (latestAgent (activeAgentsOf db.agents.rows subdomain)).map (·.serverId)

/-- The URL leads to the same tunnel and path on the server that holds the agent, which is not
    `me`. -/
structure Preserves (R : Router) (me : String) (db : Database) (request : ProxyRequest)
    (url : String) : Prop where
  host : ∃ id server, holder db request.subdomain = some id ∧ db.servers.find? id = some server ∧
    urlAuthority url = server.httpHost
  away : holder db request.subdomain ≠ some me
  route : R.route (urlPath url) = some (request.subdomain, request.path)

/-- The id of the server that holds the agent is its `http_host`, a slash and a text which, before
    the path without its leading slashes, is routed to the tunnel. -/
def Mounted (R : Router) (me : String) (db : Database) (request : ProxyRequest) : Prop :=
  ∃ id server mount, holder db request.subdomain = some id ∧ id ≠ me ∧
    db.servers.find? id = some server ∧ (∀ c ∈ server.httpHost.toList, endsAuthority c = false) ∧
    id = server.httpHost ++ "/" ++ mount ∧
    R.route (beforeQuery ("/" ++ mount ++ "/" ++ trimSlashes request.path).toList) =
      some (request.subdomain, request.path)

/-- The slash that `proxy_http` puts before the path is trimmed again. -/
theorem trimSlashes_slash (path : String) : trimSlashes ("/" ++ path) = trimSlashes path := by
  simp [trimSlashes]

theorem length_trimSlashes_le (path : String) : (trimSlashes path).length ≤ path.length := by
  rw [trimSlashes, String.length_ofList, ← String.length_toList]
  exact (List.dropWhile_suffix _).length_le

theorem length_beforeQuery_le (path : List Char) : (beforeQuery path).length ≤ path.length := by
  rw [beforeQuery, String.length_ofList]
  exact (List.takeWhile_prefix _).length_le

theorem redirectUrl_eq (id path : String) : redirectUrl id ("/" ++ path) =
    "http://" ++ String.ofList (id.toList ++ '/' :: (trimSlashes path).toList) := by
  have hrest : String.ofList (id.toList ++ '/' :: (trimSlashes path).toList) =
      id ++ "/" ++ trimSlashes path := by
    simp [← String.toList_inj]
  rw [hrest, redirectUrl, trimSlashes_slash, String.append_assoc, String.append_assoc,
    String.append_assoc]

/-- A redirect URL is only routed to the path of the request when the id already has the host and
    the subdomain in it: behind the id there is no room for both. -/
theorem exists_mount {R : Router} {id path subdomain : String}
    (h : R.route (urlPath (redirectUrl id ("/" ++ path))) = some (subdomain, path)) :
    ∃ host mount : String, id = host ++ "/" ++ mount ∧
      ∀ c ∈ host.toList, endsAuthority c = false := by
  have hhead := Router.head_slash h
  rw [redirectUrl_eq] at h hhead
  obtain ⟨host, tail, hsplit, hhost⟩ := exists_of_urlPath_head hhead
  have hlist : id.toList ++ '/' :: (trimSlashes path).toList = host.toList ++ '/' :: tail := by
    simpa using congrArg String.toList hsplit
  have hslash : '/' ∉ host.toList := by
    intro hmem
    simpa [endsAuthority] using hhost '/' hmem
  have hshort : ¬ (id = host ∧ tail = (trimSlashes path).toList) := by
    rintro ⟨rfl, rfl⟩
    rw [urlPath_slash _ hhost] at h
    have hroom := Router.length_lt h
    have hcut := length_beforeQuery_le ('/' :: (trimSlashes path).toList)
    have htrim := length_trimSlashes_le path
    simp only [List.length_cons, String.length_toList] at hcut
    omega
  rcases List.append_eq_append_iff.mp hlist with ⟨as, hid, htail⟩ | ⟨bs, hid, htail⟩
  · cases as with
    | nil =>
      refine absurd ⟨?_, ?_⟩ hshort
      · simpa [← String.toList_inj] using hid.symm
      · simpa using htail.symm
    | cons c as =>
      obtain ⟨rfl, -⟩ := List.cons.inj htail
      exact absurd (by simp [hid]) hslash
  · cases bs with
    | nil =>
      refine absurd ⟨?_, ?_⟩ hshort
      · simpa [← String.toList_inj] using hid
      · simpa using htail
    | cons c mount =>
      obtain ⟨rfl, -⟩ := List.cons.inj htail
      exact ⟨host, String.ofList mount, by simp [← String.toList_inj, hid], hhost⟩

/-- With a host in the id, the redirect URL splits there. -/
theorem redirectUrl_mount (host mount path : String) :
    redirectUrl (host ++ "/" ++ mount) ("/" ++ path) = "http://" ++ String.ofList
      (host.toList ++ '/' :: (mount ++ "/" ++ trimSlashes path).toList) := by
  rw [redirectUrl_eq]
  simp

/-- The URL for the server that the table names preserves the request exactly if that server's id
    is mounted. -/
theorem preserves_iff {R : Router} {me : String} {db : Database} {request : ProxyRequest}
    {id : String} (hholder : holder db request.subdomain = some id) :
    Preserves R me db request (redirectUrl id ("/" ++ request.path)) ↔
      Mounted R me db request := by
  constructor
  · rintro ⟨⟨id', server, hid', hserver, hauthority⟩, haway, hroute⟩
    obtain rfl := Option.some.inj (hholder.symm.trans hid')
    obtain ⟨host, mount, rfl, hhost⟩ := exists_mount hroute
    rw [redirectUrl_mount] at hauthority hroute
    rw [urlAuthority_slash _ hhost] at hauthority
    rw [urlPath_slash _ hhost] at hroute
    subst hauthority
    refine ⟨_, server, mount, hholder, fun hme => haway (hme ▸ hholder), hserver, hhost, rfl, ?_⟩
    simpa using hroute
  · rintro ⟨id', server, mount, hid', hme, hserver, hhost, hmount, hroute⟩
    obtain rfl := Option.some.inj (hholder.symm.trans hid')
    have haway : holder db request.subdomain ≠ some me := by
      rw [hholder]
      exact fun h => hme (Option.some.inj h)
    refine ⟨⟨id, server, hholder, hserver, ?_⟩, haway, ?_⟩
    · rw [hmount, redirectUrl_mount, urlAuthority_slash _ hhost]
    · rw [hmount, redirectUrl_mount, urlPath_slash _ hhost]
      simpa using hroute

/-! ## Runs -/

section Runs

variable {B : Backend} {H : HeaderValues} {faulty : Bool} {me : String} {request : ProxyRequest}
variable {w w' : World} {location body : String}

/-- The database is left as it is. -/
def SameDb (w w' : World) : Prop := w'.db = w.db

theorem SameDb.refl (w : World) : SameDb w w := rfl

theorem SameDb.trans {w₁ w₂ w₃ : World} (h₁ : SameDb w₁ w₂) (h₂ : SameDb w₂ w₃) :
    SameDb w₁ w₃ := Eq.trans h₂ h₁

theorem redirect_inj {location' body' : String}
    (h : H.redirect location body = .redirect location' body') : location = location' := by
  unfold HeaderValues.redirect at h
  split at h
  · exact (Response.redirect.inj h).1
  · cases h

/-- The part of `proxy_http` for a tunnel of this server never redirects. -/
theorem forward_not_redirect {agentId : String} {R : World → World → Prop} :
    ¬ (forward me H request agentId).Run (World.handler B faulty) R w (.redirect location body)
      w' := by
  intro h
  rw [forward_eq] at h
  obtain ⟨_, _, requestId, _, -, -, h⟩ := Prog.run_op_iff.mp h
  obtain ⟨_, _, pending, _, -, -, h⟩ := Prog.run_op_iff.mp h
  obtain ⟨_, _, sent, _, -, -, h⟩ := Prog.run_op_iff.mp h
  rcases sent with _ | _ | _
  · obtain ⟨_, _, _, _, -, -, h⟩ := Prog.run_op_iff.mp h
    exact Response.noConfusion (Prog.run_ret_iff.mp h).1
  · obtain ⟨_, _, _, _, -, -, h⟩ := Prog.run_op_iff.mp h
    exact Response.noConfusion (Prog.run_ret_iff.mp h).1
  · obtain ⟨_, _, response, _, -, -, h⟩ := Prog.run_op_iff.mp h
    cases response with
    | some response => exact Response.noConfusion (Prog.run_ret_iff.mp h).1
    | none =>
      obtain ⟨_, _, _, _, -, -, h⟩ := Prog.run_op_iff.mp h
      exact Response.noConfusion (Prog.run_ret_iff.mp h).1

/-- A redirect leads to the server that the table names. -/
theorem redirect_run (h : (proxyHttp me H request).Run (World.handler B faulty) SameDb w
      (.redirect location body) w') :
    ∃ id, holder w.db request.subdomain = some id ∧
      location = redirectUrl id ("/" ++ request.path) := by
  rw [proxyHttp_eq] at h
  obtain ⟨w₁, c, entries, w₂, hR₁, hiter, h⟩ := Prog.run_op_iff.mp h
  obtain ⟨n, -, rfl⟩ := World.exec_node.mp hiter
  cases hfind : AgentRegistry.findBySubdomain request.subdomain entries with
  | some found =>
    rw [hfind] at h
    exact absurd h forward_not_redirect
  | none =>
    rw [hfind] at h
    simp only [redirect_eq] at h
    obtain ⟨w₃, c', server, w₄, hR₂, hop, h⟩ := Prog.run_op_iff.mp h
    have hdb : w₃.db = w.db := hR₁.trans hR₂
    rcases World.exec_sql.mp hop with ⟨-, rfl, -⟩ | ⟨e, -, -, rfl, -⟩
    · simp only [Sql.exec, hdb] at h
      cases hholder : (latestAgent (activeAgentsOf w.db.agents.rows request.subdomain)).map
          (·.serverId) with
      | none =>
        rw [hholder] at h
        exact Response.noConfusion (Prog.run_ret_iff.mp h).1
      | some id =>
        rw [hholder] at h
        exact ⟨id, hholder, (redirect_inj (Prog.run_ret_iff.mp h).1.symm).symm⟩
    · exact Response.noConfusion (Prog.run_ret_iff.mp h).1

/-- A redirect leads to the tunnel on the server of its agent exactly if the id of that server has
    its host and the subdomain in it. -/
theorem redirect_preserves_iff {R : Router}
    (h : (proxyHttp me H request).Run (World.handler B faulty) SameDb w
      (.redirect location body) w') :
    Preserves R me w.db request location ↔ Mounted R me w.db request := by
  obtain ⟨id, hholder, rfl⟩ := redirect_run h
  exact preserves_iff hholder

end Runs

/-! ## A redirect between two servers -/

/-- A router on paths without escapes whose first segment stands in no other route. -/
def sampleRouter : Router where
  decode raw := if '%' ∈ raw.toList then none else some raw
  route path :=
    match path.toList with
    | '/' :: rest =>
      match rest.dropWhile (· ≠ '/') with
      | '/' :: wildcard =>
        if '%' ∈ rest then none
        else some (String.ofList (rest.takeWhile (· ≠ '/')), String.ofList wildcard)
      | _ => none
    | _ => none
  length_decode raw text h := by
    split at h
    · cases h
    · exact Nat.le_of_eq (congrArg String.length (Option.some.inj h)).symm
  route_eq_some path subdomain wildcard h := by
    split at h <;> try cases h
    rename_i rest hpath
    split at h <;> try cases h
    rename_i wildcard' hdrop
    split at h <;> try cases h
    rename_i hplain
    have hrest := List.takeWhile_append_dropWhile (p := (· ≠ '/')) (l := rest)
    rw [hdrop] at hrest
    have hleft : '%' ∉ rest.takeWhile (· ≠ '/') := fun hmem =>
      hplain ((List.takeWhile_prefix _).subset hmem)
    have hright : '%' ∉ wildcard' := fun hmem => hplain (hrest ▸ by simp [hmem])
    refine ⟨_, _, ?_, if_neg (by simpa using hleft), if_neg (by simpa using hright)⟩
    rw [← String.toList_inj, hpath]
    simpa using hrest.symm

/-- Two servers, and an agent that `holder` has registered for `app`. -/
def twoServers (holder : String) : World :=
  let row : AgentRow := ⟨"i", "app", holder, none, 80, "localhost", "http", "k", 0, 0, true⟩
  let db := ((Sql.registerServer "a" "a.example" "a.example" 0).exec (.keyed none) .migrated).2
  let db := ((Sql.registerServer "b" "b.example" "b.example" 0).exec (.keyed none) db).2
  { World.boot with db := ((Sql.registerAgent row).exec (.keyed none) db).2 }

/-- As `twoServers "b"`, but the id of the second server is its host and the subdomain. -/
def mountedServer : World :=
  let id := "b.example/app"
  let row : AgentRow := ⟨"i", "app", id, none, 80, "localhost", "http", "k", 0, 0, true⟩
  let db := ((Sql.registerServer "a" "a.example" "a.example" 0).exec (.keyed none) .migrated).2
  let db := ((Sql.registerServer id "b.example" "b.example" 0).exec (.keyed none) db).2
  { World.boot with db := ((Sql.registerAgent row).exec (.keyed none) db).2 }

theorem redirected (w : World) (location : String)
    (h : ((proxyHttp "a" sampleHeaders getIndex).play (World.handler (.keyed none) false)
      [.order [], .go] w).map (·.1) = some (.redirect location "Redirecting to agent server")) :
    ∃ w', (proxyHttp "a" sampleHeaders getIndex).Run (World.handler (.keyed none) false) SameDb
      w (.redirect location "Redirecting to agent server") w' := by
  obtain ⟨⟨_, w'⟩, hplay, rfl⟩ := Option.map_eq_some_iff.mp h
  exact ⟨w', .of_play SameDb.refl hplay⟩

/-- `b` is at `b.example` and has the tunnel under `/app`. -/
theorem not_preserves_plain :
    ¬ Preserves sampleRouter "a" (twoServers "b").db getIndex "http://b/index.html" := by
  intro h
  have hroute := h.route
  rw [show sampleRouter.route (urlPath "http://b/index.html") = none by decide +kernel] at hroute
  cases hroute

/-- The request is sent to the id of `b`, and a row that `a` has left itself sends the client back
    to `a`. -/
theorem redirect_loses_request :
    (∃ w', (proxyHttp "a" sampleHeaders getIndex).Run (World.handler (.keyed none) false) SameDb
        (twoServers "b") (.redirect "http://b/index.html" "Redirecting to agent server") w' ∧
      ¬ Preserves sampleRouter "a" (twoServers "b").db getIndex "http://b/index.html") ∧
    ∃ w', (proxyHttp "a" sampleHeaders getIndex).Run (World.handler (.keyed none) false) SameDb
        (twoServers "a") (.redirect "http://a/index.html" "Redirecting to agent server") w' ∧
      ¬ Preserves sampleRouter "a" (twoServers "a").db getIndex "http://a/index.html" := by
  constructor
  · obtain ⟨w', hrun⟩ := redirected (twoServers "b") "http://b/index.html" (by decide +kernel)
    exact ⟨w', hrun, not_preserves_plain⟩
  · obtain ⟨w', hrun⟩ := redirected (twoServers "a") "http://a/index.html" (by decide +kernel)
    exact ⟨w', hrun, fun h => h.away (by decide +kernel)⟩

/-- The id `b` has no host in it; the id `b.example/app` leads to the tunnel. -/
theorem redirect_preserves_iff_sides :
    (∃ w', (proxyHttp "a" sampleHeaders getIndex).Run (World.handler (.keyed none) false) SameDb
        (twoServers "b") (.redirect "http://b/index.html" "Redirecting to agent server") w' ∧
      ¬ Mounted sampleRouter "a" (twoServers "b").db getIndex ∧
      ¬ Preserves sampleRouter "a" (twoServers "b").db getIndex "http://b/index.html") ∧
    ∃ w', (proxyHttp "a" sampleHeaders getIndex).Run (World.handler (.keyed none) false) SameDb
        mountedServer (.redirect "http://b.example/app/index.html" "Redirecting to agent server")
        w' ∧
      Mounted sampleRouter "a" mountedServer.db getIndex ∧
      Preserves sampleRouter "a" mountedServer.db getIndex "http://b.example/app/index.html" := by
  constructor
  · obtain ⟨w', hrun⟩ := redirected (twoServers "b") "http://b/index.html" (by decide +kernel)
    exact ⟨w', hrun, mt (redirect_preserves_iff hrun).mpr not_preserves_plain, not_preserves_plain⟩
  · obtain ⟨w', hrun⟩ := redirected mountedServer "http://b.example/app/index.html"
      (by decide +kernel)
    have hends : "b.example".toList.any endsAuthority = false := by decide +kernel
    have hmounted : Mounted sampleRouter "a" mountedServer.db getIndex :=
      ⟨"b.example/app", ⟨"b.example/app", "b.example", "b.example", 0, 0, true⟩, "app",
        by decide +kernel, by decide, by decide +kernel,
        by simpa only [List.any_eq_false, Bool.not_eq_true] using hends, rfl, by decide +kernel⟩
    exact ⟨w', hrun, hmounted, (redirect_preserves_iff hrun).mpr hmounted⟩

end Tunnel

end Jrok
