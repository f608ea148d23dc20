import Jrok.Routing.Pattern
import Jrok.Tunnel.Redirects
import Mathlib.Data.List.TakeWhile

/-!
# The routes of the server

The router that `main` builds. A tunnel is reached by `/:subdomain/*path`, and the subdomains, which
`register` takes as they come, share their paths with the other routes. The router does not come
back to the tunnels from a path that is another route's but for a slash at its end.
-/

namespace Jrok

open Concurrency Routing

/-- The handlers that `main` mounts. -/
inductive HttpHandler where
  | health
  | handleAgentWs
  | proxyHttp
  | handleTcpConnectionRequest
  | getSessionStatus
  | agentListening
  | reportConnectionFailure
  | relayToAgent
  | getConnectionStats
  deriving DecidableEq, Repr

/-- `get`, `post` and `any` of `axum::routing`. -/
inductive MethodFilter where
  | get
  | post
  | any
  deriving DecidableEq, Repr

/-- `get` also takes a HEAD request. -/
def MethodFilter.allows : MethodFilter → String → Bool
  | .get, method => method = "GET" || method = "HEAD"
  | .post, method => method = "POST"
  | .any, _ => true

structure Route where
  pattern : List Segment
  methods : MethodFilter
  handler : HttpHandler
  deriving DecidableEq, Repr

/-- The route of `proxy_http`. -/
def tunnelRoute : Route := ⟨[.param, .wildcard], .any, .proxyHttp⟩

/-- The routes of `main`. -/
def routes : List Route :=
  [⟨[.static "health"], .get, .health⟩,
   ⟨[.static "ws", .static "agent"], .get, .handleAgentWs⟩,
   tunnelRoute,
   ⟨[.static "tcp", .param], .get, .handleTcpConnectionRequest⟩,
   ⟨[.static "tcp", .static "session", .param], .get, .getSessionStatus⟩,
   ⟨[.static "agent", .static "listening"], .post, .agentListening⟩,
   ⟨[.static "tcp", .static "session", .param, .static "fail"], .post, .reportConnectionFailure⟩,
   ⟨[.static "relay", .param, .static "agent"], .post, .relayToAgent⟩,
   ⟨[.static "stats"], .get, .getConnectionStats⟩]

/-- What the HTTP stack contributes to the dispatch: the path of a request target (`none` when the
    target is no URI), the choice between the patterns of a table, and the percent-decoding of what
    they capture, which never makes a text longer (`none`: not UTF-8). -/
structure Axum extends Selector where
  uriPath : String → Option String
  decode : String → Option String
  uriPath_origin : ∀ target path, uriPath ("/" ++ target) = some path →
    path = beforeQuery ("/" ++ target).toList
  length_decode : ∀ raw text, decode raw = some text → text.length ≤ raw.length

inductive Dispatch where
  /-- 400: the target is no URI, or a captured text does not decode -/
  | badRequest
  /-- the CORS layer answers every OPTIONS request itself -/
  | preflight
  /-- 404 -/
  | notFound
  /-- 405 -/
  | methodNotAllowed
  | handled (handler : HttpHandler) (params : List String)
  deriving DecidableEq

namespace Axum

variable (A : Axum)

/-- What `Path` extracts, each text percent-decoded. -/
def extract (route : Route) (path : List Char) : Dispatch :=
  match (captures route.pattern path).bind fun raw => raw.mapM A.decode with
  | some params => .handled route.handler params
  | none => .badRequest

/-- Where a request for a path goes. -/
def dispatchPath (method path : String) : Dispatch :=
  if method = "OPTIONS" then .preflight
  else
    match (A.select (routes.map (·.pattern)) path.toList).bind fun pattern =>
      routes.find? (·.pattern = pattern) with
    | none => .notFound
    | some route =>
      if route.methods.allows method then A.extract route path.toList else .methodNotAllowed

/-- Where the server takes a request, from its method and its target. -/
def dispatch (method target : String) : Dispatch :=
  match A.uriPath target with
  | none => .badRequest
  | some path => A.dispatchPath method path

end Axum

/-! ## The paths of the other routes -/

/-- The paths of the routes other than the tunnels'. -/
inductive Fixed : String → Prop where
  | health : Fixed "/health"
  | handleAgentWs : Fixed "/ws/agent"
  | handleTcpConnectionRequest {id : String} : IsSegment id → Fixed ("/tcp/" ++ id)
  | getSessionStatus {id : String} : IsSegment id → Fixed ("/tcp/session/" ++ id)
  | agentListening : Fixed "/agent/listening"
  | reportConnectionFailure {id : String} : IsSegment id → Fixed ("/tcp/session/" ++ id ++ "/fail")
  | relayToAgent {id : String} : IsSegment id → Fixed ("/relay/" ++ id ++ "/agent")
  | getConnectionStats : Fixed "/stats"

theorem fixed_of_matches {route : Route} {path : String} (hroute : route ∈ routes)
    (hne : route ≠ tunnelRoute) (hmatches : Matches route.pattern path.toList) : Fixed path := by
  obtain ⟨captured, hfits, hpath⟩ := matches_iff.mp hmatches
  have hfill {path' : String} (h : path'.toList = path.toList) (hfixed : Fixed path') :
      Fixed path := String.toList_inj.mp h ▸ hfixed
  simp only [routes, List.mem_cons, List.not_mem_nil, or_false] at hroute
  obtain rfl | rfl | rfl | rfl | rfl | rfl | rfl | rfl | rfl := hroute <;>
    simp only [tunnelRoute, fits_static_iff, fits_param_iff, fits_nil_iff] at hfits
  · exact hfill (by simp [hpath, fill]) .health
  · exact hfill (by simp [hpath, fill]) .handleAgentWs
  · exact absurd rfl hne
  · obtain ⟨id, _, rfl, hid, rfl⟩ := hfits
    exact hfill (by simp [hpath, fill]) (.handleTcpConnectionRequest hid)
  · obtain ⟨id, _, rfl, hid, rfl⟩ := hfits
    exact hfill (by simp [hpath, fill]) (.getSessionStatus hid)
  · exact hfill (by simp [hpath, fill]) .agentListening
  · obtain ⟨id, _, rfl, hid, rfl⟩ := hfits
    exact hfill (by simp [hpath, fill]) (.reportConnectionFailure hid)
  · obtain ⟨id, _, rfl, hid, rfl⟩ := hfits
    exact hfill (by simp [hpath, fill]) (.relayToAgent hid)
  · exact hfill (by simp [hpath, fill]) .getConnectionStats

theorem matches_of_fixed {path : String} (h : Fixed path) :
    ∃ route ∈ routes, route ≠ tunnelRoute ∧ Matches route.pattern path.toList := by
  have hfind (route : Route) (captured : List String) (hmem : route ∈ routes)
      (hne : route ≠ tunnelRoute) (hfits : Fits route.pattern captured)
      (hpath : path.toList = fill route.pattern captured) :
      ∃ route ∈ routes, route ≠ tunnelRoute ∧ Matches route.pattern path.toList :=
    ⟨route, hmem, hne, matches_iff.mpr ⟨captured, hfits, hpath⟩⟩
  cases h with
  | health =>
    exact hfind ⟨[.static "health"], .get, .health⟩ [] (by decide) (by decide) (by simp)
      (by simp [fill])
  | handleAgentWs =>
    exact hfind ⟨[.static "ws", .static "agent"], .get, .handleAgentWs⟩ [] (by decide) (by decide)
      (by simp) (by simp [fill])
  | @handleTcpConnectionRequest id hid =>
    exact hfind ⟨[.static "tcp", .param], .get, .handleTcpConnectionRequest⟩ [id] (by decide)
      (by decide) (by simpa using hid) (by simp [fill])
  | @getSessionStatus id hid =>
    exact hfind ⟨[.static "tcp", .static "session", .param], .get, .getSessionStatus⟩ [id]
      (by decide) (by decide) (by simpa using hid) (by simp [fill])
  | agentListening =>
    exact hfind ⟨[.static "agent", .static "listening"], .post, .agentListening⟩ [] (by decide)
      (by decide) (by simp) (by simp [fill])
  | @reportConnectionFailure id hid =>
    exact hfind ⟨[.static "tcp", .static "session", .param, .static "fail"], .post,
      .reportConnectionFailure⟩ [id] (by decide) (by decide) (by simpa using hid) (by simp [fill])
  | @relayToAgent id hid =>
    exact hfind ⟨[.static "relay", .param, .static "agent"], .post, .relayToAgent⟩ [id] (by decide)
      (by decide) (by simpa using hid) (by simp [fill])
  | getConnectionStats =>
    exact hfind ⟨[.static "stats"], .get, .getConnectionStats⟩ [] (by decide) (by decide) (by simp)
      (by simp [fill])

theorem fixed_iff {path : String} :
    Fixed path ↔ ∃ route ∈ routes, route ≠ tunnelRoute ∧ Matches route.pattern path.toList :=
  ⟨matches_of_fixed, fun ⟨_, hroute, hne, hmatches⟩ => fixed_of_matches hroute hne hmatches⟩

/-- What the other routes have in front of their parameters. -/
def fronts : List String := ["/tcp/", "/tcp/session/", "/relay/"]

/-- The paths on which the search for a route is left with a slash and does not go back to the
    tunnels: those of the other routes with a slash behind them, the one of the relay's route up
    to behind its parameter, and those that have the slash in the place of a parameter. -/
inductive Slashed : String → Prop where
  | fixed {path : String} : Fixed path → Slashed (path ++ "/")
  | relay {id : String} : IsSegment id → Slashed ("/relay/" ++ id ++ "/")
  | front {path : String} : path ∈ fronts → Slashed (path ++ "/")

/-- `Slashed`, by the patterns that match in front of the slash. -/
def slashed (path : List Char) : Bool :=
  path.getLast? = some '/' &&
    (fronts.contains (String.ofList path.dropLast) ||
      ([.static "relay", .param] :: (routes.erase tunnelRoute).map (·.pattern)).any
        fun pattern => Matches pattern path.dropLast)

theorem matches_relay_iff {q : List Char} : Matches [.static "relay", .param] q ↔
    ∃ id, IsSegment id ∧ String.ofList q = "/relay/" ++ id := by
  simp only [matches_iff, fits_static_iff, fits_param_iff, fits_nil_iff]
  constructor
  · rintro ⟨_, ⟨id, _, rfl, hid, rfl⟩, rfl⟩
    exact ⟨id, hid, String.toList_inj.mp (by simp [fill])⟩
  · rintro ⟨id, hid, hq⟩
    refine ⟨[id], ⟨id, [], rfl, hid, rfl⟩, ?_⟩
    simpa [fill] using congrArg String.toList hq

theorem matches_others_iff {q : List Char} :
    (∃ pattern ∈ (routes.erase tunnelRoute).map (·.pattern), Matches pattern q) ↔
      Fixed (String.ofList q) := by
  rw [fixed_iff]
  simp only [List.mem_map, List.Nodup.mem_erase_iff (show routes.Nodup by decide),
    String.toList_ofList]
  constructor
  · rintro ⟨_, ⟨route, ⟨hne, hroute⟩, rfl⟩, hmatches⟩
    exact ⟨route, hroute, hne, hmatches⟩
  · rintro ⟨route, hroute, hne, hmatches⟩
    exact ⟨_, ⟨route, ⟨hne, hroute⟩, rfl⟩, hmatches⟩

theorem slashed_iff {path : String} : slashed path.toList = true ↔ Slashed path := by
  have hcut : path.toList.getLast? = some '/' ↔
      path = String.ofList path.toList.dropLast ++ "/" := by
    rw [← String.toList_inj]
    constructor
    · intro hlast
      simpa using (List.dropLast_append_getLast? '/' hlast).symm
    · intro hpath
      rw [hpath]
      simp
  simp only [slashed, Bool.and_eq_true, decide_eq_true_eq, List.any_cons, Bool.or_eq_true,
    List.any_eq_true, List.contains_iff_mem, matches_relay_iff, matches_others_iff]
  constructor
  · rintro ⟨hlast, hfront | ⟨id, hid, hq⟩ | hfixed⟩
    · rw [hcut.mp hlast]
      exact .front hfront
    · rw [hcut.mp hlast, hq]
      exact .relay hid
    · rw [hcut.mp hlast]
      exact .fixed hfixed
  · have hlast (q : String) : (q ++ "/").toList.getLast? = some '/' := by simp
    have hof (q : String) : String.ofList (q ++ "/").toList.dropLast = q :=
      String.toList_inj.mp (by simp)
    rintro (hfixed | hid | hfront)
    · exact ⟨hlast _, .inr (.inr (by rwa [hof]))⟩
    · exact ⟨hlast _, .inr (.inl ⟨_, hid, hof _⟩)⟩
    · exact ⟨hlast _, .inl (by rwa [hof])⟩

/-! ## Requests that reach a tunnel -/

/-- No two routes have one pattern. -/
theorem find_pattern : ∀ route ∈ routes,
    routes.find? (fun other => other.pattern = route.pattern) = some route := by decide

theorem eq_tunnelRoute : ∀ route ∈ routes, route.handler = .proxyHttp → route = tunnelRoute := by
  decide

/-- Every other route starts with a static segment, and so is preferred. -/
theorem rank_lt_tunnelRoute : ∀ pattern ∈ routes.map (·.pattern), pattern ≠ tunnelRoute.pattern →
    rank pattern < rank tunnelRoute.pattern := by decide

theorem captures_tunnelRoute {path : String} {captured : List String} :
    captures tunnelRoute.pattern path.toList = some captured ↔
      ∃ subdomain rest, captured = [subdomain, rest] ∧ IsSegment subdomain ∧ rest ≠ "" ∧
        path = "/" ++ subdomain ++ "/" ++ rest := by
  rw [captures_iff]
  constructor
  · rintro ⟨hfits, hpath⟩
    simp only [tunnelRoute, fits_param_iff, fits_wildcard_iff] at hfits
    obtain ⟨subdomain, _, rfl, hsubdomain, rest, rfl, hrest⟩ := hfits
    refine ⟨subdomain, rest, rfl, hsubdomain, hrest, String.toList_inj.mp ?_⟩
    simp [hpath, tunnelRoute, fill]
  · rintro ⟨subdomain, rest, rfl, hsubdomain, hrest, rfl⟩
    simp [tunnelRoute, fill, hsubdomain, hrest]

namespace Axum

variable {A : Axum} {path : String}

theorem select_tunnelRoute :
    A.select (routes.map (·.pattern)) path.toList = some tunnelRoute.pattern ↔
      A.select (routes.map (·.pattern)) path.toList ≠ none ∧
        Matches tunnelRoute.pattern path.toList ∧ ¬ Fixed path := by
  rw [A.select_last_iff rank_lt_tunnelRoute, fixed_iff]
  refine and_congr_right fun _ => and_congr_right fun _ => ?_
  constructor
  · rintro hnone ⟨route, hroute, hne, hmatches⟩
    refine hnone route.pattern (List.mem_map_of_mem hroute) (fun heq => hne ?_) hmatches
    have hfind := find_pattern route hroute
    rw [heq] at hfind
    exact (Option.some.inj (hfind.symm.trans (find_pattern tunnelRoute (by decide))))
  · intro hnone pattern hpattern hne hmatches
    obtain ⟨route, hroute, rfl⟩ := List.mem_map.mp hpattern
    exact hnone ⟨route, hroute, fun heq => hne (heq ▸ rfl), hmatches⟩

/-- A handler is only called on a path that the pattern of its route matches. -/
theorem extract_handled {route : Route} {handler : HttpHandler} {params : List String}
    (h : A.extract route path.toList = .handled handler params) :
    route.handler = handler ∧ Matches route.pattern path.toList := by
  unfold extract at h
  split at h
  · rename_i hparams
    obtain ⟨raw, hraw, -⟩ := Option.bind_eq_some_iff.mp hparams
    injection h with hhandler
    exact ⟨hhandler, Option.isSome_of_eq_some hraw⟩
  · cases h

/-- What `Path` extracts for `proxy_http`. -/
theorem extract_tunnelRoute {params : List String} :
    A.extract tunnelRoute path.toList = .handled .proxyHttp params ↔
      ∃ rawSubdomain rawRest subdomain rest,
        path = "/" ++ rawSubdomain ++ "/" ++ rawRest ∧ IsSegment rawSubdomain ∧ rawRest ≠ "" ∧
          A.decode rawSubdomain = some subdomain ∧ A.decode rawRest = some rest ∧
          params = [subdomain, rest] := by
  unfold extract
  constructor
  · intro h
    split at h
    · rename_i params' hparams
      injection h with _ heq
      subst heq
      obtain ⟨raw, hraw, hdecode⟩ := Option.bind_eq_some_iff.mp hparams
      obtain ⟨rawSubdomain, rawRest, rfl, hsegment, hrest, rfl⟩ := captures_tunnelRoute.mp hraw
      simp only [List.mapM_cons, List.mapM_nil, Option.bind_eq_bind, Option.pure_def,
        Option.bind_eq_some_iff, Option.bind_some, Option.some.injEq] at hdecode
      obtain ⟨subdomain, hs, _, ⟨rest, hr, rfl⟩, rfl⟩ := hdecode
      exact ⟨rawSubdomain, rawRest, subdomain, rest, rfl, hsegment, hrest, hs, hr, rfl⟩
    · cases h
  · rintro ⟨rawSubdomain, rawRest, subdomain, rest, hpath, hsegment, hrest, hs, hr, rfl⟩
    rw [captures_tunnelRoute.mpr ⟨rawSubdomain, rawRest, rfl, hsegment, hrest, hpath⟩]
    simp [hs, hr, tunnelRoute]

/-- A request reaches `proxy_http` when the tunnels' route is chosen for its path. -/
theorem dispatchPath_tunnel {method : String} {params : List String} :
    A.dispatchPath method path = .handled .proxyHttp params ↔
      method ≠ "OPTIONS" ∧
        A.select (routes.map (·.pattern)) path.toList = some tunnelRoute.pattern ∧
        ∃ rawSubdomain rawRest subdomain rest,
          path = "/" ++ rawSubdomain ++ "/" ++ rawRest ∧ IsSegment rawSubdomain ∧ rawRest ≠ "" ∧
            A.decode rawSubdomain = some subdomain ∧ A.decode rawRest = some rest ∧
            params = [subdomain, rest] := by
  rw [← extract_tunnelRoute]
  unfold dispatchPath
  constructor
  · intro h
    split at h
    · cases h
    · rename_i hmethod
      split at h
      · cases h
      · rename_i route hroute
        split at h
        · obtain ⟨pattern, hpattern, hfind⟩ := Option.bind_eq_some_iff.mp hroute
          have htunnel := eq_tunnelRoute route (List.mem_of_find?_eq_some hfind)
            (extract_handled h).1
          subst htunnel
          have heq : tunnelRoute.pattern = pattern := by
            simpa using List.find?_some hfind
          exact ⟨hmethod, heq ▸ hpattern, h⟩
        · cases h
  · rintro ⟨hmethod, hselect, h⟩
    rw [if_neg hmethod, hselect]
    have hfind := find_pattern tunnelRoute (by decide)
    rw [Option.bind_some, hfind]
    exact h

/-- The router of `main`, as `proxy_http` depends on it. -/
def router (A : Axum) : Router where
  decode := A.decode
  route path :=
    match A.dispatchPath "GET" path with
    | .handled .proxyHttp [subdomain, rest] => some (subdomain, rest)
    | _ => none
  length_decode := A.length_decode
  route_eq_some path subdomain rest h := by
    split at h
    · rename_i heq
      obtain ⟨-, -, rawSubdomain, rawRest, _, _, hpath, -, -, hs, hr, hparams⟩ :=
        dispatchPath_tunnel.mp heq
      cases hparams
      cases h
      exact ⟨rawSubdomain, rawRest, hpath, hs, hr⟩
    · cases h

/-! ## Reaching a tunnel by its subdomain -/

end Axum

/-- How the stack finds a route for the paths that some pattern of `main` matches: for all of them
    but those where the search is left with a slash. -/
structure Matchit extends Axum where
  select_eq_none_iff : ∀ path : String, (∃ route ∈ routes, Matches route.pattern path.toList) →
    (select (routes.map (·.pattern)) path.toList = none ↔ Slashed path)

/-- The tunnels' route is chosen for the paths of its shape that no other route takes. -/
theorem Matchit.select_tunnelRoute {M : Matchit} {path : String}
    (hmatches : Matches tunnelRoute.pattern path.toList) :
    M.select (routes.map (·.pattern)) path.toList = some tunnelRoute.pattern ↔
      ¬ Fixed path ∧ ¬ Slashed path := by
  rw [Axum.select_tunnelRoute, ne_eq,
    M.select_eq_none_iff path ⟨tunnelRoute, by decide, hmatches⟩, and_comm, and_assoc]
  exact and_iff_right hmatches

namespace Axum

variable {A : Axum}

/-- What a text must be for `GET /<subdomain>/<path>` to arrive as it is written. -/
structure Unshadowed (A : Axum) (subdomain path : String) : Prop where
  segment : IsSegment subdomain
  path_nonempty : path ≠ ""
  no_query : ∀ c ∈ ("/" ++ subdomain ++ "/" ++ path).toList, endsPath c = false
  not_fixed : ¬ Fixed ("/" ++ subdomain ++ "/" ++ path)
  not_slashed : ¬ Slashed ("/" ++ subdomain ++ "/" ++ path)
  accepted : (A.uriPath ("/" ++ subdomain ++ "/" ++ path)).isSome
  decode_subdomain : A.decode subdomain = some subdomain
  decode_path : A.decode path = some path

/-- Nothing is cut off a target that is no longer than its path. -/
theorem beforeQuery_of_length_le {target : String}
    (h : target.length ≤ (beforeQuery target.toList).length) :
    beforeQuery target.toList = target ∧ ∀ c ∈ target.toList, endsPath c = false := by
  have hprefix := List.takeWhile_prefix (fun c => !endsPath c) (l := target.toList)
  have hlength : target.toList.length ≤
      (target.toList.takeWhile fun c => !endsPath c).length := by
    simpa only [beforeQuery, String.length_ofList, String.length_toList] using h
  have hall := hprefix.eq_of_length_le hlength
  refine ⟨?_, fun c hc => ?_⟩
  · rw [beforeQuery, hall, String.ofList_toList]
  · simpa using List.takeWhile_eq_self_iff.mp hall c hc

theorem beforeQuery_of_plain {target : String} (h : ∀ c ∈ target.toList, endsPath c = false) :
    beforeQuery target.toList = target := by
  rw [beforeQuery, List.takeWhile_eq_self_iff.mpr fun c hc => by simp [h c hc],
    String.ofList_toList]

/-- The decoding shortens nothing only when it leaves both texts alone. -/
theorem raw_eq {rawSubdomain rawRest subdomain rest : String}
    (hs : A.decode rawSubdomain = some subdomain) (hr : A.decode rawRest = some rest)
    (h : "/" ++ rawSubdomain ++ "/" ++ rawRest = "/" ++ subdomain ++ "/" ++ rest) :
    rawSubdomain = subdomain ∧ rawRest = rest := by
  have hsle := A.length_decode rawSubdomain subdomain hs
  have hrle := A.length_decode rawRest rest hr
  have hlength := congrArg String.length h
  simp only [String.length_append] at hlength
  have heq := congrArg String.toList h
  simp only [String.toList_append, List.append_assoc] at heq
  obtain ⟨-, hrest⟩ := List.append_inj heq rfl
  obtain ⟨hsubdomain, hrest⟩ := List.append_inj hrest (by
    simp only [String.length_toList]
    omega)
  obtain ⟨-, hrest⟩ := List.append_inj hrest rfl
  exact ⟨String.toList_inj.mp hsubdomain, String.toList_inj.mp hrest⟩

/-- A GET request to `/<subdomain>/<path>` is dispatched to `proxy_http` with exactly these two
    when neither is changed on the way and no other route takes the path, with a slash behind its
    own or without. -/
theorem tunnel_reached_iff (M : Matchit) (subdomain path : String) :
    M.dispatch "GET" ("/" ++ subdomain ++ "/" ++ path) = .handled .proxyHttp [subdomain, path] ↔
      Unshadowed M.toAxum subdomain path := by
  have horigin : "/" ++ subdomain ++ "/" ++ path = "/" ++ (subdomain ++ "/" ++ path) := by
    simp only [String.append_assoc]
  have hshape : IsSegment subdomain → path ≠ "" →
      Matches tunnelRoute.pattern ("/" ++ subdomain ++ "/" ++ path).toList := fun hsegment hpath =>
    Option.isSome_of_eq_some
      (captures_tunnelRoute.mpr ⟨subdomain, path, rfl, hsegment, hpath, rfl⟩)
  unfold dispatch
  constructor
  · intro h
    split at h
    · cases h
    · rename_i path' haccepted
      have hcut := M.uriPath_origin _ _ (horigin ▸ haccepted)
      rw [← horigin] at hcut
      obtain ⟨-, hselect, rawSubdomain, rawRest, _, _, hpath, hsegment, hrest, hs, hr, hparams⟩ :=
        dispatchPath_tunnel.mp h
      cases hparams
      have hsle := M.length_decode rawSubdomain subdomain hs
      have hrle := M.length_decode rawRest path hr
      obtain ⟨hwhole, hplain⟩ := beforeQuery_of_length_le
        (by
          rw [← hcut, hpath]
          simp only [String.length_append]
          omega)
      rw [hwhole] at hcut
      subst hcut
      obtain ⟨rfl, rfl⟩ := raw_eq hs hr hpath.symm
      obtain ⟨hfixed, hslashed⟩ :=
        (Matchit.select_tunnelRoute (hshape hsegment hrest)).mp hselect
      exact ⟨hsegment, hrest, hplain, hfixed, hslashed, by rw [haccepted]; rfl, hs, hr⟩
  · intro h
    obtain ⟨path', haccepted⟩ := Option.isSome_iff_exists.mp h.accepted
    have hcut := M.uriPath_origin _ _ (horigin ▸ haccepted)
    rw [← horigin, beforeQuery_of_plain h.no_query] at hcut
    subst hcut
    rw [haccepted]
    refine dispatchPath_tunnel.mpr ⟨by decide, ?_, subdomain, path, subdomain, path, rfl,
      h.segment, h.path_nonempty, h.decode_subdomain, h.decode_path, rfl⟩
    exact (Matchit.select_tunnelRoute (hshape h.segment h.path_nonempty)).mpr
      ⟨h.not_fixed, h.not_slashed⟩

/-- The least pattern but for the paths that end at a slash, targets of printable characters, and
    decoding for what has nothing to decode. -/
def sample : Axum where
  toSelector := Selector.least.except slashed
  uriPath target :=
    if target.toList.all fun c => '!' ≤ c && c ≤ '~' then some (beforeQuery target.toList) else none
  decode := Tunnel.sampleRouter.decode
  uriPath_origin target path h := by
    split at h
    · exact (Option.some.inj h).symm
    · cases h
  length_decode := Tunnel.sampleRouter.length_decode

end Axum

def Matchit.sample : Matchit where
  toAxum := Axum.sample
  select_eq_none_iff path hmatches := by
    obtain ⟨route, hroute, hmatches⟩ := hmatches
    rw [← slashed_iff]
    simp only [Axum.sample, Selector.except, ite_eq_left_iff, Selector.least_eq_none_iff]
    refine ⟨fun h => ?_, fun h hnot => absurd h hnot⟩
    by_contra hnot
    exact h hnot _ (List.mem_map_of_mem hroute) hmatches

namespace Axum

/-- `register` returns `Ok` for a subdomain, on a backend whose tables have the key of its
    upsert. -/
def Registers (subdomain : String) : Prop :=
  ∃ cs agent w', (AgentRegistry.register (.keyed none) "a" subdomain 8080 "localhost" .http).play
    (World.handler (.keyed none) false) cs (.started "a") = some (.ok agent, w')

/-- No text is refused. -/
theorem registers (subdomain : String) : Registers subdomain := by
  let cs : List Choice := [.fresh "i", .fresh "k", .go, .go, .read 0, .read 0, .read 0, .go,
    .read 0, .go, .go]
  have hrun : ((AgentRegistry.register (.keyed none) "a" subdomain 8080 "localhost" .http).play
      (World.handler (.keyed none) false) cs (.started "a")).map (·.1) = some (.ok ("i", 0)) := by
    simp only [AgentRegistry.register_eq, AgentRegistry.registerWith_eq,
      AgentRegistry.checkOwner_eq]
    rfl
  obtain ⟨⟨r, w'⟩, hplay, hr⟩ := Option.map_eq_some_iff.mp hrun
  cases hr
  exact ⟨cs, ("i", 0), w', hplay⟩

example : Matchit.sample.dispatch "GET" "/myapp/index.html" =
    .handled .proxyHttp ["myapp", "index.html"] := by decide +kernel

example : ∀ target ∈ ["/tcp/app/", "/ws/agent/", "/tcp/session/", "/tcp/session/zz/",
      "/relay/x/", "/tcp//"],
    Matchit.sample.dispatch "GET" target = .notFound := by decide +kernel

/-- A tunnel named `tcp` is shadowed by `/tcp/:subdomain`, and no tunnel has a root. -/
theorem tunnels_shadowed :
    Registers "tcp" ∧ Matchit.sample.dispatch "GET" "/tcp/app" =
      .handled .handleTcpConnectionRequest ["app"] ∧
    Registers "myapp" ∧ Matchit.sample.dispatch "GET" "/myapp/" = .notFound ∧
    ¬ ∀ subdomain path, Registers subdomain →
      Matchit.sample.dispatch "GET" ("/" ++ subdomain ++ "/" ++ path) =
        .handled .proxyHttp [subdomain, path] := by
  have htcp : Matchit.sample.dispatch "GET" "/tcp/app" =
      .handled .handleTcpConnectionRequest ["app"] := by decide +kernel
  have hroot : Matchit.sample.dispatch "GET" "/myapp/" = .notFound := by decide +kernel
  refine ⟨registers "tcp", htcp, registers "myapp", hroot, fun hall => ?_⟩
  have happ := hall "tcp" "app" (registers "tcp")
  rw [show "/" ++ "tcp" ++ "/" ++ "app" = "/tcp/app" by decide, htcp] at happ
  cases happ

end Axum

end Jrok
