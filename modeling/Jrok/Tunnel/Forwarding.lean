import Jrok.Http.Routes

/-!
# What a forwarded request keeps

Two requests to a tunnel, and the messages in which `proxy_http` sends them to the agent. The query
is not among what `proxy_http` extracts, the path is decoded, the headers are put into a map, and a
body that cannot be read is replaced by an empty one.
-/

namespace Jrok

open Concurrency

namespace Tunnel

/-- A request as the router gets it. A header has any bytes as its value; a body that cannot be
    read to its end is `none`. -/
structure Incoming where
  method : String
  path : String
  query : Option String
  headers : List (String × List UInt8)
  body : Option (List UInt8)

/-- What `proxy_http` extracts from a request that is routed to it. -/
def Incoming.extract (A : Axum) (incoming : Incoming) : Option ProxyRequest :=
  match A.dispatchPath incoming.method incoming.path with
  | .handled .proxyHttp [subdomain, path] =>
    some { subdomain := subdomain
           path := path
           method := incoming.method
           headers := incoming.headers
           body := incoming.body }
  | _ => none

/-- What stands behind the first segment of a path. -/
def afterSubdomain (path : String) : String :=
  String.ofList (((path.toList.drop 1).dropWhile (· ≠ '/')).drop 1)

/-- A run of `proxy_http` sends the message to an agent. -/
def Forwards (H : HeaderValues) (me : String) (request : ProxyRequest) (m : Message) : Prop :=
  ∃ es p agentId sent,
    (proxyHttp me H request).Path (es ++ [⟨.node me (.agentsSend agentId m), sent⟩]) p

/-- Two `HttpRequest`s with the same fields other than `request_id`. The headers are a map. -/
def SameFields : Message → Message → Prop
  | .httpRequest _ method path headers body, .httpRequest _ method' path' headers' body' =>
    method = method' ∧ path = path' ∧ (∀ name, headers.lookup name = headers'.lookup name) ∧
      body = body'
  | _, _ => False

def EmptyBody : Message → Prop
  | .httpRequest _ _ _ _ body => body = some []
  | _ => False

/-- The requests differ in something that the agent is to get. -/
def Differ (a b : Incoming) : Prop :=
  a.method ≠ b.method ∨ afterSubdomain a.path ≠ afterSubdomain b.path ∨ a.query ≠ b.query ∨
    a.headers ≠ b.headers ∨ a.body ≠ b.body

/-- The last of the values under this name that are text. -/
def lastText (H : HeaderValues) (name : String) (headers : List (String × List UInt8)) :
    Option String :=
  ((headers.filter (·.1 = name)).filterMap fun header => H.toStr header.2).getLast?

/-- The requests differ in something that stays what it is on the way. -/
def Distinguished (A : Axum) (H : HeaderValues) (a b : Incoming) : Prop :=
  a.method ≠ b.method ∨ A.decode (afterSubdomain a.path) ≠ A.decode (afterSubdomain b.path) ∨
    (∃ name, lastText H name a.headers ≠ lastText H name b.headers) ∨ a.body ≠ b.body

/-- Requests that differ are forwarded in messages that differ, and none with an empty body in
    place of one that could not be read. -/
structure LosesNothing (a b : Incoming) (m m' : Message) : Prop where
  injective : Differ a b → ¬ SameFields m m'
  body : a.body = none → ¬ EmptyBody m
  body' : b.body = none → ¬ EmptyBody m'

theorem afterSubdomain_eq {subdomain : String} (rest : String)
    (hsegment : Routing.IsSegment subdomain) :
    afterSubdomain ("/" ++ subdomain ++ "/" ++ rest) = rest := by
  have hpath : ("/" ++ subdomain ++ "/" ++ rest).toList.drop 1 =
      subdomain.toList ++ '/' :: rest.toList := by simp
  obtain ⟨-, hdrop⟩ := Routing.takeWhile_segment hsegment.no_slash
    (Or.inr ⟨rest.toList, rfl⟩ : '/' :: rest.toList = [] ∨ _)
  rw [afterSubdomain, hpath, hdrop, List.drop_one, List.tail_cons, String.ofList_toList]

section

variable {A : Axum} {H : HeaderValues} {me : String}

theorem lastText_append (name : String) (headers : List (String × List UInt8))
    (header : String × List UInt8) : lastText H name (headers ++ [header]) =
      if header.1 = name then (H.toStr header.2).or (lastText H name headers)
      else lastText H name headers := by
  unfold lastText
  rw [List.filter_append, List.filterMap_append, List.getLast?_append]
  by_cases hname : header.1 = name
  · rw [if_pos hname]
    cases htext : H.toStr header.2 <;> simp [hname, htext]
  · rw [if_neg hname]
    simp [hname]

/-- The map has the last readable value of each name. -/
theorem lookup_headersMap (headers : List (String × List UInt8)) (name : String) :
    (headersMap H headers).lookup name = lastText H name headers := by
  induction headers using List.reverseRecOn with
  | nil => rfl
  | append_singleton headers header ih =>
    rw [lastText_append, ← ih]
    unfold headersMap
    rw [List.foldl_append, List.foldl_cons, List.foldl_nil]
    generalize headers.foldl _ _ = map
    cases htext : H.toStr header.2 with
    | none => simp
    | some text =>
      by_cases hname : header.1 = name
      · rw [if_pos hname, hname]
        exact AList.lookup_insert map
      · rw [if_neg hname]
        exact AList.lookup_insert_ne (Ne.symm hname)

theorem forwards_iff {request : ProxyRequest} {m : Message} :
    Forwards H me request m ↔ ∃ requestId, m = request.message H requestId := by
  constructor
  · rintro ⟨es, p, agentId, sent, hpath⟩
    have hnext := proxyHttp_next hpath
    generalize hop : Op.node me (.agentsSend agentId m) = o at hnext
    cases hnext with
    | send listed agentId' st hfound requestId pending =>
      cases hop
      exact ⟨requestId, rfl⟩
    | iter | server | uuid | insert | receive | refuse | expire => cases hop
  · rintro ⟨requestId, rfl⟩
    let st : AgentState := ⟨0, request.subdomain, 80, "localhost", .http, 0⟩
    have hfound : AgentRegistry.findBySubdomain request.subdomain [⟨"agent", st⟩] =
        some ("agent", st) := by simp [AgentRegistry.findBySubdomain, st]
    have hpath : ∃ p, (proxyHttp me H request).Path (entered me [⟨"agent", st⟩] requestId 0 ++
        [⟨.node me (.agentsSend "agent" (request.message H requestId)), some true⟩]) p := by
      apply Exists.intro
      rw [proxyHttp_eq]
      apply Prog.Path.cons
      simp only [hfound, forward_eq]
      exact .cons (.cons (.cons (.nil _)))
    obtain ⟨p, hpath⟩ := hpath
    exact ⟨_, p, "agent", some true, hpath⟩

theorem extract_eq_some {incoming : Incoming} {request : ProxyRequest}
    (h : incoming.extract A = some request) :
    A.decode (afterSubdomain incoming.path) = some request.path ∧
      request.method = incoming.method ∧ request.headers = incoming.headers ∧
      request.body = incoming.body := by
  unfold Incoming.extract at h
  split at h
  · rename_i hdispatch
    cases h
    obtain ⟨-, -, rawSubdomain, rawRest, _, _, hpath, hsegment, -, -, hrest, hparams⟩ :=
      Axum.dispatchPath_tunnel.mp hdispatch
    cases hparams
    rw [hpath, afterSubdomain_eq rawRest hsegment]
    exact ⟨hrest, rfl, rfl, rfl⟩
  · cases h

theorem slash_append_inj {path path' : String} : "/" ++ path = "/" ++ path' ↔ path = path' := by
  simp [← String.toList_inj]

/-- The fields of two messages agree exactly if nothing tells the requests apart, where their
    bodies could be read. -/
theorem sameFields_iff {a b : Incoming} {request request' : ProxyRequest}
    {requestId requestId' : String} (ha : a.extract A = some request)
    (hb : b.extract A = some request') (hbody : a.body ≠ none) (hbody' : b.body ≠ none) :
    SameFields (request.message H requestId) (request'.message H requestId') ↔
      ¬ Distinguished A H a b := by
  obtain ⟨hpath, hmethod, hheaders, hread⟩ := extract_eq_some ha
  obtain ⟨hpath', hmethod', hheaders', hread'⟩ := extract_eq_some hb
  obtain ⟨bytes, hbytes⟩ := Option.ne_none_iff_exists'.mp hbody
  obtain ⟨bytes', hbytes'⟩ := Option.ne_none_iff_exists'.mp hbody'
  show (request.method = request'.method ∧ "/" ++ request.path = "/" ++ request'.path ∧
    (∀ name, (headersMap H request.headers).lookup name =
      (headersMap H request'.headers).lookup name) ∧
    some (request.body.getD []) = some (request'.body.getD [])) ↔ _
  simp only [Distinguished, not_or, not_exists, not_not, slash_append_inj, lookup_headersMap, hpath,
    hpath', hmethod, hmethod', hheaders, hheaders', hread, hread', hbytes, hbytes',
    Option.some.injEq, Option.getD_some]

/-- Nothing is lost of two requests exactly if their bodies could be read and, where they differ,
    they differ in something that stays what it is on the way. -/
theorem forwarding_loses_nothing_iff {a b : Incoming} {request request' : ProxyRequest}
    {m m' : Message} (ha : a.extract A = some request) (hb : b.extract A = some request')
    (hm : Forwards H me request m) (hm' : Forwards H me request' m') :
    LosesNothing a b m m' ↔
      a.body ≠ none ∧ b.body ≠ none ∧ (Differ a b → Distinguished A H a b) := by
  obtain ⟨requestId, rfl⟩ := forwards_iff.mp hm
  obtain ⟨requestId', rfl⟩ := forwards_iff.mp hm'
  have hempty : a.body = none → EmptyBody (request.message H requestId) := by
    intro hnone
    show some (request.body.getD []) = some []
    rw [(extract_eq_some ha).2.2.2, hnone]
    rfl
  have hempty' : b.body = none → EmptyBody (request'.message H requestId') := by
    intro hnone
    show some (request'.body.getD []) = some []
    rw [(extract_eq_some hb).2.2.2, hnone]
    rfl
  constructor
  · intro h
    have hbody : a.body ≠ none := fun hnone => h.body hnone (hempty hnone)
    have hbody' : b.body ≠ none := fun hnone => h.body' hnone (hempty' hnone)
    refine ⟨hbody, hbody', ?_⟩
    intro hdiffer
    apply Classical.not_not.mp
    intro hsame
    exact h.injective hdiffer ((sameFields_iff ha hb hbody hbody').mpr hsame)
  · rintro ⟨hbody, hbody', hdistinguished⟩
    refine ⟨?_, fun hnone => (hbody hnone).elim, fun hnone => (hbody' hnone).elim⟩
    intro hdiffer hsame
    exact (sameFields_iff ha hb hbody hbody').mp hsame (hdistinguished hdiffer)

end

/-! ## Two pages -/

/-- A request for a page of the index. -/
def getPage (page : String) : Incoming :=
  ⟨"GET", "/app/index.html", some ("page=" ++ page), [], some []⟩

def postPage (page : String) : Incoming := { getPage page with method := "POST" }

def postIndex : ProxyRequest := { getIndex with method := "POST" }

theorem dispatchPath_index (method : String) (hmethod : method ≠ "OPTIONS") :
    Axum.sample.dispatchPath method "/app/index.html" =
      .handled .proxyHttp ["app", "index.html"] := by
  refine Axum.dispatchPath_tunnel.mpr ⟨hmethod, by decide +kernel, "app", "index.html", "app",
    "index.html", rfl, ⟨by decide, by decide⟩, by decide, ?_, ?_, rfl⟩ <;> decide +kernel

theorem extract_getPage (page : String) :
    (getPage page).extract Axum.sample = some getIndex := by
  have hroute : Axum.sample.dispatchPath (getPage page).method (getPage page).path =
      .handled .proxyHttp ["app", "index.html"] := dispatchPath_index "GET" (by decide)
  unfold Incoming.extract
  rw [hroute]
  rfl

theorem extract_postPage (page : String) :
    (postPage page).extract Axum.sample = some postIndex := by
  have hroute : Axum.sample.dispatchPath (postPage page).method (postPage page).path =
      .handled .proxyHttp ["app", "index.html"] := dispatchPath_index "POST" (by decide)
  unfold Incoming.extract
  rw [hroute]
  rfl

/-- The agent gets the same message for both pages. -/
theorem forwarding_loses_query :
    (getPage "1").extract Axum.sample = some getIndex ∧
    (getPage "2").extract Axum.sample = some getIndex ∧
    Forwards sampleHeaders "s" getIndex (getIndex.message sampleHeaders "r") ∧
    Forwards sampleHeaders "s" getIndex (getIndex.message sampleHeaders "r'") ∧
    ¬ LosesNothing (getPage "1") (getPage "2") (getIndex.message sampleHeaders "r")
      (getIndex.message sampleHeaders "r'") := by
  refine ⟨extract_getPage "1", extract_getPage "2", forwards_iff.mpr ⟨"r", rfl⟩,
    forwards_iff.mpr ⟨"r'", rfl⟩, ?_⟩
  intro h
  have hdiffer : Differ (getPage "1") (getPage "2") := .inr (.inr (.inl (by decide)))
  exact h.injective hdiffer ⟨rfl, rfl, fun _ => rfl, rfl⟩

/-- Another page alone is lost, another method is not. -/
theorem forwarding_loses_nothing_iff_pages :
    ¬ LosesNothing (getPage "1") (getPage "2") (getIndex.message sampleHeaders "r")
        (getIndex.message sampleHeaders "r'") ∧
      LosesNothing (getPage "1") (postPage "2") (getIndex.message sampleHeaders "r")
        (postIndex.message sampleHeaders "r'") := by
  have hm : Forwards sampleHeaders "s" getIndex (getIndex.message sampleHeaders "r") :=
    forwards_iff.mpr ⟨"r", rfl⟩
  have hm' : Forwards sampleHeaders "s" getIndex (getIndex.message sampleHeaders "r'") :=
    forwards_iff.mpr ⟨"r'", rfl⟩
  have hpost : Forwards sampleHeaders "s" postIndex (postIndex.message sampleHeaders "r'") :=
    forwards_iff.mpr ⟨"r'", rfl⟩
  have hpages := forwarding_loses_nothing_iff (extract_getPage "1") (extract_getPage "2") hm hm'
  have hmethods :=
    forwarding_loses_nothing_iff (extract_getPage "1") (extract_postPage "2") hm hpost
  refine ⟨fun h => ?_, hmethods.mpr ⟨nofun, nofun, fun _ => .inl (by decide)⟩⟩
  have hdiffer : Differ (getPage "1") (getPage "2") := .inr (.inr (.inl (by decide)))
  rcases (hpages.mp h).2.2 hdiffer with hmethod | hpath | ⟨name, hheader⟩ | hbody
  · exact hmethod rfl
  · exact hpath rfl
  · exact hheader rfl
  · exact hbody rfl

end Tunnel

end Jrok
