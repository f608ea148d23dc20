import Mathlib.Data.List.Basic

/-!
# URLs and the router

The parts of a URL that a client sends a request with, and the route `/:subdomain/*path` of `main`.
-/

namespace Jrok

/-- The characters that end the authority of a URL. -/
def endsAuthority (c : Char) : Bool := c = '/' || c = '?' || c = '#'

/-- The characters that end the path of a URL. -/
def endsPath (c : Char) : Bool := c = '?' || c = '#'

/-- The authority of an `http` URL: what stands between `http://` and the path. -/
def urlAuthority (url : String) : String :=
  String.ofList ((url.toList.drop "http://".length).takeWhile fun c => !endsAuthority c)

/-- A path without the query behind it. -/
def beforeQuery (path : List Char) : String := String.ofList (path.takeWhile fun c => !endsPath c)

/-- The path of an `http` URL. -/
def urlPath (url : String) : String :=
  beforeQuery ((url.toList.drop "http://".length).dropWhile fun c => !endsAuthority c)

/-- The router of a server, as far as `proxy_http` depends on it: `route` is the pair that `Path`
    extracts when a path is dispatched by `/:subdomain/*path`. The two parameters are
    percent-decoded, which never makes a text longer. -/
structure Router where
  decode : String → Option String
  route : String → Option (String × String)
  length_decode : ∀ raw text, decode raw = some text → text.length ≤ raw.length
  route_eq_some : ∀ path subdomain rest, route path = some (subdomain, rest) →
    ∃ rawSubdomain rawRest, path = "/" ++ rawSubdomain ++ "/" ++ rawRest ∧
      decode rawSubdomain = some subdomain ∧ decode rawRest = some rest

namespace Router

/-- A path is longer than what the wildcard captures, by the two slashes at least. -/
theorem length_lt {R : Router} {path subdomain rest : String}
    (h : R.route path = some (subdomain, rest)) : rest.length + 2 ≤ path.length := by
  obtain ⟨rawSubdomain, rawRest, rfl, -, hrest⟩ := R.route_eq_some path subdomain rest h
  have hle := R.length_decode rawRest rest hrest
  simp only [String.length_append]
  have h₁ : "/".length = 1 := by decide
  omega

/-- A dispatched path starts with a slash. -/
theorem head_slash {R : Router} {path subdomain rest : String}
    (h : R.route path = some (subdomain, rest)) : path.toList.head? = some '/' := by
  obtain ⟨rawSubdomain, rawRest, rfl, -⟩ := R.route_eq_some path subdomain rest h
  simp

end Router

/-! ## URLs from their parts -/

theorem drop_scheme (s : String) : ("http://" ++ s).toList.drop "http://".length = s.toList := by
  have hlength : "http://".length = 7 := by decide
  simp [hlength]

/-- The authority ends at the first slash. -/
theorem urlAuthority_slash {host : String} (path : List Char)
    (hhost : ∀ c ∈ host.toList, endsAuthority c = false) :
    urlAuthority ("http://" ++ String.ofList (host.toList ++ '/' :: path)) = host := by
  rw [urlAuthority, drop_scheme, String.toList_ofList,
    List.takeWhile_append_of_pos (by simpa using hhost)]
  simp [endsAuthority]

theorem urlPath_slash {host : String} (path : List Char)
    (hhost : ∀ c ∈ host.toList, endsAuthority c = false) :
    urlPath ("http://" ++ String.ofList (host.toList ++ '/' :: path)) =
      beforeQuery ('/' :: path) := by
  rw [urlPath, drop_scheme, String.toList_ofList,
    List.dropWhile_append_of_pos (by simpa using hhost)]
  simp [endsAuthority]

/-- A URL whose path starts with a slash. -/
theorem exists_of_urlPath_head {s : String}
    (h : (urlPath ("http://" ++ s)).toList.head? = some '/') :
    ∃ (host : String) (path : List Char), s = String.ofList (host.toList ++ '/' :: path) ∧
      ∀ c ∈ host.toList, endsAuthority c = false := by
  rw [urlPath, drop_scheme, beforeQuery, String.toList_ofList] at h
  have hsplit := List.takeWhile_append_dropWhile (p := fun c => !endsAuthority c) (l := s.toList)
  cases hdrop : s.toList.dropWhile fun c => !endsAuthority c with
  | nil => simp [hdrop] at h
  | cons c path =>
    rw [hdrop] at h hsplit
    have hslash : c = '/' := by
      rw [List.takeWhile_cons] at h
      split at h <;> simp at h
      exact h
    subst hslash
    refine ⟨String.ofList (s.toList.takeWhile fun c => !endsAuthority c), path, ?_, ?_⟩
    · rw [String.toList_ofList, hsplit, String.ofList_toList]
    · intro c hc
      rw [String.toList_ofList] at hc
      simpa using List.all_eq_true.mp List.all_takeWhile c hc

end Jrok
