import Jrok.Stun.Message

/-!
# The NAT detector

`nat/mod.rs`: `parse_stun_response` of `NatDetector`, which looks for the first MAPPED-ADDRESS
attribute up to the end of the received bytes. What it reads of the attribute starts three bytes
behind the header and ends nine bytes behind it.
-/

namespace Jrok.Stun

open BigEndian Imperative

structure PublicEndpointDiscovered where
  publicIp : String
  publicPort : UInt16
  stunServer : String
  deriving DecidableEq, Repr

namespace NatDetector

/-- The variables of the search. -/
structure Search where
  i : Nat
  publicIp : Option String
  publicPort : Option UInt16
  deriving DecidableEq, Repr

/-- `format!("{}.{}.{}", ..)`. -/
def dotted (a b c : UInt8) : String :=
  ".".intercalate ([a, b, c].map fun octet => toString octet.toNat)

/-- What the search reads of the attribute whose value starts at `i`. -/
def readMappedAddress (response : List UInt8) (i : Nat) : Exec (String × UInt16) := do
  let port ← u16At response (i + 3)
  let ipBytes ← slice response (i + 5) (i + 9)
  return (dotted (← index ipBytes 0) (← index ipBytes 1) (← index ipBytes 2), port)

/-- The condition of the search loop. -/
def Search.inside (response : List UInt8) (s : Search) : Bool := decide (s.i < response.length)

/-- One iteration of the search loop. -/
def searchAttribute (response : List UInt8) (s : Search) : Exec (Flow Search Empty) :=
  if response.length < s.i + 4 then return .leave s
  else do
    let attrType ← u16At response s.i
    let attrLen := (← u16At response (s.i + 2)).toNat
    let i := s.i + 4
    if attrType = attrMappedAddress ∧ 8 ≤ attrLen then do
      let (ip, port) ← readMappedAddress response i
      return .leave ⟨i, some ip, some port⟩
    else return .next { s with i := i + align4 attrLen }

/-- What `parse_stun_response` returns after the search. -/
def endpoint (stunServer : String) : Search ⊕ Empty → Except Error PublicEndpointDiscovered
  | .inl s =>
    match s.publicIp, s.publicPort with
    | some ip, some port => .ok { publicIp := ip, publicPort := port, stunServer := stunServer }
    | _, _ => .error (.internal "No mapped address in STUN response")

/-- `parse_stun_response`. Neither the type nor the length of the message is looked at. -/
def parseStunResponse (fuel : Nat) (response : List UInt8) (stunServer : String) :
    Exec (Except Error PublicEndpointDiscovered) :=
  if response.length < 20 then return .error (.internal "STUN response too short")
  else do
    let _msgType ← u16At response 0
    let _msgLen ← u16At response 2
    let cookie ← u32At response 4
    if cookie ≠ magicCookie then return .error (.internal "Invalid STUN magic cookie")
    else
      return endpoint stunServer
        (← loop (Search.inside response) (searchAttribute response) fuel ⟨20, none, none⟩)

/-! ## The first mapped address -/

/-- The bytes behind the header of the first MAPPED-ADDRESS attribute of at least 8 bytes. -/
def mappedBody (bytes : List UInt8) : Option (List UInt8) :=
  match bytes with
  | t :: t' :: l :: l' :: rest =>
    if u16 t t' = attrMappedAddress ∧ 8 ≤ (u16 l l').toNat then some rest
    else mappedBody (rest.drop (align4 (u16 l l').toNat))
  | _ => none
termination_by bytes.length
decreasing_by
  simp only [List.length_drop, List.length_cons]
  omega

theorem readMappedAddress_whole {response rest : List UInt8} {i : Nat}
    {reserved family hi lo a b c d e : UInt8}
    (h : response.drop i = reserved :: family :: hi :: lo :: a :: b :: c :: d :: e :: rest) :
    readMappedAddress response i = .ok (dotted b c d, u16 lo a) := by
  have hlen := congrArg List.length h
  rw [List.length_drop] at hlen
  simp only [List.length_cons] at hlen
  have hslice : slice response (i + 5) (i + 9) = .ok [b, c, d, e] := by
    rw [slice_of_le (by omega) (by omega), List.drop_take, Nat.add_sub_add_left, ← List.drop_drop, h]
    rfl
  unfold readMappedAddress
  rw [← u16At_drop, h, hslice]
  rfl

theorem readMappedAddress_short {response : List UInt8} {i : Nat} (h : response.length < i + 9) :
    readMappedAddress response i = .panic := by
  unfold readMappedAddress
  by_cases hport : i + 3 + 1 < response.length
  · obtain ⟨port, hread⟩ := u16At_of_lt hport
    rw [hread, slice_of_gt h]
    rfl
  · rw [u16At_of_le (Nat.le_of_not_lt hport)]
    rfl

section

variable {response rest : List UInt8} {i : Nat} {t t' l l' : UInt8}

theorem searchAttribute_header (h : response.drop i = t :: t' :: l :: l' :: rest) :
    i + 4 ≤ response.length ∧ response.drop (i + 4) = rest ∧
      u16At response i = .ok (u16 t t') ∧ u16At response (i + 2) = .ok (u16 l l') := by
  have hlen := congrArg List.length h
  rw [List.length_drop] at hlen
  simp only [List.length_cons] at hlen
  have htype : u16At (response.drop i) 0 = .ok (u16 t t') := by rw [h]; rfl
  have hlength : u16At (response.drop i) 2 = .ok (u16 l l') := by rw [h]; rfl
  rw [u16At_drop] at htype hlength
  refine ⟨by omega, ?_, htype, hlength⟩
  rw [← List.drop_drop, h]
  rfl

theorem searchAttribute_skip (h : response.drop i = t :: t' :: l :: l' :: rest)
    (hskip : ¬(u16 t t' = attrMappedAddress ∧ 8 ≤ (u16 l l').toNat)) :
    searchAttribute response ⟨i, none, none⟩ =
      .ok (.next ⟨i + 4 + align4 (u16 l l').toNat, none, none⟩) := by
  obtain ⟨hlen, -, htype, hlength⟩ := searchAttribute_header h
  unfold searchAttribute
  simp only [htype, hlength, Exec.ok_bind]
  rw [if_neg (by omega), if_neg hskip]
  rfl

theorem searchAttribute_mapped (h : response.drop i = t :: t' :: l :: l' :: rest)
    (hmapped : u16 t t' = attrMappedAddress ∧ 8 ≤ (u16 l l').toNat) :
    searchAttribute response ⟨i, none, none⟩ =
      readMappedAddress response (i + 4) >>= fun found =>
        .ok (.leave ⟨i + 4, some found.1, some found.2⟩) := by
  obtain ⟨hlen, -, htype, hlength⟩ := searchAttribute_header h
  unfold searchAttribute
  simp only [htype, hlength, Exec.ok_bind]
  rw [if_neg (by omega), if_pos hmapped]
  rfl

end

theorem exists_four_bytes {bytes : List UInt8} (h : 4 ≤ bytes.length) :
    ∃ t t' l l' rest, bytes = t :: t' :: l :: l' :: rest := by
  obtain _ | ⟨t, _ | ⟨t', _ | ⟨l, _ | ⟨l', rest⟩⟩⟩⟩ := bytes
  · cases h
  · simp at h
  · simp at h
  · simp at h
  · exact ⟨t, t', l, l', rest, rfl⟩

theorem mappedBody_short {bytes : List UInt8}
    (hshort : ∀ t t' l l' rest, bytes ≠ t :: t' :: l :: l' :: rest) : mappedBody bytes = none := by
  unfold mappedBody
  split
  · exact (hshort _ _ _ _ _ rfl).elim
  · rfl

/-- Less than a header is left. -/
theorem length_lt_of_short {response bytes : List UInt8} {i : Nat} (hdrop : response.drop i = bytes)
    (hshort : ∀ t t' l l' rest, bytes ≠ t :: t' :: l :: l' :: rest) : response.length < i + 4 := by
  apply Nat.lt_of_not_le
  intro hle
  have hfour : 4 ≤ bytes.length := by
    rw [← hdrop, List.length_drop]
    omega
  obtain ⟨t, t', l, l', rest, rfl⟩ := exists_four_bytes hfour
  exact hshort t t' l l' rest rfl

/-- Inside the response the fuel is not used up. -/
theorem inside_of_lt {response : List UInt8} {i fuel : Nat} (h : i < response.length)
    (hfuel : response.length ≤ i + fuel) :
    Search.inside response ⟨i, none, none⟩ = true ∧ ∃ more, fuel = more + 1 :=
  ⟨decide_eq_true h, Nat.exists_eq_add_one.mpr (by omega)⟩

/-- The search ends, and reads the first mapped address if there is one. -/
theorem loop_searchAttribute {response bytes : List UInt8} {i fuel : Nat}
    (hdrop : response.drop i = bytes) (hfuel : response.length ≤ i + fuel) :
    (mappedBody bytes = none → ∃ j,
      loop (Search.inside response) (searchAttribute response) fuel ⟨i, none, none⟩ =
        .ok (.inl ⟨j, none, none⟩)) ∧
    ∀ body, mappedBody bytes = some body → ∃ j, response.drop j = body ∧ j ≤ response.length ∧
      loop (Search.inside response) (searchAttribute response) fuel ⟨i, none, none⟩ =
        readMappedAddress response j >>= fun found =>
          .ok (.inl ⟨j, some found.1, some found.2⟩) := by
  induction bytes using mappedBody.induct generalizing i fuel with
  | case1 t t' l l' rest hmapped =>
    obtain ⟨hlen, hrest, -, -⟩ := searchAttribute_header hdrop
    have hbody : mappedBody (t :: t' :: l :: l' :: rest) = some rest := by
      rw [mappedBody, if_pos hmapped]
    have hread := searchAttribute_mapped hdrop hmapped
    obtain ⟨hcond, more, rfl⟩ := inside_of_lt (by omega) hfuel
    rw [hbody]
    refine ⟨by simp, fun body hsome => ⟨i + 4, ?_, hlen, ?_⟩⟩
    · rw [hrest, Option.some.inj hsome]
    · unfold loop
      rw [if_pos hcond, hread]
      cases readMappedAddress response (i + 4) <;> rfl
  | case2 t t' l l' rest hskip ih =>
    obtain ⟨hlen, hrest, -, -⟩ := searchAttribute_header hdrop
    have hbody : mappedBody (t :: t' :: l :: l' :: rest) =
        mappedBody (rest.drop (align4 (u16 l l').toNat)) := by
      rw [mappedBody, if_neg hskip]
    obtain ⟨hcond, more, rfl⟩ := inside_of_lt (by omega) hfuel
    rw [hbody, loop_next hcond (searchAttribute_skip hdrop hskip)]
    apply ih
    · rw [← List.drop_drop, hrest]
    · omega
  | case3 bytes hshort =>
    have hread : searchAttribute response ⟨i, none, none⟩ = .ok (.leave ⟨i, none, none⟩) :=
      if_pos (length_lt_of_short hdrop hshort)
    rw [mappedBody_short hshort]
    refine ⟨fun _ => ⟨i, ?_⟩, by simp⟩
    cases hcond : Search.inside response ⟨i, none, none⟩ with
    | false => exact loop_stop hcond
    | true =>
      obtain ⟨-, more, rfl⟩ := inside_of_lt (of_decide_eq_true hcond) hfuel
      exact loop_leave hcond hread

/-- Where the header is refused, nothing behind it is read. -/
theorem parseStunResponse_refused {response : List UInt8}
    (h : ¬(20 ≤ response.length ∧ u32At response 4 = .ok magicCookie)) (stunServer : String) :
    ∃ result, ∀ fuel, parseStunResponse fuel response stunServer = .ok result := by
  by_cases hshort : response.length < 20
  · exact ⟨_, fun fuel => if_pos hshort⟩
  obtain ⟨msgType, htype⟩ : ∃ n, u16At response 0 = .ok n := u16At_of_lt (by omega)
  obtain ⟨msgLen, hlen⟩ : ∃ n, u16At response 2 = .ok n := u16At_of_lt (by omega)
  obtain ⟨cookie, hcookie⟩ : ∃ n, u32At response 4 = .ok n := u32At_of_lt (by omega)
  have hmagic : cookie ≠ magicCookie := by
    intro heq
    exact h ⟨by omega, by rw [hcookie, heq]⟩
  unfold parseStunResponse
  simp only [if_neg hshort, htype, hlen, hcookie, Exec.ok_bind]
  exact ⟨_, fun fuel => if_pos hmagic⟩

theorem parseStunResponse_search {response : List UInt8} (hlen : 20 ≤ response.length)
    (hcookie : u32At response 4 = .ok magicCookie) (fuel : Nat) (stunServer : String) :
    parseStunResponse fuel response stunServer =
      loop (Search.inside response) (searchAttribute response) fuel ⟨20, none, none⟩ >>= fun r =>
        .ok (endpoint stunServer r) := by
  obtain ⟨msgType, htype⟩ : ∃ n, u16At response 0 = .ok n := u16At_of_lt (by omega)
  obtain ⟨msgLen, hmsgLen⟩ : ∃ n, u16At response 2 = .ok n := u16At_of_lt (by omega)
  unfold parseStunResponse
  simp only [htype, hmsgLen, hcookie, Exec.ok_bind, ne_eq, not_true_eq_false, if_false]
  rw [if_neg (by omega)]
  rfl

/-- A response without a mapped address is refused. -/
theorem parseStunResponse_none {response : List UInt8} (hlen : 20 ≤ response.length)
    (hcookie : u32At response 4 = .ok magicCookie) (h : mappedBody (response.drop 20) = none)
    {fuel : Nat} (hfuel : response.length ≤ fuel) (stunServer : String) :
    parseStunResponse fuel response stunServer =
      .ok (.error (.internal "No mapped address in STUN response")) := by
  obtain ⟨j, hloop⟩ := (loop_searchAttribute rfl (by omega : response.length ≤ 20 + fuel)).1 h
  rw [parseStunResponse_search hlen hcookie, hloop]
  rfl

/-- The endpoint is read from the bytes 3 to 8 behind the header of the first mapped address. -/
theorem parseStunResponse_mapped {response rest : List UInt8}
    {reserved family hi lo a b c d e : UInt8} (hlen : 20 ≤ response.length)
    (hcookie : u32At response 4 = .ok magicCookie)
    (h : mappedBody (response.drop 20) =
      some (reserved :: family :: hi :: lo :: a :: b :: c :: d :: e :: rest))
    {fuel : Nat} (hfuel : response.length ≤ fuel) (stunServer : String) :
    parseStunResponse fuel response stunServer =
      .ok (.ok ⟨dotted b c d, u16 lo a, stunServer⟩) := by
  obtain ⟨j, hbody, -, hloop⟩ :=
    (loop_searchAttribute rfl (by omega : response.length ≤ 20 + fuel)).2 _ h
  rw [parseStunResponse_search hlen hcookie, hloop, readMappedAddress_whole hbody]
  rfl

/-- The byte behind a value of 8 bytes has to be there. -/
theorem parseStunResponse_short {response body : List UInt8} (hlen : 20 ≤ response.length)
    (hcookie : u32At response 4 = .ok magicCookie)
    (h : mappedBody (response.drop 20) = some body) (hshort : body.length < 9)
    {fuel : Nat} (hfuel : response.length ≤ fuel) (stunServer : String) :
    parseStunResponse fuel response stunServer = .panic := by
  obtain ⟨j, hbody, hj, hloop⟩ :=
    (loop_searchAttribute rfl (by omega : response.length ≤ 20 + fuel)).2 _ h
  have hend : response.length < j + 9 := by
    rw [← hbody, List.length_drop] at hshort
    omega
  rw [parseStunResponse_search hlen hcookie, hloop, readMappedAddress_short hend]
  rfl

/-- Where the search is reached, at least 9 bytes follow the header of the first mapped address. -/
def Whole (response : List UInt8) : Prop :=
  20 ≤ response.length ∧ u32At response 4 = .ok magicCookie →
    ∀ body, mappedBody (response.drop 20) = some body → 9 ≤ body.length

theorem exists_nine_bytes {body : List UInt8} (h : 9 ≤ body.length) :
    ∃ reserved family hi lo a b c d e rest,
      body = reserved :: family :: hi :: lo :: a :: b :: c :: d :: e :: rest := by
  match body, h with
  | reserved :: family :: hi :: lo :: a :: b :: c :: d :: e :: rest, _ =>
    exact ⟨_, _, _, _, _, _, _, _, _, _, rfl⟩

/-- The parser gives a result exactly on the responses that have the bytes it reads. -/
theorem parseStunResponse_ok_iff (response : List UInt8) (stunServer : String) :
    (∃ result, ∀ fuel, response.length ≤ fuel →
      parseStunResponse fuel response stunServer = .ok result) ↔ Whole response := by
  constructor
  · rintro ⟨result, hresult⟩ ⟨hlen, hcookie⟩ body hbody
    apply Nat.le_of_not_lt
    intro hshort
    have hpanic := parseStunResponse_short hlen hcookie hbody hshort (Nat.le_refl _) stunServer
    rw [hresult _ (Nat.le_refl _)] at hpanic
    cases hpanic
  · intro hwhole
    by_cases hheader : 20 ≤ response.length ∧ u32At response 4 = .ok magicCookie
    · cases hbody : mappedBody (response.drop 20) with
      | none =>
        exact ⟨_, fun fuel hfuel =>
          parseStunResponse_none hheader.1 hheader.2 hbody hfuel stunServer⟩
      | some body =>
        obtain ⟨reserved, family, hi, lo, a, b, c, d, e, rest, rfl⟩ :=
          exists_nine_bytes (hwhole hheader body hbody)
        exact ⟨_, fun fuel hfuel =>
          parseStunResponse_mapped hheader.1 hheader.2 hbody hfuel stunServer⟩
    · obtain ⟨result, hresult⟩ := parseStunResponse_refused hheader stunServer
      exact ⟨result, fun fuel _ => hresult fuel⟩

/-- The smallest Binding Success response with a MAPPED-ADDRESS of an IPv4 endpoint. -/
theorem parseStunResponse_smallest :
    (bindingSuccess (Vector.replicate 12 0)
      [.zeroPadded attrMappedAddress [0, 1, 31, 144, 203, 0, 113, 7]]).length = 32 ∧
    parseStunResponse 32 (bindingSuccess (Vector.replicate 12 0)
      [.zeroPadded attrMappedAddress [0, 1, 31, 144, 203, 0, 113, 7]]) "stun.cloudflare.com:3478" =
        .panic :=
  ⟨rfl, rfl⟩

end NatDetector

end Jrok.Stun
