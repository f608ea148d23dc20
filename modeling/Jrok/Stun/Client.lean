import Jrok.Stun.Message

/-!
# The STUN client

`stun/mod.rs`: `parse_stun_response` and `parse_mapped_address` of `StunClient`. The attribute loop
is given a number of iterations; every index and slice panics outside of the received bytes.
-/

namespace Jrok.Stun

open BigEndian Imperative

structure StunServer where
  addr : String
  port : UInt16
  deriving DecidableEq, Repr

structure PublicEndpoint where
  publicIp : String
  publicPort : UInt16
  localAddr : String
  stunServer : String
  deriving DecidableEq, Repr

/-- `{:04x}`. -/
def hex4 (n : UInt16) : String := String.ofList (List.leftpad 4 '0' (Nat.toDigits 16 n.toNat))

namespace StunClient

/-- `parse_mapped_address`. The address is unmasked, the port is read as it stands. -/
def parseMappedAddress (attrValue : List UInt8) (attrType : UInt16) :
    Exec (Except Error (String × UInt16)) :=
  if attrValue.length < 8 then return .error (.internal "Mapped address too short")
  else do
    let family ← index attrValue 1
    let port ← u16At attrValue 2
    let ip ←
      if attrType = attrXorMappedAddress then do
        let xoredIp ← slice attrValue 4 8
        let ipByte (i : Nat) : Exec UInt8 := do
          return (← index xoredIp i) ^^^ (← index (bytes32 magicCookie) i)
        pure (Net.textV4 (← ipByte 0) (← ipByte 1) (← ipByte 2) (← ipByte 3))
      else do
        pure (Net.textV4 (← index attrValue 4) (← index attrValue 5) (← index attrValue 6)
          (← index attrValue 7))
    if family ≠ 1 then return .error (.internal "Only IPv4 addresses supported")
    else return .ok (ip, port)

/-- The variables of the attribute loop. -/
structure Walk where
  pos : Nat
  publicIp : Option String
  publicPort : Option UInt16
  deriving DecidableEq, Repr

/-- The condition of the attribute loop, with the end that the length field gives. -/
def Walk.before (stop : Nat) (w : Walk) : Bool := decide (w.pos < stop)

/-- One iteration of the attribute loop. -/
def readAttribute (response : List UInt8) (w : Walk) : Exec (Flow Walk Error) :=
  if response.length < w.pos + 4 then return .leave w
  else do
    let attrType ← u16At response w.pos
    let attrLen := (← u16At response (w.pos + 2)).toNat
    let pos := w.pos + 4
    let attrValueLen := align4 attrLen
    if response.length < pos + attrValueLen then return .leave { w with pos := pos }
    else do
      let attrValue ← slice response pos (pos + attrLen)
      if attrType = attrMappedAddress ∨ attrType = attrXorMappedAddress then do
        match ← parseMappedAddress attrValue attrType with
        | .ok (ip, port) => return .next ⟨pos + attrValueLen, some ip, some port⟩
        | .error _ => return .next { w with pos := pos + attrValueLen }
      else if attrType = attrErrorCode then
        return .exit (.internal "STUN error code attribute present")
      else return .next { w with pos := pos + attrValueLen }

/-- What `parse_stun_response` returns after the attribute loop, or from inside of it. -/
def endpoint (stunServer : StunServer) (localAddr : String) :
    Walk ⊕ Error → Except Error PublicEndpoint
  | .inr e => .error e
  | .inl w =>
    match w.publicIp, w.publicPort with
    | some ip, some port => .ok {
        publicIp := ip
        publicPort := port
        localAddr := localAddr
        stunServer := stunServer.addr ++ ":" ++ toString stunServer.port.toNat }
    | _, _ => .error (.internal "No mapped address in STUN response")

/-- `parse_stun_response`. -/
def parseStunResponse (fuel : Nat) (response : List UInt8) (stunServer : StunServer)
    (localAddr : String) : Exec (Except Error PublicEndpoint) :=
  if response.length < 20 then return .error (.internal "STUN response too short")
  else do
    let msgType ← u16At response 0
    let msgLen := (← u16At response 2).toNat
    let cookie ← u32At response 4
    if cookie ≠ magicCookie then return .error (.internal "Invalid STUN magic cookie")
    else if msgType ≠ bindingResponse then
      return .error (.internal ("Unexpected STUN message type: 0x" ++ hex4 msgType))
    else do
      let _transactionId ← slice response 8 20
      return endpoint stunServer localAddr
        (← loop (Walk.before (20 + msgLen)) (readAttribute response) fuel ⟨20, none, none⟩)

theorem exists_mapped_bytes {attrValue : List UInt8} (h : 8 ≤ attrValue.length) :
    ∃ reserved family hi lo a b c d rest,
      attrValue = reserved :: family :: hi :: lo :: a :: b :: c :: d :: rest := by
  match attrValue, h with
  | reserved :: family :: hi :: lo :: a :: b :: c :: d :: rest, _ =>
    exact ⟨_, _, _, _, _, _, _, _, _, rfl⟩

theorem parseMappedAddress_bytes (reserved family hi lo a b c d : UInt8) (rest : List UInt8)
    (attrType : UInt16) :
    parseMappedAddress (reserved :: family :: hi :: lo :: a :: b :: c :: d :: rest) attrType =
      .ok (if family ≠ 1 then .error (.internal "Only IPv4 addresses supported")
        else .ok (if attrType = attrXorMappedAddress
          then Net.textV4 (a ^^^ 0x21) (b ^^^ 0x12) (c ^^^ 0xA4) (d ^^^ 0x42)
          else Net.textV4 a b c d, u16 hi lo)) := by
  by_cases htype : attrType = attrXorMappedAddress <;> by_cases hfamily : family = 1 <;>
    simp [parseMappedAddress, htype, hfamily, index, u16At, slice, bytes32, magicCookie]

/-- A value of less than 8 bytes is refused, and a longer one has all the bytes that are read. -/
theorem parseMappedAddress_ok (attrValue : List UInt8) (attrType : UInt16) :
    ∃ r, parseMappedAddress attrValue attrType = .ok r := by
  by_cases hlen : attrValue.length < 8
  · exact ⟨_, if_pos hlen⟩
  · obtain ⟨reserved, family, hi, lo, a, b, c, d, rest, rfl⟩ :=
      exists_mapped_bytes (Nat.not_lt.mp hlen)
    exact ⟨_, parseMappedAddress_bytes reserved family hi lo a b c d rest attrType⟩

/-! ## Hostile input -/

theorem le_align4 {n : Nat} (h : n < 65536) : n ≤ align4 n := by
  rw [align4_eq h]
  omega

/-- An iteration stays inside of the received bytes, and one that another follows advances. -/
theorem readAttribute_ok (response : List UInt8) (w : Walk) :
    ∃ flow, readAttribute response w = .ok flow ∧ ∀ w', flow = .next w' → w.pos + 4 ≤ w'.pos := by
  unfold readAttribute
  by_cases hhead : response.length < w.pos + 4
  · exact ⟨.leave w, if_pos hhead, by simp⟩
  rw [if_neg hhead]
  obtain ⟨attrType, htype⟩ : ∃ n, u16At response w.pos = .ok n := u16At_of_lt (by omega)
  obtain ⟨len, hlen⟩ : ∃ n, u16At response (w.pos + 2) = .ok n := u16At_of_lt (by omega)
  have hle : len.toNat ≤ align4 len.toNat := le_align4 len.toNat_lt
  simp only [htype, hlen, Exec.ok_bind]
  by_cases hvalue : response.length < w.pos + 4 + align4 len.toNat
  · exact ⟨.leave { w with pos := w.pos + 4 }, if_pos hvalue, by simp⟩
  rw [if_neg hvalue, slice_of_le (Nat.le_add_right _ _) (by omega)]
  obtain ⟨r, hr⟩ := parseMappedAddress_ok
    ((response.take (w.pos + 4 + len.toNat)).drop (w.pos + 4)) attrType
  simp only [Exec.ok_bind]
  by_cases hmapped : attrType = attrMappedAddress ∨ attrType = attrXorMappedAddress
  · rw [if_pos hmapped, hr]
    cases r with
    | error e =>
      apply Exists.intro (Flow.next _)
      exact ⟨rfl, by simp⟩
    | ok found =>
      apply Exists.intro (Flow.next _)
      exact ⟨rfl, by simp⟩
  · rw [if_neg hmapped]
    by_cases herror : attrType = attrErrorCode
    · exact ⟨.exit _, if_pos herror, by simp⟩
    · apply Exists.intro (Flow.next _)
      exact ⟨if_neg herror, by simp⟩

/-- The attribute loop of any response ends within the iterations that its length field allows. -/
theorem loop_readAttribute_ok (response : List UInt8) (msgLen : Nat) :
    ∃ r, loop (Walk.before (20 + msgLen)) (readAttribute response) ((msgLen + 3) / 4)
      ⟨20, none, none⟩ = .ok r := by
  apply loop_total (fun w : Walk => 20 ≤ w.pos) (fun w => (20 + msgLen - w.pos + 3) / 4)
  · intro w _ hcond
    have hlt : w.pos < 20 + msgLen := of_decide_eq_true hcond
    omega
  · intro w hpos hcond
    have hlt : w.pos < 20 + msgLen := of_decide_eq_true hcond
    obtain ⟨flow, hbody, hnext⟩ := readAttribute_ok response w
    apply Exists.intro flow
    constructor
    · exact hbody
    · intro w' hw'
      have hadvance := hnext w' hw'
      omega
  · exact Nat.le_refl 20
  · show (20 + msgLen - 20 + 3) / 4 ≤ (msgLen + 3) / 4
    omega

/-- The length field of a header; nothing is read of a response that is shorter. -/
def messageLength : List UInt8 → Nat
  | _ :: _ :: hi :: lo :: _ => (u16 hi lo).toNat
  | _ => 0

theorem u16At_messageLength {response : List UInt8} (h : 4 ≤ response.length) :
    ∃ n, u16At response 2 = .ok n ∧ n.toNat = messageLength response := by
  match response, h with
  | _ :: _ :: hi :: lo :: rest, _ => exact ⟨u16 hi lo, rfl, rfl⟩

/-- Any received bytes are parsed to a result without an access outside of them. An iteration of
    the attribute loop leaves it, returns, or goes on at least 4 bytes further, and there are at
    most as many as words in the declared length. -/
theorem parseStunResponse_total (response : List UInt8) (stunServer : StunServer)
    (localAddr : String) :
    (∃ result, ∀ fuel, (messageLength response + 3) / 4 ≤ fuel →
      parseStunResponse fuel response stunServer localAddr = .ok result) ∧
    ∀ w, ∃ flow, readAttribute response w = .ok flow ∧
      ∀ w', flow = .next w' → w.pos + 4 ≤ w'.pos := by
  apply And.intro ?_ (readAttribute_ok response)
  by_cases hshort : response.length < 20
  · exact ⟨_, fun fuel _ => if_pos hshort⟩
  obtain ⟨msgType, htype⟩ : ∃ n, u16At response 0 = .ok n := u16At_of_lt (by omega)
  obtain ⟨msgLen, hlen, hmsgLen⟩ := u16At_messageLength (by omega : 4 ≤ response.length)
  obtain ⟨cookie, hcookie⟩ : ∃ n, u32At response 4 = .ok n := u32At_of_lt (by omega)
  obtain ⟨r, hloop⟩ := loop_readAttribute_ok response msgLen.toNat
  have hslice := slice_of_le (by omega : 8 ≤ 20) (by omega : 20 ≤ response.length)
  unfold parseStunResponse
  simp only [if_neg hshort, htype, hlen, hcookie, hslice, Exec.ok_bind, ← hmsgLen]
  by_cases hmagic : cookie ≠ magicCookie
  · exact ⟨_, fun fuel _ => if_pos hmagic⟩
  by_cases hresponse : msgType ≠ bindingResponse
  · exact ⟨_, fun fuel _ => by rw [if_neg hmagic, if_pos hresponse]; rfl⟩
  · exact ⟨endpoint stunServer localAddr r, fun fuel hfuel => by
      rw [if_neg hmagic, if_neg hresponse, loop_mono hloop hfuel]; rfl⟩

end StunClient

end Jrok.Stun
