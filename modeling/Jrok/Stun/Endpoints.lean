import Jrok.Net.Text
import Jrok.Stun.Attributes
import Jrok.Stun.NatDetector

/-!
# Endpoints in responses

What the two parsers read of the response that names one IPv4 endpoint among attributes that
neither of them knows.
-/

namespace Jrok.Stun

open BigEndian Imperative

/-- A MAPPED-ADDRESS attribute of the IPv4 family. -/
def mappedAddress (reserved a b c d : UInt8) (port : UInt16) : Attribute where
  type := attrMappedAddress
  value := reserved :: 1 :: (bytes16 port ++ [a, b, c, d])
  padding := []
  aligned := by simp

/-- An XOR-MAPPED-ADDRESS attribute of the IPv4 family: the port is masked with the high half of
    the magic cookie, the address with all of it. -/
def xorMappedAddress (reserved a b c d : UInt8) (port : UInt16) : Attribute where
  type := attrXorMappedAddress
  value := reserved :: 1 ::
    (bytes16 (port ^^^ 0x2112) ++ List.zipWith (· ^^^ ·) [a, b, c, d] (bytes32 magicCookie))
  padding := []
  aligned := by simp

/-- The attribute types that mean nothing to either parser. -/
def Attribute.Unknown (a : Attribute) : Prop :=
  a.type ≠ attrMappedAddress ∧ a.type ≠ attrXorMappedAddress ∧ a.type ≠ attrErrorCode

instance (a : Attribute) : Decidable a.Unknown := inferInstanceAs (Decidable (_ ∧ _ ∧ _))

theorem Attribute.mapped_of_parse {a : Attribute} {found : String × UInt16}
    (htype : a.type = attrMappedAddress ∨ a.type = attrXorMappedAddress)
    (hparse : StunClient.parseMappedAddress a.value a.type = .ok (.ok found)) :
    a.mapped = some found := by
  unfold Attribute.mapped
  rw [if_pos htype, hparse]

theorem mapped_mappedAddress (reserved a b c d : UInt8) (port : UInt16) :
    (mappedAddress reserved a b c d port).mapped = some (Net.textV4 a b c d, port) := by
  have hread := StunClient.parseMappedAddress_bytes reserved 1 (.ofNat (port.toNat / 256))
    (.ofNat port.toNat) a b c d [] attrMappedAddress
  rw [u16_bytes16] at hread
  exact Attribute.mapped_of_parse (Or.inl rfl) hread

theorem mapped_xorMappedAddress (reserved a b c d : UInt8) (port : UInt16) :
    (xorMappedAddress reserved a b c d port).mapped =
      some (Net.textV4 a b c d, port ^^^ 0x2112) := by
  have hread := StunClient.parseMappedAddress_bytes reserved 1
    (.ofNat ((port ^^^ 0x2112).toNat / 256)) (.ofNat (port ^^^ 0x2112).toNat)
    (a ^^^ 0x21) (b ^^^ 0x12) (c ^^^ 0xA4) (d ^^^ 0x42) [] attrXorMappedAddress
  have hunmask : ∀ x y : UInt8, x ^^^ y ^^^ y = x := by
    intro x y
    rw [UInt8.xor_assoc, UInt8.xor_self, UInt8.xor_zero]
  rw [u16_bytes16] at hread
  simp only [hunmask] at hread
  exact Attribute.mapped_of_parse (Or.inr rfl) hread

theorem Attribute.Unknown.mapped {a : Attribute} (h : a.Unknown) : a.mapped = none := by
  unfold Attribute.mapped
  rw [if_neg]
  intro htype
  obtain htype | htype := htype
  · exact h.1 htype
  · exact h.2.1 htype

theorem filterMap_mapped_unknown {attrs : List Attribute} (h : ∀ x ∈ attrs, x.Unknown) :
    attrs.filterMap Attribute.mapped = [] := by
  apply List.filterMap_eq_nil_iff.mpr
  intro x hx
  exact (h x hx).mapped

/-- Unknown attributes around one that names an endpoint do not matter. -/
theorem reference_single {before after : List Attribute} {a : Attribute}
    {found : String × UInt16} (hbefore : ∀ x ∈ before, x.Unknown) (hafter : ∀ x ∈ after, x.Unknown)
    (herror : a.type ≠ attrErrorCode) (hmapped : a.mapped = some found) :
    reference (before ++ a :: after) = .ok found := by
  have hnone : attrErrorCode ∉ (before ++ a :: after).map Attribute.type := by
    intro hmem
    obtain ⟨x, hx, htype⟩ := List.mem_map.mp hmem
    obtain hx | hx := List.mem_append.mp hx
    · exact (hbefore x hx).2.2 htype
    · obtain rfl | hx := List.mem_cons.mp hx
      · exact herror htype
      · exact (hafter x hx).2.2 htype
  unfold reference
  rw [if_neg hnone, List.filterMap_append, List.filterMap_cons_some hmapped,
    filterMap_mapped_unknown hbefore, filterMap_mapped_unknown hafter]
  rfl

/-- The mask changes every port. -/
theorem xor_port_ne (port : UInt16) : port ^^^ 0x2112 ≠ port := by
  intro h
  have hzero : port ^^^ (port ^^^ 0x2112) = 0 := by rw [h, UInt16.xor_self]
  rw [← UInt16.xor_assoc, UInt16.xor_self, UInt16.zero_xor] at hzero
  exact absurd hzero (by decide)

/-- `StunClient` finds the address that was encoded, and the port as it was masked. -/
theorem StunClient.parseStunResponse_xorMappedAddress (before after : List Attribute)
    (reserved a b c d : UInt8) (port : UInt16) (transactionId : Vector UInt8 12)
    (stunServer : StunServer) (localAddr : String) (fuel : Nat)
    (hbefore : ∀ x ∈ before, x.Unknown) (hafter : ∀ x ∈ after, x.Unknown)
    (hfits : (encodeAttributes
      (before ++ xorMappedAddress reserved a b c d port :: after)).length < 65536)
    (hfuel : before.length + 1 + after.length ≤ fuel) :
    ∃ found, parseStunResponse fuel
        (bindingSuccess transactionId (before ++ xorMappedAddress reserved a b c d port :: after))
        stunServer localAddr = .ok (.ok found) ∧
      found.publicIp = Net.textV4 a b c d ∧ found.publicPort = port ^^^ 0x2112 ∧
      found.publicPort ≠ port := by
  have hparse := parseStunResponse_bindingSuccess transactionId [] stunServer localAddr hfits
    (by simp only [List.length_append, List.length_cons]; omega : _ ≤ fuel)
  have htype : attrXorMappedAddress ≠ attrErrorCode := by decide
  rw [List.append_nil, reference_single hbefore hafter htype
    (mapped_xorMappedAddress reserved a b c d port)] at hparse
  exact ⟨_, hparse, rfl, rfl, xor_port_ne port⟩

/-- The port 8080 with its mask. -/
theorem StunClient.parseStunResponse_masked :
    parseStunResponse 1 (bindingSuccess (Vector.replicate 12 0)
      [xorMappedAddress 0 203 0 113 7 8080]) ⟨"stun.cloudflare.com", 3478⟩ "0.0.0.0:0" =
        .ok (.ok ⟨"203.0.113.7", 16002, "0.0.0.0:0", "stun.cloudflare.com:3478"⟩) :=
  rfl

theorem StunClient.parseStunResponse_xorMappedAddress_one :
    ∃ found, parseStunResponse 2 (bindingSuccess (Vector.replicate 12 0)
        ([.zeroPadded 0x8022 [106, 114, 111]] ++ xorMappedAddress 0 203 0 113 7 8080 :: []))
        ⟨"stun.cloudflare.com", 3478⟩ "0.0.0.0:0" = .ok (.ok found) ∧
      found.publicIp = Net.textV4 203 0 113 7 ∧ found.publicPort = 8080 ^^^ 0x2112 ∧
      found.publicPort ≠ 8080 :=
  parseStunResponse_xorMappedAddress [.zeroPadded 0x8022 [106, 114, 111]] [] 0 203 0 113 7 8080
    (Vector.replicate 12 0) ⟨"stun.cloudflare.com", 3478⟩ "0.0.0.0:0" 2 (by decide) (by decide)
    (by decide) (by decide)

theorem StunClient.parseStunResponse_mappedAddress {before after : List Attribute}
    {reserved a b c d : UInt8} {port : UInt16} (transactionId : Vector UInt8 12)
    (stunServer : StunServer) (localAddr : String) {fuel : Nat}
    (hbefore : ∀ x ∈ before, x.Unknown) (hafter : ∀ x ∈ after, x.Unknown)
    (hfits : (encodeAttributes
      (before ++ mappedAddress reserved a b c d port :: after)).length < 65536)
    (hfuel : before.length + 1 + after.length ≤ fuel) :
    ∃ found, parseStunResponse fuel
        (bindingSuccess transactionId (before ++ mappedAddress reserved a b c d port :: after))
        stunServer localAddr = .ok (.ok found) ∧
      found.publicIp = Net.textV4 a b c d ∧ found.publicPort = port := by
  have hparse := parseStunResponse_bindingSuccess transactionId [] stunServer localAddr hfits
    (by simp only [List.length_append, List.length_cons]; omega : _ ≤ fuel)
  have htype : attrMappedAddress ≠ attrErrorCode := by decide
  rw [List.append_nil, reference_single hbefore hafter htype
    (mapped_mappedAddress reserved a b c d port)] at hparse
  exact ⟨_, hparse, rfl, rfl⟩

/-! ## The search of the NAT detector -/

namespace NatDetector

theorem mappedBody_skip {a : Attribute} {rest : List UInt8} (hlen : a.value.length < 65536)
    (htype : a.type ≠ attrMappedAddress) : mappedBody (a.encode ++ rest) = mappedBody rest := by
  have hpadded : align4 a.value.length = (a.value ++ a.padding).length := by
    rw [align4_eq hlen, List.length_append, a.aligned]
  simp only [Attribute.encode, bytes16, List.cons_append, List.nil_append]
  rw [mappedBody, u16_bytes16, u16_bytes16, toNat_length hlen, if_neg (fun h => htype h.1), hpadded,
    List.drop_left]

theorem mappedBody_found {a : Attribute} {rest : List UInt8} (hlen : a.value.length < 65536)
    (htype : a.type = attrMappedAddress) (hvalue : 8 ≤ a.value.length) :
    mappedBody (a.encode ++ rest) = some (a.value ++ (a.padding ++ rest)) := by
  simp only [Attribute.encode, bytes16, List.cons_append, List.nil_append, List.append_assoc]
  rw [mappedBody, u16_bytes16, u16_bytes16, toNat_length hlen, if_pos ⟨htype, hvalue⟩]

/-- The search passes over what it does not know to the first mapped address. -/
theorem mappedBody_encodeAttributes {before after : List Attribute} {a : Attribute}
    (hlen : ∀ x ∈ before ++ a :: after, x.value.length < 65536)
    (hbefore : ∀ x ∈ before, x.Unknown) (htype : a.type = attrMappedAddress)
    (hvalue : 8 ≤ a.value.length) :
    mappedBody (encodeAttributes (before ++ a :: after)) =
      some (a.value ++ (a.padding ++ encodeAttributes after)) := by
  induction before with
  | nil =>
    rw [List.nil_append, encodeAttributes_cons]
    exact mappedBody_found (hlen a List.mem_cons_self) htype hvalue
  | cons x before ih =>
    rw [List.cons_append, encodeAttributes_cons,
      mappedBody_skip (hlen x List.mem_cons_self) (hbefore x List.mem_cons_self).1]
    apply ih
    · intro y hy
      exact hlen y (List.mem_cons_of_mem x hy)
    · intro y hy
      exact hbefore y (List.mem_cons_of_mem x hy)

section

variable {before after : List Attribute} {reserved a b c d : UInt8} {port : UInt16}

theorem mappedBody_bindingSuccess (transactionId : Vector UInt8 12)
    (hbefore : ∀ x ∈ before, x.Unknown)
    (hfits : (encodeAttributes
      (before ++ mappedAddress reserved a b c d port :: after)).length < 65536) :
    mappedBody ((bindingSuccess transactionId
        (before ++ mappedAddress reserved a b c d port :: after)).drop 20) =
      some (reserved :: 1 :: (bytes16 port ++ a :: b :: c :: d :: encodeAttributes after)) := by
  unfold bindingSuccess
  rw [List.drop_left' (length_header _ _ _)]
  have hbody := mappedBody_encodeAttributes (StunClient.value_length_lt hfits) hbefore
    (a := mappedAddress reserved a b c d port) rfl (by simp [mappedAddress])
  simpa [mappedAddress] using hbody

/-- Where the address is the last attribute, the byte that the detector reads behind it is
    missing. -/
theorem parseStunResponse_last (transactionId : Vector UInt8 12) (stunServer : String) {fuel : Nat}
    (hbefore : ∀ x ∈ before, x.Unknown)
    (hfits : (encodeAttributes (before ++ [mappedAddress reserved a b c d port])).length < 65536)
    (hfuel : (bindingSuccess transactionId
      (before ++ [mappedAddress reserved a b c d port])).length ≤ fuel) :
    parseStunResponse fuel
      (bindingSuccess transactionId (before ++ [mappedAddress reserved a b c d port])) stunServer =
        .panic := by
  have hbody := mappedBody_bindingSuccess transactionId hbefore hfits
  apply parseStunResponse_short _ _ hbody _ hfuel
  · unfold bindingSuccess
    rw [List.length_append, length_header]
    exact Nat.le_add_right _ _
  · exact u32At_header _ _ _ _
  · simp [encodeAttributes]

/-- Where another attribute follows, the detector reads the address and the port from one byte
    further on, and prints three octets. -/
theorem parseStunResponse_followed (transactionId : Vector UInt8 12) (stunServer : String)
    {fuel : Nat} (hbefore : ∀ x ∈ before, x.Unknown) (hafter : after ≠ [])
    (hfits : (encodeAttributes
      (before ++ mappedAddress reserved a b c d port :: after)).length < 65536)
    (hfuel : (bindingSuccess transactionId
      (before ++ mappedAddress reserved a b c d port :: after)).length ≤ fuel) :
    parseStunResponse fuel
      (bindingSuccess transactionId (before ++ mappedAddress reserved a b c d port :: after))
      stunServer = .ok (.ok ⟨dotted b c d, u16 (.ofNat port.toNat) a, stunServer⟩) := by
  have hbody := mappedBody_bindingSuccess transactionId hbefore hfits
  cases after with
  | nil => exact (hafter rfl).elim
  | cons x after =>
    apply parseStunResponse_mapped _ _ hbody hfuel
    · unfold bindingSuccess
      rw [List.length_append, length_header]
      exact Nat.le_add_right _ _
    · exact u32At_header _ _ _ _

end

theorem count_dot_toString (n : Nat) : (toString n).toList.count '.' = 0 :=
  List.count_eq_zero.mpr (Net.notMem_toString (by decide) n)

theorem count_dot_intercalate (octets : List UInt8) :
    (".".intercalate (octets.map fun octet => toString octet.toNat)).toList.count '.' =
      octets.length - 1 := by
  induction octets with
  | nil => rfl
  | cons octet octets ih =>
    cases octets with
    | nil => exact count_dot_toString octet.toNat
    | cons next octets =>
      rw [List.map_cons] at ih
      rw [List.map_cons, List.map_cons, String.intercalate_cons_cons, String.toList_append,
        String.toList_append, List.count_append, List.count_append, ih, count_dot_toString]
      simp only [List.length_cons]
      exact Nat.add_comm _ _

/-- Two dots are not three. -/
theorem dotted_ne_textV4 (b c d w x y z : UInt8) : dotted b c d ≠ Net.textV4 w x y z := by
  intro h
  have hcount := congrArg (fun s : String => s.toList.count '.') h
  unfold dotted Net.textV4 at hcount
  simp only [count_dot_intercalate] at hcount
  exact absurd hcount (by simp)

/-- Three octets are the text of no IP address. -/
theorem dotted_ne_text (a b c : UInt8) (ip : Net.IpAddr) : dotted a b c ≠ ip.text := by
  cases ip with
  | v4 w x y z => exact dotted_ne_textV4 a b c w x y z
  | v6 groups =>
    intro h
    have hcolon : ':' ∉ (dotted a b c).toList := by
      apply Net.notMem_intercalate (by decide)
      intro text htext
      obtain ⟨octet, -, rfl⟩ := List.mem_map.mp htext
      exact Net.notMem_toString (by decide) octet.toNat
    have hdot : '.' ∈ (dotted a b c).toList := by
      unfold dotted
      simp
    rw [h] at hcolon hdot
    exact hcolon (Net.colon_mem_textV6 hdot)

end NatDetector

/-- The two parsers never agree: `StunClient` finds the endpoint, where `NatDetector` panics at
    the end of the message or gives a text that is no IPv4 address. -/
theorem parsers_disagree (before after : List Attribute) (reserved a b c d : UInt8) (port : UInt16)
    (transactionId : Vector UInt8 12) (stunServer : StunServer) (localAddr natServer : String)
    (fuel : Nat) (hbefore : ∀ x ∈ before, x.Unknown) (hafter : ∀ x ∈ after, x.Unknown)
    (hfits : (encodeAttributes
      (before ++ mappedAddress reserved a b c d port :: after)).length < 65536)
    (hfuel : (bindingSuccess transactionId
      (before ++ mappedAddress reserved a b c d port :: after)).length ≤ fuel) :
    ∃ found,
      StunClient.parseStunResponse fuel
        (bindingSuccess transactionId (before ++ mappedAddress reserved a b c d port :: after))
        stunServer localAddr = .ok (.ok found) ∧
      found.publicIp = Net.textV4 a b c d ∧ found.publicPort = port ∧
      ∀ detected, NatDetector.parseStunResponse fuel
          (bindingSuccess transactionId (before ++ mappedAddress reserved a b c d port :: after))
          natServer = .ok (.ok detected) →
        detected.publicIp ≠ found.publicIp := by
  have hcount := length_le_encodeAttributes (before ++ mappedAddress reserved a b c d port :: after)
  have hmessage : (encodeAttributes
      (before ++ mappedAddress reserved a b c d port :: after)).length ≤ fuel := by
    unfold bindingSuccess at hfuel
    rw [List.length_append] at hfuel
    omega
  rw [List.length_append, List.length_cons] at hcount
  obtain ⟨found, hfound, hip, hport⟩ := StunClient.parseStunResponse_mappedAddress transactionId
    stunServer localAddr hbefore hafter hfits (by omega : _ ≤ fuel)
  refine ⟨found, hfound, hip, hport, ?_⟩
  intro detected hdetected
  by_cases hlast : after = []
  · subst hlast
    rw [NatDetector.parseStunResponse_last transactionId natServer hbefore hfits hfuel] at hdetected
    cases hdetected
  · rw [NatDetector.parseStunResponse_followed transactionId natServer hbefore hlast hfits hfuel]
      at hdetected
    cases hdetected
    rw [hip]
    exact NatDetector.dotted_ne_textV4 b c d a b c d

/-- Both find an endpoint in the same message, but not the same one. -/
theorem parsers_differ :
    StunClient.parseStunResponse 2 (bindingSuccess (Vector.replicate 12 0)
        [mappedAddress 0 203 0 113 7 8080, .zeroPadded 0x8022 [106, 114, 111]])
        ⟨"stun.cloudflare.com", 3478⟩ "0.0.0.0:0" =
      .ok (.ok ⟨"203.0.113.7", 8080, "0.0.0.0:0", "stun.cloudflare.com:3478"⟩) ∧
    NatDetector.parseStunResponse 2 (bindingSuccess (Vector.replicate 12 0)
        [mappedAddress 0 203 0 113 7 8080, .zeroPadded 0x8022 [106, 114, 111]])
        "stun.cloudflare.com:3478" =
      .ok (.ok ⟨"0.113.7", 37067, "stun.cloudflare.com:3478"⟩) :=
  ⟨rfl, rfl⟩

/-- The address stands between a SOFTWARE and a FINGERPRINT attribute. -/
theorem parsers_disagree_amid :
    ∃ found, StunClient.parseStunResponse 48 (bindingSuccess (Vector.replicate 12 0)
        ([.zeroPadded 0x8022 [106, 114, 111]] ++ mappedAddress 0 203 0 113 7 8080 ::
          [.zeroPadded 0x8028 [1, 2, 3, 4]])) ⟨"stun.cloudflare.com", 3478⟩ "0.0.0.0:0" =
        .ok (.ok found) ∧
      found.publicIp = Net.textV4 203 0 113 7 ∧ found.publicPort = 8080 ∧
      ∀ detected, NatDetector.parseStunResponse 48 (bindingSuccess (Vector.replicate 12 0)
          ([.zeroPadded 0x8022 [106, 114, 111]] ++ mappedAddress 0 203 0 113 7 8080 ::
            [.zeroPadded 0x8028 [1, 2, 3, 4]])) "stun.cloudflare.com:3478" = .ok (.ok detected) →
        detected.publicIp ≠ found.publicIp :=
  parsers_disagree [.zeroPadded 0x8022 [106, 114, 111]] [.zeroPadded 0x8028 [1, 2, 3, 4]]
    0 203 0 113 7 8080 (Vector.replicate 12 0) ⟨"stun.cloudflare.com", 3478⟩ "0.0.0.0:0"
    "stun.cloudflare.com:3478" 48 (by decide) (by decide) (by decide) (by decide)

end Jrok.Stun
