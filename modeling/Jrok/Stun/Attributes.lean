import Jrok.Stun.Client

/-!
# The attribute walk

What `StunClient` makes of the Binding Success response with a given list of attributes: the loop
against the reference that reads the list itself.
-/

namespace Jrok.Stun

open BigEndian Imperative

/-- The endpoint that `parse_mapped_address` finds in an attribute of one of the address types. -/
def Attribute.mapped (a : Attribute) : Option (String × UInt16) :=
  if a.type = attrMappedAddress ∨ a.type = attrXorMappedAddress then
    match StunClient.parseMappedAddress a.value a.type with
    | .ok (.ok found) => some found
    | _ => none
  else none

/-- The reference: an error attribute refuses the whole list, else the last address that can be
    read counts. -/
def reference (attrs : List Attribute) : Except Error (String × UInt16) :=
  if attrErrorCode ∈ attrs.map Attribute.type then
    .error (.internal "STUN error code attribute present")
  else
    match (attrs.filterMap Attribute.mapped).getLast? with
    | some found => .ok found
    | none => .error (.internal "No mapped address in STUN response")

namespace StunClient

/-- The loop's variables at `pos`, with what has been found so far. -/
def Walk.found (pos : Nat) (found : Option (String × UInt16)) : Walk :=
  ⟨pos, found.map Prod.fst, found.map Prod.snd⟩

section

variable {front rest : List UInt8} {a : Attribute}

theorem u16At_type : u16At (front ++ (a.encode ++ rest)) front.length = .ok a.type := by
  unfold Attribute.encode
  rw [List.append_assoc]
  exact u16At_bytes16 front

theorem u16At_length :
    u16At (front ++ (a.encode ++ rest)) (front.length + 2) = .ok (.ofNat a.value.length) := by
  have hsplit : front ++ (a.encode ++ rest) =
      (front ++ bytes16 a.type) ++
        (bytes16 (.ofNat a.value.length) ++ (a.value ++ (a.padding ++ rest))) := by
    simp only [Attribute.encode, List.append_assoc]
  have hfront : (front ++ bytes16 a.type).length = front.length + 2 := by
    rw [List.length_append, length_bytes16]
  rw [hsplit, ← hfront]
  exact u16At_bytes16 (front ++ bytes16 a.type)

theorem slice_value :
    slice (front ++ (a.encode ++ rest)) (front.length + 4) (front.length + 4 + a.value.length) =
      .ok a.value := by
  have hsplit : front ++ (a.encode ++ rest) =
      (front ++ bytes16 a.type ++ bytes16 (.ofNat a.value.length)) ++
        (a.value ++ (a.padding ++ rest)) := by
    simp only [Attribute.encode, List.append_assoc]
  have hfront :
      (front ++ bytes16 a.type ++ bytes16 (.ofNat a.value.length)).length = front.length + 4 := by
    rw [List.length_append, List.length_append, length_bytes16, length_bytes16]
  rw [hsplit, ← hfront]
  exact slice_append

/-- One iteration reads one attribute, whatever stands in front of it and behind it. -/
theorem readAttribute_encode (front rest : List UInt8) (last : Option (String × UInt16))
    (hlen : a.value.length < 65536) :
    readAttribute (front ++ (a.encode ++ rest)) (Walk.found front.length last) =
      .ok (if a.type = attrErrorCode then .exit (.internal "STUN error code attribute present")
        else .next (Walk.found (front.length + a.encode.length) (a.mapped.or last))) := by
  have hencode := a.length_encode
  have halign : align4 a.value.length = (a.value.length + 3) / 4 * 4 := align4_eq hlen
  have htotal : (front ++ (a.encode ++ rest)).length =
      front.length + (4 + (a.value.length + 3) / 4 * 4) + rest.length := by
    rw [List.length_append, List.length_append, hencode, ← Nat.add_assoc]
  unfold readAttribute
  rw [if_neg (by rw [htotal]; simp only [Walk.found]; omega)]
  simp only [Walk.found, u16At_type, u16At_length, Exec.ok_bind, toNat_length hlen]
  rw [if_neg (by rw [htotal, halign]; omega), slice_value]
  simp only [Exec.ok_bind, hencode, halign, Nat.add_assoc]
  by_cases hmapped : a.type = attrMappedAddress ∨ a.type = attrXorMappedAddress
  · have herror : a.type ≠ attrErrorCode := by
      obtain htype | htype := hmapped <;> rw [htype] <;> decide
    obtain ⟨r, hr⟩ := parseMappedAddress_ok a.value a.type
    rw [if_pos hmapped, if_neg herror, Attribute.mapped, if_pos hmapped, hr]
    cases r with
    | error e => rfl
    | ok found => rfl
  · rw [if_neg hmapped, Attribute.mapped, if_neg hmapped]
    by_cases herror : a.type = attrErrorCode
    · rw [if_pos herror, if_pos herror]
      rfl
    · rw [if_neg herror, if_neg herror]
      rfl

end

theorem getLast?_filterMap_cons {α β : Type} (f : α → Option β) (a : α) (l : List α)
    (last : Option β) :
    ((a :: l).filterMap f).getLast?.or last = (l.filterMap f).getLast?.or ((f a).or last) := by
  cases hf : f a with
  | none => rw [List.filterMap_cons_none hf, Option.none_or]
  | some b =>
    rw [List.filterMap_cons_some hf, List.getLast?_cons]
    cases (l.filterMap f).getLast? <;> rfl

/-- The loop over the encoded attributes, by induction on their list: what has been read becomes
    part of the front. Without an error attribute it goes on behind them. -/
theorem loop_whole {attrs : List Attribute} (front rest : List UInt8)
    (last : Option (String × UInt16)) {stop : Nat} (fuel : Nat)
    (hlen : ∀ a ∈ attrs, a.value.length < 65536)
    (hstop : front.length + (encodeAttributes attrs).length ≤ stop) :
    loop (Walk.before stop)
      (readAttribute (front ++ (encodeAttributes attrs ++ rest))) (attrs.length + fuel)
      (Walk.found front.length last) =
    if attrErrorCode ∈ attrs.map Attribute.type
      then .ok (.inr (.internal "STUN error code attribute present"))
      else loop (Walk.before stop) (readAttribute (front ++ (encodeAttributes attrs ++ rest))) fuel
        (Walk.found (front.length + (encodeAttributes attrs).length)
          ((attrs.filterMap Attribute.mapped).getLast?.or last)) := by
  induction attrs generalizing front last with
  | nil =>
    rw [List.length_nil, Nat.zero_add]
    rfl
  | cons a attrs ih =>
    have hencode := a.length_encode
    have hcount : (a :: attrs).length + fuel = (attrs.length + fuel) + 1 := by
      rw [List.length_cons]
      omega
    rw [encodeAttributes_cons, List.length_append] at hstop
    have hcond : (Walk.found front.length last).before stop = true := by
      apply decide_eq_true
      show front.length < stop
      omega
    have hread := readAttribute_encode front (encodeAttributes attrs ++ rest) last
      (hlen a List.mem_cons_self)
    rw [encodeAttributes_cons, List.append_assoc, hcount]
    by_cases herror : a.type = attrErrorCode
    · rw [if_pos herror] at hread
      rw [loop_exit hcond hread, if_pos (by simp [herror])]
    · rw [if_neg herror] at hread
      rw [loop_next hcond hread, ← List.length_append, ← List.append_assoc front]
      have hrest := ih (front ++ a.encode) (a.mapped.or last)
        (fun b hb => hlen b (List.mem_cons_of_mem a hb))
        (by rw [List.length_append]; omega)
      rw [hrest, getLast?_filterMap_cons, List.length_append, List.length_append, Nat.add_assoc]
      simp [Ne.symm herror]

/-- Where they reach to the end of the message, the loop ends behind them. -/
theorem loop_attributes {attrs : List Attribute} (front trailing : List UInt8)
    (last : Option (String × UInt16)) {stop fuel : Nat}
    (hlen : ∀ a ∈ attrs, a.value.length < 65536)
    (hstop : stop = front.length + (encodeAttributes attrs).length)
    (hfuel : attrs.length ≤ fuel) :
    loop (Walk.before stop)
      (readAttribute (front ++ (encodeAttributes attrs ++ trailing))) fuel
      (Walk.found front.length last) =
    .ok (if attrErrorCode ∈ attrs.map Attribute.type
      then .inr (.internal "STUN error code attribute present")
      else .inl (Walk.found stop ((attrs.filterMap Attribute.mapped).getLast?.or last))) := by
  obtain ⟨more, rfl⟩ := Nat.exists_eq_add_of_le hfuel
  have hend : ∀ found, (Walk.found stop found).before stop = false := by
    intro found
    exact decide_eq_false (Nat.lt_irrefl stop)
  rw [loop_whole front trailing last more hlen (Nat.le_of_eq hstop.symm), ← hstop,
    loop_stop (hend _)]
  by_cases herror : attrErrorCode ∈ attrs.map Attribute.type
  · rw [if_pos herror, if_pos herror]
  · rw [if_neg herror, if_neg herror]

theorem value_length_lt {attrs : List Attribute} (hfits : (encodeAttributes attrs).length < 65536) :
    ∀ a ∈ attrs, a.value.length < 65536 := by
  induction attrs with
  | nil => simp
  | cons b attrs ih =>
    have hencode := b.length_encode
    rw [encodeAttributes_cons, List.length_append] at hfits
    intro a ha
    obtain rfl | ha := List.mem_cons.mp ha
    · omega
    · exact ih (by omega) a ha

/-- What is returned behind the attribute loop, or from inside of it, is what the reference says. -/
theorem endpoint_reference (attrs : List Attribute) (pos : Nat) (stunServer : StunServer)
    (localAddr : String) :
    endpoint stunServer localAddr (if attrErrorCode ∈ attrs.map Attribute.type
      then .inr (.internal "STUN error code attribute present")
      else .inl (Walk.found pos (attrs.filterMap Attribute.mapped).getLast?)) =
    (reference attrs).map fun found =>
      ⟨found.1, found.2, localAddr, stunServer.addr ++ ":" ++ toString stunServer.port.toNat⟩ := by
  unfold reference
  by_cases herror : attrErrorCode ∈ attrs.map Attribute.type
  · rw [if_pos herror, if_pos herror]
    rfl
  · rw [if_neg herror, if_neg herror]
    cases (attrs.filterMap Attribute.mapped).getLast? <;> rfl

/-- The parser on a Binding Success response is the reference on its attributes. -/
theorem parseStunResponse_bindingSuccess {attrs : List Attribute} {fuel : Nat}
    (transactionId : Vector UInt8 12) (trailing : List UInt8) (stunServer : StunServer)
    (localAddr : String) (hfits : (encodeAttributes attrs).length < 65536)
    (hfuel : attrs.length ≤ fuel) :
    parseStunResponse fuel (bindingSuccess transactionId attrs ++ trailing) stunServer localAddr =
      .ok ((reference attrs).map fun found =>
        ⟨found.1, found.2, localAddr, stunServer.addr ++ ":" ++ toString stunServer.port.toNat⟩) := by
  have hlen := length_header bindingResponse (.ofNat (encodeAttributes attrs).length) transactionId
  have hloop := loop_attributes
    (header bindingResponse (.ofNat (encodeAttributes attrs).length) transactionId) trailing none
    (value_length_lt hfits) (by rw [hlen]) hfuel
  unfold parseStunResponse bindingSuccess
  rw [List.append_assoc, if_neg (by rw [List.length_append, hlen]; omega),
    slice_of_le (by omega) (by rw [List.length_append, hlen]; omega)]
  simp only [u16At_header_type, u16At_header_length, u32At_header, Exec.ok_bind, ne_eq,
    not_true_eq_false, if_false, toNat_length hfits]
  rw [hlen, Option.or_none] at hloop
  have hstart : (⟨20, none, none⟩ : Walk) = Walk.found 20 none := rfl
  rw [hstart, hloop]
  exact congrArg Exec.ok (endpoint_reference attrs _ stunServer localAddr)

/-- The same for attributes padded with zeros. -/
theorem parseStunResponse_reference (attrs : List (UInt16 × List UInt8))
    (transactionId : Vector UInt8 12) (trailing : List UInt8) (stunServer : StunServer)
    (localAddr : String) (fuel : Nat)
    (hfits : (encodeAttributes (attrs.map fun a => .zeroPadded a.1 a.2)).length < 65536)
    (hfuel : attrs.length ≤ fuel) :
    parseStunResponse fuel
      (bindingSuccess transactionId (attrs.map fun a => .zeroPadded a.1 a.2) ++ trailing)
      stunServer localAddr =
    .ok ((reference (attrs.map fun a => .zeroPadded a.1 a.2)).map fun found =>
      ⟨found.1, found.2, localAddr, stunServer.addr ++ ":" ++ toString stunServer.port.toNat⟩) :=
  parseStunResponse_bindingSuccess transactionId trailing stunServer localAddr hfits
    (by rwa [List.length_map])

theorem parseStunResponse_reference_two :
    parseStunResponse 2
      (bindingSuccess (Vector.replicate 12 0)
        ([(attrMappedAddress, [0, 1, 31, 144, 203, 0, 113, 7]), (0x8022, [106, 114, 111])].map
          fun a => .zeroPadded a.1 a.2) ++ [9, 9, 9]) ⟨"stun.cloudflare.com", 3478⟩ "0.0.0.0:0" =
      .ok (.ok ⟨"203.0.113.7", 8080, "0.0.0.0:0", "stun.cloudflare.com:3478"⟩) :=
  parseStunResponse_reference [(attrMappedAddress, [0, 1, 31, 144, 203, 0, 113, 7]),
    (0x8022, [106, 114, 111])] (Vector.replicate 12 0) [9, 9, 9] ⟨"stun.cloudflare.com", 3478⟩
    "0.0.0.0:0" 2 (by decide) (by decide)

end StunClient

end Jrok.Stun
