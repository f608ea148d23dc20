import Jrok.Stun.Endpoints

/-!
# Bytes behind the message

What `StunClient` makes of a datagram that is longer than its header says. The attribute loop
compares with the declared end only where an attribute starts.
-/

namespace Jrok.Stun

open BigEndian Imperative

namespace Attribute

theorem length_take_append_drop {n : Nat} {rest : List UInt8}
    (h : (n + 3) / 4 * 4 ≤ rest.length) :
    (rest.take n).length + ((rest.drop n).take ((n + 3) / 4 * 4 - n)).length =
      ((rest.take n).length + 3) / 4 * 4 := by
  simp only [List.length_take, List.length_drop]
  omega

/-- The first attribute of a body and what follows it, where it is there as a whole. -/
def decode : List UInt8 → Option (Attribute × List UInt8)
  | t :: t' :: l :: l' :: rest =>
    if h : ((u16 l l').toNat + 3) / 4 * 4 ≤ rest.length then
      some ({ type := u16 t t'
              value := rest.take (u16 l l').toNat
              padding := (rest.drop (u16 l l').toNat).take
                (((u16 l l').toNat + 3) / 4 * 4 - (u16 l l').toNat)
              aligned := length_take_append_drop h },
        rest.drop (((u16 l l').toNat + 3) / 4 * 4))
    else none
  | _ => none

theorem decode_whole (t t' : UInt8) {l l' : UInt8} {rest : List UInt8} {n : Nat}
    (hn : (u16 l l').toNat = n) (hle : (n + 3) / 4 * 4 ≤ rest.length) :
    ∃ a, decode (t :: t' :: l :: l' :: rest) = some (a, rest.drop ((n + 3) / 4 * 4)) ∧
      a.type = u16 t t' ∧ a.value = rest.take n ∧
      a.padding = (rest.drop n).take ((n + 3) / 4 * 4 - n) := by
  subst hn
  exact ⟨_, dif_pos hle, rfl, rfl, rfl⟩

theorem decode_short {t t' l l' : UInt8} {rest : List UInt8}
    (hlt : rest.length < ((u16 l l').toNat + 3) / 4 * 4) :
    decode (t :: t' :: l :: l' :: rest) = none :=
  dif_neg (Nat.not_le.mpr hlt)

theorem encode_of_parts {a : Attribute} {t t' l l' : UInt8} {rest : List UInt8}
    (htype : a.type = u16 t t') (hvalue : a.value = rest.take (u16 l l').toNat)
    (hpadding : a.padding = (rest.drop (u16 l l').toNat).take
      (((u16 l l').toNat + 3) / 4 * 4 - (u16 l l').toNat))
    (hle : ((u16 l l').toNat + 3) / 4 * 4 ≤ rest.length) :
    a.encode = t :: t' :: l :: l' :: rest.take (((u16 l l').toNat + 3) / 4 * 4) := by
  have hlen : a.value.length = (u16 l l').toNat := by
    rw [hvalue, List.length_take]
    omega
  have hpad : (u16 l l').toNat + (((u16 l l').toNat + 3) / 4 * 4 - (u16 l l').toNat) =
      ((u16 l l').toNat + 3) / 4 * 4 := by omega
  rw [encode, hlen, UInt16.ofNat_toNat, htype, bytes16_u16, bytes16_u16, hvalue, hpadding,
    ← List.take_add, hpad]
  rfl

/-- What `decode` finds stands in front of what it leaves. -/
theorem decode_some {bytes rest : List UInt8} {a : Attribute} (h : decode bytes = some (a, rest)) :
    bytes = a.encode ++ rest ∧ a.value.length < 65536 := by
  match bytes with
  | t :: t' :: l :: l' :: body =>
    by_cases hle : ((u16 l l').toNat + 3) / 4 * 4 ≤ body.length
    · obtain ⟨b, hdecode, htype, hvalue, hpadding⟩ := decode_whole t t' rfl hle
      rw [h] at hdecode
      cases hdecode
      apply And.intro
      · rw [encode_of_parts htype hvalue hpadding hle]
        simp only [List.cons_append, List.take_append_drop]
      · have hlt := (u16 l l').toNat_lt
        rw [hvalue, List.length_take]
        omega
    · rw [decode_short (Nat.not_le.mp hle)] at h
      cases h
  | [] => cases h
  | [_] => cases h
  | [_, _] => cases h
  | [_, _, _] => cases h

/-- Decoding what was encoded. -/
theorem decode_encode {a : Attribute} (rest : List UInt8) (h : a.value.length < 65536) :
    decode (a.encode ++ rest) = some (a, rest) := by
  have haligned := a.aligned
  have hlen : (u16 (.ofNat ((UInt16.ofNat a.value.length).toNat / 256))
      (.ofNat (UInt16.ofNat a.value.length).toNat)).toNat = a.value.length := by
    rw [u16_bytes16, toNat_length h]
  have hpad : (a.value.length + 3) / 4 * 4 - a.value.length = a.padding.length := by omega
  have hle : (a.value.length + 3) / 4 * 4 ≤ (a.value ++ (a.padding ++ rest)).length := by
    rw [← aligned, List.length_append, List.length_append]
    omega
  have hdrop : ((a.value ++ (a.padding ++ rest)).drop ((a.value.length + 3) / 4 * 4)) = rest := by
    rw [← aligned, ← List.append_assoc, ← List.length_append, List.drop_left]
  obtain ⟨b, hdecode, htype, hvalue, hpadding⟩ :=
    decode_whole (.ofNat (a.type.toNat / 256)) (.ofNat a.type.toNat) hlen hle
  rw [hpad, List.drop_left, List.take_left] at hpadding
  rw [List.take_left] at hvalue
  rw [u16_bytes16] at htype
  have hb : b = a := by
    cases a
    cases b
    cases htype
    cases hvalue
    cases hpadding
    rfl
  rw [hdrop, hb] at hdecode
  rw [← hdecode]
  simp only [encode, bytes16, List.cons_append, List.nil_append, List.append_assoc]

/-- Where no whole attribute stood, one that more bytes complete reaches into these. -/
theorem length_lt_encode {left rest behind : List UInt8} {a : Attribute}
    (hleft : decode left = none) (h : decode (left ++ rest) = some (a, behind)) :
    left.length < a.encode.length := by
  obtain ⟨happend, hlen⟩ := decode_some h
  apply Nat.lt_of_not_le
  intro hle
  have htake := congrArg (List.take a.encode.length) happend
  rw [List.take_append_of_le_length hle, List.take_left] at htake
  have hsplit : left = a.encode ++ left.drop a.encode.length := by
    rw [← htake, List.length_take, Nat.min_eq_left hle, List.take_append_drop]
  rw [hsplit, decode_encode _ hlen] at hleft
  cases hleft

end Attribute

/-- The whole attributes at the front of a body, and the bytes that they leave. -/
def wholeAttributes (body : List UInt8) : List Attribute × List UInt8 :=
  match _h : Attribute.decode body with
  | some (a, rest) => (a :: (wholeAttributes rest).1, (wholeAttributes rest).2)
  | none => ([], body)
termination_by body.length
decreasing_by
  all_goals
    have happend := (Attribute.decode_some _h).1
    have hencode := a.length_encode
    rw [happend, List.length_append]
    omega

theorem wholeAttributes_some {body rest : List UInt8} {a : Attribute}
    (h : Attribute.decode body = some (a, rest)) :
    wholeAttributes body = (a :: (wholeAttributes rest).1, (wholeAttributes rest).2) := by
  rw [wholeAttributes]
  split
  · rename_i b rest' hdecode
    rw [h] at hdecode
    cases hdecode
    rfl
  · rename_i hdecode
    rw [h] at hdecode
    cases hdecode

theorem wholeAttributes_none {body : List UInt8} (h : Attribute.decode body = none) :
    wholeAttributes body = ([], body) := by
  rw [wholeAttributes]
  split
  · rename_i hdecode
    rw [h] at hdecode
    cases hdecode
  · rfl

theorem wholeAttributes_spec (body : List UInt8) :
    body = encodeAttributes (wholeAttributes body).1 ++ (wholeAttributes body).2 ∧
      (∀ a ∈ (wholeAttributes body).1, a.value.length < 65536) ∧
      Attribute.decode (wholeAttributes body).2 = none := by
  induction body using wholeAttributes.induct with
  | case1 body a rest hdecode ih =>
    obtain ⟨happend, hlen⟩ := Attribute.decode_some hdecode
    obtain ⟨hrest, hall, hleft⟩ := ih
    rw [wholeAttributes_some hdecode]
    refine ⟨?_, ?_, hleft⟩
    · rw [encodeAttributes_cons, List.append_assoc, ← hrest]
      exact happend
    · intro b hb
      cases hb with
      | head => exact hlen
      | tail _ hb => exact hall b hb
  | case2 body hdecode =>
    rw [wholeAttributes_none hdecode]
    exact ⟨rfl, by simp, hdecode⟩

/-- The attribute that the bytes behind a message complete, where the message ends inside of
    it. -/
def completed (left rest : List UInt8) : List Attribute :=
  if left = [] then [] else (Attribute.decode (left ++ rest)).toList.map Prod.fst

namespace StunClient

theorem readAttribute_cut {bytes : List UInt8} (front : List UInt8)
    (last : Option (String × UInt16)) (h : Attribute.decode bytes = none) :
    ∃ pos, readAttribute (front ++ bytes) (Walk.found front.length last) =
      .ok (.leave (Walk.found pos last)) := by
  unfold readAttribute
  by_cases hhead : (front ++ bytes).length < (Walk.found front.length last).pos + 4
  · exact ⟨front.length, if_pos hhead⟩
  rw [if_neg hhead]
  simp only [Walk.found] at hhead ⊢
  obtain ⟨t, t', l, l', rest, rfl⟩ : ∃ t t' l l' rest, bytes = t :: t' :: l :: l' :: rest := by
    apply NatDetector.exists_four_bytes
    rw [List.length_append] at hhead
    omega
  have htype : u16At (front ++ t :: t' :: l :: l' :: rest) front.length = .ok (u16 t t') :=
    u16At_append (i := 0)
  have hlen : u16At (front ++ t :: t' :: l :: l' :: rest) (front.length + 2) =
      .ok (u16 l l') := u16At_append
  have hshort : rest.length < ((u16 l l').toNat + 3) / 4 * 4 := by
    apply Nat.lt_of_not_le
    intro hle
    obtain ⟨a, hdecode, -⟩ := Attribute.decode_whole t t' rfl hle
    rw [h] at hdecode
    cases hdecode
  have hcut : (front ++ t :: t' :: l :: l' :: rest).length <
      front.length + 4 + align4 (u16 l l').toNat := by
    rw [align4_eq (u16 l l').toNat_lt, List.length_append]
    simp only [List.length_cons]
    omega
  simp only [htype, hlen, Exec.ok_bind]
  exact ⟨front.length + 4, if_pos hcut⟩

/-- The iteration that starts in front of the declared end reads over it. -/
theorem loop_over {left rest behind : List UInt8} {a : Attribute} (front : List UInt8)
    (last : Option (String × UInt16)) {stop fuel : Nat} (hleft : Attribute.decode left = none)
    (hdecode : Attribute.decode (left ++ rest) = some (a, behind))
    (hstop : stop = front.length + left.length)
    (hcond : (Walk.found front.length last).before stop = true) :
    ∃ pos, loop (Walk.before stop) (readAttribute (front ++ (left ++ rest))) (fuel + 1)
        (Walk.found front.length last) =
      .ok (if attrErrorCode ∈ [a].map Attribute.type
        then .inr (.internal "STUN error code attribute present")
        else .inl (Walk.found pos (([a].filterMap Attribute.mapped).getLast?.or last))) := by
  obtain ⟨happend, hlen⟩ := Attribute.decode_some hdecode
  have hlong := Attribute.length_lt_encode hleft hdecode
  have hread := readAttribute_encode front behind last hlen
  rw [happend]
  by_cases herror : a.type = attrErrorCode
  · rw [if_pos herror] at hread
    have hmem : attrErrorCode ∈ [a].map Attribute.type := by simp [herror]
    rw [loop_exit hcond hread]
    exact ⟨0, congrArg Exec.ok (if_pos hmem).symm⟩
  · rw [if_neg herror] at hread
    have hend : (Walk.found (front.length + a.encode.length) (a.mapped.or last)).before stop =
        false := by
      apply decide_eq_false
      show ¬ front.length + a.encode.length < stop
      omega
    have hmem : attrErrorCode ∉ [a].map Attribute.type := by simpa using Ne.symm herror
    have hlast : ([a].filterMap Attribute.mapped).getLast?.or last = a.mapped.or last := by
      rw [getLast?_filterMap_cons]
      rfl
    rw [loop_next hcond hread, loop_stop hend]
    apply Exists.intro (front.length + a.encode.length)
    rw [← hlast]
    exact congrArg Exec.ok (if_neg hmem).symm

theorem loop_left {left : List UInt8} (front rest : List UInt8)
    (last : Option (String × UInt16)) {stop fuel : Nat} (hleft : Attribute.decode left = none)
    (hstop : stop = front.length + left.length) (hfuel : left ≠ [] → 0 < fuel) :
    ∃ pos, loop (Walk.before stop) (readAttribute (front ++ (left ++ rest))) fuel
        (Walk.found front.length last) =
      .ok (if attrErrorCode ∈ (completed left rest).map Attribute.type
        then .inr (.internal "STUN error code attribute present")
        else .inl (Walk.found pos
          (((completed left rest).filterMap Attribute.mapped).getLast?.or last))) := by
  by_cases hne : left = []
  · have hend : (Walk.found front.length last).before stop = false := by
      apply decide_eq_false
      show ¬ front.length < stop
      rw [hstop, hne]
      exact Nat.lt_irrefl front.length
    rw [loop_stop hend, completed, if_pos hne]
    exact ⟨front.length, rfl⟩
  obtain ⟨more, rfl⟩ := Nat.exists_eq_add_one.mpr (hfuel hne)
  have hpos := List.length_pos_iff.mpr hne
  have hcond : (Walk.found front.length last).before stop = true := by
    apply decide_eq_true
    show front.length < stop
    omega
  rw [completed, if_neg hne]
  cases hdecode : Attribute.decode (left ++ rest) with
  | none =>
    obtain ⟨pos, hread⟩ := readAttribute_cut front last hdecode
    rw [loop_leave hcond hread]
    exact ⟨pos, rfl⟩
  | some found =>
    obtain ⟨a, behind⟩ := found
    exact loop_over front last hleft hdecode hstop hcond

theorem loop_message {attrs : List Attribute} {left : List UInt8} (front rest : List UInt8)
    {stop fuel : Nat} (hlen : ∀ a ∈ attrs, a.value.length < 65536)
    (hleft : Attribute.decode left = none)
    (hstop : stop = front.length + ((encodeAttributes attrs).length + left.length))
    (hfuel : attrs.length ≤ fuel) (hmore : left ≠ [] → attrs.length < fuel) :
    ∃ pos, loop (Walk.before stop)
        (readAttribute (front ++ (encodeAttributes attrs ++ (left ++ rest)))) fuel
        (Walk.found front.length none) =
      .ok (if attrErrorCode ∈ (attrs ++ completed left rest).map Attribute.type
        then .inr (.internal "STUN error code attribute present")
        else .inl (Walk.found pos
          ((attrs ++ completed left rest).filterMap Attribute.mapped).getLast?)) := by
  obtain ⟨more, rfl⟩ := Nat.exists_eq_add_of_le hfuel
  have hwhole := loop_whole front (left ++ rest) none more hlen (by omega : _ ≤ stop)
  rw [hwhole, Option.or_none]
  by_cases herror : attrErrorCode ∈ attrs.map Attribute.type
  · have hmem : attrErrorCode ∈ (attrs ++ completed left rest).map Attribute.type := by
      rw [List.map_append]
      exact List.mem_append_left _ herror
    rw [if_pos herror]
    exact ⟨0, congrArg Exec.ok (if_pos hmem).symm⟩
  · have hmem : attrErrorCode ∈ (attrs ++ completed left rest).map Attribute.type ↔
        attrErrorCode ∈ (completed left rest).map Attribute.type := by
      rw [List.map_append, List.mem_append, or_iff_right herror]
    have hstop' : stop = (front ++ encodeAttributes attrs).length + left.length := by
      rw [List.length_append]
      omega
    have hmore' : left ≠ [] → 0 < more := by
      intro hne
      have := hmore hne
      omega
    obtain ⟨pos, hpos⟩ := loop_left (front ++ encodeAttributes attrs) rest
      (attrs.filterMap Attribute.mapped).getLast? hleft hstop' hmore'
    rw [List.append_assoc, List.length_append] at hpos
    rw [if_neg herror, hpos, List.filterMap_append, List.getLast?_append]
    simp only [hmem]
    exact ⟨pos, rfl⟩

/-! ## Attributes that can still count -/

/-- The bytes behind an attribute's type can go on as an address that is not the one found last: at
    least 8 bytes of the IPv4 family, as far as they are there, or an address that stands there
    already although its padding is missing. -/
def CanName (last : Option (String × UInt16)) (type : UInt16) : List UInt8 → Prop
  | l :: l' :: value =>
    8 ≤ (u16 l l').toNat ∧
      (value.length < 8 ∧ (∀ family, value[1]? = some family → family = 1) ∨
        ∃ found, parseMappedAddress value type = .ok (.ok found) ∧ last ≠ some found)
  | _ => True

/-- The bytes can go on as an attribute that changes what has been found so far. -/
def CanCount (last : Option (String × UInt16)) : List UInt8 → Prop
  | [] => False
  | [t] => t = 0
  | t :: t' :: rest =>
    u16 t t' = attrErrorCode ∨
      (u16 t t' = attrMappedAddress ∨ u16 t t' = attrXorMappedAddress) ∧
        CanName last (u16 t t') rest

/-- The endpoint that the last of the attributes with a readable one names. -/
def lastMapped (attrs : List Attribute) : Option (String × UInt16) :=
  (attrs.filterMap Attribute.mapped).getLast?

/-- The message is read as a Binding Success response, none of its whole attributes is an error,
    and it ends inside of an attribute that can still count. -/
def EndsInside (message : List UInt8) : Prop :=
  u32At message 4 = .ok magicCookie ∧ u16At message 0 = .ok bindingResponse ∧
    attrErrorCode ∉ (wholeAttributes (message.drop 20)).1.map Attribute.type ∧
    CanCount (lastMapped (wholeAttributes (message.drop 20)).1) (wholeAttributes (message.drop 20)).2

/-- An attribute that changes what has been found so far. -/
def Counts (last : Option (String × UInt16)) (a : Attribute) : Prop :=
  a.type = attrErrorCode ∨ ∃ found, a.mapped = some found ∧ last ≠ some found

theorem reference_append {attrs : List Attribute} {a : Attribute}
    (hnone : attrErrorCode ∉ attrs.map Attribute.type) :
    reference (attrs ++ [a]) = reference attrs ↔ ¬ Counts (lastMapped attrs) a := by
  have hlast : ((attrs ++ [a]).filterMap Attribute.mapped).getLast? =
      a.mapped.or (lastMapped attrs) := by
    rw [List.filterMap_append]
    cases hmapped : a.mapped with
    | none => simp [hmapped, lastMapped]
    | some found => simp [hmapped]
  unfold reference
  rw [if_neg hnone, hlast]
  show _ ↔ ¬ Counts (attrs.filterMap Attribute.mapped).getLast? a
  unfold lastMapped
  generalize (attrs.filterMap Attribute.mapped).getLast? = last
  by_cases herror : a.type = attrErrorCode
  · have hmem : attrErrorCode ∈ (attrs ++ [a]).map Attribute.type := by simp [herror]
    rw [if_pos hmem]
    constructor
    · intro h
      cases last with
      | none => simp at h
      | some found => cases h
    · intro h
      exact (h (Or.inl herror)).elim
  · have hmem : attrErrorCode ∉ (attrs ++ [a]).map Attribute.type := by
      simpa [Ne.symm herror] using hnone
    rw [if_neg hmem]
    cases hmapped : a.mapped with
    | none => cases last <;> simp [Counts, herror, hmapped]
    | some found =>
      cases last with
      | none => simp [Counts, hmapped]
      | some found' => simp [Counts, hmapped, herror, eq_comm]

/-! ## Completing an attribute -/

/-- An address is read of the first eight bytes. -/
theorem parseMappedAddress_take {value value' : List UInt8} {type : UInt16}
    (hlen : 8 ≤ value.length) (htake : value'.take 8 = value.take 8) :
    parseMappedAddress value' type = parseMappedAddress value type := by
  have hlen' : 8 ≤ value'.length := by
    have h := congrArg List.length htake
    rw [List.length_take, List.length_take, Nat.min_eq_left hlen] at h
    omega
  obtain ⟨reserved, family, hi, lo, a, b, c, d, rest, rfl⟩ := exists_mapped_bytes hlen
  obtain ⟨reserved', family', hi', lo', a', b', c', d', rest', rfl⟩ := exists_mapped_bytes hlen'
  simp only [List.take_succ_cons, List.take_zero, List.cons.injEq, and_true] at htake
  obtain ⟨rfl, rfl, rfl, rfl, rfl, rfl, rfl, rfl⟩ := htake
  rw [parseMappedAddress_bytes, parseMappedAddress_bytes]

/-- The type of an attribute and its value, as far as the bytes in front of it give them. -/
theorem decode_cons {t t' : UInt8} {bytes behind : List UInt8} {a : Attribute}
    (h : Attribute.decode (t :: t' :: bytes) = some (a, behind)) :
    ∃ l l' body, bytes = l :: l' :: body ∧ a.type = u16 t t' ∧
      a.value = body.take (u16 l l').toNat ∧ (u16 l l').toNat ≤ body.length := by
  match bytes with
  | l :: l' :: body =>
    by_cases hle : ((u16 l l').toNat + 3) / 4 * 4 ≤ body.length
    · obtain ⟨b, hdecode, htype, hvalue, -⟩ := Attribute.decode_whole t t' rfl hle
      rw [h] at hdecode
      cases hdecode
      exact ⟨l, l', body, rfl, htype, hvalue, by omega⟩
    · rw [Attribute.decode_short (Nat.not_le.mp hle)] at h
      cases h
  | [] => cases h
  | [_] => cases h

theorem mapped_some {a : Attribute} {found : String × UInt16} (h : a.mapped = some found) :
    (a.type = attrMappedAddress ∨ a.type = attrXorMappedAddress) ∧
      parseMappedAddress a.value a.type = .ok (.ok found) := by
  rw [Attribute.mapped] at h
  split at h
  · rename_i htype
    apply And.intro htype
    obtain ⟨r, hr⟩ := parseMappedAddress_ok a.value a.type
    rw [hr] at h ⊢
    cases r with
    | error e => cases h
    | ok found' =>
      cases h
      rfl
  · cases h

theorem Counts.type {last : Option (String × UInt16)} {a : Attribute} (h : Counts last a) :
    a.type = attrErrorCode ∨ a.type = attrMappedAddress ∨ a.type = attrXorMappedAddress := by
  cases h with
  | inl herror => exact Or.inl herror
  | inr hmapped =>
    obtain ⟨found, hfound, -⟩ := hmapped
    exact Or.inr (mapped_some hfound).1

/-- Every octet of an address that can be read is there, and its family is IPv4. -/
theorem parseMappedAddress_some {value : List UInt8} {type : UInt16} {found : String × UInt16}
    (h : parseMappedAddress value type = .ok (.ok found)) :
    8 ≤ value.length ∧ value[1]? = some 1 := by
  by_cases hlen : value.length < 8
  · rw [parseMappedAddress, if_pos hlen] at h
    cases h
  · obtain ⟨reserved, family, hi, lo, a, b, c, d, rest, rfl⟩ :=
      exists_mapped_bytes (Nat.not_lt.mp hlen)
    rw [parseMappedAddress_bytes] at h
    apply And.intro (Nat.not_lt.mp hlen)
    by_cases hfamily : family = 1
    · rw [hfamily]
      rfl
    · rw [if_pos hfamily] at h
      cases h

theorem canName_of_counts {last : Option (String × UInt16)} {type : UInt16} {a : Attribute}
    {rest more body : List UInt8} {l l' : UInt8} {found : String × UInt16}
    (happend : rest ++ more = l :: l' :: body) (htype : a.type = type)
    (hvalue : a.value = body.take (u16 l l').toNat) (hmapped : a.mapped = some found)
    (hlast : last ≠ some found) : CanName last type rest := by
  obtain ⟨-, hparse⟩ := mapped_some hmapped
  obtain ⟨hlen, hfamily⟩ := parseMappedAddress_some hparse
  match rest with
  | [] => trivial
  | [_] => trivial
  | m :: m' :: value =>
    simp only [List.cons_append, List.cons.injEq] at happend
    obtain ⟨rfl, rfl, rfl⟩ := happend
    rw [hvalue] at hlen hfamily hparse
    rw [List.length_take] at hlen
    have height : 8 ≤ (u16 m m').toNat := by omega
    apply And.intro height
    by_cases hshort : value.length < 8
    · apply Or.inl
      apply And.intro hshort
      intro family hknown
      have hlt : 1 < value.length := by
        apply Nat.lt_of_not_le
        intro hle
        rw [List.getElem?_eq_none hle] at hknown
        cases hknown
      rw [List.getElem?_take_of_lt (by omega), List.getElem?_append_left hlt, hknown] at hfamily
      exact Option.some.inj hfamily
    · apply Or.inr
      have htake : ((value ++ more).take (u16 m m').toNat).take 8 = value.take 8 := by
        rw [List.take_take, Nat.min_eq_left height, List.take_append_of_le_length (by omega)]
      rw [parseMappedAddress_take (Nat.not_lt.mp hshort) htake, htype] at hparse
      exact ⟨found, hparse, hlast⟩

theorem canCount_of_counts {last : Option (String × UInt16)} {left rest behind : List UInt8}
    {a : Attribute} (hne : left ≠ []) (hdecode : Attribute.decode (left ++ rest) = some (a, behind))
    (hcounts : Counts last a) : CanCount last left := by
  match left with
  | [] => exact hne rfl
  | [t] =>
    show t = 0
    match rest with
    | [] => cases hdecode
    | t' :: rest =>
      obtain ⟨l, l', body, -, htype, -⟩ := decode_cons hdecode
      have hsmall : (u16 t t').toNat < 256 := by
        rw [← htype]
        obtain h | h | h := hcounts.type <;> rw [h] <;> decide
      have ht := t.toNat_lt
      have ht' := t'.toNat_lt
      have hn : (u16 t t').toNat = t.toNat * 256 + t'.toNat := by
        apply UInt16.toNat_ofNat_of_lt'
        show t.toNat * 256 + t'.toNat < 65536
        omega
      apply UInt8.toNat_inj.mp
      show t.toNat = 0
      omega
  | t :: t' :: left =>
    obtain ⟨l, l', body, happend, htype, hvalue, -⟩ := decode_cons hdecode
    cases hcounts with
    | inl herror => exact Or.inl (htype.symm.trans herror)
    | inr hmapped =>
      obtain ⟨found, hfound, hlast⟩ := hmapped
      have haddress := (mapped_some hfound).1
      rw [htype] at haddress
      exact Or.inr ⟨haddress, canName_of_counts happend htype hvalue hfound hlast⟩

/-- Enough bytes of zero behind a header complete its attribute. -/
theorem decode_zeros (t t' l l' : UInt8) (value : List UInt8) :
    ∃ a behind,
      Attribute.decode (t :: t' :: l :: l' :: (value ++ List.replicate 65536 0)) =
        some (a, behind) ∧
      a.type = u16 t t' ∧ a.value = (value ++ List.replicate 65536 0).take (u16 l l').toNat := by
  have hlt := (u16 l l').toNat_lt
  have hle : ((u16 l l').toNat + 3) / 4 * 4 ≤ (value ++ List.replicate 65536 (0 : UInt8)).length := by
    rw [List.length_append, List.length_replicate]
    omega
  obtain ⟨a, hdecode, htype, hvalue, -⟩ := Attribute.decode_whole t t' rfl hle
  exact ⟨a, _, hdecode, htype, hvalue⟩

theorem exists_header (rest : List UInt8) :
    ∃ more l l' value, rest ++ more = l :: l' :: (value ++ List.replicate 65536 0) := by
  match rest with
  | [] => exact ⟨0 :: 0 :: List.replicate 65536 0, 0, 0, [], rfl⟩
  | [l] => exact ⟨0 :: List.replicate 65536 0, l, 0, [], rfl⟩
  | l :: l' :: value => exact ⟨List.replicate 65536 0, l, l', value, rfl⟩

/-- The missing bytes of an address, with a last octet of one's choice. -/
theorem exists_octets {value : List UInt8} (hshort : value.length < 8)
    (hfamily : ∀ family, value[1]? = some family → family = 1) :
    ∃ reserved hi lo a b c, ∀ d : UInt8, ∃ more,
      value ++ more = [reserved, 1, hi, lo, a, b, c, d] := by
  match value with
  | [] => exact ⟨0, 0, 0, 0, 0, 0, fun d => ⟨[0, 1, 0, 0, 0, 0, 0, d], rfl⟩⟩
  | [r] => exact ⟨r, 0, 0, 0, 0, 0, fun d => ⟨[1, 0, 0, 0, 0, 0, d], rfl⟩⟩
  | r :: family :: value =>
    obtain rfl : family = 1 := hfamily family rfl
    match value with
    | [] => exact ⟨r, 0, 0, 0, 0, 0, fun d => ⟨[0, 0, 0, 0, 0, d], rfl⟩⟩
    | [hi] => exact ⟨r, hi, 0, 0, 0, 0, fun d => ⟨[0, 0, 0, 0, d], rfl⟩⟩
    | [hi, lo] => exact ⟨r, hi, lo, 0, 0, 0, fun d => ⟨[0, 0, 0, d], rfl⟩⟩
    | [hi, lo, a] => exact ⟨r, hi, lo, a, 0, 0, fun d => ⟨[0, 0, d], rfl⟩⟩
    | [hi, lo, a, b] => exact ⟨r, hi, lo, a, b, 0, fun d => ⟨[0, d], rfl⟩⟩
    | [hi, lo, a, b, c] => exact ⟨r, hi, lo, a, b, c, fun d => ⟨[d], rfl⟩⟩
    | _ :: _ :: _ :: _ :: _ :: _ :: rest =>
      simp only [List.length_cons] at hshort
      omega

/-- Texts of different lengths. -/
theorem textV4_last_ne (a b c : UInt8) : Net.textV4 a b c 0 ≠ Net.textV4 a b c 10 := by
  intro h
  have hlen := congrArg String.length h
  have hzero : (toString (0 : UInt8).toNat).length = 1 := by decide
  have hten : (toString (10 : UInt8).toNat).length = 2 := by decide
  unfold Net.textV4 at hlen
  simp only [List.map_cons, List.map_nil, String.intercalate_cons_cons,
    String.intercalate_singleton, String.length_append] at hlen
  omega

/-- The octet that is missing decides between two endpoints, of which one is not the last. -/
theorem exists_parse_ne (last : Option (String × UInt16)) (type : UInt16)
    (reserved hi lo a b c : UInt8) :
    ∃ d found, (∀ rest, parseMappedAddress (reserved :: 1 :: hi :: lo :: a :: b :: c :: d :: rest)
      type = .ok (.ok found)) ∧ last ≠ some found := by
  have hfamily : ¬ ((1 : UInt8) ≠ 1) := by decide
  have hchoose : ∀ (f : UInt8 → String × UInt16), f 0 ≠ f 10 → ∃ x, last ≠ some (f x) := by
    intro f hne
    by_cases hzero : last = some (f 0)
    · apply Exists.intro 10
      intro hten
      exact hne (Option.some.inj (hzero.symm.trans hten))
    · exact ⟨0, hzero⟩
  by_cases htype : type = attrXorMappedAddress
  · obtain ⟨x, hx⟩ := hchoose
      (fun x => (Net.textV4 (a ^^^ 0x21) (b ^^^ 0x12) (c ^^^ 0xA4) x, u16 hi lo))
      (fun h => textV4_last_ne _ _ _ (congrArg Prod.fst h))
    have hunmask : x ^^^ 0x42 ^^^ 0x42 = x := by
      rw [UInt8.xor_assoc, UInt8.xor_self, UInt8.xor_zero]
    refine ⟨x ^^^ 0x42, _, ?_, hx⟩
    intro rest
    rw [parseMappedAddress_bytes, if_neg hfamily, if_pos htype, hunmask]
  · obtain ⟨x, hx⟩ := hchoose (fun x => (Net.textV4 a b c x, u16 hi lo))
      (fun h => textV4_last_ne _ _ _ (congrArg Prod.fst h))
    refine ⟨x, _, ?_, hx⟩
    intro rest
    rw [parseMappedAddress_bytes, if_neg hfamily, if_neg htype]

theorem mapped_of_parse_value {a : Attribute} {type : UInt16} {value : List UInt8}
    {found : String × UInt16} (haddress : type = attrMappedAddress ∨ type = attrXorMappedAddress)
    (htype : a.type = type) (hvalue : a.value = value)
    (hparse : parseMappedAddress value type = .ok (.ok found)) : a.mapped = some found := by
  subst htype hvalue
  exact Attribute.mapped_of_parse haddress hparse

section

variable {t t' l l' : UInt8} {value : List UInt8} {last : Option (String × UInt16)}

theorem exists_counts_short (value : List UInt8) (last : Option (String × UInt16))
    (haddress : u16 t t' = attrMappedAddress ∨ u16 t t' = attrXorMappedAddress)
    (height : 8 ≤ (u16 l l').toNat) (hshort : value.length < 8)
    (hfamily : ∀ family, value[1]? = some family → family = 1) :
    ∃ more a behind, Attribute.decode (t :: t' :: l :: l' :: (value ++ more)) = some (a, behind) ∧
      Counts last a := by
  obtain ⟨reserved, hi, lo, a, b, c, hoctets⟩ := exists_octets hshort hfamily
  obtain ⟨d, found, hparse, hlast⟩ := exists_parse_ne last (u16 t t') reserved hi lo a b c
  obtain ⟨more, hmore⟩ := hoctets d
  obtain ⟨found', behind, hdecode, htype, hvalue⟩ := decode_zeros t t' l l' (value ++ more)
  refine ⟨more ++ List.replicate 65536 0, found', behind, ?_, Or.inr ⟨found, ?_, hlast⟩⟩
  · rw [← List.append_assoc]
    exact hdecode
  · obtain ⟨n, hn⟩ := Nat.exists_eq_add_of_le' height
    rw [hmore, hn] at hvalue
    exact mapped_of_parse_value haddress htype hvalue (hparse _)

theorem exists_counts_long {found : String × UInt16}
    (haddress : u16 t t' = attrMappedAddress ∨ u16 t t' = attrXorMappedAddress)
    (height : 8 ≤ (u16 l l').toNat)
    (hparse : parseMappedAddress value (u16 t t') = .ok (.ok found)) (hlast : last ≠ some found) :
    ∃ more a behind, Attribute.decode (t :: t' :: l :: l' :: (value ++ more)) = some (a, behind) ∧
      Counts last a := by
  obtain ⟨a, behind, hdecode, htype, hvalue⟩ := decode_zeros t t' l l' value
  have hlen := (parseMappedAddress_some hparse).1
  have htake : ((value ++ List.replicate 65536 0).take (u16 l l').toNat).take 8 = value.take 8 := by
    rw [List.take_take, Nat.min_eq_left height, List.take_append_of_le_length hlen]
  rw [← parseMappedAddress_take hlen htake] at hparse
  exact ⟨_, a, behind, hdecode, Or.inr ⟨found, mapped_of_parse_value haddress htype hvalue hparse,
    hlast⟩⟩

end

theorem exists_counts_of_canName {t t' : UInt8} {rest : List UInt8}
    {last : Option (String × UInt16)}
    (haddress : u16 t t' = attrMappedAddress ∨ u16 t t' = attrXorMappedAddress)
    (h : CanName last (u16 t t') rest) :
    ∃ more a behind, Attribute.decode (t :: t' :: (rest ++ more)) = some (a, behind) ∧
      Counts last a := by
  match rest with
  | [] =>
    have hn : 8 ≤ (u16 0 8).toNat := by decide
    obtain ⟨more, a, behind, hdecode, hcounts⟩ :=
      exists_counts_short [] last haddress hn (by decide) (by simp)
    exact ⟨0 :: 8 :: more, a, behind, hdecode, hcounts⟩
  | [l] =>
    have hl := l.toNat_lt
    have hn : (u16 l 8).toNat = l.toNat * 256 + 8 := by
      apply UInt16.toNat_ofNat_of_lt'
      show l.toNat * 256 + 8 < 65536
      omega
    have height : 8 ≤ (u16 l 8).toNat := by omega
    obtain ⟨more, a, behind, hdecode, hcounts⟩ :=
      exists_counts_short [] last haddress height (by decide) (by simp)
    exact ⟨8 :: more, a, behind, hdecode, hcounts⟩
  | l :: l' :: value =>
    obtain ⟨height, hvalue⟩ := h
    cases hvalue with
    | inl hshort => exact exists_counts_short value last haddress height hshort.1 hshort.2
    | inr hnamed =>
      obtain ⟨found, hparse, hlast⟩ := hnamed
      exact exists_counts_long haddress height hparse hlast

theorem exists_counts_of_canCount {last : Option (String × UInt16)} {left : List UInt8}
    (h : CanCount last left) :
    ∃ rest a behind, Attribute.decode (left ++ rest) = some (a, behind) ∧ Counts last a := by
  have herror : ∀ t t' : UInt8, u16 t t' = attrErrorCode → ∀ rest, ∃ more a behind,
      Attribute.decode (t :: t' :: (rest ++ more)) = some (a, behind) ∧ Counts last a := by
    intro t t' htype rest
    obtain ⟨more, l, l', value, hmore⟩ := exists_header rest
    obtain ⟨a, behind, hdecode, ha, -⟩ := decode_zeros t t' l l' value
    rw [← hmore] at hdecode
    exact ⟨more, a, behind, hdecode, Or.inl (ha.trans htype)⟩
  match left with
  | [t] =>
    obtain rfl : t = 0 := h
    obtain ⟨more, a, behind, hdecode, hcounts⟩ := herror 0 9 rfl []
    exact ⟨9 :: more, a, behind, hdecode, hcounts⟩
  | t :: t' :: rest =>
    cases h with
    | inl htype => exact herror t t' htype rest
    | inr haddress => exact exists_counts_of_canName haddress.1 haddress.2

/-! ## Two datagrams -/

theorem messageLength_append {message : List UInt8} (rest : List UInt8) (h : 4 ≤ message.length) :
    messageLength (message ++ rest) = messageLength message := by
  match message, h with
  | _ :: _ :: _ :: _ :: _, _ => rfl

section

variable {message : List UInt8} {fuel : Nat} (rest : List UInt8) (stunServer : StunServer)
  (localAddr : String)

/-- What stands in the header of a datagram does not depend on what is behind the message. -/
theorem parseStunResponse_append {cookie : UInt32} {msgType : UInt16} (hlong : 20 ≤ message.length)
    (hcookie : u32At message 4 = .ok cookie) (htype : u16At message 0 = .ok msgType) :
    parseStunResponse fuel (message ++ rest) stunServer localAddr =
      if cookie ≠ magicCookie then return .error (.internal "Invalid STUN magic cookie")
      else if msgType ≠ bindingResponse then
        return .error (.internal ("Unexpected STUN message type: 0x" ++ hex4 msgType))
      else do
        return endpoint stunServer localAddr (← loop (Walk.before (20 + messageLength message))
          (readAttribute (message ++ rest)) fuel ⟨20, none, none⟩) := by
  have hlen : 20 ≤ (message ++ rest).length := by
    rw [List.length_append]
    omega
  obtain ⟨msgLen, hmsgLen, hn⟩ :=
    u16At_messageLength (by omega : 4 ≤ (message ++ rest).length)
  rw [messageLength_append rest (by omega)] at hn
  unfold parseStunResponse
  rw [if_neg (Nat.not_lt.mpr hlen), u16At_append_left (by omega), htype,
    u32At_append_left (by omega), hcookie, hmsgLen, slice_of_le (by omega) hlen]
  simp only [Exec.ok_bind, hn]

/-- The parser reads the whole attributes of the message, and the one that the bytes behind it
    complete. -/
theorem parseStunResponse_completed (hmessage : message.length = 20 + messageLength message)
    (hfuel : (messageLength message + 3) / 4 ≤ fuel) (hcookie : u32At message 4 = .ok magicCookie)
    (htype : u16At message 0 = .ok bindingResponse) :
    parseStunResponse fuel (message ++ rest) stunServer localAddr =
      .ok ((reference ((wholeAttributes (message.drop 20)).1 ++
          completed (wholeAttributes (message.drop 20)).2 rest)).map fun found =>
        ⟨found.1, found.2, localAddr, stunServer.addr ++ ":" ++ toString stunServer.port.toNat⟩) := by
  obtain ⟨hbody, hlen, hleft⟩ := wholeAttributes_spec (message.drop 20)
  generalize (wholeAttributes (message.drop 20)).1 = attrs at *
  generalize (wholeAttributes (message.drop 20)).2 = left at *
  have hfront : (message.take 20).length = 20 := by
    rw [List.length_take]
    omega
  have hsplit : message = message.take 20 ++ (encodeAttributes attrs ++ left) := by
    rw [← hbody, List.take_append_drop]
  have hlength : messageLength message = (encodeAttributes attrs).length + left.length := by
    have h := congrArg List.length hsplit
    rw [List.length_append, List.length_append, hfront] at h
    omega
  have hcount := length_le_encodeAttributes attrs
  rw [parseStunResponse_append rest stunServer localAddr (by omega) hcookie htype,
    if_neg (not_not_intro rfl), if_neg (not_not_intro rfl)]
  have hresponse : message ++ rest =
      message.take 20 ++ (encodeAttributes attrs ++ (left ++ rest)) := by
    rw [← List.append_assoc (encodeAttributes attrs), ← List.append_assoc, ← hsplit]
  have hstop : 20 + messageLength message =
      (message.take 20).length + ((encodeAttributes attrs).length + left.length) := by
    rw [hfront, hlength]
  have hmore : left ≠ [] → attrs.length < fuel := by
    intro hne
    have hpos := List.length_pos_iff.mpr hne
    omega
  obtain ⟨pos, hloop⟩ := loop_message (message.take 20) rest hlen hleft hstop (by omega) hmore
  rw [hfront, ← hresponse] at hloop
  have hstart : (⟨20, none, none⟩ : Walk) = Walk.found 20 none := rfl
  rw [hstart, hloop]
  exact congrArg Exec.ok (endpoint_reference _ pos stunServer localAddr)

end

theorem reference_completed {attrs : List Attribute} {left : List UInt8} (rest : List UInt8)
    (h : ¬ (attrErrorCode ∉ attrs.map Attribute.type ∧ CanCount (lastMapped attrs) left)) :
    reference (attrs ++ completed left rest) = reference attrs := by
  by_cases herror : attrErrorCode ∈ attrs.map Attribute.type
  · have hmem : attrErrorCode ∈ (attrs ++ completed left rest).map Attribute.type := by
      rw [List.map_append]
      exact List.mem_append_left _ herror
    rw [reference, if_pos hmem, reference, if_pos herror]
  · unfold completed
    by_cases hne : left = []
    · rw [if_pos hne, List.append_nil]
    · rw [if_neg hne]
      cases hdecode : Attribute.decode (left ++ rest) with
      | none => exact congrArg reference (List.append_nil attrs)
      | some found =>
        obtain ⟨a, behind⟩ := found
        apply (reference_append herror).mpr
        intro hcounts
        exact h ⟨herror, canCount_of_counts hne hdecode hcounts⟩

theorem map_endpoint_injective {localAddr stunServer : String}
    {r r' : Except Error (String × UInt16)}
    (h : (r.map fun found => PublicEndpoint.mk found.1 found.2 localAddr stunServer) =
      r'.map fun found => PublicEndpoint.mk found.1 found.2 localAddr stunServer) : r = r' := by
  cases r with
  | error e =>
    cases r' with
    | error e' =>
      cases h
      rfl
    | ok found' => cases h
  | ok found =>
    cases r' with
    | error e' => cases h
    | ok found' =>
      cases found
      cases found'
      cases h
      rfl

section

variable {message : List UInt8} {fuel : Nat}

/-- The bytes that complete the attribute are read. -/
theorem parseStunResponse_counted (hmessage : message.length = 20 + messageLength message)
    (hfuel : (messageLength message + 3) / 4 ≤ fuel) (hends : EndsInside message)
    (stunServer : StunServer) (localAddr : String) :
    ∃ rest, parseStunResponse fuel (message ++ rest) stunServer localAddr ≠
      parseStunResponse fuel (message ++ []) stunServer localAddr := by
  obtain ⟨-, -, hleft⟩ := wholeAttributes_spec (message.drop 20)
  obtain ⟨hcookie, htype, hnone, hcount⟩ := hends
  obtain ⟨rest, a, behind, hdecode, hcounts⟩ := exists_counts_of_canCount hcount
  have hne : (wholeAttributes (message.drop 20)).2 ≠ [] := by
    intro hnil
    rw [hnil] at hcount
    exact hcount
  have hnothing : completed (wholeAttributes (message.drop 20)).2 [] = [] := by
    rw [completed, if_neg hne, List.append_nil, hleft]
    rfl
  have hcompleted : completed (wholeAttributes (message.drop 20)).2 rest = [a] := by
    rw [completed, if_neg hne, hdecode]
    rfl
  apply Exists.intro rest
  rw [parseStunResponse_completed rest stunServer localAddr hmessage hfuel hcookie htype,
    parseStunResponse_completed [] stunServer localAddr hmessage hfuel hcookie htype,
    hnothing, hcompleted, List.append_nil]
  intro hequal
  have hreference := map_endpoint_injective (Exec.ok.inj hequal)
  exact (reference_append hnone).mp hreference hcounts

/-- Where no such bytes can follow, it does not matter what follows. -/
theorem parseStunResponse_ignored (hmessage : message.length = 20 + messageLength message)
    (hfuel : (messageLength message + 3) / 4 ≤ fuel) (hends : ¬ EndsInside message)
    (rest : List UInt8) (stunServer : StunServer) (localAddr : String) :
    parseStunResponse fuel (message ++ rest) stunServer localAddr =
      parseStunResponse fuel (message ++ []) stunServer localAddr := by
  obtain ⟨cookie, hcookie⟩ : ∃ n, u32At message 4 = .ok n := u32At_of_lt (by omega)
  obtain ⟨msgType, htype⟩ : ∃ n, u16At message 0 = .ok n := u16At_of_lt (by omega)
  by_cases hmagic : cookie = magicCookie
  · by_cases hbinding : msgType = bindingResponse
    · subst hmagic hbinding
      have hquiet := fun rest => reference_completed rest
        (fun h => hends ⟨hcookie, htype, h⟩)
      rw [parseStunResponse_completed rest stunServer localAddr hmessage hfuel hcookie htype,
        parseStunResponse_completed [] stunServer localAddr hmessage hfuel hcookie htype,
        hquiet rest, hquiet []]
    · rw [parseStunResponse_append rest stunServer localAddr (by omega) hcookie htype,
        parseStunResponse_append [] stunServer localAddr (by omega) hcookie htype,
        if_pos hbinding, if_pos hbinding]
  · rw [parseStunResponse_append rest stunServer localAddr (by omega) hcookie htype,
      parseStunResponse_append [] stunServer localAddr (by omega) hcookie htype,
      if_pos hmagic, if_pos hmagic]

end

/-- The bytes behind a message do not matter exactly where it does not end inside of an attribute
    that can count. -/
theorem parseStunResponse_trailing (message : List UInt8) (stunServer : StunServer)
    (localAddr : String) (fuel : Nat) (hmessage : message.length = 20 + messageLength message)
    (hfuel : (messageLength message + 3) / 4 ≤ fuel) :
    (∀ response response', message <+: response → message <+: response' →
      parseStunResponse fuel response stunServer localAddr =
        parseStunResponse fuel response' stunServer localAddr) ↔ ¬ EndsInside message := by
  constructor
  · intro hsame hends
    obtain ⟨rest, hne⟩ :=
      parseStunResponse_counted hmessage hfuel hends stunServer localAddr
    exact hne (hsame _ _ (List.prefix_append message rest) (List.prefix_append message []))
  · intro hends response response' hprefix hprefix'
    obtain ⟨rest, rfl⟩ := hprefix
    obtain ⟨rest', rfl⟩ := hprefix'
    rw [parseStunResponse_ignored hmessage hfuel hends rest,
      parseStunResponse_ignored hmessage hfuel hends rest']

/-- A mapped address of which the message has the header alone. -/
theorem parseStunResponse_beyond :
    ∃ message response response' : List UInt8,
      message.length = 20 + messageLength message ∧ message <+: response ∧ message <+: response' ∧
      parseStunResponse 1 response ⟨"stun.cloudflare.com", 3478⟩ "0.0.0.0:0" =
        .ok (.error (.internal "No mapped address in STUN response")) ∧
      parseStunResponse 1 response' ⟨"stun.cloudflare.com", 3478⟩ "0.0.0.0:0" =
        .ok (.ok ⟨"203.0.113.7", 8080, "0.0.0.0:0", "stun.cloudflare.com:3478"⟩) := by
  refine ⟨header bindingResponse 4 (Vector.replicate 12 0) ++ [0, 1, 0, 8],
    header bindingResponse 4 (Vector.replicate 12 0) ++ [0, 1, 0, 8] ++ [],
    header bindingResponse 4 (Vector.replicate 12 0) ++ [0, 1, 0, 8] ++
      [0, 1, 31, 144, 203, 0, 113, 7], by decide, List.prefix_append _ _, List.prefix_append _ _,
    rfl, rfl⟩

theorem parseStunResponse_trailing_four :
    (∀ response response',
      header bindingResponse 4 (Vector.replicate 12 0) ++ [0, 1, 0, 8] <+: response →
      header bindingResponse 4 (Vector.replicate 12 0) ++ [0, 1, 0, 8] <+: response' →
      parseStunResponse 1 response ⟨"stun.cloudflare.com", 3478⟩ "0.0.0.0:0" =
        parseStunResponse 1 response' ⟨"stun.cloudflare.com", 3478⟩ "0.0.0.0:0") ↔
      ¬ EndsInside (header bindingResponse 4 (Vector.replicate 12 0) ++ [0, 1, 0, 8]) :=
  parseStunResponse_trailing _ _ _ 1 (by decide) (by decide)

end StunClient

end Jrok.Stun
