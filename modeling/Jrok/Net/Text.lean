import Jrok.Net.Addr

/-!
# Texts of IP addresses

`Display` of the standard library's `IpAddr`.
-/

namespace Net

/-- A run of zero groups. -/
structure Span where
  start : Nat
  len : Nat

/-- The loop that looks for the longest run of zero groups, and for the first of several: `i` is
    the index of the next group. -/
def longestZeroes (i : Nat) (longest current : Span) : List UInt16 → Span
  | [] => longest
  | group :: groups =>
    if group = 0 then
      let current : Span := ⟨if current.len = 0 then i else current.start, current.len + 1⟩
      longestZeroes (i + 1) (if longest.len < current.len then current else longest) current groups
    else longestZeroes (i + 1) longest ⟨0, 0⟩ groups

/-- `fmt_subslice`: the groups in hexadecimal, with colons between them. -/
def textGroups (groups : List UInt16) : String :=
  ":".intercalate (groups.map fun group => String.ofList (Nat.toDigits 16 group.toNat))

/-- The `Display` text of an IPv6 address: an IPv4-mapped address ends in dotted form, and else the
    longest run of at least two zero groups becomes `::`. -/
def textV6 : List UInt16 → String
  | [0, 0, 0, 0, 0, 0xffff, g, h] =>
    "::ffff:" ++ textV4 (g >>> 8).toUInt8 g.toUInt8 (h >>> 8).toUInt8 h.toUInt8
  | groups =>
    let zeroes := longestZeroes 0 ⟨0, 0⟩ ⟨0, 0⟩ groups
    if 1 < zeroes.len then
      textGroups (groups.take zeroes.start) ++ "::" ++
        textGroups (groups.drop (zeroes.start + zeroes.len))
    else textGroups groups

/-- `IpAddr::to_string`. -/
def IpAddr.text : IpAddr → String
  | .v4 a b c d => textV4 a b c d
  | .v6 groups => textV6 groups

/-- `IpAddr::is_unspecified`. -/
def IpAddr.isUnspecified : IpAddr → Bool
  | .v4 a b c d => a = 0 && b = 0 && c = 0 && d = 0
  | .v6 groups => groups.all fun group => group = 0

example : [IpAddr.v4 203 0 113 7, .v6 [0, 0, 0, 0, 0, 0, 0, 0],
      .v6 [0x2001, 0xdb8, 0, 0, 1, 0, 0, 1], .v6 [1, 0, 3, 4, 5, 6, 7, 8], .v6 [0, 0, 0, 0, 0, 0xffff, 0xc000, 0x0280]].map IpAddr.text =
    ["203.0.113.7", "::", "2001:db8::1:0:0:1", "1:0:3:4:5:6:7:8", "::ffff:192.0.2.128"] := by
  decide

/-! ## Characters of texts -/

theorem notMem_toString {c : Char} (h : c.isDigit = false) (n : Nat) : c ∉ (toString n).toList := by
  intro hmem
  rw [Nat.toString_eq_repr, Nat.toList_repr] at hmem
  have hdigit := Nat.isDigit_of_mem_toDigits (by decide) (by decide) hmem
  rw [h] at hdigit
  cases hdigit

/-- A character of neither the separator nor any of the texts. -/
theorem notMem_intercalate {c : Char} {sep : String} {texts : List String} (hsep : c ∉ sep.toList)
    (htexts : ∀ text ∈ texts, c ∉ text.toList) : c ∉ (sep.intercalate texts).toList := by
  induction texts with
  | nil => exact List.not_mem_nil
  | cons text texts ih =>
    obtain ⟨htext, htexts⟩ := List.forall_mem_cons.mp htexts
    cases texts with
    | nil => simpa using htext
    | cons next texts =>
      rw [String.intercalate_cons_cons, String.toList_append, String.toList_append, List.mem_append,
        List.mem_append]
      exact not_or.mpr ⟨not_or.mpr ⟨htext, hsep⟩, ih htexts⟩

/-! ## IPv4 -/

/-- The octets can be read off the text. -/
theorem splitOn_textV4 (a b c d : UInt8) : (textV4 a b c d).toList.splitOn '.' =
    [a, b, c, d].map fun octet => (toString octet.toNat).toList := by
  unfold textV4
  rw [String.toList_intercalate, List.map_map]
  apply List.splitOn_intercalate
  · intro text htext
    obtain ⟨octet, -, rfl⟩ := List.mem_map.mp htext
    exact notMem_toString (by decide) octet.toNat
  · simp

theorem toString_octet_inj {a b : UInt8}
    (h : (toString a.toNat).toList = (toString b.toNat).toList) : a = b := by
  rw [Nat.toString_eq_repr, Nat.toString_eq_repr, Nat.toList_repr, Nat.toList_repr] at h
  have hvalue := congrArg (fun digits => Nat.ofDigitChars 10 digits 0) h
  simp only [Nat.ofDigitChars_ten_toDigits] at hvalue
  exact UInt8.toNat_inj.mp hvalue

theorem textV4_inj {a b c d a' b' c' d' : UInt8} (h : textV4 a b c d = textV4 a' b' c' d') :
    a = a' ∧ b = b' ∧ c = c' ∧ d = d' := by
  have hsplit := splitOn_textV4 a b c d
  rw [h, splitOn_textV4] at hsplit
  simp only [List.map_cons, List.map_nil, List.cons.injEq, and_true] at hsplit
  obtain ⟨ha, hb, hc, hd⟩ := hsplit
  exact ⟨(toString_octet_inj ha).symm, (toString_octet_inj hb).symm, (toString_octet_inj hc).symm,
    (toString_octet_inj hd).symm⟩

/-- Of the IPv4 addresses only the unspecified one has the text of the unspecified one. -/
theorem textV4_eq_unspecified_iff {a b c d : UInt8} :
    textV4 a b c d = "0.0.0.0" ↔ IpAddr.v4 a b c d = .v4 0 0 0 0 := by
  have hzero : textV4 0 0 0 0 = "0.0.0.0" := by decide
  rw [← hzero]
  constructor
  · intro h
    obtain ⟨rfl, rfl, rfl, rfl⟩ := textV4_inj h
    rfl
  · intro h
    cases h
    rfl

/-! ## IPv6 -/

theorem dot_notMem_toDigits (n : Nat) : '.' ∉ Nat.toDigits 16 n := by
  induction n using Nat.strongRecOn with
  | ind n ih =>
    rw [Nat.toDigits_eq_if (by decide)]
    split
    · simp
    · have hdiv : n / 16 < n := by omega
      simpa using ih (n / 16) hdiv

theorem dot_notMem_textGroups (groups : List UInt16) : '.' ∉ (textGroups groups).toList := by
  apply notMem_intercalate (by decide)
  intro text htext
  obtain ⟨group, -, rfl⟩ := List.mem_map.mp htext
  rw [String.toList_ofList]
  exact dot_notMem_toDigits group.toNat

/-- Where the text of an IPv6 address has a dot in it, it has colons, too. -/
theorem colon_mem_textV6 {groups : List UInt16} (h : '.' ∈ (textV6 groups).toList) :
    ':' ∈ (textV6 groups).toList := by
  unfold textV6 at h ⊢
  split at h
  · simp [String.toList_append]
  · dsimp only at h
    split at h
    · rw [String.toList_append, String.toList_append, List.mem_append, List.mem_append] at h
      exfalso
      rcases h with (h | h) | h
      · exact dot_notMem_textGroups _ h
      · exact absurd h (by decide)
      · exact dot_notMem_textGroups _ h
    · exact (dot_notMem_textGroups _ h).elim

end Net
