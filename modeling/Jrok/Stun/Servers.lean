import Jrok.Net.Text
import Jrok.Stun.Discovery
import Jrok.Text.Numeral

/-!
# STUN server strings

`StunServer::from_str` of `stun/mod.rs`.
-/

namespace Jrok.Stun

/-! ## Splitting at a separator -/

section

variable {α : Type} [BEq α] {a : α}

theorem length_splitOn (xs : List α) : (xs.splitOn a).length = xs.count a + 1 := by
  induction xs with
  | nil => rfl
  | cons x xs ih =>
    rw [List.splitOn_cons_eq_if_modifyHead, List.count_cons]
    split
    · rw [List.length_cons, ih]
    · rw [List.length_modifyHead, ih, Nat.add_zero]

variable [LawfulBEq α]

/-- Two parts are what stands before and behind the only separator. -/
theorem splitOn_eq_pair_iff {xs before after : List α} :
    xs.splitOn a = [before, after] ↔ xs.count a = 1 ∧ xs = before ++ a :: after := by
  constructor
  · intro h
    have hlen := length_splitOn (a := a) xs
    have hparts : [a].intercalate (xs.splitOn a) = xs := List.intercalate_splitOn a
    rw [h] at hlen hparts
    constructor
    · simpa using hlen.symm
    · simpa using hparts.symm
  · rintro ⟨hcount, rfl⟩
    rw [List.count_append, List.count_cons_self] at hcount
    have hbefore : a ∉ before := List.count_eq_zero.mp (by omega)
    have hafter : a ∉ after := List.count_eq_zero.mp (by omega)
    rw [List.splitOn_append_cons_self_of_not_mem hbefore, List.splitOn_eq_singleton hafter]

end

/-! ## Servers -/

/-- `StunServer::from_str`. -/
def StunServer.fromStr (s : String) : Except Error StunServer :=
  match s.toList.splitOn ':' with
  | [addr, port] =>
    match Numeral.fromStr 65536 port with
    | .ok port => .ok { addr := String.ofList addr, port := .ofNat port }
    | .error _ => .error (.internal ("Invalid STUN server port: " ++ String.ofList port))
  | _ => .error (.internal ("Invalid STUN server address: " ++ s))

namespace StunServer

variable {s : String} {addr port : List Char}

/-- A string with no colon or with several is refused as a whole. -/
theorem fromStr_colons (h : s.toList.count ':' ≠ 1) :
    fromStr s = .error (.internal ("Invalid STUN server address: " ++ s)) := by
  unfold fromStr
  split
  · rename_i hparts
    exact absurd (splitOn_eq_pair_iff.mp hparts).1 h
  · rfl

theorem fromStr_port {n : Nat} (hcount : s.toList.count ':' = 1)
    (hs : s.toList = addr ++ ':' :: port)
    (hport : Numeral.fromStr 65536 port = .ok n) :
    fromStr s = .ok ⟨String.ofList addr, .ofNat n⟩ := by
  unfold fromStr
  rw [splitOn_eq_pair_iff.mpr ⟨hcount, hs⟩]
  dsimp only
  rw [hport]

/-- A string with one colon is refused for what stands behind it. -/
theorem fromStr_badPort {e : Numeral.IntErrorKind} (hcount : s.toList.count ':' = 1)
    (hs : s.toList = addr ++ ':' :: port) (hport : Numeral.fromStr 65536 port = .error e) :
    fromStr s = .error (.internal ("Invalid STUN server port: " ++ String.ofList port)) := by
  unfold fromStr
  rw [splitOn_eq_pair_iff.mpr ⟨hcount, hs⟩]
  dsimp only
  rw [hport]

/-- The strings that are accepted, and the servers they are read as. -/
theorem fromStr_eq_ok_iff {server : StunServer} :
    fromStr s = .ok server ↔ s.toList.count ':' = 1 ∧ ∃ addr port n,
      s.toList = addr ++ ':' :: port ∧ Numeral.Denotes port n ∧ n ≤ 65535 ∧
        server = ⟨String.ofList addr, .ofNat n⟩ := by
  constructor
  · intro h
    by_cases hcount : s.toList.count ':' = 1
    · obtain ⟨addr, port, hs⟩ : ∃ addr port, s.toList = addr ++ ':' :: port :=
        List.append_of_mem (List.count_pos_iff.mp (by omega))
      cases hport : Numeral.fromStr 65536 port with
      | error e =>
        rw [fromStr_badPort hcount hs hport] at h
        cases h
      | ok n =>
        rw [fromStr_port hcount hs hport] at h
        cases h
        obtain ⟨hdenotes, hlt⟩ := (Numeral.fromStr_eq_ok_iff (by decide)).mp hport
        exact ⟨hcount, addr, port, n, hs, hdenotes, Nat.le_of_lt_succ hlt, rfl⟩
    · rw [fromStr_colons hcount] at h
      cases h
  · rintro ⟨hcount, addr, port, n, hs, hdenotes, hle, rfl⟩
    apply fromStr_port hcount hs
    exact (Numeral.fromStr_eq_ok_iff (by decide)).mpr ⟨hdenotes, Nat.lt_succ_of_le hle⟩

/-- A server is read back from the form that `to_socket_addr` gives it. -/
theorem fromStr_label (server : StunServer) (h : ':' ∉ server.addr.toList) :
    fromStr server.label = .ok server := by
  have hparts : server.label.toList =
      server.addr.toList ++ ':' :: (toString server.port.toNat).toList := by
    unfold label
    simp [String.toList_append]
  have hcount : server.label.toList.count ':' = 1 := by
    rw [hparts, List.count_append, List.count_cons_self, List.count_eq_zero.mpr h,
      List.count_eq_zero.mpr (Net.notMem_toString (by decide) server.port.toNat)]
  rw [fromStr_port hcount hparts (Numeral.fromStr_toString server.port.toNat_lt),
    String.ofList_toList, UInt16.ofNat_toNat]

/-- `from_str` accepts one colon with a numeral up to 65535 behind it, and nothing else. -/
theorem fromStr_exact :
    (∀ (s : String) (server : StunServer), fromStr s = .ok server ↔
      s.toList.count ':' = 1 ∧ ∃ addr port n, s.toList = addr ++ ':' :: port ∧
        Numeral.Denotes port n ∧ n ≤ 65535 ∧ server = ⟨String.ofList addr, .ofNat n⟩) ∧
    ∀ (host : String) (port : UInt16), ':' ∉ host.toList →
      fromStr (host ++ ":" ++ toString port.toNat) = .ok ⟨host, port⟩ := by
  constructor
  · intro s server
    exact fromStr_eq_ok_iff
  · intro host port h
    exact fromStr_label ⟨host, port⟩ h

theorem fromStr_exact_cloudflare : fromStr "stun.cloudflare.com:3478" =
    .ok ⟨"stun.cloudflare.com", 3478⟩ := by
  have hhost : ':' ∉ "stun.cloudflare.com".toList := by decide
  exact fromStr_exact.2 "stun.cloudflare.com" 3478 hhost

end StunServer

end Jrok.Stun
