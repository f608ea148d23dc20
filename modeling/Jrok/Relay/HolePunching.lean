import Jrok.Error
import Jrok.Imperative.Loop
import Jrok.Net.Addr
import Mathlib.Data.Nat.Find

/-!
# The hole puncher of the relay module

`punch_hole` of `UdpHolePuncher` in `relay/mod.rs`. It sends until the system clock says that its
time is over; what the clock says at each test is an input, like the socket.
-/

namespace Jrok.Relay.UdpHolePuncher

open Imperative

/-- `punch_duration`, in milliseconds. -/
def punchDuration : Nat := 5000

/-- `punch_interval`, in milliseconds. -/
def punchInterval : Nat := 200

/-- What `punch_hole` meets: its socket, and what `start.elapsed()` returns at each test of the
    loop, `none` where the clock stands before `start`. -/
structure Surroundings where
  bind : String → Except String Unit
  sendTo : Nat → List UInt8 → Net.SocketAddr → Except String Nat
  elapsed : Nat → Option Nat

/-- The variables of the loop. -/
structure Punching where
  punchCount : Nat
  sent : List Net.Packet

/-- The test of the loop: an error of the clock counts as no time at all. -/
def lasts (u : Surroundings) (s : Punching) : Bool :=
  decide ((u.elapsed s.punchCount).getD 0 < punchDuration)

/-- The body of the loop, which sends a packet of one zero byte and ignores the result. -/
def send (u : Surroundings) (remote : Net.SocketAddr) (s : Punching) : Punching :=
  ⟨s.punchCount + 1, s.sent ++ [⟨[0], remote, u.sendTo s.punchCount [0] remote⟩]⟩

/-- The loop, which is never left. -/
def punchLoop (fuel : Nat) (u : Surroundings) (remote : Net.SocketAddr) :
    Exec (Punching ⊕ Empty) :=
  loop (lasts u) (fun s => .ok (.next (send u remote s))) fuel ⟨0, []⟩

/-- `punch_hole`, with the packets it sends. -/
def punchHole (fuel : Nat) (u : Surroundings) (localAddr remoteAddr : String) :
    Exec (Except Error Unit × List Net.Packet) :=
  match u.bind localAddr with
  | .error e => return (.error (.internal ("Failed to bind UDP socket: " ++ e)), [])
  | .ok () =>
    match Net.SocketAddr.parse remoteAddr with
    | none =>
      return (.error (.internal "Invalid remote address: invalid socket address syntax"), [])
    | some remote => do
      match ← punchLoop fuel u remote with
      | .inl s => return (.ok (), s.sent)

/-- The `n`-th test is the first that finds the time over. -/
def OverAt (u : Surroundings) (n : Nat) : Prop :=
  punchDuration ≤ (u.elapsed n).getD 0 ∧ ∀ m, m < n → (u.elapsed m).getD 0 < punchDuration

/-- From one test to the next, at least the interval passes on the clock, which is not set back. -/
def Steady (u : Surroundings) : Prop :=
  ∀ n, (u.elapsed n).getD 0 + punchInterval ≤ (u.elapsed (n + 1)).getD 0

variable {u : Surroundings} {remote : Net.SocketAddr} {fuel : Nat} {localAddr remoteAddr : String}

theorem iterate_send (n : Nat) : ((send u remote)^[n] ⟨0, []⟩).punchCount = n ∧
    ((send u remote)^[n] ⟨0, []⟩).sent =
      (List.range n).map fun i => ⟨[0], remote, u.sendTo i [0] remote⟩ := by
  induction n with
  | zero => exact ⟨rfl, rfl⟩
  | succ n ih =>
    rw [Function.iterate_succ_apply']
    constructor
    · simp only [send, ih.1]
    · simp only [send, ih.1, ih.2, List.range_succ, List.map_append, List.map_cons, List.map_nil]

theorem punchLoop_eq_iff {s : Punching} : punchLoop fuel u remote = .ok (.inl s) ↔
    ∃ n, n ≤ fuel ∧ OverAt u n ∧ s = (send u remote)^[n] ⟨0, []⟩ := by
  rw [punchLoop, loop_iterate fun _ => rfl]
  refine exists_congr fun n => and_congr_right fun _ => ?_
  simp only [lasts, iterate_send, decide_eq_false_iff_not, decide_eq_true_eq, Nat.not_lt,
    Sum.inl.injEq]
  exact ⟨fun h => ⟨h.2, h.1⟩, fun h => ⟨h.2, h.1⟩⟩

/-- Where the socket is bound and the address is read, the loop sends a packet for every test before
    the one that finds the time over, and ends there. -/
theorem punchHole_eq_iff (hbind : u.bind localAddr = .ok ())
    (hremote : Net.SocketAddr.parse remoteAddr = some remote)
    {r : Except Error Unit × List Net.Packet} :
    punchHole fuel u localAddr remoteAddr = .ok r ↔ ∃ n, n ≤ fuel ∧ OverAt u n ∧
      r = (.ok (), (List.range n).map fun i => ⟨[0], remote, u.sendTo i [0] remote⟩) := by
  simp only [punchHole, hbind, hremote]
  constructor
  · intro h
    obtain ⟨s | e, hs, hr⟩ := Exec.bind_eq_ok h
    · obtain ⟨n, hn, hover, rfl⟩ := punchLoop_eq_iff.mp hs
      refine ⟨n, hn, hover, ?_⟩
      rw [← (iterate_send n).2]
      exact (Exec.ok.inj hr).symm
    · exact e.elim
  · rintro ⟨n, hn, hover, rfl⟩
    rw [punchLoop_eq_iff.mpr ⟨n, hn, hover, rfl⟩, Exec.ok_bind, ← (iterate_send n).2]
    rfl

theorem Steady.elapsed_le (h : Steady u) (n : Nat) : punchInterval * n ≤ (u.elapsed n).getD 0 := by
  induction n with
  | zero => simp
  | succ n ih =>
    calc punchInterval * (n + 1) = punchInterval * n + punchInterval := Nat.mul_succ _ _
      _ ≤ (u.elapsed n).getD 0 + punchInterval := Nat.add_le_add_right ih _
      _ ≤ (u.elapsed (n + 1)).getD 0 := h n

/-- On a steady clock the time is over at one of the first 26 tests. -/
theorem Steady.overAt (h : Steady u) : ∃ n, n ≤ 25 ∧ OverAt u n := by
  have hlast : punchDuration ≤ (u.elapsed 25).getD 0 := h.elapsed_le 25
  have hover : ∃ n, punchDuration ≤ (u.elapsed n).getD 0 := ⟨25, hlast⟩
  refine ⟨Nat.find hover, Nat.find_min' hover hlast, Nat.find_spec hover, fun m hm => ?_⟩
  exact not_le.mp (Nat.find_min hover hm)

/-- Once its socket is bound and the address is read, `punch_hole` ends exactly if the clock ever
    finds the time over, and has then sent one packet for every test before; a steady clock lets it
    send at most 25. -/
theorem punchHole_sends (hbind : u.bind localAddr = .ok ())
    (hremote : Net.SocketAddr.parse remoteAddr = some remote) :
    (∀ fuel r, punchHole fuel u localAddr remoteAddr = .ok r ↔ ∃ n, n ≤ fuel ∧ OverAt u n ∧
      r = (.ok (), (List.range n).map fun i => ⟨[0], remote, u.sendTo i [0] remote⟩)) ∧
    (Steady u → ∃ n, n ≤ 25 ∧ ∀ fuel, 25 ≤ fuel → punchHole fuel u localAddr remoteAddr =
      .ok (.ok (), (List.range n).map fun i => ⟨[0], remote, u.sendTo i [0] remote⟩)) := by
  refine ⟨fun fuel r => punchHole_eq_iff hbind hremote, fun hsteady => ?_⟩
  obtain ⟨n, hn, hover⟩ := hsteady.overAt
  refine ⟨n, hn, fun fuel hfuel => ?_⟩
  exact (punchHole_eq_iff hbind hremote).mpr ⟨n, Nat.le_trans hn hfuel, hover, rfl⟩

/-- A clock on which every round takes a quarter of a second, and sends that all fail. -/
def slow : Surroundings := ⟨fun _ => .ok (), fun _ _ _ => .error "EPERM", fun n => some (250 * n)⟩

theorem punchHole_sends_slow :
    (∀ fuel r, punchHole fuel slow "0.0.0.0:0" "203.0.113.7:9000" = .ok r ↔
      ∃ n, n ≤ fuel ∧ OverAt slow n ∧ r = (.ok (), (List.range n).map fun _ =>
        ⟨[0], ⟨.v4 203 0 113 7, 9000⟩, .error "EPERM"⟩)) ∧
    (Steady slow → ∃ n, n ≤ 25 ∧ ∀ fuel, 25 ≤ fuel →
      punchHole fuel slow "0.0.0.0:0" "203.0.113.7:9000" =
        .ok (.ok (), (List.range n).map fun _ =>
          ⟨[0], ⟨.v4 203 0 113 7, 9000⟩, .error "EPERM"⟩)) :=
  punchHole_sends rfl (by decide)

end Jrok.Relay.UdpHolePuncher
