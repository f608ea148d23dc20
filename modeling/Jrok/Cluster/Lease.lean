import Jrok.Cluster.Tick
import Jrok.Concurrency.Lease

/-!
# The leader lease

The `cluster_state` row as a lease of 15 seconds. A server acquires it with `become_leader` and
prolongs it with `renew_leadership`, both with the reading of the clock that its tick took.
`Concurrency.Exclusive` is the invariant of the row.
-/

namespace Jrok

open Concurrency

namespace Cluster

/-- The reading of every server's most recent successful `become_leader` or
    `renew_leadership`. -/
abbrev Leases := String → Option Int

def leaseMs : Int := 15000

def leaseAfter (_ : String) : (o : Op) → o.Res → World → Leases → Leases
  | .sql (.becomeLeader s _ n _), .ok (count : Nat), _, g =>
    if 0 < count then Function.update g s (some n) else g
  | .sql (.renewLeadership n s), .ok (count : Nat), _, g =>
    if 0 < count then Function.update g s (some n) else g
  | _, _, _, g => g

/-- The invariant of the row: its stamp is not in the future, and the leases are exclusive. -/
structure LeaseInv (x : World × Leases) : Prop where
  clock_nonneg : 0 ≤ x.1.clock
  stamp_le : x.1.db.leaderStamp ≤ x.1.clock
  exclusive : Exclusive leaseMs x.1.db.leader x.1.db.leaderStamp x.2

section Steps

variable {s : String} {x x' : World × Leases}

/-- Where neither the row nor the leases change the invariant stays. -/
theorem LeaseInv.quiet (hI : LeaseInv x) (hq : Quiet x.1 x'.1) (hg : x'.2 = x.2) :
    LeaseInv x' where
  clock_nonneg := hI.clock_nonneg.trans hq.clock
  stamp_le := by
    rw [Database.leaderStamp_congr hq.row]
    exact hI.stamp_le.trans hq.clock
  exclusive := by
    rw [Database.leaderStamp_congr hq.row, Database.leader_congr hq.row, hg]
    exact hI.exclusive

/-- A write of `s` that stamps the row with `s`'s reading and wins it the lease. -/
theorem LeaseInv.write {n : Int} (hI : LeaseInv x) (hf : Fresh s n x.1)
    (hclock : x'.1.clock = x.1.clock) (hleader : x'.1.db.leader = some s)
    (hstamp : x'.1.db.leaderStamp = n) (hle : x.1.db.leaderStamp ≤ n)
    (hex : Exclusive leaseMs (some s) n x'.2) : LeaseInv x' ∧ RowGuar s x.1 x'.1 := by
  refine ⟨⟨?_, ?_, ?_⟩, ?_, .inr hleader, ?_⟩
  · rw [hclock]
    exact hI.clock_nonneg
  · rw [hclock, hstamp]
    exact hf.le_clock
  · rw [hleader, hstamp]
    exact hex
  · rw [hclock]
  · rw [hstamp]
    exact hle

end Steps

/-- `become_leader` acquires the lease, `renew_leadership` prolongs it, nothing else matters. -/
theorem leaseRules (B : Backend) (s : String) :
    TickRules B (leaseAfter s) s LeaseInv (fun x x' => RowRely s x.1 x'.1)
      (fun x x' => RowGuar s x.1 x'.1) fun _ _ => True where
  rely_row h := h
  time hI := ⟨hI.clock_nonneg, hI.stamp_le⟩
  quiet ho hI h := by
    obtain ⟨hop, hg⟩ := Handler.observe_eq_some.mp h
    have hq := ho.quiet hop
    refine ⟨hI.quiet hq ?_, hq.guar⟩
    rw [hg]
    cases ho <;> rfl
  reads _ _ := trivial
  asks_rely _ _ := trivial
  become {c term n r x x'} hI hf _ h := by
    obtain ⟨hop, hg⟩ := Handler.observe_eq_some.mp h
    rcases becomeLeader_cases hop with ⟨hw, hr⟩ | ⟨row, hrow, hfree, hr, hw⟩
    · have hq := Quiet.of_eq hw
      refine ⟨hI.quiet hq ?_, hq.guar⟩
      rcases hr with hr | ⟨e, hr⟩ <;> rw [hg, hr] <;> rfl
    · have hlease : x'.2 = Function.update x.2 s (some n) := by rw [hg, hr]; rfl
      obtain ⟨hholder, hstamp⟩ := leader_of_row hrow
      have hguard : x.1.db.leader = none ∨ x.1.db.leaderStamp < n - leaseMs := by
        rw [hholder, hstamp, leaseMs, ← hf.cutoff]
        exact hfree
      refine hI.write hf (by rw [hw]) (by rw [hw]; rfl) (by rw [hw]; rfl)
        (hf.stamp_le_of_won hrow hfree) ?_
      rw [hlease]
      exact hI.exclusive.acquire (by decide) (fun hnone => hf.ahead (.inl hnone)) hguard
  renew {c n r x x'} hI hf h := by
    obtain ⟨hop, hg⟩ := Handler.observe_eq_some.mp h
    rcases renewLeadership_cases hop with ⟨hw, hr⟩ | ⟨row, hrow, hholds, hr, hw⟩
    · have hq := Quiet.of_eq hw
      refine ⟨hI.quiet hq ?_, hq.guar⟩
      rcases hr with hr | ⟨e, hr⟩ <;> rw [hg, hr] <;> rfl
    · have hlease : x'.2 = Function.update x.2 s (some n) := by rw [hg, hr]; rfl
      have hholder : x.1.db.leader = some s := (leader_of_row hrow).1.trans hholds
      have hle := hf.ahead (.inr hholder)
      apply hI.write hf (by rw [hw]) (by rw [hw]; exact hholds) (by rw [hw]; rfl) hle
      rw [hlease]
      exact (hholder ▸ hI.exclusive).renew hle

/-! ## Every run of the fleet -/

section Fleet

variable (F : Fleet) (B : Backend)

/-- The fleet with the leases as history; every database call may fail. -/
abbrev leaseSystem : System serverSig String Unit Unit (World × Leases) Choice :=
  (F.heartbeats B true).observe leaseAfter

def leaseOutline : System.Outline (leaseSystem F B) :=
  TickRules.outline F B (leaseRules B) (fun s x => .refl s x.1) (fun _ _ _ _ => .trans)
    fun _ _ _ _ hne h => h.rely hne

variable {F B}

/-- A start of the fleet: nobody holds a lease yet and the row is not stamped in the future. -/
structure LeaseStart (c : Config serverSig String Unit (World × Leases)) : Prop where
  idle : Idle c
  clock_nonneg : 0 ≤ c.shared.1.clock
  stamp_le : c.shared.1.db.leaderStamp ≤ c.shared.1.clock
  no_lease : ∀ s, c.shared.2 s = none

theorem LeaseStart.holds {c : Config serverSig String Unit (World × Leases)}
    (h : LeaseStart c) : (leaseOutline F B).Holds c := by
  refine ⟨⟨h.clock_nonneg, h.stamp_le, .of_none h.no_lease⟩, fun s => ?_⟩
  rw [h.idle s]
  trivial

/-- In every reachable state at most one server has a lease that has not run out, the row names
    it, and the stamp of the row never decreases from there on. -/
theorem lease_exclusive {c₀ c : Config serverSig String Unit (World × Leases)}
    (h₀ : LeaseStart c₀) (hr : (leaseSystem F B).Reachable c₀ c) :
    (∀ t s n, c.shared.1.clock ≤ t → c.shared.2 s = some n → t - n ≤ leaseMs →
      c.shared.1.db.leader = some s ∧
      ∀ s' n', c.shared.2 s' = some n' → t - n' ≤ leaseMs → s' = s) ∧
    (∀ c', (leaseSystem F B).Reachable c c' →
      c.shared.1.db.leaderStamp ≤ c'.shared.1.db.leaderStamp) := by
  have hc : (leaseOutline F B).Holds c := h₀.holds.reachable hr
  have hinv : LeaseInv c.shared := hc.1
  refine ⟨?_, ?_⟩
  · intro t s n ht hn hfresh
    have hstamp : c.shared.1.db.leaderStamp ≤ t := hinv.stamp_le.trans ht
    refine ⟨hinv.exclusive.holder_of_fresh hstamp hn hfresh, ?_⟩
    intro s' n' hn' hfresh'
    exact hinv.exclusive.unique hstamp hn' hfresh' hn hfresh
  · intro c' hr'
    let older (x x' : World × Leases) : Prop := x.1.db.leaderStamp ≤ x'.1.db.leaderStamp
    have hrefl : ∀ x, older x x := fun _ => le_refl _
    have htrans : ∀ x y z, older x y → older y z → older x z := fun _ _ _ => le_trans
    have hguar : ∀ s x x', (leaseOutline F B).guar s x x' → older x x' :=
      fun _ _ _ hG => RowGuar.stamp hG
    exact hc.monotone hrefl htrans hguar hr'

end Fleet

/-- The moves of one tick that reads the clock at `now` and goes through. -/
def tickAt (s : String) (now : Int) : List (Move String Unit Choice) :=
  [.start s (), .act s (.read now), .act s .go, .act s (.read now), .act s .go, .act s .go,
    .act s .go, .act s .go, .finish s]

/-- Server `b` takes over from `a` 20 s later: `a` has not heard of it, but its lease has run out. -/
theorem lease_exclusive_taken_over :
    ∃ c, (leaseSystem (.behind "h" "t") .migrated).Reachable (Fleet.idle (.boot, fun _ => none))
        c ∧
      c.shared.2 "a" = some 20000 ∧ c.shared.2 "b" = some 40000 ∧
      c.shared.1.db.leader = some "b" ∧
      ∀ s' n', c.shared.2 s' = some n' → 50000 - n' ≤ leaseMs → s' = "b" := by
  have hstart : LeaseStart (Fleet.idle (World.boot, fun _ => none)) :=
    ⟨fun _ => rfl, le_refl _, le_refl _, fun _ => rfl⟩
  have hrun : ∃ c, (leaseSystem (.behind "h" "t") .migrated).replay
      (tickAt "a" 20000 ++ tickAt "b" 40000) (Fleet.idle (.boot, fun _ => none)) = some c ∧
      c.shared.2 "a" = some 20000 ∧ c.shared.2 "b" = some 40000 ∧ c.shared.1.clock = 40000 :=
    ⟨_, rfl, rfl, rfl, rfl⟩
  obtain ⟨c, hreplay, hfirst, hsecond, hclock⟩ := hrun
  have hc := (lease_exclusive hstart ⟨_, hreplay⟩).1 50000 "b" 40000 (by rw [hclock]; decide)
    hsecond (by decide)
  exact ⟨c, ⟨_, hreplay⟩, hfirst, hsecond, hc⟩

end Cluster

end Jrok
