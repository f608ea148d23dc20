import Jrok.Cluster.Tick

/-!
# Leader terms

`try_become_leader` takes its new term from a read of `cluster_state` of its own, or falls back
to 1, and the UPDATE of `become_leader` does not look at the term. A success is *fenced* if that
read succeeded and nobody else became leader since, or if nobody has been leader before. The
terms of a run increase strictly as long as every success is fenced, and no longer.
-/

namespace Jrok

open Concurrency

namespace Cluster

/-- The history of the terms: those the row has had, newest first; those each server knew of at
    its last read of the row, if that read succeeded; whether all successes were fenced. -/
structure TermLog where
  terms : List Int
  seen : String → Option (List Int)
  fenced : Bool

/-- The history of the row that the migration inserts. -/
def TermLog.migrated : TermLog := ⟨[0], fun _ => none, true⟩

/-- Server `s` may win the row: nobody has before, or it has seen all terms. -/
def TermLog.Fenced (g : TermLog) (s : String) : Prop :=
  g.terms.tail = [] ∨ g.seen s = some g.terms

instance (g : TermLog) (s : String) : Decidable (g.Fenced s) :=
  inferInstanceAs (Decidable (_ ∨ _))

def termAfter (s : String) : (o : Op) → o.Res → World → TermLog → TermLog
  | .sql .getClusterState, .ok _, _, g =>
    { g with seen := Function.update g.seen s (some g.terms) }
  | .sql .getClusterState, .error _, _, g =>
    { g with seen := Function.update g.seen s none }
  | .sql (.becomeLeader _ term _ _), .ok (count : Nat), _, g =>
    if 0 < count then
      { g with terms := term :: g.terms, fenced := g.fenced && decide (g.Fenced s) }
    else g
  | _, _, _, g => g

/-- The term a server asks for when it has seen these terms. -/
def termFor : Option (List Int) → Int
  | some terms => addI64 (terms.headD 0) 1
  | none => 1

/-- Strictly increasing terms from 0 on, newest first. -/
structure Increasing (terms : List Int) : Prop where
  pairwise : terms.Pairwise (· > ·)
  nonneg : ∀ t ∈ terms, 0 ≤ t

section Lists

variable {top : Int} {rest l : List Int} {seen : Option (List Int)}

/-- A term above the newest one is above all. -/
theorem Increasing.cons {t : Int} (h : Increasing (top :: rest)) (ht : top < t) :
    Increasing (t :: top :: rest) where
  pairwise := by
    refine List.pairwise_cons.mpr ⟨fun u hu => ?_, h.pairwise⟩
    rcases List.mem_cons.mp hu with rfl | hrest
    · exact ht
    · have hlt := List.rel_of_pairwise_cons h.pairwise hrest
      omega
  nonneg u hu := by
    rcases List.mem_cons.mp hu with rfl | hrest
    · have hnn := h.nonneg top List.mem_cons_self
      omega
    · exact h.nonneg u hrest

/-- Once a list of terms fails to increase, it does so for ever. -/
theorem not_pairwise_cons {t : Int} (h : ¬ rest.Pairwise (· > ·)) :
    ¬ (t :: rest).Pairwise (· > ·) :=
  fun hp => h (List.pairwise_cons.mp hp).2

/-- A fenced server asks for the next term. -/
theorem termFor_of_fenced (hbound : top + 1 < 2 ^ 63) (htop : 0 ≤ top)
    (hfirst : rest = [] → top = 0) (hsuffix : ∀ l, seen = some l → l <:+ top :: rest)
    (hfenced : rest = [] ∨ seen = some (top :: rest)) : termFor seen = top + 1 := by
  have hnext : addI64 top 1 = top + 1 := i64_of_range (by omega) hbound
  rcases hfenced with rfl | rfl
  · obtain rfl := hfirst rfl
    cases seen with
    | none => rfl
    | some l =>
      -- the only suffixes of `[0]` are itself and the empty list
      rcases List.suffix_cons_iff.mp (hsuffix l rfl) with rfl | hnil
      · exact hnext
      · obtain rfl := List.suffix_nil.mp hnil
        exact hnext
  · exact hnext

/-- A server that is not fenced asks for a term that is not new. -/
theorem termFor_le_of_not_fenced (h : Increasing (top :: rest)) (hbound : top < 2 ^ 63)
    (hsuffix : ∀ l, seen = some l → l <:+ top :: rest) (hrest : rest ≠ [])
    (hseen : seen ≠ some (top :: rest)) : termFor seen ≤ top := by
  obtain ⟨t, ts, rfl⟩ := List.exists_cons_of_ne_nil hrest
  have hpos : 1 ≤ top := by
    have hlt := List.rel_of_pairwise_cons h.pairwise (List.mem_cons_self (a := t) (l := ts))
    have hnn := h.nonneg t (by simp)
    omega
  cases seen with
  | none => exact hpos
  | some l =>
    rcases List.suffix_cons_iff.mp (hsuffix l rfl) with rfl | hl
    · exact absurd rfl hseen
    · cases l with
      | nil => exact hpos
      | cons u us =>
        have hu : u ∈ t :: ts := hl.subset List.mem_cons_self
        have hlt : u < top := List.rel_of_pairwise_cons h.pairwise hu
        have hnn := h.nonneg u (List.mem_cons_of_mem top hu)
        have hnext : addI64 u 1 = u + 1 := i64_of_range (by omega) (by omega)
        show addI64 u 1 ≤ top
        omega

end Lists

/-! ## The invariant of the terms -/

/-- The row carries the newest term, every server has seen a part of the history, and the terms
    increase exactly if all successes were fenced. In the first case they are at least a lease
    apart, so that they never overflow. -/
structure TermInv (x : World × TermLog) : Prop where
  clock_nonneg : 0 ≤ x.1.clock
  stamp_le : x.1.db.leaderStamp ≤ x.1.clock
  suffix : ∀ s l, x.2.seen s = some l → l <:+ x.2.terms
  row : ∃ row rest, x.1.db.clusterState = some row ∧ x.2.terms = row.leaderTerm :: rest ∧
    (rest = [] → row.leaderTerm = 0) ∧ (row.leaderId = none → rest = [])
  fenced : x.2.fenced = true →
    Increasing x.2.terms ∧ 15000 * (x.2.terms.headD 0 - 1) ≤ x.1.db.leaderStamp
  unfenced : x.2.fenced = false → ¬ x.2.terms.Pairwise (· > ·)

/-- Other servers keep the row from naming `s`, and what `s` has seen. -/
def TermRely (s : String) (x x' : World × TermLog) : Prop :=
  RowRely s x.1 x'.1 ∧ x'.2.seen s = x.2.seen s

def TermGuar (s : String) (x x' : World × TermLog) : Prop :=
  RowGuar s x.1 x'.1 ∧ ∀ u, u ≠ s → x'.2.seen u = x.2.seen u

section Steps

variable {B : Backend} {s : String} {c : Choice} {x x' : World × TermLog}

/-- The invariant is kept where the terms stay and the row only gets a later stamp. -/
theorem TermInv.of_same_terms (hI : TermInv x) (hclock : x.1.clock ≤ x'.1.clock)
    (hstamp : x.1.db.leaderStamp ≤ x'.1.db.leaderStamp)
    (hstamp' : x'.1.db.leaderStamp ≤ x'.1.clock)
    (hrow : ∀ row, x.1.db.clusterState = some row → ∃ row', x'.1.db.clusterState = some row' ∧
      row'.leaderTerm = row.leaderTerm ∧ row'.leaderId = row.leaderId)
    (hterms : x'.2.terms = x.2.terms) (hfenced : x'.2.fenced = x.2.fenced)
    (hseen : ∀ u l, x'.2.seen u = some l → l <:+ x.2.terms) : TermInv x' where
  clock_nonneg := hI.clock_nonneg.trans hclock
  stamp_le := hstamp'
  suffix := by
    rw [hterms]
    exact hseen
  row := by
    obtain ⟨row, rest, h, hlist, hfirst, hfree⟩ := hI.row
    obtain ⟨row', h', hterm, hleader⟩ := hrow row h
    exact ⟨row', rest, h', by rw [hterms, hlist, hterm], by rw [hterm]; exact hfirst,
      by rw [hleader]; exact hfree⟩
  fenced hf := by
    obtain ⟨hinc, hbound⟩ := hI.fenced (hfenced ▸ hf)
    rw [hterms]
    exact ⟨hinc, hbound.trans hstamp⟩
  unfenced hf := by
    rw [hterms]
    exact hI.unfenced (hfenced ▸ hf)

/-- Quiet steps keep the invariant. -/
theorem TermInv.quiet (hI : TermInv x) (hq : Quiet x.1 x'.1) (hterms : x'.2.terms = x.2.terms)
    (hfenced : x'.2.fenced = x.2.fenced)
    (hseen : ∀ u l, x'.2.seen u = some l → l <:+ x.2.terms) : TermInv x' := by
  have hstamp := Database.leaderStamp_congr hq.row
  refine hI.of_same_terms hq.clock hstamp.ge ?_ ?_ hterms hfenced hseen
  · rw [hstamp]
    exact hI.stamp_le.trans hq.clock
  · intro row hrow
    exact ⟨row, hq.row.trans hrow, rfl, rfl⟩

/-- A read records the terms so far, or forgets what was seen if it fails. -/
theorem termAfter_read {r : Except DbError (Option ClusterState)}
    (h : (World.handler B true).observe (termAfter s) c (.sql .getClusterState) x = some (r, x')) :
    x'.2.terms = x.2.terms ∧ x'.2.fenced = x.2.fenced ∧
    ((r = .ok x.1.db.clusterState ∧
        x'.2.seen = Function.update x.2.seen s (some x.2.terms)) ∨
      ((∃ e, r = .error e) ∧ x'.2.seen = Function.update x.2.seen s none)) := by
  obtain ⟨hop, hg⟩ := Handler.observe_eq_some.mp h
  rcases World.exec_sql.mp hop with ⟨-, rfl, -⟩ | ⟨e, -, -, rfl, -⟩
  · rw [hg]
    exact ⟨rfl, rfl, .inl ⟨rfl, rfl⟩⟩
  · rw [hg]
    exact ⟨rfl, rfl, .inr ⟨⟨e, rfl⟩, rfl⟩⟩

/-- What a server has seen after a read of its own is part of the history. -/
theorem TermInv.read (hI : TermInv x) {r : Except DbError (Option ClusterState)}
    (h : (World.handler B true).observe (termAfter s) c (.sql .getClusterState) x =
      some (r, x')) : TermInv x' ∧ TermGuar s x x' := by
  have hq := QuietOp.quiet (s := s) .read (Handler.observe_eq_some.mp h).1
  obtain ⟨hterms, hfenced, hcases⟩ := termAfter_read h
  refine ⟨hI.quiet hq hterms hfenced ?_, hq.guar, ?_⟩
  · intro u l hl
    rcases hcases with ⟨-, hseen⟩ | ⟨-, hseen⟩ <;> rw [hseen, Function.update_apply] at hl <;>
      split at hl
    · obtain rfl := Option.some.inj hl
      exact List.suffix_rfl
    · exact hI.suffix u l hl
    · simp at hl
    · exact hI.suffix u l hl
  · intro u hu
    rcases hcases with ⟨-, hseen⟩ | ⟨-, hseen⟩ <;> rw [hseen, Function.update_of_ne hu]

/-- The read of `try_become_leader` leads to the term after the newest one, or to 1. -/
theorem TermInv.asks (hI : TermInv x) {r : Except DbError (Option ClusterState)}
    (h : (World.handler B true).observe (termAfter s) c (.sql .getClusterState) x =
      some (r, x')) :
    newTerm ((r.mapError .database).map fun row => row.map ClusterState.decode) =
      termFor (x'.2.seen s) := by
  obtain ⟨row, rest, hrow, hlist, -, -⟩ := hI.row
  obtain ⟨-, -, ⟨rfl, hseen⟩ | ⟨⟨e, rfl⟩, hseen⟩⟩ := termAfter_read h
  · rw [hseen, Function.update_self, hrow, hlist]
    rfl
  · rw [hseen, Function.update_self]
    rfl

/-- What a won row means for the history: a fenced success adds the next term, any other one a
    term that is not new. -/
theorem TermInv.won {n : Int} {row : ClusterState} {rest : List Int} (hI : TermInv x)
    (hf : Fresh s n x.1) (hrow : x.1.db.clusterState = some row)
    (hlist : x.2.terms = row.leaderTerm :: rest) (hfirst : rest = [] → row.leaderTerm = 0)
    (hnone : row.leaderId = none → rest = [])
    (hfree : row.leaderId = none ∨ row.lastHeartbeat < subI64 n 15000) (hok : x.2.fenced = true) :
    (x.2.Fenced s → termFor (x.2.seen s) = row.leaderTerm + 1 ∧ 15000 * row.leaderTerm ≤ n) ∧
    (¬ x.2.Fenced s → termFor (x.2.seen s) ≤ row.leaderTerm) := by
  obtain ⟨hinc, hspaced⟩ := hI.fenced hok
  have htop : 0 ≤ row.leaderTerm := hinc.nonneg _ (by simp [hlist])
  have hn := hf.bounded
  unfold clockBound at hn
  have hbound : 15000 * row.leaderTerm ≤ n := by
    rcases hfree with hleader | hlate
    · have h0 := hfirst (hnone hleader)
      have hn0 := hf.nonneg
      omega
    · rw [hf.cutoff] at hlate
      rw [hlist, List.headD_cons, (leader_of_row hrow).2] at hspaced
      omega
  have hsuffix : ∀ l, x.2.seen s = some l → l <:+ row.leaderTerm :: rest :=
    fun l hl => hlist ▸ hI.suffix s l hl
  rw [hlist] at hinc
  constructor
  · intro hfenced
    rw [TermLog.Fenced, hlist, List.tail_cons] at hfenced
    exact ⟨termFor_of_fenced (by omega) htop hfirst hsuffix hfenced, hbound⟩
  · intro hfenced
    rw [TermLog.Fenced, hlist, List.tail_cons, not_or] at hfenced
    exact termFor_le_of_not_fenced hinc (by omega) hsuffix hfenced.1 hfenced.2

/-- `become_leader` keeps the invariant, fenced or not. -/
theorem TermInv.become {term n : Int} {r : Except DbError Nat} (hI : TermInv x)
    (hf : Fresh s n x.1) (hasks : term = termFor (x.2.seen s))
    (h : (World.handler B true).observe (termAfter s) c
      (.sql (.becomeLeader s term n (subI64 n 15000))) x = some (r, x')) :
    TermInv x' ∧ TermGuar s x x' := by
  obtain ⟨hop, hg⟩ := Handler.observe_eq_some.mp h
  rcases becomeLeader_cases hop with ⟨hw, hr⟩ | ⟨row, hrow, hfree, hr, hw⟩
  · have hq := Quiet.of_eq hw
    have hsame : x'.2 = x.2 := by rcases hr with hr | ⟨e, hr⟩ <;> rw [hg, hr] <;> rfl
    refine ⟨hI.quiet hq (by rw [hsame]) (by rw [hsame]) ?_, hq.guar, fun u _ => by rw [hsame]⟩
    rw [hsame]
    exact hI.suffix
  · have hlog : x'.2 = { x.2 with
        terms := term :: x.2.terms, fenced := x.2.fenced && decide (x.2.Fenced s) } := by
      rw [hg, hr]; rfl
    have hle := hf.stamp_le_of_won hrow hfree
    obtain ⟨row', rest, hrow', hlist, hfirst, hnone⟩ := hI.row
    obtain rfl : row = row' := Option.some.inj (hrow.symm.trans hrow')
    have hwon := hI.won hf hrow hlist hfirst hnone hfree
    have hstamp' : x'.1.db.leaderStamp = n := by rw [hw]; rfl
    refine ⟨⟨?_, ?_, ?_, ?_, ?_, ?_⟩,
      ⟨by rw [hw], .inr (by rw [hw]; rfl), by rw [hstamp']; exact hle⟩, fun u _ => by rw [hlog]⟩
    · rw [hw]
      exact hI.clock_nonneg
    · rw [hstamp', hw]
      exact hf.le_clock
    · intro u l hl
      rw [hlog] at hl ⊢
      exact (hI.suffix u l hl).trans (List.suffix_cons _ _)
    · refine ⟨⟨some s, term, n⟩, x.2.terms, by rw [hw], by rw [hlog], ?_, ?_⟩
      · rw [hlist]
        intro hnil
        simp at hnil
      · intro hnil
        simp at hnil
    · intro hfenced
      rw [hlog] at hfenced
      obtain ⟨hok, hdec⟩ := Bool.and_eq_true_iff.mp hfenced
      obtain ⟨hterm, hbound⟩ := (hwon hok).1 (of_decide_eq_true hdec)
      have hinc := (hI.fenced hok).1
      rw [hlist] at hinc
      rw [hstamp', hlog]
      dsimp only
      rw [hlist, hasks, hterm, List.headD_cons]
      exact ⟨hinc.cons (by omega), by omega⟩
    · intro hfenced
      rw [hlog] at hfenced ⊢
      dsimp only at hfenced ⊢
      rcases Bool.and_eq_false_iff.mp hfenced with hbad | hdec
      · exact not_pairwise_cons (hI.unfenced hbad)
      · cases hok : x.2.fenced with
        | false => exact not_pairwise_cons (hI.unfenced hok)
        | true =>
          have hterm := (hwon hok).2 (of_decide_eq_false hdec)
          rw [hlist]
          intro hp
          have hlt := List.rel_of_pairwise_cons hp (List.mem_cons_self (l := rest))
          rw [hasks] at hlt
          omega

/-- `renew_leadership` stamps the row and leaves the terms alone. -/
theorem TermInv.renew {n : Int} {r : Except DbError Nat} (hI : TermInv x) (hf : Fresh s n x.1)
    (h : (World.handler B true).observe (termAfter s) c (.sql (.renewLeadership n s)) x =
      some (r, x')) : TermInv x' ∧ TermGuar s x x' := by
  obtain ⟨hop, hg⟩ := Handler.observe_eq_some.mp h
  have hsame : x'.2 = x.2 := hg
  have hterms : x'.2.terms = x.2.terms := by rw [hsame]
  have hfenced : x'.2.fenced = x.2.fenced := by rw [hsame]
  have hseen : ∀ u l, x'.2.seen u = some l → l <:+ x.2.terms := by
    rw [hsame]
    exact hI.suffix
  rcases renewLeadership_cases hop with ⟨hw, -⟩ | ⟨row, hrow, hholds, -, hw⟩
  · have hq := Quiet.of_eq hw
    exact ⟨hI.quiet hq hterms hfenced hseen, hq.guar, fun u _ => by rw [hsame]⟩
  · have hle := hf.ahead (.inr ((leader_of_row hrow).1.trans hholds))
    have hstamp' : x'.1.db.leaderStamp = n := by rw [hw]; rfl
    refine ⟨hI.of_same_terms (by rw [hw]) (by rw [hstamp']; exact hle) ?_ ?_ hterms hfenced hseen,
      ⟨by rw [hw], .inr (by rw [hw]; exact hholds), by rw [hstamp']; exact hle⟩,
      fun u _ => by rw [hsame]⟩
    · rw [hstamp', hw]
      exact hf.le_clock
    · intro row' hrow'
      obtain rfl : row = row' := Option.some.inj (hrow.symm.trans hrow')
      exact ⟨{ row with lastHeartbeat := n }, by rw [hw], rfl, rfl⟩

end Steps

theorem termRules (B : Backend) (s : String) :
    TickRules B (termAfter s) s TermInv (TermRely s) (TermGuar s)
      fun term x => term = termFor (x.2.seen s) where
  rely_row h := h.1
  time hI := ⟨hI.clock_nonneg, hI.stamp_le⟩
  quiet ho hI h := by
    cases ho with
    | read => exact hI.read h
    | now | beat | store =>
      obtain ⟨hop, hg⟩ := Handler.observe_eq_some.mp h
      have hq := QuietOp.quiet (s := s) (by constructor) hop
      refine ⟨hI.quiet hq (by rw [hg]; rfl) (by rw [hg]; rfl) ?_, hq.guar,
        fun u _ => by rw [hg]; rfl⟩
      rw [hg]
      exact hI.suffix
  reads hI h := hI.asks h
  asks_rely h hR := by rw [h, hR.2]
  become hI hf hasks h := hI.become hf hasks h
  renew hI hf h := hI.renew hf h

/-! ## Every run of the fleet -/

section Fleet

variable (F : Fleet) (B : Backend)

/-- The fleet with the terms as history; every database call may fail. -/
abbrev termSystem : System serverSig String Unit Unit (World × TermLog) Choice :=
  (F.heartbeats B true).observe termAfter

def termOutline : System.Outline (termSystem F B) :=
  TickRules.outline F B (termRules B) (fun s x => ⟨.refl s x.1, rfl⟩)
    (fun _ _ _ _ h₁ h₂ => ⟨h₁.1.trans h₂.1, h₂.2.trans h₁.2⟩)
    fun _ u _ _ hne h => ⟨h.1.rely hne, h.2 u hne.symm⟩

variable {F B}

/-- A start of the fleet on the row of the migration. -/
structure TermStart (c : Config serverSig String Unit (World × TermLog)) : Prop where
  idle : Idle c
  clock_nonneg : 0 ≤ c.shared.1.clock
  row : c.shared.1.db.clusterState = Database.migrated.clusterState
  log : c.shared.2 = .migrated

theorem TermStart.holds {c : Config serverSig String Unit (World × TermLog)} (h : TermStart c) :
    (termOutline F B).Holds c := by
  have hstamp : c.shared.1.db.leaderStamp = 0 := Database.leaderStamp_congr h.row
  refine ⟨⟨h.clock_nonneg, hstamp ▸ h.clock_nonneg, ?_, ?_, ?_, ?_⟩, fun s => ?_⟩
  · intro s l hl
    simp [h.log, TermLog.migrated] at hl
  · exact ⟨⟨none, 0, 0⟩, [], h.row, by rw [h.log]; rfl, fun _ => rfl, fun _ => rfl⟩
  · intro _
    rw [h.log, hstamp]
    exact ⟨⟨by simp [TermLog.migrated], by simp [TermLog.migrated]⟩, by decide⟩
  · intro hfenced
    rw [h.log] at hfenced
    simp [TermLog.migrated] at hfenced
  · rw [h.idle s]
    trivial

/-- In every run from the migrated row the terms increase strictly exactly if every success of
    `become_leader` was fenced. -/
theorem terms_increase_iff_fenced {c₀ c : Config serverSig String Unit (World × TermLog)}
    (h₀ : TermStart c₀) (hr : (termSystem F B).Reachable c₀ c) :
    c.shared.2.terms.Pairwise (· > ·) ↔ c.shared.2.fenced = true := by
  have hc : (termOutline F B).Holds c := h₀.holds.reachable hr
  have hinv : TermInv c.shared := hc.1
  constructor
  · intro hp
    by_contra hfenced
    exact hinv.unfenced (Bool.eq_false_iff.mpr hfenced) hp
  · intro hfenced
    exact (hinv.fenced hfenced).1.pairwise

end Fleet

theorem termStart_boot : TermStart (Fleet.idle (World.boot, TermLog.migrated)) :=
  ⟨fun _ => rfl, le_refl _, rfl, rfl⟩

/-- Server `a` leads with term 1, its read fails 30 seconds later, and it leads with term 1. -/
theorem terms_increase_iff_fenced_failed_read :
    ∃ c, (termSystem (.behind "h" "t") .migrated).Reachable (Fleet.idle (.boot, .migrated)) c ∧
      c.shared.2.fenced = false ∧ ¬ c.shared.2.terms.Pairwise (· > ·) := by
  have hrun : ∃ c, (termSystem (.behind "h" "t") .migrated).replay
      [.start "a" (), .act "a" (.read 20000), .act "a" .go, .act "a" (.read 20000), .act "a" .go,
        .act "a" .go, .act "a" .go, .act "a" .go, .finish "a",
        .start "a" (), .act "a" (.read 50000), .act "a" .go, .act "a" (.read 50000), .act "a" .go,
        .act "a" (.fail (.other "connection closed")), .act "a" .go]
      (Fleet.idle (.boot, .migrated)) = some c ∧ c.shared.2.fenced = false := ⟨_, rfl, rfl⟩
  obtain ⟨c, hreplay, hfenced⟩ := hrun
  refine ⟨c, ⟨_, hreplay⟩, hfenced, fun hp => ?_⟩
  have hyes := (terms_increase_iff_fenced termStart_boot ⟨_, hreplay⟩).mp hp
  rw [hfenced] at hyes
  exact Bool.noConfusion hyes

/-- No call fails, but server `b` reads the term and stalls until `a`, which took its reading
    later, has read it too: both lead with term 1. -/
theorem terms_repeat_after_stall :
    TermStart (Fleet.idle (World.boot, TermLog.migrated)) ∧
    ∃ c, (termSystem (.behind "h" "t") .migrated).Reachable (Fleet.idle (.boot, .migrated)) c ∧
      c.shared.2.terms = [1, 1, 0] ∧ ¬ c.shared.2.terms.Pairwise (· > ·) := by
  have hrun : ∃ c, (termSystem (.behind "h" "t") .migrated).replay
      [.start "b" (), .act "b" (.read 20000), .act "b" .go, .act "b" (.read 20000), .act "b" .go,
        .act "b" .go,
        .start "a" (), .act "a" (.read 50000), .act "a" .go, .act "a" (.read 50000), .act "a" .go,
        .act "a" .go,
        .act "b" .go, .act "a" .go]
      (Fleet.idle (.boot, .migrated)) = some c ∧ c.shared.2.terms = [1, 1, 0] := ⟨_, rfl, rfl⟩
  obtain ⟨c, hreplay, hterms⟩ := hrun
  exact ⟨termStart_boot, c, ⟨_, hreplay⟩, hterms, by rw [hterms]; decide⟩

end Cluster

end Jrok
