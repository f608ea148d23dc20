import Jrok.Agent.Registry

/-!
# One entry per subdomain

The in-memory map is keyed by agent ids and `register` always inserts under a fresh one. Nothing
removes the entry of an earlier registration of the same subdomain, so that entries pile up, and
`get_by_subdomain` returns whichever its iteration meets first. The map holds one entry per
subdomain, the latest, as long as every registration finds none of its subdomain in the map.
-/

namespace Jrok

open Concurrency

namespace AgentRegistry

/-- The registrations that have not been unregistered since, the most recent first. A `register`
    succeeds when it inserts its entry: nothing that it does afterwards can fail. -/
abbrev Live := List (Σ _ : String, AgentState)

def liveAfter (me : String) : (o : Op) → o.Res → World → Live → Live
  | .node n (.agentsInsert id st), _, _, g => if n = me then ⟨id, st⟩ :: g.kerase id else g
  | .node n (.agentsRemove id), _, _, g => if n = me then g.kerase id else g
  | _, _, _, g => g

/-- An insertion finds no entry of its subdomain. -/
def Vacant : Op → World → Prop
  | .node n (.agentsInsert _ st), w =>
    ∀ e ∈ (w.node n).agents.entries, e.2.subdomain ≠ st.subdomain
  | _, _ => True

instance (o : Op) (w : World) : Decidable (Vacant o w) := by
  unfold Vacant
  split <;> infer_instance

/-- No two entries have the same subdomain. -/
def OnePerSubdomain (l : List (Σ _ : String, AgentState)) : Prop :=
  ∀ a ∈ l, ∀ b ∈ l, a.2.subdomain = b.2.subdomain → a = b

theorem OnePerSubdomain.subset {l l' : List (Σ _ : String, AgentState)} (h : OnePerSubdomain l)
    (hsub : l' ⊆ l) : OnePerSubdomain l' :=
  fun a ha b hb hab => h a (hsub ha) b (hsub hb) hab

theorem OnePerSubdomain.cons {e : Σ _ : String, AgentState}
    {l : List (Σ _ : String, AgentState)} (h : OnePerSubdomain l)
    (hne : ∀ a ∈ l, a.2.subdomain ≠ e.2.subdomain) : OnePerSubdomain (e :: l) := by
  intro a ha b hb hab
  rcases List.mem_cons.mp ha with rfl | hal <;> rcases List.mem_cons.mp hb with rfl | hbl
  · rfl
  · exact absurd hab.symm (hne b hbl)
  · exact absurd hab (hne a hal)
  · exact h a hal b hbl hab

/-- With one entry for each subdomain the order in which a lookup meets them does not matter. -/
theorem findBySubdomain_perm {d : String} {l l' : List (Σ _ : String, AgentState)}
    (hp : l.Perm l') (hone : OnePerSubdomain l') : findBySubdomain d l = findBySubdomain d l' := by
  apply congrArg (Option.map _)
  cases h : l'.find? fun e => e.2.subdomain = d with
  | none =>
    refine List.find?_eq_none.mpr fun e he => ?_
    exact List.find?_eq_none.mp h e (hp.subset he)
  | some e =>
    have hmem := List.mem_of_find?_eq_some h
    have hd : e.2.subdomain = d := by simpa using List.find?_some h
    cases h' : l.find? fun e => e.2.subdomain = d with
    | none => exact absurd hd (by simpa using List.find?_eq_none.mp h' e (hp.symm.subset hmem))
    | some e' =>
      have hd' : e'.2.subdomain = d := by simpa using List.find?_some h'
      have hmem' := hp.subset (List.mem_of_find?_eq_some h')
      rw [hone e' hmem' e hmem (hd'.trans hd.symm)]

/-- The map holds the live registrations, one for each subdomain. -/
structure UniqueInv (me : String) (x : World × Live) : Prop where
  live : x.2 = (x.1.node me).agents.entries
  one : OnePerSubdomain x.2

theorem liveAfter_other {me : String} {o : Op} {r : o.Res} {w : World} {g : Live}
    (hins : ∀ id st, o ≠ .node me (.agentsInsert id st))
    (hrem : ∀ id, o ≠ .node me (.agentsRemove id)) : liveAfter me o r w g = g := by
  unfold liveAfter
  split
  · exact if_neg fun hn => hins _ _ (congrArg (Op.node · _) hn)
  · exact if_neg fun hn => hrem _ (congrArg (Op.node · _) hn)
  · rfl

/-- Every operation that meets its condition keeps the invariant. -/
theorem UniqueInv.step {B : Backend} {me : String} {c : Choice} {o : Op} {r : o.Res}
    {x x' : World × Live} (hI : UniqueInv me x) (hvacant : Vacant o x.1)
    (h : (World.handler B false).observe (liveAfter me) c o x = some (r, x')) :
    UniqueInv me x' := by
  obtain ⟨hop, hg⟩ := Handler.observe_eq_some.mp h
  have hold : ∀ id, OnePerSubdomain (x.2.kerase id) := fun id =>
    hI.one.subset (List.kerase_sublist id x.2).subset
  rcases World.agents_cases hop me with ⟨id, st, rfl, hmap⟩ | ⟨id, rfl, hmap⟩ |
    ⟨hins, hrem, hmap⟩
  · have hlive : x'.2 = ⟨id, st⟩ :: x.2.kerase id := by simpa [liveAfter] using hg
    refine ⟨by rw [hlive, hmap, hI.live, AList.entries_insert], ?_⟩
    rw [hlive]
    refine (hold id).cons fun e he => hvacant e ?_
    rw [← hI.live]
    exact (List.kerase_sublist id x.2).subset he
  · have hlive : x'.2 = x.2.kerase id := by simpa [liveAfter] using hg
    refine ⟨by rw [hlive, hmap, hI.live, entries_erase], ?_⟩
    rw [hlive]
    exact hold id
  · have hlive : x'.2 = x.2 := hg.trans (liveAfter_other hins hrem)
    refine ⟨by rw [hlive, hmap, hI.live], ?_⟩
    rw [hlive]
    exact hI.one

/-- The registry with its live registrations as history. -/
abbrev livePool (B : Backend) (me : String) :
    System serverSig Nat Unit RegistryCall (World × Live) Choice :=
  (registryPool B me).observe fun _ => liveAfter me

/-- Its runs in which every insertion finds its subdomain vacant. -/
abbrev vacantPool (B : Backend) (me : String) :
    System serverSig Nat Unit RegistryCall (World × Live) Choice :=
  (livePool B me).restrict fun _ o _ x => Vacant o x.1

/-- In every such run the map has at most one entry for each subdomain, and `get_by_subdomain`
    returns the entry of the latest live registration, whatever order it meets the entries in. -/
theorem one_entry_per_subdomain {B : Backend} {me : String}
    {c₀ c : Config serverSig Nat Unit (World × Live)} (hempty : (c₀.shared.1.node me).agents = ∅)
    (hlive : c₀.shared.2 = []) (hr : (vacantPool B me).Reachable c₀ c) :
    OnePerSubdomain (c.shared.1.node me).agents.entries ∧
    ∀ d cs r w', (getBySubdomain me d).play (World.handler B false) cs c.shared.1 = some (r, w') →
      r = findBySubdomain d c.shared.2 := by
  have hI : UniqueInv me c.shared := by
    refine hr.shared_invariant (UniqueInv me) ?_ ⟨by rw [hlive, hempty]; rfl, ?_⟩
    · intro t ch o x r x' hI hop
      rw [System.restrict_handler] at hop
      obtain ⟨hop, hvacant⟩ := Handler.restrict_eq_some.mp hop
      exact hI.step hvacant hop
    · rw [hlive]
      intro a ha
      simp at ha
  refine ⟨hI.live ▸ hI.one, ?_⟩
  intro d cs r w' hplay
  obtain ⟨ch, rest, l, w₁, -, hiter, hret⟩ := Prog.play_op_iff.mp hplay
  obtain ⟨-, rfl, -⟩ := Prog.play_ret_iff.mp hret
  have hp := (iter_step hiter).1
  rw [hI.live]
  exact findBySubdomain_perm hp (hI.live ▸ hI.one)

/-- A registration of the subdomain `demo` on a server that has done nothing yet: the moves up to
    its read of the `agents` table, and those from there to its end. -/
def demoCall : RegistryCall := .register "demo" 8080 "localhost" .http

def demoChecks (t : Nat) (id token : String) : List (Move Nat RegistryCall Choice) :=
  [.start t demoCall, .act t (.fresh id), .act t (.fresh token), .act t .go, .act t .go]

def demoStores (t : Nat) (now : Int) : List (Move Nat RegistryCall Choice) :=
  [.act t (.read now), .act t (.read now), .act t (.read now), .act t .go, .act t (.read now),
    .act t .go, .act t .go, .finish t]

def demoEntry (id : String) (tx : Nat) (now : Int) : Σ _ : String, AgentState :=
  ⟨id, ⟨tx, "demo", 8080, "localhost", .http, now⟩⟩

/-- The registry of server `a` before its first call. -/
def idleRegistry : Config serverSig Nat Unit (World × Live) :=
  ⟨(.started "a", []), fun _ => .idle ()⟩

/-- A registration that finds the subdomain free again, after the first one was unregistered. -/
theorem one_entry_registered_again :
    ∃ c, (vacantPool (.keyed none) "a").Reachable idleRegistry c ∧
      OnePerSubdomain (c.shared.1.node "a").agents.entries ∧
      ∀ cs r w', (getBySubdomain "a" "demo").play (World.handler (.keyed none) false) cs
        c.shared.1 = some (r, w') → r = some ("j", ⟨1, "demo", 8080, "localhost", .http, 3000⟩) := by
  have hrun : ((vacantPool (.keyed none) "a").replay
      (demoChecks 0 "i" "k" ++ demoStores 0 1000 ++
        [.start 1 (.unregister "i"), .act 1 .go, .act 1 (.read 2000), .act 1 .go, .finish 1] ++
        demoChecks 2 "j" "l" ++ demoStores 2 3000)
      idleRegistry).map (fun c => c.shared.2) = some [demoEntry "j" 1 3000] := by decide +kernel
  obtain ⟨c, hc, hlive⟩ := Option.map_eq_some_iff.mp hrun
  obtain ⟨hone, hlookup⟩ := one_entry_per_subdomain rfl rfl ⟨_, hc⟩
  refine ⟨c, ⟨_, hc⟩, hone, ?_⟩
  intro cs r w' hplay
  rw [hlookup "demo" cs r w' hplay, hlive]
  rfl

/-- Two registrations of one subdomain that both check before either stores leave two entries,
    and a lookup may return the older one. -/
theorem two_entries_for_one_subdomain :
    ∃ c, (livePool (.keyed none) "a").Reachable idleRegistry c ∧
      ¬ OnePerSubdomain (c.shared.1.node "a").agents.entries ∧
      ∃ cs w', (getBySubdomain "a" "demo").play (World.handler (.keyed none) false) cs c.shared.1 =
          some (some ("i", ⟨0, "demo", 8080, "localhost", .http, 1000⟩), w') ∧
        findBySubdomain "demo" c.shared.2 =
          some ("j", ⟨1, "demo", 8080, "localhost", .http, 2000⟩) := by
  have hrun : ((livePool (.keyed none) "a").replay
      (demoChecks 0 "i" "k" ++ demoChecks 1 "j" "l" ++ demoStores 0 1000 ++ demoStores 1 2000)
      idleRegistry).map (fun c => ((c.shared.1.node "a").agents.entries, c.shared.2)) =
        some ([demoEntry "j" 1 2000, demoEntry "i" 0 1000],
          [demoEntry "j" 1 2000, demoEntry "i" 0 1000]) := by decide +kernel
  obtain ⟨c, hc, hproj⟩ := Option.map_eq_some_iff.mp hrun
  obtain ⟨hentries, hlive⟩ := Prod.mk.inj hproj
  refine ⟨c, ⟨_, hc⟩, ?_, ?_⟩
  · rw [hentries]
    intro hone
    exact absurd (hone (demoEntry "j" 1 2000) (by simp) (demoEntry "i" 0 1000) (by simp) rfl)
      (by decide)
  · let seen := [demoEntry "i" 0 1000, demoEntry "j" 1 2000]
    have hperm : seen.Perm (c.shared.1.node "a").agents.entries := by
      rw [hentries]
      exact List.Perm.swap _ _ _
    have hop : World.handler (.keyed none) false (.order seen) (.node "a" .agentsIter) c.shared.1 =
        some (seen, c.shared.1.setNode "a" (c.shared.1.node "a")) :=
      World.exec_node.mpr ⟨_, by simp only [NodeOp.exec, if_pos hperm], rfl⟩
    refine ⟨[.order seen], _, Prog.play_op_iff.mpr ⟨_, _, _, _, rfl, hop, rfl⟩, ?_⟩
    rw [hlive]
    rfl

end AgentRegistry

end Jrok
