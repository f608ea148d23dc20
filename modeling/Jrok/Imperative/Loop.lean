import Mathlib.Logic.Function.Iterate

/-!
# Bodies that index and loop

What a function body can do besides giving a value: it panics where it indexes or slices outside
of its array, and a loop may go on for longer than it was given iterations for. `loop` runs a
`while` loop whose body may also leave it or return from the function around it.
-/

namespace Imperative

variable {α β σ : Type}

/-- How a body ends: with a value, in a panic, or not within its iterations. -/
inductive Exec (α : Type) where
  | ok (a : α)
  | panic
  | unfinished
  deriving DecidableEq, Repr

namespace Exec

def bind : Exec α → (α → Exec β) → Exec β
  | ok a, f => f a
  | panic, _ => panic
  | unfinished, _ => unfinished

instance : Monad Exec where
  pure := ok
  bind := bind

@[simp] theorem pure_eq_ok (a : α) : (pure a : Exec α) = ok a := rfl

@[simp] theorem ok_bind (a : α) (f : α → Exec β) : ok a >>= f = f a := rfl

@[simp] theorem panic_bind (f : α → Exec β) : panic >>= f = panic := rfl

@[simp] theorem unfinished_bind (f : α → Exec β) : unfinished >>= f = unfinished := rfl

theorem bind_eq_ok {x : Exec α} {f : α → Exec β} {b : β} (h : x >>= f = .ok b) :
    ∃ a, x = .ok a ∧ f a = .ok b := by
  cases x with
  | ok a => exact ⟨a, rfl, h⟩
  | panic => cases h
  | unfinished => cases h

end Exec

/-! ## Arrays -/

/-- `xs[i]`. -/
def index (xs : List α) (i : Nat) : Exec α :=
  match xs[i]? with
  | some a => .ok a
  | none => .panic

/-- `&xs[start..stop]`. -/
def slice (xs : List α) (start stop : Nat) : Exec (List α) :=
  if start ≤ stop ∧ stop ≤ xs.length then .ok ((xs.take stop).drop start) else .panic

theorem index_of_getElem? {xs : List α} {i : Nat} {a : α} (h : xs[i]? = some a) :
    index xs i = .ok a := by
  simp only [index, h]

theorem index_of_lt {xs : List α} {i : Nat} (h : i < xs.length) : index xs i = .ok xs[i] :=
  index_of_getElem? (List.getElem?_eq_getElem h)

theorem index_of_le {xs : List α} {i : Nat} (h : xs.length ≤ i) : index xs i = .panic := by
  unfold index
  rw [List.getElem?_eq_none h]

/-- Indexing past the front of an array indexes the part behind it. -/
theorem index_append {front xs : List α} {i : Nat} :
    index (front ++ xs) (front.length + i) = index xs i := by
  unfold index
  rw [List.getElem?_append_right (Nat.le_add_right _ _), Nat.add_sub_cancel_left]

theorem index_append_left {xs rest : List α} {i : Nat} (h : i < xs.length) :
    index (xs ++ rest) i = index xs i := by
  unfold index
  rw [List.getElem?_append_left h]

theorem index_drop {xs : List α} {start i : Nat} :
    index (xs.drop start) i = index xs (start + i) := by
  unfold index
  rw [List.getElem?_drop]

theorem index_take {xs : List α} {n i : Nat} (h : i < n) : index (xs.take n) i = index xs i := by
  unfold index
  rw [List.getElem?_take_of_lt h]

theorem slice_of_le {xs : List α} {start stop : Nat} (h : start ≤ stop) (hs : stop ≤ xs.length) :
    slice xs start stop = .ok ((xs.take stop).drop start) := by
  unfold slice
  rw [if_pos ⟨h, hs⟩]

theorem slice_of_gt {xs : List α} {start stop : Nat} (h : xs.length < stop) :
    slice xs start stop = .panic := by
  unfold slice
  rw [if_neg (by omega)]

theorem slice_take {xs : List α} {n start stop : Nat} (h : stop ≤ n) :
    slice (xs.take n) start stop = slice xs start stop := by
  have hlength : stop ≤ (xs.take n).length ↔ stop ≤ xs.length := by
    rw [List.length_take]
    omega
  unfold slice
  rw [List.take_take, Nat.min_eq_left h]
  simp only [hlength]

/-- The slice of a part is the part. -/
theorem slice_append {front part rest : List α} :
    slice (front ++ (part ++ rest)) front.length (front.length + part.length) = .ok part := by
  rw [slice_of_le (Nat.le_add_right _ _) (by simp only [List.length_append]; omega)]
  rw [← List.append_assoc, ← List.length_append, List.take_left, List.drop_left]

/-! ## Loops -/

/-- How an iteration ends: the next one follows, it leaves the loop (`break`), or it returns
    from the function. -/
inductive Flow (σ β : Type) where
  | next (s : σ)
  | leave (s : σ)
  | exit (b : β)
  deriving DecidableEq, Repr

/-- `while cond { body }` for at most so many iterations. The left result goes on behind the loop,
    the right one is what the function returns. -/
def loop (cond : σ → Bool) (body : σ → Exec (Flow σ β)) : Nat → σ → Exec (σ ⊕ β)
  | 0, s => if cond s then .unfinished else .ok (.inl s)
  | fuel + 1, s =>
    if cond s then
      body s >>= fun
        | .next s' => loop cond body fuel s'
        | .leave s' => .ok (.inl s')
        | .exit b => .ok (.inr b)
    else .ok (.inl s)

section

variable {cond : σ → Bool} {body : σ → Exec (Flow σ β)} {fuel : Nat} {s s' : σ} {b : β}

theorem loop_stop (h : cond s = false) : loop cond body fuel s = .ok (.inl s) := by
  cases fuel <;> simp [loop, h]

theorem loop_next (h : cond s = true) (hb : body s = .ok (.next s')) :
    loop cond body (fuel + 1) s = loop cond body fuel s' := by
  simp [loop, h, hb]

theorem loop_leave (h : cond s = true) (hb : body s = .ok (.leave s')) :
    loop cond body (fuel + 1) s = .ok (.inl s') := by
  simp [loop, h, hb]

theorem loop_exit (h : cond s = true) (hb : body s = .ok (.exit b)) :
    loop cond body (fuel + 1) s = .ok (.inr b) := by
  simp [loop, h, hb]

theorem loop_panic (h : cond s = true) (hb : body s = .panic) :
    loop cond body (fuel + 1) s = .panic := by
  simp [loop, h, hb]

end

/-- More iterations than a loop needs change nothing. -/
theorem loop_mono {cond : σ → Bool} {body : σ → Exec (Flow σ β)} {fuel fuel' : Nat} {s : σ}
    {r : σ ⊕ β} (h : loop cond body fuel s = .ok r) (hle : fuel ≤ fuel') :
    loop cond body fuel' s = .ok r := by
  induction fuel generalizing fuel' s with
  | zero =>
    cases hc : cond s with
    | false => rwa [loop_stop hc] at h ⊢
    | true => simp [loop, hc] at h
  | succ fuel ih =>
    cases hc : cond s with
    | false => rwa [loop_stop hc] at h ⊢
    | true =>
      obtain ⟨more, rfl⟩ : ∃ more, fuel' = more + 1 := ⟨fuel' - 1, by omega⟩
      cases hb : body s with
      | panic => simp [loop_panic hc hb] at h
      | unfinished => simp [loop, hc, hb] at h
      | ok flow =>
        cases flow with
        | next s' =>
          rw [loop_next hc hb] at h ⊢
          exact ih h (by omega)
        | leave s' => rwa [loop_leave hc hb] at h ⊢
        | exit b => rwa [loop_exit hc hb] at h ⊢

/-- Total correctness: where no iteration panics, and those that another one follows keep an
    invariant and bring a measure down, the measure bounds the iterations of the loop. -/
theorem loop_total {cond : σ → Bool} {body : σ → Exec (Flow σ β)} (inv : σ → Prop)
    (measure : σ → Nat)
    (pos : ∀ s, inv s → cond s = true → 0 < measure s)
    (step : ∀ s, inv s → cond s = true → ∃ flow, body s = .ok flow ∧
      ∀ s', flow = .next s' → inv s' ∧ measure s' < measure s)
    {fuel : Nat} {s : σ} (hs : inv s) (hfuel : measure s ≤ fuel) :
    ∃ r, loop cond body fuel s = .ok r := by
  induction fuel generalizing s with
  | zero =>
    cases hc : cond s with
    | false => exact ⟨.inl s, loop_stop hc⟩
    | true =>
      have := pos s hs hc
      omega
  | succ fuel ih =>
    cases hc : cond s with
    | false => exact ⟨.inl s, loop_stop hc⟩
    | true =>
      obtain ⟨flow, hbody, hnext⟩ := step s hs hc
      cases flow with
      | next s' =>
        obtain ⟨hinv, hlt⟩ := hnext s' rfl
        rw [loop_next hc hbody]
        exact ih hinv (by omega)
      | leave s' => exact ⟨.inl s', loop_leave hc hbody⟩
      | exit b => exact ⟨.inr b, loop_exit hc hbody⟩

/-- Partial correctness: what each iteration preserves holds where the loop ends. -/
theorem loop_invariant {cond : σ → Bool} {body : σ → Exec (Flow σ β)} (inv : σ → Prop)
    (step : ∀ s s', inv s → (body s = .ok (.next s') ∨ body s = .ok (.leave s')) → inv s')
    {fuel : Nat} {s s' : σ} (hs : inv s) (h : loop cond body fuel s = .ok (.inl s')) : inv s' := by
  induction fuel generalizing s with
  | zero =>
    cases hc : cond s with
    | false =>
      rw [loop_stop hc] at h
      cases h
      exact hs
    | true => simp [loop, hc] at h
  | succ fuel ih =>
    cases hc : cond s with
    | false =>
      rw [loop_stop hc] at h
      cases h
      exact hs
    | true =>
      cases hb : body s with
      | panic => simp [loop_panic hc hb] at h
      | unfinished => simp [loop, hc, hb] at h
      | ok flow =>
        cases flow with
        | next t =>
          rw [loop_next hc hb] at h
          exact ih (step s t hs (Or.inl hb)) h
        | leave t =>
          rw [loop_leave hc hb] at h
          cases h
          exact step s s' hs (Or.inr hb)
        | exit b =>
          rw [loop_exit hc hb] at h
          cases h

/-- A loop whose iterations only update the variables ends at the first state that its condition
    refuses. -/
theorem loop_iterate {cond : σ → Bool} {body : σ → Exec (Flow σ β)} {f : σ → σ}
    (hbody : ∀ s, body s = .ok (.next (f s))) {fuel : Nat} {s : σ} {r : σ ⊕ β} :
    loop cond body fuel s = .ok r ↔ ∃ n, n ≤ fuel ∧ r = .inl (f^[n] s) ∧
      cond (f^[n] s) = false ∧ ∀ m, m < n → cond (f^[m] s) = true := by
  induction fuel generalizing s with
  | zero =>
    constructor
    · intro h
      cases hc : cond s with
      | false =>
        rw [loop_stop hc] at h
        cases h
        exact ⟨0, Nat.le_refl 0, rfl, hc, by simp⟩
      | true => simp [loop, hc] at h
    · rintro ⟨n, hn, rfl, hc, -⟩
      obtain rfl := Nat.le_zero.mp hn
      exact loop_stop hc
  | succ fuel ih =>
    cases hc : cond s with
    | false =>
      rw [loop_stop hc]
      constructor
      · intro h
        cases h
        exact ⟨0, Nat.zero_le _, rfl, hc, by simp⟩
      · rintro ⟨n, -, rfl, -, hbefore⟩
        cases n with
        | zero => rfl
        | succ n =>
          have hfirst := hbefore 0 (Nat.succ_pos n)
          rw [Function.iterate_zero_apply, hc] at hfirst
          cases hfirst
    | true =>
      rw [loop_next hc (hbody s), ih]
      constructor
      · rintro ⟨n, hn, rfl, hstop, hbefore⟩
        refine ⟨n + 1, Nat.succ_le_succ hn, rfl, hstop, fun m hm => ?_⟩
        cases m with
        | zero => exact hc
        | succ m => exact hbefore m (Nat.lt_of_succ_lt_succ hm)
      · rintro ⟨n, hn, rfl, hstop, hbefore⟩
        cases n with
        | zero =>
          rw [Function.iterate_zero_apply, hc] at hstop
          cases hstop
        | succ n =>
          exact ⟨n, Nat.le_of_succ_le_succ hn, rfl, hstop,
            fun m hm => hbefore (m + 1) (Nat.succ_lt_succ hm)⟩

end Imperative
