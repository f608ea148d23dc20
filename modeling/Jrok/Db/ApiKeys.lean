import Jrok.Codec.Base64
import Jrok.Concurrency.Calls
import Jrok.Concurrency.Log
import Jrok.Db.Calls

/-!
# API keys

Keys are stored and looked up by their hash and deleted by their id. After any sequence of
`create_api_key` and `delete_api_key` the rows of the table are the successful creations whose id
has not been deleted since, and `validate_api_key` accepts exactly the keys of those. Without
failures every deletion succeeds, and a creation fails exactly if its id or its hash stands.
-/

namespace Jrok

open Concurrency

namespace ApiKeys

inductive KeyCall where
  | create (id key : String) (name : Option String)
  | delete (id : String)
  deriving DecidableEq

/-- The program of a call, with the result cut down to `Ok` or `Err`. -/
def KeyCall.run (X : Codec) : KeyCall → ServerProg (Except Error Unit)
  | .create id key name => do
    let result ← (Db.createApiKey X id key name).run
    return result.map fun _ => ()
  | .delete id => (Db.deleteApiKey id).run

/-- Calls with their results, the latest first. -/
abbrev Log := List (KeyCall × Except Error Unit)

/-- Some `create_api_key(id, key, ..)` has succeeded and `id` has not been deleted since. -/
def Stands (id key : String) (log : Log) : Prop :=
  ∃ name newer older, log = newer ++ (.create id key name, .ok ()) :: older ∧
    (.delete id, .ok ()) ∉ newer

/-- Some successful creation of the key stands. -/
def Exists (key : String) (log : Log) : Prop := ∃ id, Stands id key log

/-- The keys used in a sequence of calls. -/
def keysUsed (log : Log) : List String :=
  log.filterMap fun
    | (.create _ key _, _) => some key
    | (.delete _, _) => none

/-- The MACs of distinct keys among these are distinct. -/
def DistinctMacs (X : Codec) (keys : List String) : Prop :=
  ∀ key ∈ keys, ∀ key' ∈ keys,
    X.hmacSha256 "jrok-api-key-v1" key = X.hmacSha256 "jrok-api-key-v1" key' → key = key'

/-- The call creates or deletes an entry for another key. -/
def ForOtherKey (key : String) (older : Log) : KeyCall → Prop
  | .create _ key' _ => key' ≠ key
  | .delete id => ¬ Stands id key older

/-- A creation that stands has this id or the hash of this key. -/
def Conflicts (X : Codec) (id key : String) (older : Log) : Prop :=
  ∃ id' key', Stands id' key' older ∧ (id' = id ∨ X.hashApiKey key' = X.hashApiKey key)

/-- What a call returns where statements do not fail. -/
def Answered (X : Codec) (older : Log) : KeyCall → Except Error Unit → Prop
  | .create id key _, r =>
    (Conflicts X id key older ∧ r = .error (.database .constraint)) ∨
    (¬ Conflicts X id key older ∧ r = .ok ())
  | .delete _, r => r = .ok ()

theorem not_stands_nil {id key : String} : ¬ Stands id key [] := by
  rintro ⟨name, newer, older, hlog, -⟩
  simp at hlog

/-- What the latest call does to a creation. -/
theorem stands_cons {id key : String} {e : KeyCall × Except Error Unit} {log : Log} :
    Stands id key (e :: log) ↔
      (∃ name, e = (.create id key name, .ok ())) ∨
      (Stands id key log ∧ e ≠ (.delete id, .ok ())) := by
  constructor
  · rintro ⟨name, newer, older, hlog, hkept⟩
    cases newer with
    | nil =>
      obtain ⟨rfl, -⟩ := List.cons.inj hlog
      exact .inl ⟨name, rfl⟩
    | cons head newer =>
      obtain ⟨rfl, rfl⟩ := List.cons.inj hlog
      simp only [List.mem_cons, not_or] at hkept
      exact .inr ⟨⟨name, newer, older, rfl, hkept.2⟩, Ne.symm hkept.1⟩
  · rintro (⟨name, rfl⟩ | ⟨⟨name, newer, older, rfl, hkept⟩, hne⟩)
    · exact ⟨name, [], log, rfl, List.not_mem_nil⟩
    · refine ⟨name, e :: newer, older, rfl, ?_⟩
      simp only [List.mem_cons, not_or]
      exact ⟨Ne.symm hne, hkept⟩

theorem mem_keysUsed {id key : String} {log : Log} (h : Stands id key log) :
    key ∈ keysUsed log := by
  obtain ⟨name, newer, older, rfl, -⟩ := h
  simp [keysUsed]

/-- A call that is for another key does not decide whether this one exists. -/
theorem exists_cons_of_other {key : String} {c : KeyCall} {r : Except Error Unit} {log : Log}
    (hother : ForOtherKey key log c) : Exists key ((c, r) :: log) ↔ Exists key log := by
  apply exists_congr
  intro id
  rw [stands_cons]
  constructor
  · rintro (⟨name, he⟩ | ⟨hstands, -⟩)
    · obtain ⟨rfl, -⟩ := Prod.mk.inj he
      exact absurd rfl hother
    · exact hstands
  · intro hstands
    refine .inr ⟨hstands, fun he => ?_⟩
    obtain ⟨rfl, -⟩ := Prod.mk.inj he
    exact hother hstands

/-! ## The table follows the log -/

section Table

variable {X : Codec} {B : Backend} {faulty : Bool} {log : Log}

/-- A row with that id and that hash. -/
def Stored (db : Database) (id hash : String) : Prop :=
  ∃ row ∈ db.apiKeys, row.id = id ∧ row.keyHash = hash

/-- The rows are the creations that stand. -/
def Follows (X : Codec) (log : Log) (w : World) : Prop :=
  ∀ id hash, Stored w.db id hash ↔ ∃ key, X.hashApiKey key = hash ∧ Stands id key log

/-- An insertion is rejected without effect where its id or its hash is taken; otherwise it adds
    its row. -/
theorem exec_createApiKey (db : Database) (row : ApiKey) :
    ((∃ k ∈ db.apiKeys, k.id = row.id ∨ k.keyHash = row.keyHash) ∧
      (Sql.createApiKey row).exec B db = (.error .constraint, db)) ∨
    ((∀ k ∈ db.apiKeys, k.id ≠ row.id ∧ k.keyHash ≠ row.keyHash) ∧
      ((Sql.createApiKey row).exec B db).1 = .ok 1 ∧ ∀ x,
        x ∈ ((Sql.createApiKey row).exec B db).2.apiKeys ↔ x ∈ db.apiKeys ∨ x = row) := by
  cases hhash : db.apiKeys.rows.any fun k => k.keyHash = row.keyHash with
  | true =>
    obtain ⟨k, hk, hsame⟩ := List.any_eq_true.mp hhash
    exact .inl ⟨⟨k, hk, .inr (of_decide_eq_true hsame)⟩, by simp only [Sql.exec, hhash, if_true]⟩
  | false =>
    cases hins : db.apiKeys.insert? row with
    | none =>
      obtain ⟨k, hk, hsame⟩ := Relational.Table.insert?_eq_none_iff.mp hins
      refine .inl ⟨⟨k, hk, .inl hsame⟩, ?_⟩
      simp only [Sql.exec, hhash, hins, if_false, Bool.false_eq_true]
    | some t =>
      refine .inr ⟨fun k hk => ⟨fun hsame => ?_, ?_⟩, ?_, fun x => ?_⟩
      · cases hins.symm.trans (Relational.Table.insert?_eq_none_iff.mpr ⟨k, hk, hsame⟩)
      · simpa using List.any_eq_false.mp hhash k hk
      · simp only [Sql.exec, hhash, hins, if_false, Bool.false_eq_true]
      · simp only [Sql.exec, hhash, hins, if_false, Bool.false_eq_true]
        exact Relational.Table.mem_insert? hins x

/-- The rows that a creation finds in its way are the creations that stand in its way. -/
theorem Follows.conflicts_iff {w : World} (hF : Follows X log w) {id key : String} :
    Conflicts X id key log ↔
      ∃ k ∈ w.db.apiKeys, k.id = id ∨ k.keyHash = X.hashApiKey key := by
  constructor
  · rintro ⟨id', key', hstands, hsame⟩
    obtain ⟨k, hk, rfl, hhash⟩ := (hF id' (X.hashApiKey key')).mpr ⟨key', rfl, hstands⟩
    exact ⟨k, hk, hsame.imp_right fun h => hhash.trans h⟩
  · rintro ⟨k, hk, hsame⟩
    obtain ⟨key', hhash, hstands⟩ := (hF k.id k.keyHash).mp ⟨k, hk, rfl, rfl⟩
    exact ⟨k.id, key', hstands, hsame.imp_right fun h => hhash.trans h⟩

/-- A call that fails leaves the creations that stand as they are. -/
theorem Follows.failed {w w' : World} (hF : Follows X log w) (c : KeyCall) (e : Error)
    (hdb : w'.db = w.db) : Follows X ((c, .error e) :: log) w' := by
  intro id hash
  rw [hdb]
  refine (hF id hash).trans (exists_congr fun key => and_congr_right fun _ => ?_)
  rw [stands_cons]
  simp

theorem Follows.create {w : World} (hF : Follows X log w) (id key : String)
    (name : Option String) :
    ((KeyCall.create id key name).run X).post (World.handler B faulty)
      (fun r w' => Follows X ((.create id key name, r) :: log) w' ∧
        (faulty = false → Answered X log (.create id key name) r)) w := by
  simp only [KeyCall.run, Db.run_createApiKey, Prog.op_bind, Prog.ret_bind, Prog.pure_eq_ret,
    Prog.post_op, Prog.post_ret]
  intro c now w₁ hnow c' r w₂ hsql
  obtain ⟨-, -, -, rfl⟩ := World.exec_now.mp hnow
  rcases World.exec_sql.mp hsql with ⟨-, rfl, rfl⟩ | ⟨e, -, hfaulty, rfl, rfl⟩
  · rcases exec_createApiKey (B := B) w.db
      ⟨id, X.hashApiKey key, Db.keyPrefix key, name, now⟩ with
      ⟨htaken, hexec⟩ | ⟨hfree, hok, hrows⟩
    · rw [hexec]
      exact ⟨hF.failed _ _ rfl, fun _ => .inl ⟨hF.conflicts_iff.mpr htaken, rfl⟩⟩
    · have hnone : ¬ Conflicts X id key log := by
        intro hconflict
        obtain ⟨k, hk, hsame⟩ := hF.conflicts_iff.mp hconflict
        exact hsame.elim (hfree k hk).1 (hfree k hk).2
      rw [hok]
      refine ⟨fun id' hash => ?_, fun _ => .inr ⟨hnone, rfl⟩⟩
      have hstored : Stored ((Sql.createApiKey
          ⟨id, X.hashApiKey key, Db.keyPrefix key, name, now⟩).exec B w.db).2 id' hash ↔
          Stored w.db id' hash ∨ (id = id' ∧ X.hashApiKey key = hash) := by
        simp only [Stored, hrows, or_and_right, exists_or, exists_eq_left]
      apply hstored.trans
      rw [hF id' hash]
      simp only [stands_cons, Except.map]
      constructor
      · rintro (⟨key', hkey', hstands⟩ | ⟨rfl, rfl⟩)
        · exact ⟨key', hkey', .inr ⟨hstands, by simp⟩⟩
        · exact ⟨key, rfl, .inl ⟨name, rfl⟩⟩
      · rintro ⟨key', hkey', ⟨name', he⟩ | ⟨hstands, -⟩⟩
        · obtain ⟨rfl, rfl, -⟩ := KeyCall.create.inj (Prod.mk.inj he).1
          exact .inr ⟨rfl, hkey'⟩
        · exact .inl ⟨key', hkey', hstands⟩
  · exact ⟨hF.failed _ _ rfl, fun hf => by cases hfaulty.symm.trans hf⟩

theorem Follows.delete {w : World} (hF : Follows X log w) (id : String) :
    ((KeyCall.delete id).run X).post (World.handler B faulty)
      (fun r w' => Follows X ((.delete id, r) :: log) w' ∧
        (faulty = false → Answered X log (.delete id) r)) w := by
  simp only [KeyCall.run, Db.deleteApiKey, run_execute, Prog.post_op, Prog.post_ret]
  intro c r w₁ hsql
  rcases World.exec_sql.mp hsql with ⟨-, rfl, rfl⟩ | ⟨e, -, hfaulty, rfl, rfl⟩
  · refine ⟨fun id' hash => ?_, fun _ => rfl⟩
    have hstored : Stored ((Sql.deleteApiKey id).exec B w.db).2 id' hash ↔
        Stored w.db id' hash ∧ id' ≠ id := by
      simp only [Stored, Sql.exec, Relational.Table.mem_deleteWhere, decide_eq_false_iff_not]
      constructor
      · rintro ⟨row, ⟨hrow, hne⟩, rfl, rfl⟩
        exact ⟨⟨row, hrow, rfl, rfl⟩, hne⟩
      · rintro ⟨⟨row, hrow, rfl, rfl⟩, hne⟩
        exact ⟨row, ⟨hrow, hne⟩, rfl, rfl⟩
    apply hstored.trans
    rw [hF id' hash]
    simp only [stands_cons, Sql.exec, Except.mapError, Except.map]
    constructor
    · rintro ⟨⟨key, hkey, hstands⟩, hne⟩
      exact ⟨key, hkey, .inr ⟨hstands, by simpa using Ne.symm hne⟩⟩
    · rintro ⟨key, hkey, ⟨name, he⟩ | ⟨hstands, hne⟩⟩
      · simp at he
      · exact ⟨⟨key, hkey, hstands⟩, by simpa using Ne.symm hne⟩
  · exact ⟨hF.failed _ _ rfl, fun hf => by cases hfaulty.symm.trans hf⟩

/-- One call. -/
theorem Follows.step {w : World} (hF : Follows X log w) (c : KeyCall) :
    (c.run X).post (World.handler B faulty)
      (fun r w' => Follows X ((c, r) :: log) w' ∧ (faulty = false → Answered X log c r)) w := by
  cases c with
  | create id key name => exact hF.create id key name
  | delete id => exact hF.delete id

/-- After any sequence of calls on the empty table. -/
theorem follows_log {w₀ w : World} (hempty : w₀.db.apiKeys = .empty)
    (hrun : CallLog (World.handler B faulty) (KeyCall.run X) w₀ log w) :
    Follows X log w ∧ (faulty = false → Causal (fun e older => Answered X older e.1 e.2) log) := by
  refine hrun.invariant (fun log w => Follows X log w ∧
    (faulty = false → Causal (fun e older => Answered X older e.1 e.2) log)) ?_ ?_
  · refine ⟨fun id hash => ?_, fun _ => trivial⟩
    simp [Stored, hempty, not_stands_nil]
  · rintro log w₁ c ⟨hF, hcausal⟩ cs r w₂ hplay
    obtain ⟨hF', hanswered⟩ := hF.step c cs r w₂ hplay
    exact ⟨hF', fun hf => ⟨hanswered hf, hcausal hf⟩⟩

/-- What `validate_api_key` answers where the rows follow the log. -/
theorem Follows.validate {w : World} (hF : Follows X log w)
    (hbase64 : ∀ bytes, X.decode (X.encode bytes) = some bytes) {key : String}
    (hmac : DistinctMacs X (key :: keysUsed log)) :
    (Db.validateApiKey X key).run.post (World.handler B faulty) (fun r _ =>
      (∀ b, r = .ok b → (b = true ↔ Exists key log)) ∧ (faulty = false → ∃ b, r = .ok b)) w := by
  rw [Db.run_validateApiKey]
  simp only [Prog.post_op, Prog.post_ret]
  intro c r w₁ hsql
  rcases World.exec_sql.mp hsql with ⟨-, rfl, -⟩ | ⟨e, -, rfl, rfl, -⟩
  · refine ⟨fun b hb => ?_, fun _ => ⟨_, rfl⟩⟩
    obtain rfl := Except.ok.inj hb
    have hfind : ((w.db.apiKeys.rows.find? fun k => k.keyHash = X.hashApiKey key).map
        (·.id)).isSome = true ↔ ∃ id, Stored w.db id (X.hashApiKey key) := by
      simp only [Option.isSome_map, List.find?_isSome, decide_eq_true_eq]
      constructor
      · rintro ⟨row, hrow, hhash⟩
        exact ⟨row.id, row, hrow, rfl, hhash⟩
      · rintro ⟨id, row, hrow, -, hhash⟩
        exact ⟨row, hrow, hhash⟩
    refine hfind.trans (exists_congr fun id => (hF id _).trans ?_)
    constructor
    · rintro ⟨key', hhash, hstands⟩
      have hbytes := (hbase64 _).symm.trans ((congrArg X.decode hhash).trans (hbase64 _))
      have hsame := hmac key' (List.mem_cons_of_mem _ (mem_keysUsed hstands)) key
        List.mem_cons_self (Option.some.inj hbytes)
      exact hsame ▸ hstands
    · intro hstands
      exact ⟨key, rfl, hstands⟩
  · exact ⟨fun b hb => by simp [Except.mapError, Except.map] at hb, by simp⟩

end Table

/-- After any sequence of creations and deletions on the empty table `validate_api_key` accepts
    exactly the keys that exist, and a call for another key changes no answer. Without failures
    every call is answered as the constraints on id and hash have it. -/
theorem valid_iff_exists {X : Codec} {B : Backend} {faulty : Bool} {w₀ w : World} {log : Log}
    {key : String} (hbase64 : ∀ bytes, X.decode (X.encode bytes) = some bytes)
    (hmac : DistinctMacs X (key :: keysUsed log)) (hempty : w₀.db.apiKeys = .empty)
    (hrun : CallLog (World.handler B faulty) (KeyCall.run X) w₀ log w) :
    (∀ cs r w', (Db.validateApiKey X key).run.play (World.handler B faulty) cs w = some (r, w') →
      (∀ b, r = .ok b → (b = true ↔ Exists key log)) ∧ (faulty = false → ∃ b, r = .ok b)) ∧
    (faulty = false → ∀ newer c r older, log = newer ++ (c, r) :: older →
      Answered X older c r) ∧
    ∀ c r older w₁ cs, log = (c, r) :: older →
      CallLog (World.handler B faulty) (KeyCall.run X) w₀ older w₁ →
      (c.run X).play (World.handler B faulty) cs w₁ = some (r, w) → ForOtherKey key older c →
      ∀ cs₁ b₁ w₁' cs₂ b₂ w₂',
        (Db.validateApiKey X key).run.play (World.handler B faulty) cs₁ w₁ =
          some (.ok b₁, w₁') →
        (Db.validateApiKey X key).run.play (World.handler B faulty) cs₂ w = some (.ok b₂, w₂') →
        b₁ = b₂ := by
  have hvalid : (Db.validateApiKey X key).run.post (World.handler B faulty) (fun r _ =>
      (∀ b, r = .ok b → (b = true ↔ Exists key log)) ∧ (faulty = false → ∃ b, r = .ok b)) w :=
    (follows_log hempty hrun).1.validate hbase64 hmac
  refine ⟨hvalid, fun hf newer c r older hlog => ?_, ?_⟩
  · have hcausal := (follows_log hempty hrun).2 hf
    rw [hlog] at hcausal
    exact hcausal.at_split
  rintro c r older w₁ cs rfl holder - hother cs₁ b₁ w₁' cs₂ b₂ w₂' hbefore hafter
  have hmac' : DistinctMacs X (key :: keysUsed older) := by
    have hsub : ∀ k ∈ key :: keysUsed older, k ∈ key :: keysUsed ((c, r) :: older) := by
      intro k hk
      rcases List.mem_cons.mp hk with rfl | hk
      · exact List.mem_cons_self
      · exact List.mem_cons_of_mem _ ((List.sublist_cons_self _ _).filterMap _ |>.subset hk)
    exact fun k hk k' hk' => hmac k (hsub k hk) k' (hsub k' hk')
  have hb₁ := ((follows_log hempty holder).1.validate hbase64 hmac' cs₁ _ w₁' hbefore).1 b₁ rfl
  have hb₂ := (hvalid cs₂ _ w₂' hafter).1 b₂ rfl
  exact Bool.eq_iff_iff.mpr (hb₁.trans ((exists_cons_of_other hother).symm.trans hb₂.symm))

/-- The codecs, as far as the API key `secret` needs them. -/
def sampleCodec : Codec where
  encode := Base64.encode
  decode := Base64.decode
  hmacSha256 _ key :=
    if key = "secret" then
      [83, 76, 25, 154, 160, 59, 228, 27, 150, 29, 254, 35, 78, 253, 108, 2, 188, 115, 44, 205,
        78, 61, 26, 189, 222, 26, 148, 56, 53, 45, 36, 75]
    else []

/-- The server `s` and the API key `secret`, with which agents can register. -/
def keyStored : World :=
  let key : ApiKey := ⟨"1", sampleCodec.hashApiKey "secret", "secr", none, 0⟩
  { World.started "s" with
    db := ((Sql.createApiKey key).exec (.keyed none) (World.started "s").db).2 }

/-- Two keys are created, each refused once under an id or a hash that stands, and the first one is
    deleted. -/
def keyLog : Log :=
  [(.delete "1", .ok ()), (.create "2" "other" none, .ok ()),
    (.create "1" "other" none, .error (.database .constraint)),
    (.create "2" "secret" none, .error (.database .constraint)),
    (.create "1" "secret" none, .ok ())]

def keyCalls : List (KeyCall × List Choice) :=
  [(.create "1" "secret" none, [.read 1000, .go]), (.create "2" "secret" none, [.read 2000, .go]),
    (.create "1" "other" none, [.read 3000, .go]), (.create "2" "other" none, [.read 4000, .go]),
    (.delete "1", [.go])]

/-- After them the first key is refused and the second one accepted, as their creations have it. -/
theorem valid_iff_exists_created :
    ∃ w w₁ w₂, CallLog (World.handler .migrated false) (KeyCall.run sampleCodec) .boot keyLog w ∧
      (Db.validateApiKey sampleCodec "secret").run.play (World.handler .migrated false) [.go] w =
        some (.ok false, w₁) ∧ ¬ Exists "secret" keyLog ∧
      (Db.validateApiKey sampleCodec "other").run.play (World.handler .migrated false) [.go] w =
        some (.ok true, w₂) ∧ Exists "other" keyLog ∧
      ∀ newer c r older, keyLog = newer ++ (c, r) :: older → Answered sampleCodec older c r := by
  have hcalls : (runCalls (World.handler .migrated false) (KeyCall.run sampleCodec) keyCalls []
      .boot).map (fun x => (x.1.map fun m => (m.call, m.result),
        ((Db.validateApiKey sampleCodec "secret").run.play (World.handler .migrated false) [.go]
          x.2).map (·.1),
        ((Db.validateApiKey sampleCodec "other").run.play (World.handler .migrated false) [.go]
          x.2).map (·.1))) = some (keyLog, some (.ok false), some (.ok true)) := by decide +kernel
  obtain ⟨⟨history, w⟩, hrun, hresults⟩ := Option.map_eq_some_iff.mp hcalls
  obtain ⟨hlog, hplayed⟩ := Prod.mk.inj hresults
  obtain ⟨⟨_, w₁⟩, hfirst, rfl⟩ := Option.map_eq_some_iff.mp (Prod.mk.inj hplayed).1
  obtain ⟨⟨_, w₂⟩, hsecond, rfl⟩ := Option.map_eq_some_iff.mp (Prod.mk.inj hplayed).2
  have hmade := (Calls.nil.run hrun).log
  rw [hlog] at hmade
  have hmacs : ∀ key ∈ ["secret", "other"], DistinctMacs sampleCodec (key :: keysUsed keyLog) := by
    simp [DistinctMacs, keysUsed, keyLog, sampleCodec]
  obtain ⟨hsecret, hanswered, -⟩ := valid_iff_exists Base64.decode_encode
    (hmacs "secret" (by simp)) rfl hmade
  obtain ⟨hother, -⟩ := valid_iff_exists Base64.decode_encode (hmacs "other" (by simp)) rfl hmade
  have hgone := (hsecret _ _ _ hfirst).1 false rfl
  have hthere := (hother _ _ _ hsecond).1 true rfl
  exact ⟨w, w₁, w₂, hmade, hfirst, fun h => Bool.false_ne_true (hgone.mpr h), hsecond,
    hthere.mp rfl, hanswered rfl⟩

end ApiKeys

end Jrok
