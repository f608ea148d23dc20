import Jrok.Api.Keys
import Jrok.Db.ApiKeys
import Jrok.Db.Serial

/-!
# The life of an API key

Any number of tasks call the handlers of `api/keys.rs`; their statements interleave and may fail.
A key stands from its creation to the first deletion of its id. It is listed and accepted as long
as it stands, and never again after that.
-/

namespace Jrok.Api

open Concurrency

/-! ## The keys that stand -/

variable {τ : Type}

/-- The key has been stored, and no deletion of its id has gone through since. -/
def Stands (row : ApiKey) (log : Log serverSig τ) : Prop :=
  ∃ newer older t n, log = newer ++ (t, ⟨.sql (.createApiKey row), .ok n⟩) :: older ∧
    ∀ u m, (u, ⟨.sql (.deleteApiKey row.id), .ok m⟩) ∉ newer

section Standing

variable {B : Backend} {faulty : Bool} {db : Database} {row : ApiKey} {log : Log serverSig τ}

/-- What the latest event does to a key. -/
theorem stands_cons {t : τ} {e : Event serverSig} :
    Stands row ((t, e) :: log) ↔ (∃ n, e = ⟨.sql (.createApiKey row), .ok n⟩) ∨
      (Stands row log ∧ ∀ m, e ≠ ⟨.sql (.deleteApiKey row.id), .ok m⟩) := by
  constructor
  · rintro ⟨newer, older, u, n, hsplit, hkept⟩
    cases newer with
    | nil =>
      obtain ⟨heq, -⟩ := List.cons.inj hsplit
      exact .inl ⟨n, (Prod.mk.inj heq).2⟩
    | cons head newer =>
      obtain ⟨rfl, rfl⟩ := List.cons.inj hsplit
      refine .inr ⟨⟨newer, older, u, n, rfl, fun v m hv => hkept v m (.tail _ hv)⟩, ?_⟩
      rintro m rfl
      exact hkept t m (.head _)
  · rintro (⟨n, rfl⟩ | ⟨⟨newer, older, u, n, rfl, hkept⟩, hne⟩)
    · exact ⟨[], log, t, n, rfl, by simp⟩
    · refine ⟨(t, e) :: newer, older, u, n, rfl, fun v m hv => ?_⟩
      rcases List.mem_cons.mp hv with heq | hold
      · exact hne m (Prod.mk.inj heq).2.symm
      · exact hkept v m hold

/-- The statements that change the keys. -/
def onKeys : Sql → Bool
  | .createApiKey _ | .deleteApiKey _ => true
  | _ => false

theorem exec_apiKeys {q : Sql} (hq : onKeys q = false) : (q.exec B db).2.apiKeys = db.apiKeys := by
  cases q with
  | createApiKey | deleteApiKey => cases hq
  | _ =>
    simp only [Sql.exec, Database.createTunnel, Database.updateAgents, Database.updateServers,
      Database.registerAgent]
    repeat' split
    all_goals rfl

/-- The table has the keys that stand. -/
def HasStanding (db : Database) (log : Log serverSig τ) : Prop :=
  ∀ row, row ∈ db.apiKeys ↔ Stands row log

section Steps

variable {db' : Database} {t : τ} {e : Event serverSig}

theorem HasStanding.other (h : HasStanding db log) (hsame : db'.apiKeys = db.apiKeys)
    (hcreate : ∀ row n, e ≠ ⟨.sql (.createApiKey row), .ok n⟩)
    (hdelete : ∀ id m, e ≠ ⟨.sql (.deleteApiKey id), .ok m⟩) :
    HasStanding db' ((t, e) :: log) := by
  intro row
  rw [hsame, h row, stands_cons]
  refine ⟨fun hstands => .inr ⟨hstands, hdelete row.id⟩, ?_⟩
  rintro (⟨n, hn⟩ | ⟨hstands, -⟩)
  · exact absurd hn (hcreate row n)
  · exact hstands

theorem HasStanding.create {new : ApiKey} {n : Nat} (h : HasStanding db log)
    (hok : ((Sql.createApiKey new).exec B db).1 = .ok n) :
    HasStanding ((Sql.createApiKey new).exec B db).2
      ((t, ⟨.sql (.createApiKey new), .ok n⟩) :: log) := by
  intro row
  rcases ApiKeys.exec_createApiKey (B := B) db new with ⟨-, hexec⟩ | ⟨-, -, hmem⟩
  · rw [hexec] at hok
    cases hok
  · rw [hmem row, h row, stands_cons]
    refine or_comm.trans (or_congr ⟨?_, ?_⟩ ⟨fun h => ⟨h, fun _ => nofun⟩, (·.1)⟩)
    · rintro rfl
      exact ⟨n, rfl⟩
    · rintro ⟨n', heq⟩
      cases heq
      rfl

theorem HasStanding.delete {id : String} {m : Nat} (h : HasStanding db log) :
    HasStanding ((Sql.deleteApiKey id).exec B db).2
      ((t, ⟨.sql (.deleteApiKey id), .ok m⟩) :: log) := by
  intro row
  refine Relational.Table.mem_deleteWhere.trans ?_
  rw [h row, stands_cons]
  refine ⟨fun ⟨hstands, hne⟩ => .inr ⟨hstands, ?_⟩, ?_⟩
  · rintro m' heq
    cases heq
    simp at hne
  · rintro (⟨n, heq⟩ | ⟨hstands, hne⟩)
    · cases heq
    · refine ⟨hstands, decide_eq_false fun hid => hne m ?_⟩
      rw [hid]

/-- One statement that goes through. -/
theorem HasStanding.exec {q : Sql} {a : q.Res} (h : HasStanding db log)
    (hok : (q.exec B db).1 = .ok a) :
    HasStanding (q.exec B db).2 ((t, ⟨.sql q, .ok a⟩) :: log) := by
  cases hq : onKeys q with
  | false =>
    refine h.other (exec_apiKeys hq) ?_ ?_
    all_goals
      rintro _ _ heq
      cases congrArg Sigma.fst heq
      cases hq
  | true =>
    cases q with
    | createApiKey new => exact h.create hok
    | deleteApiKey id => exact h.delete
    | _ => cases hq

end Steps

theorem mem_apiKeys_after {db₀ : Database} (hempty : db₀.apiKeys = .empty)
    (hcausal : Causal (fun e older => Database.Answers B faulty (.after B db₀ older) e.2) log) :
    row ∈ (Database.after B db₀ log).apiKeys ↔ Stands row log := by
  refine Database.after_invariant HasStanding hcausal (fun row => ?_)
    (fun db older t q a h hok => h.exec hok)
    (fun db older t e h hnot => h.other rfl (fun _ => hnot _) (fun _ => hnot _)) row
  refine iff_of_false (by simp [hempty]) ?_
  rintro ⟨newer, older, t, n, hsplit, -⟩
  simp at hsplit

end Standing

/-! ## Every run -/

/-- The keys that may have been made of the UUIDs that were drawn. -/
def keysIssued (log : Log serverSig τ) : List String :=
  log.filterMap fun e =>
    match e.2 with
    | ⟨.uuid, u⟩ => some ("jrok_" ++ u)
    | _ => none

theorem mem_keysIssued {log : Log serverSig τ} {t : τ} {uuid : String}
    (h : (t, (⟨.uuid, uuid⟩ : Event serverSig)) ∈ log) : "jrok_" ++ uuid ∈ keysIssued log :=
  List.mem_filterMap.mpr ⟨_, h, rfl⟩

/-- The tasks at work on the keys. -/
abbrev managing (B : Backend) (faulty : Bool) (X : Codec) (requests : τ → KeyRequest) :
    System serverSig τ (Option KeyAnswer) Unit (World × Log serverSig τ) Choice :=
  (System.oneShot (fun _ => World.handler B faulty) fun t => (requests t).run X).logged

/-- A key that a creation has returned: while it stands it is listed and accepted, and it does not
    stand after a deletion of its id. -/
structure KeyLife (X : Codec) (requests : τ → KeyRequest)
    (c : Config serverSig τ (Option KeyAnswer) (World × Log serverSig τ)) (t : τ)
    (resp : ApiKeyResponse) : Prop where
  stored : ∃ n, (t, ⟨.sql (.createApiKey (resp.row X)), .ok n⟩) ∈ c.shared.2
  listed : ∀ newer older u keys, c.shared.2 = newer ++ (u, ⟨.sql .listApiKeys, .ok keys⟩) :: older →
    (.ofKey (resp.row X) ∈ keys.map ApiKeyInfo.ofKey ↔ Stands (resp.row X) older)
  accepted : ∀ u b, requests u = .validate (some resp.key) →
    c.task u = .idle (some (.validated (.ok b))) → ∃ newer older found,
      c.shared.2 = newer ++
        (u, ⟨.sql (.validateApiKey (X.hashApiKey resp.key)), .ok found⟩) :: older ∧
      (b = true ↔ Stands (resp.row X) older)
  revoked : ∀ newer between older v m, c.shared.2 = newer ++
      (between ++ (v, ⟨.sql (.deleteApiKey resp.id), .ok m⟩) :: older) →
    (∃ n, (t, ⟨.sql (.createApiKey (resp.row X)), .ok n⟩) ∈ older) →
    ¬ Stands (resp.row X) (between ++ (v, ⟨.sql (.deleteApiKey resp.id), .ok m⟩) :: older)

/-- A listing shows the keys that stand, the newest first, and every key that a creation has
    returned lives until it is deleted. -/
structure KeysManaged (X : Codec) (requests : τ → KeyRequest)
    (c : Config serverSig τ (Option KeyAnswer) (World × Log serverSig τ)) : Prop where
  listings : ∀ u infos, requests u = .list → c.task u = .idle (some (.listed (.ok infos))) →
    ∃ newer older keys, c.shared.2 = newer ++ (u, ⟨.sql .listApiKeys, .ok keys⟩) :: older ∧
      infos = keys.map ApiKeyInfo.ofKey ∧ keys.Pairwise (fun a b => b.createdAt ≤ a.createdAt) ∧
      ∀ row, row ∈ keys ↔ Stands row older
  creations : ∀ t name resp, requests t = .create name →
    c.task t = .idle (some (.created (.ok resp))) →
    resp.name = name ∧ resp.keyPrefix = Db.keyPrefix resp.key ∧ KeyLife X requests c t resp

section Runs

variable [DecidableEq τ] {X : Codec} {B : Backend} {faulty : Bool} {requests : τ → KeyRequest}
variable {log newer older : Log serverSig τ} {t t' : τ} {row row' : ApiKey} {ids : List String}
variable {r r' : Except DbError Nat}

/-- A key is inserted by a `create_api_key`, after the id, the rest of the key and the time have
    been drawn. -/
def KeysInserted (X : Codec) : Log serverSig τ → Prop :=
  Causal fun (e : τ × Event serverSig) older => ∀ row r, e.2 = ⟨.sql (.createApiKey row), r⟩ →
    ∃ (resp : ApiKeyResponse) (uuid : String), Log.own e.1 older =
        [⟨.uuid, resp.id⟩, ⟨.uuid, uuid⟩, ⟨.now, resp.createdAt⟩] ∧
      resp.key = "jrok_" ++ uuid ∧ row = resp.row X

theorem keysInserted_of_follows (hf : System.Follows (fun t => (requests t).run X) log) :
    KeysInserted X log :=
  hf.causal fun t e older p _ hp row r he => by
    subst he
    exact insert_path hp

/-- A handler makes one insertion. -/
theorem inserted_once
    (hins : KeysInserted X (newer ++ (t, ⟨.sql (.createApiKey row), r⟩) :: older)) :
    (t, ⟨.sql (.createApiKey row'), r'⟩) ∉ older := by
  intro hold
  obtain ⟨resp, uuid, hown, -⟩ := hins.at_split row r rfl
  rw [← Log.mem_own, hown] at hold
  simp at hold

theorem inserted_by (hins : KeysInserted X log)
    (h : (t, (⟨.sql (.createApiKey row), r⟩ : Event serverSig)) ∈ log)
    (h' : (t, (⟨.sql (.createApiKey row'), r'⟩ : Event serverSig)) ∈ log) : row = row' := by
  obtain ⟨newer, older, rfl⟩ := List.append_of_mem h
  rcases List.mem_append.mp h' with hnewer | hrest
  · obtain ⟨later, rest, rfl⟩ := List.append_of_mem hnewer
    rw [List.append_assoc] at hins
    exact absurd (List.mem_append_right _ (.head _)) (inserted_once hins)
  · rcases List.mem_cons.mp hrest with heq | holder
    · cases heq
      rfl
    · exact absurd holder (inserted_once hins)

/-- The id of a key has been drawn by the handler that has inserted it. -/
theorem drawn_id (hins : KeysInserted X log)
    (h : (t, (⟨.sql (.createApiKey row), r⟩ : Event serverSig)) ∈ log) :
    (t, (⟨.uuid, row.id⟩ : Event serverSig)) ∈ log ∧
    ∃ uuid, row.keyHash = X.hashApiKey ("jrok_" ++ uuid) ∧
      (t, (⟨.uuid, uuid⟩ : Event serverSig)) ∈ log := by
  obtain ⟨newer, older, rfl⟩ := List.append_of_mem h
  obtain ⟨resp, uuid, hown, hkey, rfl⟩ := hins.at_split row r rfl
  have hmem : ∀ u, (⟨.uuid, u⟩ : Event serverSig) ∈ Log.own t older →
      (t, (⟨.uuid, u⟩ : Event serverSig)) ∈
        newer ++ (t, ⟨.sql (.createApiKey (resp.row X)), r⟩) :: older := fun u hu =>
    List.mem_append_right _ (.tail _ (Log.mem_own.mp hu))
  refine ⟨hmem _ (by simp [hown, ApiKeyResponse.row]), uuid, ?_, hmem _ (by simp [hown])⟩
  simp [ApiKeyResponse.row, hkey]

/-- Two keys with one id are one key. -/
theorem inserted_unique (hins : KeysInserted X log)
    (hfresh : Causal (fun e older => Fresh (Log.after issue ids older) e.2) log)
    (h : (t, (⟨.sql (.createApiKey row), r⟩ : Event serverSig)) ∈ log)
    (h' : (t', (⟨.sql (.createApiKey row'), r'⟩ : Event serverSig)) ∈ log)
    (hid : row.id = row'.id) : t = t' ∧ row = row' := by
  have hdrawn := (drawn_id hins h').1
  rw [← hid] at hdrawn
  obtain rfl := uuid_unique hfresh (drawn_id hins h).1 hdrawn
  exact ⟨rfl, inserted_by hins h h'⟩

/-- Nor have two keys one hash: it tells the MAC, and so the UUID of the key. -/
theorem inserted_hash (hbase64 : ∀ bytes, X.decode (X.encode bytes) = some bytes)
    (hmac : ApiKeys.DistinctMacs X (keysIssued log))
    (hins : KeysInserted X log)
    (hfresh : Causal (fun e older => Fresh (Log.after issue ids older) e.2) log)
    (h : (t, (⟨.sql (.createApiKey row), r⟩ : Event serverSig)) ∈ log)
    (h' : (t', (⟨.sql (.createApiKey row'), r'⟩ : Event serverSig)) ∈ log)
    (hhash : row.keyHash = row'.keyHash) : row = row' := by
  obtain ⟨-, uuid, hkey, hdrawn⟩ := drawn_id hins h
  obtain ⟨-, uuid', hkey', hdrawn'⟩ := drawn_id hins h'
  rw [hkey, hkey'] at hhash
  have hbytes := (hbase64 _).symm.trans ((congrArg X.decode hhash).trans (hbase64 _))
  have hsame := hmac _ (mem_keysIssued hdrawn) _ (mem_keysIssued hdrawn') (Option.some.inj hbytes)
  rw [String.append_right_inj] at hsame
  obtain rfl := uuid_unique hfresh hdrawn (hsame ▸ hdrawn')
  exact inserted_by hins h h'

omit [DecidableEq τ] in
theorem Stands.mem (h : Stands row log) :
    ∃ t n, (t, (⟨.sql (.createApiKey row), .ok n⟩ : Event serverSig)) ∈ log := by
  obtain ⟨newer, older, t, n, rfl, -⟩ := h
  exact ⟨t, n, by simp⟩

/-- A key whose id is deleted does not stand again. -/
theorem not_stands_deleted {between : Log serverSig τ} {v : τ} {n m : Nat}
    (hins : KeysInserted X
      (newer ++ (between ++ (v, ⟨.sql (.deleteApiKey row.id), .ok m⟩) :: older)))
    (hfresh : Causal (fun e older => Fresh (Log.after issue ids older) e.2)
      (newer ++ (between ++ (v, ⟨.sql (.deleteApiKey row.id), .ok m⟩) :: older)))
    (hold : (t, (⟨.sql (.createApiKey row), .ok n⟩ : Event serverSig)) ∈ older) :
    ¬ Stands row (between ++ (v, ⟨.sql (.deleteApiKey row.id), .ok m⟩) :: older) := by
  rintro ⟨later, earlier, t', n', hsplit, hkept⟩
  rcases List.append_eq_append_iff.mp hsplit with ⟨a, rfl, ha⟩ | ⟨a, rfl, ha⟩
  · -- the deletion comes after the creation
    cases a with
    | nil => cases ha
    | cons head a =>
      obtain ⟨rfl, -⟩ := List.cons.inj ha
      exact hkept v m (by simp)
  · -- the creation comes after the deletion, and so is a second one
    cases a with
    | nil => cases ha
    | cons head a =>
      obtain ⟨rfl, rfl⟩ := List.cons.inj ha
      obtain rfl : t = t' := (inserted_unique hins hfresh
        (List.mem_append_right _ (List.mem_append_right _ (.tail _ hold)))
        (List.mem_append_right _ (List.mem_append_left _ (List.mem_append_right _ (.head _))))
        rfl).1
      rw [List.append_assoc, ← List.append_assoc] at hins
      exact inserted_once hins (List.mem_append_right _ (.tail _ hold))

section Answers

variable {db₀ : Database} (hempty : db₀.apiKeys = .empty)
include hempty

omit [DecidableEq τ] in
/-- A listing shows the keys that stand, the newest first. -/
theorem listing_answers {u : τ} {keys : List ApiKey}
    (h : Causal (fun e older => Database.Answers B faulty (.after B db₀ older) e.2)
      (newer ++ (u, ⟨.sql .listApiKeys, .ok keys⟩) :: older)) :
    keys.Pairwise (fun a b => b.createdAt ≤ a.createdAt) ∧
      ∀ row, row ∈ keys ↔ Stands row older := by
  have hok := h.at_split.of_ok
  obtain rfl : (Database.after B db₀ older).apiKeys.rows.mergeSort
      (fun a b => b.createdAt ≤ a.createdAt) = keys := Except.ok.inj hok
  refine ⟨?_, fun row => ?_⟩
  · refine List.Pairwise.imp of_decide_eq_true (List.pairwise_mergeSort ?_ ?_ _)
    · intro a b c hab hbc
      simp only [decide_eq_true_eq] at *
      omega
    · intro a b
      simp only [Bool.or_eq_true, decide_eq_true_eq]
      omega
  · rw [List.mem_mergeSort]
    exact mem_apiKeys_after hempty (h.of_append.2)

omit [DecidableEq τ] in
/-- A key is accepted where one with its hash stands. -/
theorem validation_answers {u : τ} {hash : String} {found : Option String}
    (h : Causal (fun e older => Database.Answers B faulty (.after B db₀ older) e.2)
      (newer ++ (u, ⟨.sql (.validateApiKey hash), .ok found⟩) :: older)) :
    found.isSome = true ↔ ∃ row, Stands row older ∧ row.keyHash = hash := by
  have hok := h.at_split.of_ok
  obtain rfl : ((Database.after B db₀ older).apiKeys.rows.find? fun k => k.keyHash = hash).map
      (·.id) = found := Except.ok.inj hok
  simp only [Option.isSome_map, List.find?_isSome, decide_eq_true_eq]
  exact exists_congr fun row => and_congr_left fun _ => mem_apiKeys_after hempty (h.of_append.2)

/-- A key that has been inserted is accepted exactly while it stands. -/
theorem validated_stands (hbase64 : ∀ bytes, X.decode (X.encode bytes) = some bytes)
    (hmac : ApiKeys.DistinctMacs X (keysIssued log)) (hins : KeysInserted X log)
    (hfresh : Causal (fun e older => Fresh (Log.after issue ids older) e.2) log)
    (h : Causal (fun e older => Database.Answers B faulty (.after B db₀ older) e.2) log)
    (hstored : (t, (⟨.sql (.createApiKey row), r⟩ : Event serverSig)) ∈ log) {u : τ}
    {found : Option String}
    (hsplit : log = newer ++ (u, ⟨.sql (.validateApiKey row.keyHash), .ok found⟩) :: older) :
    found.isSome = true ↔ Stands row older := by
  rw [hsplit] at h
  refine (validation_answers hempty h).trans ⟨fun ⟨row', hrow, hhash⟩ => ?_, fun h => ⟨_, h, rfl⟩⟩
  obtain ⟨t', n', hold⟩ := hrow.mem
  have hcreated : (t', (⟨.sql (.createApiKey row'), .ok n'⟩ : Event serverSig)) ∈ log :=
    hsplit ▸ List.mem_append_right _ (.tail _ hold)
  obtain rfl := inserted_hash hbase64 hmac hins hfresh hstored hcreated hhash.symm
  exact hrow

end Answers

/-- In every run of any number of tasks from a database without keys, whatever fails. -/
theorem keys_managed (hbase64 : ∀ bytes, X.decode (X.encode bytes) = some bytes)
    {c₀ c : Config serverSig τ (Option KeyAnswer) (World × Log serverSig τ)}
    (hmac : ApiKeys.DistinctMacs X (keysIssued c.shared.2))
    (hempty : c₀.shared.1.db.apiKeys = .empty) (hidle : ∀ t, c₀.task t = .idle none)
    (hlog : c₀.shared.2 = []) (hr : (managing B faulty X requests).Reachable c₀ c) :
    KeysManaged X requests c := by
  have htraced : System.Traced (fun t => (requests t).run X) c := hr.traced hidle hlog
  have hanswers := (System.keepsLog_logged.recorded World.recorded hr hidle hlog).2
  have hfresh := (System.keepsLog_logged.recorded World.recorded_issued hr hidle hlog).2
  have hins := keysInserted_of_follows htraced.follows
  refine ⟨fun u infos hrequest hreturned => ?_, fun t name resp hrequest hreturned => ?_⟩
  · have hpath := htraced.returned hreturned
    rw [hrequest] at hpath
    obtain ⟨keys, hown, rfl⟩ := list_path hpath
    obtain ⟨newer, older, hsplit, -⟩ := Log.exists_split (show _ = [] ++ [_] from hown)
    rw [hsplit] at hanswers
    obtain ⟨hsorted, hstands⟩ := listing_answers hempty hanswers
    exact ⟨newer, older, keys, hsplit, rfl, hsorted, hstands⟩
  · have hpath := htraced.returned hreturned
    rw [hrequest] at hpath
    obtain ⟨uuid, n, hown, hname, hkey, hprefix⟩ := create_path hpath
    have hstored : (t, (⟨.sql (.createApiKey (resp.row X)), .ok n⟩ : Event serverSig)) ∈
        c.shared.2 := by
      rw [← Log.mem_own, hown]
      simp
    refine ⟨hname, hprefix, ⟨n, hstored⟩, fun newer older u keys hsplit => ?_,
      fun u b hvalidate hvalidated => ?_, fun newer between older v m hsplit ⟨n', hold⟩ => ?_⟩
    · have hkeys := hanswers
      rw [hsplit] at hkeys
      have hstands := (listing_answers hempty hkeys).2
      refine ⟨fun hshown => ?_, fun h => List.mem_map_of_mem ((hstands _).mpr h)⟩
      obtain ⟨row, hrow, hsame⟩ := List.mem_map.mp hshown
      obtain ⟨t', n', hold⟩ := ((hstands row).mp hrow).mem
      have hcreated : (t', (⟨.sql (.createApiKey row), .ok n'⟩ : Event serverSig)) ∈ c.shared.2 :=
        hsplit ▸ List.mem_append_right _ (.tail _ hold)
      obtain ⟨-, rfl⟩ := inserted_unique hins hfresh hcreated hstored (congrArg ApiKeyInfo.id hsame)
      exact (hstands _).mp hrow
    · have hpath' := htraced.returned hvalidated
      rw [hvalidate] at hpath'
      obtain ⟨found, hown', rfl⟩ := validate_path hpath'
      obtain ⟨newer, older, hsplit, -⟩ := Log.exists_split (show _ = [] ++ [_] from hown')
      exact ⟨newer, older, found, hsplit,
        validated_stands hempty hbase64 hmac hins hfresh hanswers hstored hsplit⟩
    · rw [hsplit] at hins hfresh
      exact not_stands_deleted hins hfresh hold

end Runs

/-- The codecs, as far as the keys of the UUIDs `i` and `k` need them. -/
def keyCodec : Codec where
  encode := Base64.encode
  decode := Base64.decode
  hmacSha256 _ key :=
    if key = "jrok_i" then
      [26, 215, 22, 4, 186, 103, 159, 206, 120, 222, 150, 240, 193, 210, 168, 122, 24, 255, 132,
        54, 224, 181, 196, 167, 12, 1, 0, 254, 144, 91, 84, 1]
    else if key = "jrok_k" then
      [2, 5, 125, 169, 241, 186, 159, 5, 211, 26, 158, 178, 215, 171, 216, 252, 6, 57, 235, 94,
        236, 95, 238, 107, 187, 108, 252, 100, 157, 100, 120, 189]
    else []

/-- A key is created, listed and used; it is deleted, and used again. -/
def keyRequests : Nat → KeyRequest
  | 0 => .create "ci"
  | 1 => .list
  | 3 => .delete "i"
  | _ => .validate (some "jrok_k")

def keyMoves : List (Move Nat Unit Choice) :=
  [.start 0 (), .act 0 (.fresh "i"), .act 0 (.fresh "k"), .act 0 (.read 1000), .act 0 .go,
    .finish 0] ++
  [1, 2, 3, 4].flatMap fun t => [.start t (), .act t .go, .finish t]

theorem keys_managed_revoked :
    ∃ c, (managing .migrated false keyCodec keyRequests).Reachable
        ⟨(.boot, []), fun _ => .idle none⟩ c ∧
      c.answer 1 = some (.listed (.ok [⟨"i", some "ci", "jrok_k", 1000⟩])) ∧
      c.answer 2 = some (.validated (.ok true)) ∧
      c.answer 4 = some (.validated (.ok false)) ∧ KeysManaged keyCodec keyRequests c := by
  have hrun : ((managing .migrated false keyCodec keyRequests).replay keyMoves
      ⟨(.boot, []), fun _ => .idle none⟩).map
        (fun c => ([1, 2, 4].map c.answer, keysIssued c.shared.2)) =
      some ([some (.listed (.ok [⟨"i", some "ci", "jrok_k", 1000⟩])),
        some (.validated (.ok true)), some (.validated (.ok false))], ["jrok_k", "jrok_i"]) := by
    decide +kernel
  obtain ⟨c, hc, hproj⟩ := Option.map_eq_some_iff.mp hrun
  simp only [List.map_cons, List.map_nil, Prod.mk.injEq, List.cons.injEq, and_true] at hproj
  obtain ⟨⟨hlisted, haccepted, hrejected⟩, hkeys⟩ := hproj
  refine ⟨c, ⟨_, hc⟩, hlisted, haccepted, hrejected,
    keys_managed Base64.decode_encode ?_ rfl (fun _ => rfl) rfl ⟨_, hc⟩⟩
  rw [hkeys]
  unfold ApiKeys.DistinctMacs
  decide +kernel

end Jrok.Api
