import Jrok.Concurrency.Log
import Jrok.Db.Calls

/-!
# The management of API keys

The handlers of `api/keys.rs`, and what they have done when they return. No route of the server
leads to them.
-/

namespace Jrok.Api

open Concurrency

structure ApiKeyResponse where
  id : String
  name : String
  key : String
  keyPrefix : String
  createdAt : Int
  deriving DecidableEq

structure ApiKeyInfo where
  id : String
  name : Option String
  keyPrefix : String
  createdAt : Int
  deriving DecidableEq

/-- What a listing shows of a key. -/
def ApiKeyInfo.ofKey (k : ApiKey) : ApiKeyInfo where
  id := k.id
  name := k.name
  keyPrefix := k.keyPrefix
  createdAt := k.createdAt

def createApiKey (X : Codec) (name : String) : Call ApiKeyResponse := do
  let id ← newUuid
  let uuid ← newUuid
  let key := "jrok_" ++ uuid
  let apiKey ← Db.createApiKey X id key (some name)
  return {
    id := apiKey.id
    name := apiKey.name.getD ""
    key := key
    keyPrefix := apiKey.keyPrefix
    createdAt := apiKey.createdAt }

def listApiKeys : Call (List ApiKeyInfo) := do
  let keys ← Db.listApiKeys
  return keys.map ApiKeyInfo.ofKey

def deleteApiKey (id : String) : Call String := do
  Db.deleteApiKey id
  return "API key deleted"

/-- A request to one of the handlers. Of the JSON of `validate_api_key_direct` there is the text in
    its field `key`, if it has one. -/
inductive KeyRequest where
  | create (name : String)
  | list
  | delete (id : String)
  | validate (key : Option String)
  deriving DecidableEq

inductive KeyAnswer where
  | created (r : Except Error ApiKeyResponse)
  | listed (r : Except Error (List ApiKeyInfo))
  | deleted (r : Except Error String)
  | validated (r : Except Error Bool)
  /-- `Error::Validation` -/
  | invalid (s : String)
  deriving DecidableEq

def validateApiKeyDirect (X : Codec) : Option String → ServerProg KeyAnswer
  | none => return .invalid "Missing 'key' field"
  | some key => do return .validated (← (Db.validateApiKey X key).run)

def KeyRequest.run (X : Codec) : KeyRequest → ServerProg KeyAnswer
  | .create name => do return .created (← (createApiKey X name).run)
  | .list => do return .listed (← listApiKeys.run)
  | .delete id => do return .deleted (← (deleteApiKey id).run)
  | .validate key => validateApiKeyDirect X key

/-! ## The handlers as trees -/

theorem run_createApiKey (X : Codec) (name : String) :
    (createApiKey X name).run = .op .uuid fun id => .op .uuid fun uuid => .op .now fun now =>
      .op (.sql (.createApiKey ⟨id, X.hashApiKey ("jrok_" ++ uuid),
        Db.keyPrefix ("jrok_" ++ uuid), some name, now⟩)) fun r =>
          .ret ((r.mapError .database).map fun _ =>
            ⟨id, name, "jrok_" ++ uuid, Db.keyPrefix ("jrok_" ++ uuid), now⟩) := by
  refine congrArg (Prog.op _) (funext fun id => congrArg (Prog.op _) (funext fun uuid =>
    congrArg (Prog.op _) (funext fun now => congrArg (Prog.op _) (funext fun r => ?_))))
  cases r <;> rfl

theorem run_listApiKeys : listApiKeys.run = .op (.sql .listApiKeys) fun r =>
    .ret ((r.mapError .database).map fun keys => keys.map ApiKeyInfo.ofKey) := by
  refine congrArg (Prog.op _) (funext fun r => ?_)
  cases r <;> rfl

theorem run_deleteApiKey (id : String) : (deleteApiKey id).run = .op (.sql (.deleteApiKey id))
    fun r => .ret ((r.mapError .database).map fun _ => "API key deleted") := by
  refine congrArg (Prog.op _) (funext fun r => ?_)
  cases r <;> rfl

/-- The operations of the handlers. -/
inductive KeyOp : Op → Prop where
  | uuid : KeyOp .uuid
  | now : KeyOp .now
  | create (row : ApiKey) : KeyOp (.sql (.createApiKey row))
  | list : KeyOp (.sql .listApiKeys)
  | delete (id : String) : KeyOp (.sql (.deleteApiKey id))
  | validate (keyHash : String) : KeyOp (.sql (.validateApiKey keyHash))

theorem KeyRequest.run_issues (X : Codec) (request : KeyRequest) :
    (request.run X).Issues KeyOp := by
  cases request with
  | create name =>
    refine Prog.Issues.bind ?_ fun _ => trivial
    rw [run_createApiKey]
    exact ⟨.uuid, fun _ => ⟨.uuid, fun _ => ⟨.now, fun _ => ⟨.create _, fun _ => trivial⟩⟩⟩⟩
  | list =>
    refine Prog.Issues.bind ?_ fun _ => trivial
    rw [run_listApiKeys]
    exact ⟨.list, fun _ => trivial⟩
  | delete id =>
    refine Prog.Issues.bind ?_ fun _ => trivial
    rw [run_deleteApiKey]
    exact ⟨.delete id, fun _ => trivial⟩
  | validate key =>
    cases key with
    | none => trivial
    | some key =>
      refine Prog.Issues.bind ?_ fun _ => trivial
      rw [Db.run_validateApiKey]
      exact ⟨.validate _, fun _ => trivial⟩

/-- The row that is inserted for what `create_api_key` answers. -/
def ApiKeyResponse.row (X : Codec) (resp : ApiKeyResponse) : ApiKey where
  id := resp.id
  keyHash := X.hashApiKey resp.key
  keyPrefix := resp.keyPrefix
  name := some resp.name
  createdAt := resp.createdAt

section Paths

variable {X : Codec} {es : List (Event serverSig)}

theorem create_path {name : String} {resp : ApiKeyResponse}
    (h : ((KeyRequest.create name).run X).Path es (.ret (.created (.ok resp)))) :
    ∃ uuid n, es = [⟨.uuid, resp.id⟩, ⟨.uuid, uuid⟩, ⟨.now, resp.createdAt⟩,
        ⟨.sql (.createApiKey (resp.row X)), .ok n⟩] ∧
      resp.name = name ∧ resp.key = "jrok_" ++ uuid ∧
      resp.keyPrefix = Db.keyPrefix resp.key := by
  obtain ⟨es₁, es₂, r, rfl, hrun, hret⟩ := Prog.path_bind_ret_iff.mp h
  obtain ⟨rfl, hr⟩ := Prog.path_ret_iff.mp hret
  obtain rfl := KeyAnswer.created.inj (Prog.ret.inj hr)
  rw [run_createApiKey] at hrun
  obtain ⟨id, es₂, rfl, h₁⟩ := Prog.path_op_ret_iff.mp hrun
  obtain ⟨uuid, es₃, rfl, h₂⟩ := Prog.path_op_ret_iff.mp h₁
  obtain ⟨now, es₄, rfl, h₃⟩ := Prog.path_op_ret_iff.mp h₂
  obtain ⟨result, es₅, rfl, h₄⟩ := Prog.path_op_ret_iff.mp h₃
  obtain ⟨rfl, hresult⟩ := Prog.path_ret_iff.mp h₄
  cases result with
  | error e => cases hresult
  | ok n =>
    obtain rfl := Except.ok.inj (Prog.ret.inj hresult)
    exact ⟨uuid, n, rfl, rfl, rfl, rfl⟩

theorem list_path {infos : List ApiKeyInfo}
    (h : (KeyRequest.list.run X).Path es (.ret (.listed (.ok infos)))) :
    ∃ keys, es = [⟨.sql .listApiKeys, .ok keys⟩] ∧ infos = keys.map ApiKeyInfo.ofKey := by
  obtain ⟨es₁, es₂, r, rfl, hrun, hret⟩ := Prog.path_bind_ret_iff.mp h
  obtain ⟨rfl, hr⟩ := Prog.path_ret_iff.mp hret
  obtain rfl := KeyAnswer.listed.inj (Prog.ret.inj hr)
  rw [run_listApiKeys] at hrun
  obtain ⟨result, es₂, rfl, h₁⟩ := Prog.path_op_ret_iff.mp hrun
  obtain ⟨rfl, hresult⟩ := Prog.path_ret_iff.mp h₁
  cases result with
  | error e => cases hresult
  | ok keys => exact ⟨keys, rfl, Except.ok.inj (Prog.ret.inj hresult)⟩

theorem validate_path {key : String} {b : Bool}
    (h : ((KeyRequest.validate (some key)).run X).Path es (.ret (.validated (.ok b)))) :
    ∃ found, es = [⟨.sql (.validateApiKey (X.hashApiKey key)), .ok found⟩] ∧
      b = found.isSome := by
  obtain ⟨es₁, es₂, r, rfl, hrun, hret⟩ := Prog.path_bind_ret_iff.mp h
  obtain ⟨rfl, hr⟩ := Prog.path_ret_iff.mp hret
  obtain rfl := KeyAnswer.validated.inj (Prog.ret.inj hr)
  rw [Db.run_validateApiKey] at hrun
  obtain ⟨result, es₂, rfl, h₁⟩ := Prog.path_op_ret_iff.mp hrun
  obtain ⟨rfl, hresult⟩ := Prog.path_ret_iff.mp h₁
  cases result with
  | error e => cases hresult
  | ok found => exact ⟨found, rfl, Except.ok.inj (Prog.ret.inj hresult)⟩

/-- A program of one operation performs no other. -/
theorem single_path {α : Type} {o : Op} {f : o.Res → α} {e : Event serverSig} {p : ServerProg α}
    (h : (Prog.op (S := serverSig) o fun r => .ret (f r)).Path (es ++ [e]) p) : e.1 = o := by
  rcases Prog.path_op_snoc_iff.mp h with ⟨-, _, he, -⟩ | ⟨_, _, -, h₁⟩
  · exact congrArg Sigma.fst he
  · exact absurd h₁ Prog.not_path_ret_snoc

/-- A handler that inserts a key has drawn an id and the rest of the key before. -/
theorem insert_path {request : KeyRequest} {row : ApiKey} {r : Except DbError Nat}
    {p : ServerProg KeyAnswer}
    (h : (request.run X).Path (es ++ [⟨.sql (.createApiKey row), r⟩]) p) :
    ∃ (resp : ApiKeyResponse) (uuid : String),
      es = [⟨.uuid, resp.id⟩, ⟨.uuid, uuid⟩, ⟨.now, resp.createdAt⟩] ∧
      resp.key = "jrok_" ++ uuid ∧ row = resp.row X := by
  cases request with
  | create name =>
    obtain ⟨q, hq⟩ := h.of_bind_ret
    rw [run_createApiKey] at hq
    rcases Prog.path_op_snoc_iff.mp hq with ⟨-, _, he, -⟩ | ⟨id, es₁, rfl, h₁⟩
    · cases congrArg Sigma.fst he
    rcases Prog.path_op_snoc_iff.mp h₁ with ⟨-, _, he, -⟩ | ⟨uuid, es₂, rfl, h₂⟩
    · cases congrArg Sigma.fst he
    rcases Prog.path_op_snoc_iff.mp h₂ with ⟨-, _, he, -⟩ | ⟨now, es₃, rfl, h₃⟩
    · cases congrArg Sigma.fst he
    rcases Prog.path_op_snoc_iff.mp h₃ with ⟨rfl, _, he, -⟩ | ⟨_, es₄, rfl, h₄⟩
    · cases congrArg Sigma.fst he
      exact ⟨⟨id, name, "jrok_" ++ uuid, _, now⟩, uuid, rfl, rfl, rfl⟩
    · exact absurd h₄ Prog.not_path_ret_snoc
  | list =>
    obtain ⟨q, hq⟩ := h.of_bind_ret
    rw [run_listApiKeys] at hq
    cases single_path hq
  | delete id =>
    obtain ⟨q, hq⟩ := h.of_bind_ret
    rw [run_deleteApiKey] at hq
    cases single_path hq
  | validate key =>
    cases key with
    | none => exact absurd h Prog.not_path_ret_snoc
    | some key =>
      obtain ⟨q, hq⟩ := h.of_bind_ret
      rw [Db.run_validateApiKey] at hq
      cases single_path hq

end Paths

end Jrok.Api
