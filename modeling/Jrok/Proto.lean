import Mathlib.Data.List.AList

/-!
# NAT information and the agent protocol

The NAT classification of `nat/mod.rs` and the messages of `proto.rs`. A hash map is an
association list without duplicate keys; a frame that does not parse as a `Message` is `none`.
-/

namespace Jrok

/-- A `HashMap<String, α>`. -/
abbrev StringMap (α : Type) := AList fun _ : String => α

/-- `nat::NatType`. -/
inductive NatType where
  | openNat
  | fullCone
  | restrictedCone
  | portRestrictedCone
  | symmetric
  | unknown
  deriving DecidableEq, Repr

/-- `nat::NatInfo`. -/
structure NatInfo where
  localAddr : String
  publicIp : String
  publicPort : UInt16
  natType : NatType
  hairpinning : Bool
  deriving DecidableEq, Repr

/-- `proto::NatTypeSer`. -/
inductive NatTypeSer where
  | openNat
  | fullCone
  | restrictedCone
  | portRestrictedCone
  | symmetric
  | unknown
  deriving DecidableEq, Repr

/-- `proto::NatInfoSer`. -/
structure NatInfoSer where
  localAddr : String
  publicIp : String
  publicPort : UInt16
  natType : NatTypeSer
  hairpinning : Bool
  deriving DecidableEq, Repr

/-- `NatTypeSer::from(NatType)`. -/
def NatTypeSer.ofType : NatType → NatTypeSer
  | .openNat => .openNat
  | .fullCone => .fullCone
  | .restrictedCone => .restrictedCone
  | .portRestrictedCone => .portRestrictedCone
  | .symmetric => .symmetric
  | .unknown => .unknown

/-- `NatInfoSer::from(NatInfo)`. -/
def NatInfoSer.ofInfo (info : NatInfo) : NatInfoSer where
  localAddr := info.localAddr
  publicIp := info.publicIp
  publicPort := info.publicPort
  natType := .ofType info.natType
  hairpinning := info.hairpinning

/-- `NatType::from(NatTypeSer)`. -/
def NatType.ofSer : NatTypeSer → NatType
  | .openNat => .openNat
  | .fullCone => .fullCone
  | .restrictedCone => .restrictedCone
  | .portRestrictedCone => .portRestrictedCone
  | .symmetric => .symmetric
  | .unknown => .unknown

/-- `NatInfo::from(NatInfoSer)`. -/
def NatInfo.ofSer (info : NatInfoSer) : NatInfo where
  localAddr := info.localAddr
  publicIp := info.publicIp
  publicPort := info.publicPort
  natType := .ofSer info.natType
  hairpinning := info.hairpinning

/-- `proto::Message`. -/
inductive Message where
  | register (subdomain : String) (localPort : UInt16) (localHost protocol apiKey : String)
  | welcome (agentId subdomain protocol : String)
  | error (message : String)
  | httpRequest (requestId method path : String) (headers : StringMap String)
      (body : Option (List UInt8))
  | httpResponse (requestId : String) (status : UInt16) (headers : StringMap String)
      (body : Option (List UInt8))
  | heartbeat
  | heartbeatAck
  | tcpListenRequest (sessionId : String) (clientNat : Option NatInfoSer)
  | tcpListenResponse (sessionId endpoint : String) (agentNat : Option NatInfoSer)
  | connectionEstablished (sessionId : String) (direct : Bool)
  | tcpConnect (connectionId clientIp : String)
  | tcpData (connectionId data : String)
  | tcpDisconnect (connectionId : String)
  deriving DecidableEq

/-- `agent::registry::HttpResponse`, what a waiting request receives. -/
structure HttpResponse where
  status : UInt16
  headers : StringMap String
  body : List UInt8
  deriving DecidableEq

end Jrok
