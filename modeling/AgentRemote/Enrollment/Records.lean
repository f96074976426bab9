import AgentRemote.PortForwards.Service

/-!
# Records of node enrollment

The nodes and their one-time join codes. A join code and its hash are one text; a node token,
its hash and its encrypted copy are one number.
-/

namespace AgentRemote.Enrollment
open Library PortForwards

structure Node where
  id : Uuid
  status : NodeStatus
  version : Option Text
  runtimeCapabilities : JsonObject
  egoBrowserEnabled : Bool
  registrationToken : Option Uuid
  nodeToken : Option Uuid
  lastHeartbeatAt : Option Instant

structure NodeJoinCode where
  id : Uuid
  nodeId : Uuid
  code : Text
  serverOrigin : Text
  releaseProfile : Option Text
  wrapperVersion : Option Text
  skillVersion : Option Text
  runtimeVersion : Option Text
  artifactDigest : Option Text
  profileDigest : Option Text
  egoBrowserEnabled : Option Bool
  exchangeId : Option Text
  expiresAt : Instant
  consumedAt : Option Instant
  revokedAt : Option Instant
  nodeToken : Option Uuid
  exchangeResultExpiresAt : Option Instant

/-- The nodes before the first join code, whose tokens were drawn before `nextId`. -/
structure NodeFleet where
  nodes : List Node
  nextId : Uuid
  drawn : ∀ n ∈ nodes, ∀ token ∈ n.nodeToken, token < nextId

structure EnrollmentDb where
  nodes : List Node
  joinCodes : List NodeJoinCode
  nextId : Uuid
  clock : Instant

inductive EnrollmentFailure where
  | apiError (code message : String) (statusCode : ℕ)
  | assertionError
  | integrityError
  | staleDataError

namespace EnrollmentDb

variable (db : EnrollmentDb)

def getNode (id : Uuid) : Option Node := lookup Node.id db.nodes id

def byExchange (exchangeId : Text) : Option NodeJoinCode :=
  db.joinCodes.find? (·.exchangeId = some exchangeId)

def byCode (code : Text) : Option NodeJoinCode := lookup NodeJoinCode.code db.joinCodes code

/-- Whether another row than that under `id` has the exchange identifier. -/
def exchangeTaken (exchangeId : Text) (id : Uuid) : Bool :=
  db.joinCodes.any fun k => k.exchangeId = some exchangeId ∧ k.id ≠ id

/-- The row of a node after an update that changed a copy from `copy` to `new`. -/
def updateNode (copy new : Node) : EnrollmentDb :=
  { db with nodes := db.nodes.map fun row =>
      if row.id = copy.id then
        { row with
          status := column copy.status new.status row.status
          version := column copy.version new.version row.version
          egoBrowserEnabled :=
            column copy.egoBrowserEnabled new.egoBrowserEnabled row.egoBrowserEnabled
          registrationToken :=
            column copy.registrationToken new.registrationToken row.registrationToken
          nodeToken := column copy.nodeToken new.nodeToken row.nodeToken
          lastHeartbeatAt := column copy.lastHeartbeatAt new.lastHeartbeatAt row.lastHeartbeatAt }
      else row }

/-- The row of a join code after an update that changed a copy from `copy` to `new`. -/
def updateJoinCode (copy new : NodeJoinCode) : EnrollmentDb :=
  { db with joinCodes := db.joinCodes.map fun row =>
      if row.id = copy.id then
        { row with
          exchangeId := column copy.exchangeId new.exchangeId row.exchangeId
          consumedAt := column copy.consumedAt new.consumedAt row.consumedAt
          revokedAt := column copy.revokedAt new.revokedAt row.revokedAt
          nodeToken := column copy.nodeToken new.nodeToken row.nodeToken
          exchangeResultExpiresAt := column copy.exchangeResultExpiresAt
            new.exchangeResultExpiresAt row.exchangeResultExpiresAt }
      else row }

end EnrollmentDb

end AgentRemote.Enrollment
