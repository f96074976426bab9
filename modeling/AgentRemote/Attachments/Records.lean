import AgentRemote.Runtimes.Records

/-!
# Records of session attachments

The leases under which a node transfers attachments into a session, the receipts of their
cleanup, and the rows that an admission and a cleanup check.
-/

namespace AgentRemote.Attachments
open Library PortForwards Runtimes

structure AttachmentLease where
  id : Uuid
  sessionId : Uuid
  userId : Uuid
  nodeId : Uuid
  deviceId : Uuid
  sshKeyId : Uuid
  runtimeBackend : Text
  runtimeResourceId : Option Text
  runtimeScope : Uuid
  status : LeaseStatus
  expiresAt : Instant
  maxBytes : ℕ
  maxEntries : ℕ
  invalidatedAt : Option Instant
  invalidationReason : Option Text
  cleanedAt : Option Instant
  deriving DecidableEq

inductive ReceiptStatus where
  | cleaned
  | pending
  | unknown
  | rejected
  deriving DecidableEq

/-- `pending` or `unknown`. -/
def ReceiptStatus.unsettled : ReceiptStatus → Bool
  | pending | unknown => true
  | _ => false

/-- What a node reports of a cleanup. -/
structure CleanupReport where
  nodeId : Uuid
  sessionId : Uuid
  deviceId : Uuid
  sshKeyId : Uuid
  leaseId : Uuid
  status : ReceiptStatus
  removedBatches : ℕ
  receiptId : Uuid

structure CleanupReceipt where
  id : Uuid
  leaseId : Uuid
  receiptId : Uuid
  sessionId : Uuid
  userId : Uuid
  nodeId : Uuid
  deviceId : Uuid
  sshKeyId : Uuid
  status : ReceiptStatus
  removedBatches : ℕ
  observedAt : Instant

/-- `_receipt_data`. -/
def CleanupReceipt.data (receipt : CleanupReceipt) : CleanupReport where
  nodeId := receipt.nodeId
  sessionId := receipt.sessionId
  deviceId := receipt.deviceId
  sshKeyId := receipt.sshKeyId
  leaseId := receipt.leaseId
  status := receipt.status
  removedBatches := receipt.removedBatches
  receiptId := receipt.receiptId

/-- The tables and the clock. `nextId` is the next identifier that `uuid4` draws. -/
structure AttachmentDb where
  sessions : List Session
  accounts : List Runtimes.ToolAccount
  devices : List PortForwards.UserDevice
  sshKeys : List SshKey
  leases : List AttachmentLease
  receipts : List CleanupReceipt
  nextId : Uuid
  clock : Instant

inductive AttachmentFailure where
  | apiError (code : String) (statusCode : ℕ)
  | integrityError

/-- `attachment_error`, whose message is the same for all. -/
def attachmentError (code : String) (statusCode : ℕ) : AttachmentFailure :=
  .apiError code statusCode

namespace AttachmentDb

variable (db : AttachmentDb)

def getSession (id : Uuid) : Option Session := lookup Session.id db.sessions id

def getAccount (id : Uuid) : Option Runtimes.ToolAccount :=
  lookup Runtimes.ToolAccount.id db.accounts id

def getDevice (id : Uuid) : Option PortForwards.UserDevice :=
  lookup PortForwards.UserDevice.id db.devices id

def getLease (id : Uuid) : Option AttachmentLease := lookup AttachmentLease.id db.leases id

/-- The receipt of a lease. -/
def receiptFor (leaseId : Uuid) : Option CleanupReceipt :=
  lookup CleanupReceipt.leaseId db.receipts leaseId

/-- The device that belongs to the user and is active. -/
def activeDevice (userId deviceId : Uuid) : Option PortForwards.UserDevice :=
  (db.getDevice deviceId).filter fun d => d.userId = userId ∧ d.status = .active

/-- The key that belongs to the device and is active. -/
def activeSshKey (deviceId sshKeyId : Uuid) : Option SshKey :=
  (lookup SshKey.id db.sshKeys sshKeyId).filter fun k =>
    k.userDeviceId = deviceId ∧ k.status = .active

end AttachmentDb

end AgentRemote.Attachments
