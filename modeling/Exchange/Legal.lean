import Exchange.AsyncDatabase
import Exchange.Table
import Exchange.Text

/-! Legal documents and their acceptance by users. A new version of a document,
and a new acceptance, take the place of the old one: the old one is retired by
one write, and the new one created by the next. -/
namespace Exchange.Legal
open Async

abbrev UserId := ℕ
abbrev AdminId := ℕ
abbrev VersionId := ℕ

inductive LegalDocumentType where
  | termsOfService
  | privacyPolicy
  | riskDisclosure
  | amlPolicyNotice
  | feePolicy
  | taxDisclosure
  deriving DecidableEq, Repr

/-- The order in which types are listed. -/
def LegalDocumentType.order : LegalDocumentType → ℕ
  | .termsOfService => 0
  | .privacyPolicy => 1
  | .riskDisclosure => 2
  | .amlPolicyNotice => 3
  | .feePolicy => 4
  | .taxDisclosure => 5

inductive LegalAcceptanceStatus where
  | accepted
  | revoked
  | superseded
  deriving DecidableEq, Repr

structure LegalDocumentVersion where
  id : VersionId
  type : LegalDocumentType
  version : Text
  title : Text
  content : Text
  checksum : Text
  isCurrent : Bool
  createdByAdminId : Option AdminId
  deriving DecidableEq, Repr

structure UserLegalAcceptance where
  userId : UserId
  documentType : LegalDocumentType
  documentVersionId : VersionId
  version : Text
  checksum : Text
  status : LegalAcceptanceStatus
  ip : Option Text
  userAgent : Option Text
  deriving DecidableEq, Repr

/-- No row is ever deleted. -/
structure Store where
  users : List UserId
  /-- Latest first. -/
  versions : List LegalDocumentVersion
  acceptances : List UserLegalAcceptance
  deriving DecidableEq

/-! ## Writes -/

/-- What a new version is created from; it is current. -/
structure VersionData where
  type : LegalDocumentType
  version : Text
  title : Text
  content : Text
  checksum : Text
  createdByAdminId : Option AdminId
  deriving DecidableEq, Repr

/-- What a new acceptance is created from. -/
structure AcceptanceData where
  userId : UserId
  documentType : LegalDocumentType
  documentVersionId : VersionId
  version : Text
  checksum : Text
  ip : Option Text
  userAgent : Option Text
  deriving DecidableEq, Repr

def demote (type : LegalDocumentType) (row : LegalDocumentVersion) : LegalDocumentVersion :=
  if row.type = type ∧ row.isCurrent then { row with isCurrent := false } else row

def newVersion (data : VersionData) (id : VersionId) : LegalDocumentVersion where
  id := id
  type := data.type
  version := data.version
  title := data.title
  content := data.content
  checksum := data.checksum
  isCurrent := true
  createdByAdminId := data.createdByAdminId

/-- A version of a document has its name once. -/
def createVersion (data : VersionData) (s : Store) : Except Failure (VersionId × Store) :=
  if s.versions.any fun row => row.type = data.type && row.version = data.version then .error .uniqueViolation
  else .ok (s.versions.length, { s with versions := newVersion data s.versions.length :: s.versions })

def supersede (userId : UserId) (type : LegalDocumentType) (row : UserLegalAcceptance) : UserLegalAcceptance :=
  if row.userId = userId ∧ row.documentType = type ∧ row.status = .accepted then { row with status := .superseded }
  else row

def newAcceptance (data : AcceptanceData) : UserLegalAcceptance where
  userId := data.userId
  documentType := data.documentType
  documentVersionId := data.documentVersionId
  version := data.version
  checksum := data.checksum
  status := .accepted
  ip := data.ip
  userAgent := data.userAgent

def createAcceptance (data : AcceptanceData) (s : Store) : Except Failure (Unit × Store) :=
  if data.userId ∈ s.users && s.versions.any fun row => row.id = data.documentVersionId then
    .ok ((), { s with acceptances := newAcceptance data :: s.acceptances })
  else .error (.prisma "P2003")

/-! ## Calls -/

inductive LegalCall where
  | listCurrent
  | findCurrentByType (type : LegalDocumentType)
  | demoteCurrent (type : LegalDocumentType)
  | createVersion (data : VersionData)
  | supersedePrior (userId : UserId) (type : LegalDocumentType)
  | createAcceptance (data : AcceptanceData)
  /-- Into a table that is not read here. -/
  | createAudit
  deriving DecidableEq, Repr

abbrev LegalCall.Reply : LegalCall → Type
  | .listCurrent => List LegalDocumentVersion
  | .findCurrentByType _ => Option LegalDocumentVersion
  | .createVersion _ => VersionId
  | _ => Unit

def listCurrent (s : Store) : List LegalDocumentVersion :=
  (s.versions.filter LegalDocumentVersion.isCurrent).insertionSort fun a b => a.type.order ≤ b.type.order

def perform (_ : Unit) (_ : ℕ) : (call : LegalCall) → Store → Except Failure call.Reply × Store
  | .listCurrent, s => (.ok (listCurrent s), s)
  | .findCurrentByType type, s => (.ok (s.versions.find? fun row => row.type = type && row.isCurrent), s)
  | .demoteCurrent type, s => (.ok (), { s with versions := s.versions.map (demote type) })
  | .createVersion data, s => Database.written s (createVersion data s)
  | .supersedePrior userId type, s => (.ok (), { s with acceptances := s.acceptances.map (supersede userId type) })
  | .createAcceptance data, s => Database.written s (createAcceptance data s)
  | .createAudit, s => (.ok (), s)

abbrev LegalM := Async LegalCall LegalCall.Reply Failure

abbrev ask (call : LegalCall) : LegalM call.Reply := Async.call call

/-! ## The service -/

/-- Demote the current versions of this type, then create the new one. -/
def createVersionAsCurrent (data : VersionData) : LegalM VersionId := do
  ask (.demoteCurrent data.type)
  ask (.createVersion data)

/-- A log that cannot be written is no error. -/
def recordAudit : LegalM Unit := tryCatch (ask .createAudit) fun _ => return ()

structure DefaultDoc where
  type : LegalDocumentType
  title : Text
  content : Text

def DEFAULT_DOCS : List DefaultDoc :=
  [⟨.termsOfService, "Terms of Service".toList,
      "EXORA staging Terms of Service (placeholder). Use of this staging service is for demo/testing only.".toList⟩,
    ⟨.privacyPolicy, "Privacy Policy".toList,
      "EXORA staging Privacy Policy (placeholder). Describes how data is processed in this demo environment.".toList⟩,
    ⟨.riskDisclosure, "Risk Disclosure".toList,
      "Trading virtual digital assets carries risk. This is a staging/demo disclosure (placeholder).".toList⟩,
    ⟨.amlPolicyNotice, "AML / KYC Consent Notice".toList,
      "EXORA performs KYC and AML/CFT screening. By proceeding you consent to compliance processing (placeholder).".toList⟩,
    ⟨.feePolicy, "Fee Policy".toList,
      "Trading, deposit and withdrawal fees apply per the published schedule (placeholder).".toList⟩,
    ⟨.taxDisclosure, "Tax Disclosure".toList,
      ("TDS on virtual digital assets may apply (illustrative). " ++
        "This is calculation-only in staging and not tax advice (placeholder).").toList⟩]

/-- What a request answers. -/
inductive Answer where
  | documents (versions : List LegalDocumentVersion)
  | created (id : VersionId)
  | accepted
  deriving DecidableEq

section Service
variable (checksumOf : Text → Text)

def seed (actorId : Option AdminId) : List DefaultDoc → LegalM Unit
  | [] => return ()
  | d :: rest => do
    let _ ← createVersionAsCurrent ⟨d.type, ['v', '1'], d.title, d.content, checksumOf d.content, actorId⟩
    seed actorId rest

/-- The live documents; on first access version 1 of each type is made. -/
def currentDocuments (actorId : Option AdminId) : LegalM Answer := do
  let docs ← ask .listCurrent
  if docs.isEmpty then do
    seed checksumOf actorId DEFAULT_DOCS
    let docs ← ask .listCurrent
    return .documents docs
  else return .documents docs

structure DocumentInput where
  type : LegalDocumentType
  version : Text
  title : Text
  content : Text
  actorId : Option AdminId := none
  deriving DecidableEq, Repr

def createDocument (input : DocumentInput) : LegalM Answer := do
  let id ← createVersionAsCurrent
    ⟨input.type, input.version, input.title, input.content, checksumOf input.content, input.actorId⟩
  recordAudit
  return .created id

structure AcceptInput where
  userId : UserId
  documentType : LegalDocumentType
  version : Option Text := none
  ip : Option Text := none
  userAgent : Option Text := none
  deriving DecidableEq, Repr

def staleVersion : Failure := .badRequestError "Only the current version can be accepted"

/-- An empty version names none. -/
def AcceptInput.isStale (input : AcceptInput) (current : LegalDocumentVersion) : Bool :=
  input.version.any fun version => !version.isEmpty && version ≠ current.version

def acceptVersion (input : AcceptInput) (current : LegalDocumentVersion) : LegalM Answer := do
  ask (.supersedePrior input.userId input.documentType)
  ask (.createAcceptance ⟨input.userId, input.documentType, current.id, current.version, current.checksum, input.ip,
    input.userAgent⟩)
  recordAudit
  return .accepted

def accept (input : AcceptInput) : LegalM Answer := do
  let current ← ask (.findCurrentByType input.documentType)
  match current with
  | none => throw (.notFoundError "No current version for this document type")
  | some current => if input.isStale current then throw staleVersion else acceptVersion input current

/-! ## Requests -/

inductive Request where
  | currentDocuments (actorId : Option AdminId)
  | createDocument (input : DocumentInput)
  | accept (input : AcceptInput)
  deriving DecidableEq, Repr

def handle : Request → LegalM Answer
  | .currentDocuments actorId => currentDocuments checksumOf actorId
  | .createDocument input => createDocument checksumOf input
  | .accept input => accept input

def IsRequest (requests : ℕ → Request) (pid : ℕ) (program : LegalM Answer) : Prop :=
  program = handle checksumOf (requests pid)

end Service

abbrev History := Logged ℕ LegalCall LegalCall.Reply Failure Store

abbrev Past := List (Answered LegalCall LegalCall.Reply Failure)

abbrev LegalPool := Pool ℕ LegalCall LegalCall.Reply Failure Answer History

/-- A call as a request may see it. A request that crashes loses its next call. -/
abbrev Makes (pid : ℕ) (call : LegalCall) (s : Store) (reply : Except Failure call.Reply) (s' : Store) : Prop :=
  Database.Makes perform pid call s reply s'

/-- Any call at any time. -/
def interleaved (pid : ℕ) (call : LegalCall) (x : History) (reply : Except Failure call.Reply) (s' : Store) : Prop :=
  Makes pid call x.store reply s'

end Exchange.Legal
