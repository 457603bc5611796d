import Exchange.Text

/-! Validation of a draft report for the financial intelligence unit: findings
about fields that are missing and about data that should have been masked. -/
namespace Exchange.Fiu

abbrev ReportId := ℕ
abbrev UserId := ℕ
abbrev CaseId := ℕ
abbrev PackId := ℕ
abbrev AdminId := ℕ

inductive FiuReportType where
  | str
  | ctr
  | ntr
  | cbwtr
  | internalSuspiciousActivitySummary
  deriving DecidableEq, Repr

inductive FiuReportScopeType where
  | user
  | case
  | dateRange
  | transactionSet
  deriving DecidableEq, Repr

inductive FiuValidationSeverity where
  | info
  | warning
  | error
  deriving DecidableEq, Repr

structure ValidationIssue where
  severity : FiuValidationSeverity
  code : String
  field : Option String := none
  message : String
  deriving DecidableEq, Repr

structure ValidationContext where
  reportType : FiuReportType
  scopeType : FiuReportScopeType
  scopeUserId : Option UserId
  scopeCaseId : Option CaseId
  evidencePackId : Option PackId
  narrative : Option Text
  generatedByAdminId : Option AdminId
  hasProfileItem : Bool
  hasCaseItem : Bool
  hasTransactionRefs : Bool
  /-- Serialized payload, scanned for unmasked sensitive data. -/
  payloadString : Text
  deriving DecidableEq, Repr

/-! ## Patterns -/

/-- `\w` -/
def isWordChar (char : Char) : Bool := char.isAlphanum || char = '_'

/-- Classes of characters in a row, and then the end of a word. -/
def startsWord : List (Char → Bool) → Text → Bool
  | [], rest => !(rest.head?.any isWordChar)
  | _ :: _, [] => false
  | accepts :: more, char :: rest => accepts char && startsWord more rest

/-- A whole word of these classes somewhere in the text, after a character. -/
def hasWordAfter (classes : List (Char → Bool)) : Option Char → Text → Bool
  | _, [] => false
  | before, char :: rest =>
    (!before.any isWordChar && startsWord classes (char :: rest)) || hasWordAfter classes (some char) rest

/-- `\b[A-Z]{5}[0-9]{4}[A-Z]\b` -/
def hasRawPan (text : Text) : Bool :=
  hasWordAfter (List.replicate 5 Char.isUpper ++ List.replicate 4 Char.isDigit ++ [Char.isUpper]) none text

/-- `\b[0-9]{12}\b` -/
def hasRawAadhaar (text : Text) : Bool := hasWordAfter (List.replicate 12 Char.isDigit) none text

/-- The names of fields that hold secrets, in lower case. -/
def SECRET_KEYS : List Text :=
  ["password", "passwordhash", "jwtsecret", "privatekey", "databaseurl", "panenc", "aadhaarrefenc"].map String.toList

def isSecretKey (key : Text) : Bool :=
  key ∈ SECRET_KEYS || ("totpsecret".toList.isPrefixOf key && key.all isWordChar)

/-- A quotation mark has been read: a secret's name, its end, and a colon. -/
def startsSecretField (text : Text) : Bool :=
  let key := text.takeWhile fun char => char ≠ '"'
  match text.drop key.length with
  | [] => false
  | _ :: rest => isSecretKey (Text.toLowerCase key) && (rest.dropWhile Text.isSpace).head? = some ':'

/-- The field of a secret somewhere in the text, in upper or lower case. -/
def hasSecretKey : Text → Bool
  | [] => false
  | char :: rest => (char = '"' && startsSecretField rest) || hasSecretKey rest

/-! ## Findings -/

def narrativeRequired (type : FiuReportType) : Bool := type = .str || type = .internalSuspiciousActivitySummary

def findingIf (isFound : Bool) (issue : ValidationIssue) : List ValidationIssue := if isFound then [issue] else []

def validateDraft (ctx : ValidationContext) : List ValidationIssue :=
  findingIf (ctx.scopeUserId.isNone && (ctx.scopeType = .user || ctx.scopeType = .case))
      ⟨.error, "MISSING_SUBJECT_USER", some "scopeUserId", "No subject user resolved for this report scope."⟩ ++
    findingIf (ctx.narrative.all fun narrative => (Text.trim narrative).isEmpty)
      ⟨if narrativeRequired ctx.reportType then .error else .warning, "MISSING_NARRATIVE", some "narrative",
        "Suspicious reason / narrative is missing."⟩ ++
    findingIf (ctx.scopeType = .case && ctx.scopeCaseId.isNone)
      ⟨.error, "MISSING_CASE_REFERENCE", some "scopeCaseId", "Case-scoped report has no case reference."⟩ ++
    findingIf (!ctx.hasTransactionRefs && (ctx.reportType = .ctr || ctx.reportType = .ntr))
      ⟨.warning, "MISSING_TRANSACTION_REFS", none, "No transaction references found for a transaction-based report."⟩ ++
    findingIf (!ctx.hasProfileItem)
      ⟨.warning, "MISSING_KYC_PROFILE", none, "No KYC/compliance profile snapshot is included."⟩ ++
    findingIf ctx.generatedByAdminId.isNone
      ⟨.warning, "MISSING_GENERATED_BY", some "generatedByAdminId", "Report has no generating admin user recorded."⟩ ++
    findingIf ctx.evidencePackId.isNone
      ⟨.info, "NO_EVIDENCE_PACK", some "evidencePackId", "Report was generated without an evidence-pack reference."⟩ ++
    findingIf (hasRawPan ctx.payloadString || hasRawAadhaar ctx.payloadString || hasSecretKey ctx.payloadString)
      ⟨.error, "UNMASKED_SENSITIVE_DATA", none, "Potential unmasked sensitive data / secret detected in the report payload."⟩

def countSeverity (severity : FiuValidationSeverity) (issues : List ValidationIssue) : ℕ :=
  (issues.filter fun issue => issue.severity = severity).length

end Exchange.Fiu
