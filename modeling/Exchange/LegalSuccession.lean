import Exchange.Legal

/-! One current version of each document, and one acceptance of each document by
each user. Between the write that retires the old one and the write that creates
the new one there is none, and nothing keeps others out. -/
namespace Exchange.Legal.Succession
open Async

/-- What has one live row: a document, or a user's acceptance of one. -/
inductive Slot where
  | document (type : LegalDocumentType)
  | acceptance (userId : UserId) (type : LegalDocumentType)
  deriving DecidableEq, Repr

def LegalDocumentVersion.isOf (type : LegalDocumentType) (row : LegalDocumentVersion) : Bool := row.type = type

def UserLegalAcceptance.isOf (userId : UserId) (type : LegalDocumentType) (row : UserLegalAcceptance) : Bool :=
  row.userId = userId && row.documentType = type

def rowsOf (s : Store) : Slot → ℕ
  | .document type => s.versions.countP (LegalDocumentVersion.isOf type)
  | .acceptance userId type => s.acceptances.countP (UserLegalAcceptance.isOf userId type)

/-- The current versions of a document, or the acceptances that are ACCEPTED. -/
def liveOf (s : Store) : Slot → ℕ
  | .document type => s.versions.countP fun row => LegalDocumentVersion.isOf type row && row.isCurrent
  | .acceptance userId type =>
    s.acceptances.countP fun row => UserLegalAcceptance.isOf userId type row && row.status = .accepted

/-- Where there ever was a row, exactly one is live. -/
def Settled (s : Store) : Prop := ∀ slot, 0 < rowsOf s slot → liveOf s slot = 1

variable {checksumOf : Text → Text} {requests : ℕ → Request} {past later : Past} {x : History} {pid other : ℕ}
  {call : LegalCall} {reply : Except Failure call.Reply} {s s' : Store} {slot slot' : Slot} {pool : LegalPool}

/-! ## What the writes do -/

/-- The slot that a first write empties. -/
def retires : LegalCall → Option Slot
  | .demoteCurrent type => some (.document type)
  | .supersedePrior userId type => some (.acceptance userId type)
  | _ => none

/-- The slot that a second write fills. -/
def fills : LegalCall → Option Slot
  | .createVersion data => some (.document data.type)
  | .createAcceptance data => some (.acceptance data.userId data.documentType)
  | _ => none

theorem countP_map_same {α : Type} {p : α → Bool} {f : α → α} {rows : List α} (same : ∀ row, p (f row) = p row) :
    (rows.map f).countP p = rows.countP p := by
  rw [List.countP_map]
  exact List.countP_congr fun row _ => by rw [Function.comp_apply, same]

theorem countP_map_none {α : Type} {p : α → Bool} {f : α → α} {rows : List α} (none : ∀ row, p (f row) = false) :
    (rows.map f).countP p = 0 := by
  rw [List.countP_eq_zero]
  intro row member
  obtain ⟨row', -, rfl⟩ := List.mem_map.mp member
  simp [none]

theorem retired_document (type : LegalDocumentType) :
    let s' : Store := { s with versions := s.versions.map (demote type) }
    (∀ slot, rowsOf s' slot = rowsOf s slot) ∧ liveOf s' (.document type) = 0 ∧
      ∀ slot ≠ .document type, liveOf s' slot = liveOf s slot := by
  have kind : ∀ row, (demote type row).type = row.type := fun row => by unfold demote; split <;> rfl
  refine ⟨fun slot => ?_, countP_map_none fun row => ?_, fun slot ne => ?_⟩
  · cases slot with
    | document type' => exact countP_map_same fun row => by simp only [LegalDocumentVersion.isOf, kind]
    | acceptance => rfl
  · unfold demote
    split
    · simp
    · rename_i kept
      simpa [LegalDocumentVersion.isOf] using kept
  · cases slot with
    | document type' =>
      refine countP_map_same fun row => ?_
      have differ : type' ≠ type := fun same => ne (same ▸ rfl)
      by_cases isType : row.type = type
      · have not : ¬row.type = type' := fun same => differ (same.symm.trans isType)
        simp [LegalDocumentVersion.isOf, kind, not]
      · rw [demote, if_neg fun both => isType both.1]
    | acceptance => rfl

theorem retired_acceptance (userId : UserId) (type : LegalDocumentType) :
    let s' : Store := { s with acceptances := s.acceptances.map (supersede userId type) }
    (∀ slot, rowsOf s' slot = rowsOf s slot) ∧ liveOf s' (.acceptance userId type) = 0 ∧
      ∀ slot ≠ .acceptance userId type, liveOf s' slot = liveOf s slot := by
  have kind : ∀ row, (supersede userId type row).userId = row.userId ∧
      (supersede userId type row).documentType = row.documentType := fun row => by
    unfold supersede
    split <;> exact ⟨rfl, rfl⟩
  refine ⟨fun slot => ?_, countP_map_none fun row => ?_, fun slot ne => ?_⟩
  · cases slot with
    | document => rfl
    | acceptance => exact countP_map_same fun row => by simp only [UserLegalAcceptance.isOf, kind]
  · unfold supersede
    split
    · simp
    · rename_i kept
      simpa [UserLegalAcceptance.isOf, and_assoc] using kept
  · cases slot with
    | document => rfl
    | acceptance userId' type' =>
      refine countP_map_same fun row => ?_
      have differ : ¬(userId' = userId ∧ type' = type) := fun ⟨same, same'⟩ => ne (by rw [same, same'])
      by_cases isRow : row.userId = userId ∧ row.documentType = type
      · have not : ¬(row.userId = userId' ∧ row.documentType = type') := fun ⟨same, same'⟩ =>
          differ ⟨same.symm.trans isRow.1, same'.symm.trans isRow.2⟩
        have none : UserLegalAcceptance.isOf userId' type' row = false := by
          simpa [UserLegalAcceptance.isOf] using not
        have none' : UserLegalAcceptance.isOf userId' type' (supersede userId type row) = false := by
          simpa only [UserLegalAcceptance.isOf, kind] using none
        rw [none, none', Bool.false_and, Bool.false_and]
      · rw [supersede, if_neg fun ⟨sameUser, sameType, _⟩ => isRow ⟨sameUser, sameType⟩]

/-- What a call does to the slots. -/
inductive Effect (s : Store) : Answered LegalCall LegalCall.Reply Failure → Store → Prop
  | failed {call : LegalCall} {failure : Failure} : Effect s ⟨call, .error failure⟩ s
  | read {call : LegalCall} {value : call.Reply} (neutral : retires call = none) (neutral' : fills call = none) :
      Effect s ⟨call, .ok value⟩ s
  | retired {call : LegalCall} {value : call.Reply} {slot : Slot} {s' : Store} (isSlot : retires call = some slot)
      (rows : ∀ slot, rowsOf s' slot = rowsOf s slot) (emptied : liveOf s' slot = 0)
      (frame : ∀ other ≠ slot, liveOf s' other = liveOf s other) : Effect s ⟨call, .ok value⟩ s'
  | filled {call : LegalCall} {value : call.Reply} {slot : Slot} {s' : Store} (isSlot : fills call = some slot)
      (filled : liveOf s' slot = liveOf s slot + 1)
      (frame : ∀ other ≠ slot, rowsOf s' other = rowsOf s other ∧ liveOf s' other = liveOf s other) :
      Effect s ⟨call, .ok value⟩ s'

theorem Makes.effect (made : Makes pid call s reply s') : Effect s ⟨call, reply⟩ s' := by
  rcases made with ⟨world, ran⟩ | ⟨⟨failure, -, rfl⟩, rfl⟩
  · cases call with
    | listCurrent => cases ran; exact .read rfl rfl
    | findCurrentByType => cases ran; exact .read rfl rfl
    | createAudit => cases ran; exact .read rfl rfl
    | demoteCurrent type =>
      cases ran
      obtain ⟨rows, emptied, frame⟩ := @retired_document s type
      exact .retired rfl rows emptied frame
    | supersedePrior userId type =>
      cases ran
      obtain ⟨rows, emptied, frame⟩ := @retired_acceptance s userId type
      exact .retired rfl rows emptied frame
    | createVersion data =>
      rcases Database.written_cases ran with ⟨value, rfl, ok⟩ | ⟨⟨failure, rfl, -⟩, rfl⟩
      · simp only [createVersion] at ok
        split at ok
        · cases ok
        · cases ok
          refine .filled rfl ?_ fun other ne => ?_
          · simp [liveOf, newVersion, LegalDocumentVersion.isOf]
          · cases other with
            | document type =>
              have differ : ¬data.type = type := fun same => ne (same ▸ rfl)
              simp [rowsOf, liveOf, newVersion, LegalDocumentVersion.isOf, differ]
            | acceptance => exact ⟨rfl, rfl⟩
      · exact .failed
    | createAcceptance data =>
      rcases Database.written_cases ran with ⟨value, rfl, ok⟩ | ⟨⟨failure, rfl, -⟩, rfl⟩
      · simp only [createAcceptance] at ok
        split at ok
        · cases ok
          refine .filled rfl ?_ fun other ne => ?_
          · simp [liveOf, newAcceptance, UserLegalAcceptance.isOf]
          · cases other with
            | document => exact ⟨rfl, rfl⟩
            | acceptance userId type =>
              have differ : ¬(data.userId = userId ∧ data.documentType = type) := fun ⟨same, same'⟩ =>
                ne (by rw [same, same'])
              have none : UserLegalAcceptance.isOf userId type (newAcceptance data) = false := by
                rw [UserLegalAcceptance.isOf, ← Bool.decide_and, decide_eq_false_iff_not]
                exact differ
              simp [rowsOf, liveOf, none]
        · cases ok
      · exact .failed
  · exact .failed

/-! ## What a request does -/

/-- The slot that a request has emptied and not yet filled. -/
def midway : Past → Option Slot
  | ⟨call, .ok _⟩ :: _ => retires call
  | _ => none

/-- The calls a request may make: after a first write comes the second. -/
inductive May (past : Past) : LegalCall → Prop
  | neutral {call : LegalCall} (neutral : fills call = none) (free : midway past = none) : May past call
  | fill {call : LegalCall} {slot : Slot} (isSlot : fills call = some slot) (isMidway : midway past = some slot) :
      May past call

theorem fills_of_retires (isSlot : retires call = some slot) : fills call = none := by
  cases call <;> first | rfl | cases isSlot

theorem retires_of_fills (isSlot : fills call = some slot) : retires call = none := by
  cases call <;> first | rfl | cases isSlot

/-- A program that starts and ends with nothing half done. -/
abbrev Whole {α : Type} (program : LegalM α) : Prop :=
  ∀ past, midway past = none → program.Obeys May (fun later _ => midway later = none) past

theorem whole_pure {α : Type} {value : α} : Whole (pure value : LegalM α) := fun _ free => free

theorem whole_throw {α : Type} {failure : Failure} : Whole (throw failure : LegalM α) := fun _ free => free

theorem whole_ask {call : LegalCall} (neutral : fills call = none) (neutral' : retires call = none) :
    Whole (ask call) := by
  intro past free
  refine ⟨.neutral neutral free, fun reply => ?_⟩
  cases reply with
  | error failure => rfl
  | ok value => exact neutral'

theorem whole_bind {α β : Type} {program : LegalM α} {next : α → LegalM β} (first : Whole program)
    (rest : ∀ value, Whole (next value)) : Whole (program >>= next) := by
  intro past free
  rw [obeys_bind]
  refine (first past free).imp fun later result free => ?_
  cases result with
  | error failure => exact free
  | ok value => exact rest value later free

/-- Two writes that follow each other. -/
theorem whole_pair {α : Type} {call second : LegalCall} {slot : Slot} {next : second.Reply → LegalM α}
    (isFirst : retires call = some slot) (isSecond : fills second = some slot)
    (rest : ∀ value, Whole (next value)) : Whole (ask call >>= fun _ => ask second >>= next) := by
  intro past free
  refine ⟨.neutral (fills_of_retires isFirst) free, fun reply => ?_⟩
  cases reply with
  | error failure => rfl
  | ok value =>
    refine ⟨.fill isSecond isFirst, fun reply => ?_⟩
    cases reply with
    | error failure => rfl
    | ok value => exact rest value _ (retires_of_fills isSecond)

theorem whole_createVersion {data : VersionData} : Whole (createVersionAsCurrent data) := by
  intro past free
  refine ⟨.neutral rfl free, fun reply => ?_⟩
  cases reply with
  | error failure => rfl
  | ok value =>
    refine ⟨.fill rfl rfl, fun reply => ?_⟩
    cases reply <;> rfl

theorem whole_audit : Whole recordAudit := by
  intro past free
  refine ⟨.neutral rfl free, fun reply => ?_⟩
  cases reply <;> rfl

theorem whole_seed {actorId : Option AdminId} (docs : List DefaultDoc) : Whole (seed checksumOf actorId docs) := by
  induction docs with
  | nil => exact whole_pure
  | cons d rest ih => exact whole_bind whole_createVersion fun _ => ih

theorem whole_currentDocuments {actorId : Option AdminId} : Whole (currentDocuments checksumOf actorId) := by
  refine whole_bind (whole_ask rfl rfl) fun docs => ?_
  split
  · refine whole_bind (whole_seed DEFAULT_DOCS) fun _ => ?_
    exact whole_bind (whole_ask rfl rfl) fun _ => whole_pure
  · exact whole_pure

theorem whole_createDocument {input : DocumentInput} : Whole (createDocument checksumOf input) :=
  whole_bind whole_createVersion fun _ => whole_bind whole_audit fun _ => whole_pure

theorem whole_accept {input : AcceptInput} : Whole (accept input) := by
  refine whole_bind (whole_ask rfl rfl) fun current => ?_
  cases current with
  | none => exact whole_throw
  | some current =>
    change Whole (if _ then _ else _)
    split
    · exact whole_throw
    · exact whole_pair rfl rfl fun _ => whole_bind whole_audit fun _ => whole_pure

theorem isRequest_obeys (checksumOf : Text → Text) (pid : ℕ) (program : LegalM Answer)
    (isRequest : IsRequest checksumOf requests pid program) :
    program.Obeys May (fun later _ => midway later = none) [] := by
  rw [isRequest]
  cases requests pid with
  | currentDocuments actorId => exact whole_currentDocuments [] rfl
  | createDocument input => exact whole_createDocument [] rfl
  | accept input => exact whole_accept [] rfl

/-! ## The condition -/

/-- No other request has emptied the slot without filling it. -/
def isAlone (x : History) (pid : ℕ) (slot : Slot) : Bool :=
  x.history.all fun made => made.1 = pid || midway (x.past made.1) ≠ some slot

def isOk : Except Failure α → Bool
  | .ok _ => true
  | .error _ => false

/-- Nobody retires a row while another request is between its two writes, and a
second write fails only where there never was a row. -/
def isOrderly (x : History) (pid : ℕ) (call : LegalCall) (reply : Except Failure call.Reply) : Bool :=
  (retires call).all (isAlone x pid) && (isOk reply || (fills call).all fun slot => rowsOf x.store slot = 0)

def followed (pid : ℕ) (call : LegalCall) (x : History) (reply : Except Failure call.Reply) (s' : Store) : Prop :=
  Makes pid call x.store reply s' ∧ isOrderly x pid call reply

/-! ## The invariant -/

structure Kept (x : History) : Prop where
  exclusive : ∀ pid other slot, midway (x.past pid) = some slot → midway (x.past other) = some slot → pid = other
  emptied : ∀ pid slot, midway (x.past pid) = some slot → liveOf x.store slot = 0
  settled : ∀ slot, 0 < rowsOf x.store slot → liveOf x.store slot = 1 ∨ ∃ pid, midway (x.past pid) = some slot

theorem eq_of_alone (alone : isAlone x pid slot) (isMidway : midway (x.past other) = some slot) : other = pid := by
  cases isPast : x.past other with
  | nil =>
    rw [isPast] at isMidway
    cases isMidway
  | cons made rest =>
    have member : (other, made) ∈ x.history := Logged.mem_past.mp (isPast ▸ List.mem_cons_self)
    have same := List.all_eq_true.mp alone _ member
    simpa [isMidway] using same

/-- Who is midway after a call that leaves its request free: somebody else. -/
theorem midway_other {made : Answered LegalCall LegalCall.Reply Failure} (free : midway (made :: x.past pid) = none)
    (isMidway : midway ((⟨s', (pid, made) :: x.history⟩ : History).past other) = some slot) :
    other ≠ pid ∧ midway (x.past other) = some slot := by
  rw [Logged.past_made] at isMidway
  split at isMidway
  · rw [free] at isMidway
    cases isMidway
  · exact ⟨‹_›, isMidway⟩

theorem midway_stays {made : Answered LegalCall LegalCall.Reply Failure} (ne : other ≠ pid)
    (isMidway : midway (x.past other) = some slot) :
    midway ((⟨s', (pid, made) :: x.history⟩ : History).past other) = some slot := by
  rwa [Logged.past_made, if_neg ne]

/-- Nothing changes, and nothing half done is given up. -/
theorem kept_same {made : Answered LegalCall LegalCall.Reply Failure} (kept : Kept x)
    (free : midway (made :: x.past pid) = none)
    (none : ∀ slot, midway (x.past pid) = some slot → rowsOf x.store slot = 0) :
    Kept ⟨x.store, (pid, made) :: x.history⟩ where
  exclusive a b slot isMidway isMidway' :=
    kept.exclusive a b slot (midway_other free isMidway).2 (midway_other free isMidway').2
  emptied a slot isMidway := kept.emptied a slot (midway_other free isMidway).2
  settled slot rows := by
    rcases kept.settled slot rows with one | ⟨a, isMidway⟩
    · exact .inl one
    · refine .inr ⟨a, midway_stays (fun same => ?_) isMidway⟩
      subst same
      exact rows.ne' (none slot isMidway)

theorem kept_retired {value : call.Reply} (kept : Kept x) (isSlot : retires call = some slot) (alone : isAlone x pid slot)
    (free : midway (x.past pid) = none) (rows : ∀ slot, rowsOf s' slot = rowsOf x.store slot) (emptied : liveOf s' slot = 0)
    (frame : ∀ other ≠ slot, liveOf s' other = liveOf x.store other) :
    Kept ⟨s', (pid, ⟨call, .ok value⟩) :: x.history⟩ := by
  have self : midway ((⟨s', (pid, ⟨call, .ok value⟩) :: x.history⟩ : History).past pid) = some slot := by
    rw [Logged.past_self]
    exact isSlot
  have before : ∀ a slot', midway ((⟨s', (pid, ⟨call, .ok value⟩) :: x.history⟩ : History).past a) = some slot' →
      a = pid ∧ slot' = slot ∨ slot' ≠ slot ∧ midway (x.past a) = some slot' := by
    intro a slot' isMidway
    by_cases same : a = pid
    · subst same
      exact .inl ⟨rfl, Option.some.inj (isMidway.symm.trans self)⟩
    · rw [Logged.past_made, if_neg same] at isMidway
      exact .inr ⟨fun isSame => same (eq_of_alone alone (isSame ▸ isMidway)), isMidway⟩
  refine ⟨fun a b slot' isMidway isMidway' => ?_, fun a slot' isMidway => ?_, fun slot' some => ?_⟩
  · rcases before a slot' isMidway with ⟨rfl, rfl⟩ | ⟨ne, was⟩
    · rcases before b slot' isMidway' with ⟨same, -⟩ | ⟨ne, -⟩
      · exact same.symm
      · exact absurd rfl ne
    · rcases before b slot' isMidway' with ⟨-, same⟩ | ⟨-, was'⟩
      · exact absurd same ne
      · exact kept.exclusive a b slot' was was'
  · rcases before a slot' isMidway with ⟨-, rfl⟩ | ⟨ne, was⟩
    · exact emptied
    · exact (frame slot' ne).trans (kept.emptied a slot' was)
  · by_cases same : slot' = slot
    · exact .inr ⟨pid, same ▸ self⟩
    · rcases kept.settled slot' (rows slot' ▸ some) with one | ⟨a, isMidway⟩
      · exact .inl ((frame slot' same).trans one)
      · refine .inr ⟨a, midway_stays (fun isPid => ?_) isMidway⟩
        subst isPid
        rw [free] at isMidway
        cases isMidway

theorem kept_filled {value : call.Reply} (kept : Kept x) (isSlot : fills call = some slot)
    (isMidway : midway (x.past pid) = some slot) (filled : liveOf s' slot = liveOf x.store slot + 1)
    (frame : ∀ other ≠ slot, rowsOf s' other = rowsOf x.store other ∧ liveOf s' other = liveOf x.store other) :
    Kept ⟨s', (pid, ⟨call, .ok value⟩) :: x.history⟩ := by
  have free : midway (⟨call, .ok value⟩ :: x.past pid) = none := retires_of_fills isSlot
  have apart : ∀ a slot', midway ((⟨s', (pid, ⟨call, .ok value⟩) :: x.history⟩ : History).past a) = some slot' →
      slot' ≠ slot ∧ midway (x.past a) = some slot' := by
    intro a slot' after
    obtain ⟨ne, was⟩ := midway_other free after
    exact ⟨fun same => ne (kept.exclusive a pid slot (same ▸ was) isMidway), was⟩
  refine ⟨fun a b slot' after after' => kept.exclusive a b slot' (apart a slot' after).2 (apart b slot' after').2,
    fun a slot' after => ?_, fun slot' rows => ?_⟩
  · obtain ⟨ne, was⟩ := apart a slot' after
    exact (frame slot' ne).2.trans (kept.emptied a slot' was)
  · by_cases same : slot' = slot
    · subst same
      exact .inl (by rw [filled, kept.emptied pid slot' isMidway])
    · rcases kept.settled slot' ((frame slot' same).1 ▸ rows) with one | ⟨a, was⟩
      · exact .inl ((frame slot' same).2.trans one)
      · refine .inr ⟨a, midway_stays (fun isPid => ?_) was⟩
        subst isPid
        exact same (Option.some.inj (was.symm.trans isMidway))

theorem kept_step (kept : Kept x) (may : May (x.past pid) call) (made : followed pid call x reply s') :
    Kept ⟨s', (pid, ⟨call, reply⟩) :: x.history⟩ := by
  obtain ⟨makes, orderly⟩ := made
  rw [isOrderly, Bool.and_eq_true] at orderly
  cases Makes.effect makes with
  | failed =>
    refine kept_same kept rfl fun slot isMidway => ?_
    cases may with
    | neutral _ free =>
      rw [free] at isMidway
      cases isMidway
    | fill isSlot isMidway' =>
      cases isMidway.symm.trans isMidway'
      simpa [isOk, isSlot] using orderly.2
  | @read _ value neutral neutral' =>
    have free : midway (x.past pid) = none := by
      cases may with
      | neutral _ free => exact free
      | fill isSlot _ =>
        rw [neutral'] at isSlot
        cases isSlot
    refine kept_same kept neutral fun slot isMidway => ?_
    rw [free] at isMidway
    cases isMidway
  | @retired _ value slot _ isSlot rows emptied frame =>
    have alone : isAlone x pid slot := by simpa [isSlot] using orderly.1
    cases may with
    | neutral _ free => exact kept_retired kept isSlot alone free rows emptied frame
    | fill isFill _ =>
      rw [fills_of_retires isSlot] at isFill
      cases isFill
  | @filled _ value slot _ isSlot filled frame =>
    cases may with
    | neutral neutral _ =>
      rw [neutral] at isSlot
      cases isSlot
    | fill isSlot' isMidway =>
      cases isSlot.symm.trans isSlot'
      exact kept_filled kept isSlot isMidway filled frame

/-- While replacements of the same row do not overlap, and none fails between its
two writes, exactly one row is live whenever no request is in flight. -/
theorem one_live (run : Logged.Run followed (IsRequest checksumOf requests) Settled pool) (quiet : pool.Quiet) :
    Settled pool.store.store := by
  have obeys := @isRequest_obeys requests checksumOf
  have kept : Kept pool.store := run.inv obeys
    (fun s settled => ⟨nofun, nofun, fun slot rows => .inl (settled slot rows)⟩)
    fun x pid call reply s' kept may made => kept_step kept may made
  intro slot rows
  refine (kept.settled slot rows).resolve_right ?_
  rintro ⟨pid, isMidway⟩
  rcases (Logged.Run.orderly obeys run).quiet quiet pid with nothing | ⟨result, free⟩
  · rw [nothing] at isMidway
    cases isMidway
  · rw [free] at isMidway
    cases isMidway

/-! ## New versions and acceptances -/

def firstVersion : LegalDocumentVersion := ⟨0, .termsOfService, ['1'], ['t'], ['c'], ['c'], true, none⟩

/-- One document and one user, who has accepted it. -/
def acceptedStore : Store := ⟨[1], [firstVersion], [⟨1, .termsOfService, 0, ['1'], ['c'], .accepted, none, none⟩]⟩

/-- Request 1 makes a new version, the others accept the current one. -/
def renewed : ℕ → Request
  | 1 => .createDocument ⟨.termsOfService, ['2'], ['t'], ['d'], none⟩
  | _ => .accept ⟨1, .termsOfService, none, none, none⟩

/-- Request 1 makes the version that is there. -/
def repeated : ℕ → Request
  | 1 => .createDocument ⟨.termsOfService, ['1'], ['t'], ['c'], none⟩
  | _ => .accept ⟨1, .termsOfService, none, none, none⟩

theorem settled_acceptedStore : Settled acceptedStore := by
  intro slot rows
  cases slot with
  | document type =>
    cases type with
    | termsOfService => rfl
    | _ => cases rows
  | acceptance userId type =>
    by_cases isRow : UserLegalAcceptance.isOf userId type ⟨1, .termsOfService, 0, ['1'], ['c'], .accepted, none, none⟩
    · simp [liveOf, acceptedStore, isRow]
    · simp [rowsOf, acceptedStore, isRow] at rows

/-- A new version, and then its acceptance. -/
theorem version_then_acceptance : ∃ pool : LegalPool, pool.Quiet ∧ pool.store.store.acceptances.length = 2 ∧
    Settled pool.store.store := by
  have played : (Database.schedule perform (fun _ => ()) (fun _ _ => false) (fun pid call x reply => isOrderly x pid call reply)
      (fun pid => handle (fun text => text) (renewed pid)) [1, 2] [(1, 5), (2, 5)] acceptedStore).map (fun pool =>
        (pool.isQuiet, pool.store.store.acceptances.length)) = some (true, 2) := by decide +kernel
  obtain ⟨pool, scheduled, facts⟩ := Option.map_eq_some_iff.mp played
  simp only [Prod.mk.injEq] at facts
  obtain ⟨quiet, length⟩ := facts
  have run : Logged.Run followed (IsRequest (fun text => text) renewed) Settled pool :=
    Database.schedule_run settled_acceptedStore (fun _ => rfl) (fun _ _ _ _ _ allowed makes => ⟨makes, allowed⟩) scheduled
  exact ⟨pool, Pool.quiet_of_isQuiet quiet, length, one_live run (Pool.quiet_of_isQuiet quiet)⟩

/-- A version that is there cannot be made again, but the current one is demoted;
and of two acceptances at once both are ACCEPTED. -/
theorem not_one_live :
    (¬∀ pool : LegalPool, Logged.Run interleaved (IsRequest (fun text => text) repeated) Settled pool → pool.Quiet →
      Settled pool.store.store) ∧
    ¬∀ pool : LegalPool, Logged.Run interleaved (IsRequest (fun text => text) renewed) Settled pool → pool.Quiet →
      Settled pool.store.store := by
  constructor
  · intro settled
    have played : (Database.schedule perform (fun _ => ()) (fun _ _ => false) (fun _ _ _ _ => true)
        (fun pid => handle (fun text => text) (repeated pid)) [1] [(1, 5)] acceptedStore).map (fun pool =>
          (pool.isQuiet, rowsOf pool.store.store (.document .termsOfService),
            liveOf pool.store.store (.document .termsOfService))) = some (true, 1, 0) := by decide +kernel
    obtain ⟨pool, scheduled, facts⟩ := Option.map_eq_some_iff.mp played
    simp only [Prod.mk.injEq] at facts
    obtain ⟨quiet, rows, none⟩ := facts
    have run : Logged.Run interleaved (IsRequest (fun text => text) repeated) Settled pool :=
      Database.schedule_run settled_acceptedStore (fun _ => rfl) (fun _ _ _ _ _ _ makes => makes) scheduled
    have one := settled pool run (Pool.quiet_of_isQuiet quiet) (.document .termsOfService) (by rw [rows]; decide)
    rw [none] at one
    cases one
  · intro settled
    have played : (Database.schedule perform (fun _ => ()) (fun _ _ => false) (fun _ _ _ _ => true)
        (fun pid => handle (fun text => text) (renewed pid)) [2, 3] [(2, 2), (3, 2), (2, 5), (3, 5)] acceptedStore).map
        (fun pool => (pool.isQuiet, rowsOf pool.store.store (.acceptance 1 .termsOfService),
          liveOf pool.store.store (.acceptance 1 .termsOfService))) = some (true, 3, 2) := by decide +kernel
    obtain ⟨pool, scheduled, facts⟩ := Option.map_eq_some_iff.mp played
    simp only [Prod.mk.injEq] at facts
    obtain ⟨quiet, rows, two⟩ := facts
    have run : Logged.Run interleaved (IsRequest (fun text => text) renewed) Settled pool :=
      Database.schedule_run settled_acceptedStore (fun _ => rfl) (fun _ _ _ _ _ _ makes => makes) scheduled
    have one := settled pool run (Pool.quiet_of_isQuiet quiet) (.acceptance 1 .termsOfService) (by rw [rows]; decide)
    rw [two] at one
    cases one

end Exchange.Legal.Succession
