import Exchange.AsyncPool
import Exchange.Failure
import Exchange.Text

/-! The allocation of deposit addresses. The next index of a chain is read, an
address is derived from it, and a row is inserted; whoever inserts first has the
index, and the others start over. A read may be of any earlier state of the
table, and an insert that was committed may be answered with an error. -/
namespace Exchange.Wallet
open Async

/-- `chains.id`. -/
abbrev ChainId := Text

inductive ChainFamily where
  | evm
  | tron
  deriving DecidableEq, Repr

structure Chain where
  id : ChainId
  family : ChainFamily
  deriving DecidableEq, Repr

structure DepositAddress where
  userId : ℕ
  chain : ChainId
  address : Text
  derivationIndex : ℕ
  isActive : Bool
  deriving DecidableEq, Repr

structure Store where
  /-- Of the table of deposit addresses, the newest first. -/
  rows : List DepositAddress
  deriving DecidableEq, Repr

/-- The chains there are, and the provider of addresses. -/
structure Deployment where
  /-- The chain that an input names, by letters of either case. -/
  chainNamed : Text → Option ChainId
  family : ChainId → ChainFamily
  deriveAddress : ChainId → ChainFamily → ℕ → Text

/-! ## The service -/

inductive WalletCall where
  | findActiveChain (chain : Text)
  | chainHasSupportedAsset (chain : ChainId)
  | findActiveAddress (userId : ℕ) (chain : ChainId)
  | nextDerivationIndex (chain : ChainId)
  | deriveAddress (chain : ChainId) (family : ChainFamily) (derivationIndex : ℕ)
  | createAddress (userId : ℕ) (chain : ChainId) (address : Text) (derivationIndex : ℕ)
  | recordAudit (userId : ℕ) (row : DepositAddress)

abbrev WalletCall.Reply : WalletCall → Type
  | .findActiveChain _ => Option Chain
  | .chainHasSupportedAsset _ => Bool
  | .findActiveAddress _ _ => Option DepositAddress
  | .nextDerivationIndex _ => ℕ
  | .deriveAddress _ _ _ => Text
  | .createAddress _ _ _ _ => DepositAddress
  | .recordAudit _ _ => Unit

abbrev WalletM := Async WalletCall WalletCall.Reply Failure

def ask (call : WalletCall) : WalletM call.Reply := Async.call call

structure Response where
  address : DepositAddress
  created : Bool
  deriving DecidableEq, Repr

def MAX_ALLOC_ATTEMPTS : ℕ := 3

def isUniqueViolation (err : Failure) : Bool := err = .uniqueViolation

def isSerializationError (err : Failure) : Bool := err = .writeConflict

def allocationRetry : Failure :=
  .appError "Could not allocate a deposit address; please retry" 409 "ADDRESS_ALLOCATION_RETRY"

/-- The transaction, and the audit of what it created. The insert comes last in
the transaction and is committed with it. -/
def attempt (userId : ℕ) (chain : Chain) : WalletM Response := do
  let active ← ask (.findActiveAddress userId chain.id)
  match active with
  | some row => return ⟨row, false⟩
  | none => do
    let derivationIndex ← ask (.nextDerivationIndex chain.id)
    let address ← ask (.deriveAddress chain.id chain.family derivationIndex)
    let row ← ask (.createAddress userId chain.id address derivationIndex)
    ask (.recordAudit userId row)
    return ⟨row, true⟩

/-- With so many attempts left. -/
def allocate (userId : ℕ) (chain : Chain) : ℕ → WalletM Response
  | 0 => throw allocationRetry
  | attempts + 1 => do
    let result ← (attempt userId chain).settled
    match result with
    | .ok response => return response
    | .error err =>
      if isUniqueViolation err then do
        let active ← ask (.findActiveAddress userId chain.id)
        match active with
        | some row => return ⟨row, false⟩
        | none => allocate userId chain attempts
      else if isSerializationError err then allocate userId chain attempts
      else throw err

def chainNotSupported (chain : Text) (complaint : String) : Failure :=
  .appError ("Chain '" ++ String.ofList chain ++ "' " ++ complaint) 422 "CHAIN_NOT_SUPPORTED"

def requestDepositAddress (userId : ℕ) (chainInput : Text) : WalletM Response := do
  let chain ← ask (.findActiveChain chainInput)
  match chain with
  | none => throw (chainNotSupported chainInput "is not supported or is inactive")
  | some chain => do
    let supported ← ask (.chainHasSupportedAsset chain.id)
    if !supported then throw (chainNotSupported chain.id "has no depositable assets")
    else do
      let existing ← ask (.findActiveAddress userId chain.id)
      match existing with
      | some row => return ⟨row, false⟩
      | none => allocate userId chain MAX_ALLOC_ATTEMPTS

/-! ## What the calls do -/

/-- `max + 1`, or the first index. -/
def nextIndex (chain : ChainId) (rows : List DepositAddress) : ℕ :=
  match ((rows.filter fun row => row.chain = chain).map DepositAddress.derivationIndex).max? with
  | some highest => highest + 1
  | none => 0

/-- The row is the active address of the user on the chain. -/
def IsActiveOf (userId : ℕ) (chain : ChainId) (row : DepositAddress) : Prop :=
  row.userId = userId ∧ row.chain = chain ∧ row.isActive = true

/-- No unique constraint is violated: one active address a user and chain, and
one row a chain and index. -/
def Admitted (row : DepositAddress) (rows : List DepositAddress) : Prop :=
  ∀ other ∈ rows, ¬(IsActiveOf row.userId row.chain other ∧ row.isActive = true) ∧
    ¬(other.chain = row.chain ∧ other.derivationIndex = row.derivationIndex)

/-- A new row is active. -/
def newRow (userId : ℕ) (chain : ChainId) (address : Text) (derivationIndex : ℕ) : DepositAddress :=
  ⟨userId, chain, address, derivationIndex, true⟩

inductive Effect (deployment : Deployment) : (call : WalletCall) → Store → Except Failure call.Reply → Store → Prop
  | failed {call s failure} : Effect deployment call s (.error failure) s
  | found {chain input s} : deployment.chainNamed input = some chain.id → deployment.family chain.id = chain.family →
      Effect deployment (.findActiveChain input) s (.ok (some chain)) s
  | notFound {input s} : Effect deployment (.findActiveChain input) s (.ok none) s
  | supported {chain s answer} : Effect deployment (.chainHasSupportedAsset chain) s (.ok answer) s
  | active {userId chain s row} : row ∈ s.rows → IsActiveOf userId chain row →
      Effect deployment (.findActiveAddress userId chain) s (.ok (some row)) s
  | noneActive {userId chain s past} : past <:+ s.rows → (∀ row ∈ past, ¬IsActiveOf userId chain row) →
      Effect deployment (.findActiveAddress userId chain) s (.ok none) s
  | next {chain s past} : past <:+ s.rows →
      Effect deployment (.nextDerivationIndex chain) s (.ok (nextIndex chain past)) s
  | derived {chain family derivationIndex s} :
      Effect deployment (.deriveAddress chain family derivationIndex) s
        (.ok (deployment.deriveAddress chain family derivationIndex)) s
  | created {userId chain address derivationIndex s} :
      Admitted (newRow userId chain address derivationIndex) s.rows →
      Effect deployment (.createAddress userId chain address derivationIndex) s
        (.ok (newRow userId chain address derivationIndex)) ⟨newRow userId chain address derivationIndex :: s.rows⟩
  | createdUnheard {userId chain address derivationIndex s failure} :
      Admitted (newRow userId chain address derivationIndex) s.rows →
      Effect deployment (.createAddress userId chain address derivationIndex) s (.error failure)
        ⟨newRow userId chain address derivationIndex :: s.rows⟩
  | audited {userId row s} : Effect deployment (.recordAudit userId row) s (.ok ()) s

/-! ## Requests in flight -/

structure Request where
  userId : ℕ
  chainInput : Text

def IsRequest (requests : ℕ → Request) (pid : ℕ) (program : WalletM Response) : Prop :=
  program = requestDepositAddress (requests pid).userId (requests pid).chainInput

/-- How many rows a chain has. -/
def countOf (chain : ChainId) (rows : List DepositAddress) : ℕ := (rows.filter fun row => row.chain = chain).length

/-- Each row got the index that was next, and the address that goes with it, for
a user without one. -/
def Allocated (deployment : Deployment) : List DepositAddress → Prop
  | [] => True
  | row :: rest =>
    row.derivationIndex = countOf row.chain rest ∧
      row.address = deployment.deriveAddress row.chain (deployment.family row.chain) row.derivationIndex ∧
      row.isActive = true ∧ (∀ other ∈ rest, ¬IsActiveOf row.userId row.chain other) ∧ Allocated deployment rest

def protocol (deployment : Deployment) : Protocol ℕ WalletCall WalletCall.Reply Failure Store where
  step _ call s reply s' := Effect deployment call s reply s'
  inv s := Allocated deployment s.rows
  rely _ s s' := s.rows <:+ s'.rows
  guarantee _ s s' := s.rows <:+ s'.rows

/-- No address yet. -/
def Fresh (s : Store) : Prop := s.rows = []

section
variable {deployment : Deployment} {rows past : List DepositAddress} {chain : ChainId}

theorem Allocated.suffix (allocated : Allocated deployment rows) (earlier : past <:+ rows) :
    Allocated deployment past := by
  induction rows with
  | nil =>
    rw [List.suffix_nil.mp earlier]
    trivial
  | cons row rest each =>
    rcases List.suffix_cons_iff.mp earlier with rfl | earlier
    · exact allocated
    · exact each allocated.2.2.2.2 earlier

theorem countOf_cons (row : DepositAddress) :
    countOf chain (row :: rows) = countOf chain rows + if row.chain = chain then 1 else 0 := by
  rw [countOf, List.filter_cons]
  by_cases same : row.chain = chain <;> simp [same, countOf]

theorem countOf_mono (earlier : past <:+ rows) : countOf chain past ≤ countOf chain rows :=
  (earlier.sublist.filter _).length_le

/-- The indices of a chain, the newest first. -/
theorem Allocated.indices (allocated : Allocated deployment rows) :
    (rows.filter fun row => row.chain = chain).map DepositAddress.derivationIndex =
      (List.range (countOf chain rows)).reverse := by
  induction rows with
  | nil => rfl
  | cons row rest each =>
    rw [countOf_cons, List.filter_cons]
    by_cases same : row.chain = chain
    · subst same
      rw [if_pos (decide_eq_true rfl), if_pos rfl, List.map_cons, each allocated.2.2.2.2, allocated.1,
        List.range_succ, List.reverse_concat]
    · rw [if_neg (by simpa using same), if_neg same, each allocated.2.2.2.2, Nat.add_zero]

theorem max?_range_reverse (n : ℕ) : (List.range (n + 1)).reverse.max? = some n := by
  rw [List.max?_eq_some_iff]
  constructor
  · simp
  · intro m member
    simp only [List.mem_reverse, List.mem_range] at member
    omega

/-- What is read as next is the number of rows there were. -/
theorem Allocated.nextIndex_eq (allocated : Allocated deployment rows) : nextIndex chain rows = countOf chain rows := by
  rw [nextIndex, allocated.indices]
  cases countOf chain rows with
  | zero => rfl
  | succ n => rw [max?_range_reverse]

/-- An index below the number of rows is in use. -/
theorem Allocated.used (allocated : Allocated deployment rows) (below : index < countOf chain rows) :
    ∃ row ∈ rows, row.chain = chain ∧ row.derivationIndex = index := by
  have member : index ∈ (rows.filter fun row => row.chain = chain).map DepositAddress.derivationIndex := by
    rw [allocated.indices]
    simpa using below
  obtain ⟨row, member, isIndex⟩ := List.mem_map.mp member
  obtain ⟨member, isChain⟩ := List.mem_filter.mp member
  exact ⟨row, member, by simpa using isChain, isIndex⟩

theorem Allocated.derived (allocated : Allocated deployment rows) (member : row ∈ rows) :
    row.address = deployment.deriveAddress row.chain (deployment.family row.chain) row.derivationIndex := by
  obtain ⟨before, after, rfl⟩ := List.append_of_mem member
  exact (allocated.suffix (List.suffix_append before _)).2.1

/-- An insert that is admitted keeps the indices without a gap, if its index was
next at some time. -/
theorem Allocated.insert (allocated : Allocated deployment rows) (next : derivationIndex ≤ countOf chain rows)
    (admitted : Admitted (newRow userId chain
      (deployment.deriveAddress chain (deployment.family chain) derivationIndex) derivationIndex) rows) :
    Allocated deployment (newRow userId chain
      (deployment.deriveAddress chain (deployment.family chain) derivationIndex) derivationIndex :: rows) := by
  refine ⟨?_, rfl, rfl, fun other member active => (admitted other member).1 ⟨active, rfl⟩, allocated⟩
  refine le_antisymm next (not_lt.mp fun below => ?_)
  obtain ⟨other, member, isChain, isIndex⟩ := allocated.used below
  exact (admitted other member).2 ⟨isChain, isIndex⟩

end

/-! ## What a request may rely on -/

section
variable {deployment : Deployment}

/-- The answer is an active address of the user on the chain. -/
def Owned (userId : ℕ) (chain : ChainId) (response : Response) (s : Store) : Prop :=
  response.address ∈ s.rows ∧ IsActiveOf userId chain response.address

theorem owned_stable (pid userId : ℕ) (chain : ChainId) (response : Response) :
    (protocol deployment).Stable pid (Owned userId chain response) :=
  fun _ _ _ owned grown _ => ⟨grown.subset owned.1, owned.2⟩

theorem next_stable (pid : ℕ) (chain : ChainId) (index : ℕ) :
    (protocol deployment).Stable pid fun s => index ≤ countOf chain s.rows :=
  fun _ _ _ le grown _ => le.trans (countOf_mono grown)

/-- A call that leaves the table alone, whatever it answers. -/
theorem read_triple {call : WalletCall} {A : Store → Prop} {post : Except Failure call.Reply → Store → Prop}
    (stable : (protocol deployment).Stable pid A)
    (step : ∀ s reply s', Allocated deployment s.rows → A s → Effect deployment call s reply s' →
      s' = s ∧ post reply s) :
    (protocol deployment).Triple pid A (ask call) post := by
  refine Protocol.Triple.call stable ?_
  intro s reply s' inv holds made
  obtain ⟨rfl, holds⟩ := step s reply s' inv holds made
  exact ⟨inv, List.suffix_refl _, holds⟩

/-- If a row is found, it is an active address of the user. -/
abbrev FoundActive (userId : ℕ) (chain : ChainId) : Except Failure (Option DepositAddress) → Store → Prop :=
  Protocol.ends (fun found s => ∀ row, found = some row → row ∈ s.rows ∧ IsActiveOf userId chain row) fun _ _ => True

theorem findActiveAddress_triple (pid userId : ℕ) (chain : ChainId) :
    (protocol deployment).Triple pid (fun _ => True) (ask (.findActiveAddress userId chain))
      (FoundActive userId chain) := by
  refine read_triple Protocol.stable_true ?_
  intro s reply s' _ _ made
  cases made with
  | failed => exact ⟨rfl, trivial⟩
  | active member active =>
    refine ⟨rfl, ?_⟩
    rintro row ⟨⟩
    exact ⟨member, active⟩
  | noneActive _ _ =>
    refine ⟨rfl, ?_⟩
    rintro row ⟨⟩

theorem nextDerivationIndex_triple (pid : ℕ) (chain : ChainId) :
    (protocol deployment).Triple pid (fun _ => True) (ask (.nextDerivationIndex chain))
      (Protocol.ends (fun index s => index ≤ countOf chain s.rows) fun _ _ => True) := by
  refine read_triple Protocol.stable_true ?_
  intro s reply s' allocated _ made
  cases made with
  | failed => exact ⟨rfl, trivial⟩
  | @next _ _ past earlier =>
    refine ⟨rfl, ?_⟩
    have isCount : nextIndex chain past = countOf chain past := (allocated.suffix earlier).nextIndex_eq
    exact isCount.trans_le (countOf_mono earlier)

/-- The address goes with an index that is in use or next. -/
def Derived (deployment : Deployment) (chain : ChainId) (index : ℕ) (address : Text) (s : Store) : Prop :=
  address = deployment.deriveAddress chain (deployment.family chain) index ∧ index ≤ countOf chain s.rows

theorem derived_stable (pid : ℕ) (chain : ChainId) (index : ℕ) (address : Text) :
    (protocol deployment).Stable pid (Derived deployment chain index address) :=
  fun _ _ _ derived grown _ => ⟨derived.1, derived.2.trans (countOf_mono grown)⟩

theorem deriveAddress_triple (pid : ℕ) (chain : Chain) (index : ℕ)
    (isFamily : deployment.family chain.id = chain.family) :
    (protocol deployment).Triple pid (fun s => index ≤ countOf chain.id s.rows)
      (ask (.deriveAddress chain.id chain.family index))
      (Protocol.ends (Derived deployment chain.id index) fun _ _ => True) := by
  refine read_triple (next_stable pid chain.id index) ?_
  intro s reply s' _ next made
  cases made with
  | failed => exact ⟨rfl, trivial⟩
  | derived => exact ⟨rfl, by rw [isFamily], next⟩

theorem createAddress_triple (pid userId : ℕ) (chain : ChainId) (index : ℕ) (address : Text) :
    (protocol deployment).Triple pid (Derived deployment chain index address)
      (ask (.createAddress userId chain address index))
      (Protocol.ends (fun row => Owned userId chain ⟨row, true⟩) fun _ _ => True) := by
  refine Protocol.Triple.call (derived_stable pid chain index address) ?_
  rintro s reply s' allocated ⟨rfl, next⟩ made
  cases made with
  | failed => exact ⟨allocated, List.suffix_refl _, trivial⟩
  | created admitted =>
    exact ⟨allocated.insert next admitted, List.suffix_cons _ _, List.mem_cons_self, rfl, rfl, rfl⟩
  | createdUnheard admitted => exact ⟨allocated.insert next admitted, List.suffix_cons _ _, trivial⟩

theorem recordAudit_triple (pid userId : ℕ) (chain : ChainId) (row : DepositAddress) :
    (protocol deployment).Triple pid (Owned userId chain ⟨row, true⟩) (ask (.recordAudit userId row))
      (Protocol.ends (fun _ => Owned userId chain ⟨row, true⟩) fun _ _ => True) := by
  refine read_triple (owned_stable pid userId chain _) ?_
  intro s reply s' _ owned made
  cases made with
  | failed => exact ⟨rfl, trivial⟩
  | audited => exact ⟨rfl, owned⟩

/-- An answer gives the user his active address, and an error says nothing. -/
abbrev Answers (userId : ℕ) (chain : ChainId) : Except Failure Response → Store → Prop :=
  Protocol.ends (Owned userId chain) fun _ _ => True

theorem attempt_triple (pid userId : ℕ) (chain : Chain) (isFamily : deployment.family chain.id = chain.family) :
    (protocol deployment).Triple pid (fun _ => True) (attempt userId chain) (Answers userId chain.id) := by
  refine (findActiveAddress_triple pid userId chain.id).seq ?_
  intro active
  cases active with
  | some row => exact Protocol.Triple.returns fun s _ found => found row rfl
  | none =>
    refine Protocol.Triple.imp ?_ (fun _ _ _ => trivial) fun _ _ _ => id
    refine (nextDerivationIndex_triple pid chain.id).seq fun index => ?_
    refine (deriveAddress_triple pid chain index isFamily).seq fun address => ?_
    refine (createAddress_triple pid userId chain.id index address).seq fun row => ?_
    refine (recordAudit_triple pid userId chain.id row).seq fun _ => ?_
    exact Protocol.Triple.returns fun s _ owned => owned

/-- Induction on the attempts left. -/
theorem allocate_triple (pid userId : ℕ) (chain : Chain) (isFamily : deployment.family chain.id = chain.family)
    (attempts : ℕ) :
    (protocol deployment).Triple pid (fun _ => True) (allocate userId chain attempts) (Answers userId chain.id) := by
  induction attempts with
  | zero => exact Protocol.Triple.throw fun _ _ _ => trivial
  | succ attempts retried =>
    have settled : (protocol deployment).Triple pid (fun _ => True) (attempt userId chain).settled
        (Protocol.ends (Answers userId chain.id) fun _ _ => True) :=
      (attempt_triple pid userId chain isFamily).settled fun _ _ _ => id
    refine settled.seq ?_
    intro result
    cases result with
    | ok response => exact Protocol.Triple.returns fun s _ owned => owned
    | error err =>
      dsimp only
      split
      · refine Protocol.Triple.imp ?_ (fun _ _ _ => trivial) fun _ _ _ => id
        refine (findActiveAddress_triple pid userId chain.id).seq ?_
        intro active
        cases active with
        | some row => exact Protocol.Triple.returns fun s _ found => found row rfl
        | none => exact retried.imp (fun _ _ _ => trivial) fun _ _ _ => id
      · split
        · exact retried
        · exact Protocol.Triple.throw fun _ _ _ => trivial

/-- An answer gives the user his active address on the chain he named. -/
def Ended (deployment : Deployment) (request : Request) : Except Failure Response → Store → Prop :=
  Protocol.ends (fun response s => ∃ chain, deployment.chainNamed request.chainInput = some chain ∧
    Owned request.userId chain response s) fun _ _ => True

theorem ended_stable (pid : ℕ) (request : Request) (result : Except Failure Response) :
    (protocol deployment).Stable pid (Ended deployment request result) := by
  cases result with
  | ok response =>
    rintro s s' allocated ⟨chain, named, owned⟩ grown allocated'
    exact ⟨chain, named, owned_stable pid request.userId chain response s s' allocated owned grown allocated'⟩
  | error failure => exact fun _ _ _ _ _ _ => trivial

theorem findActiveChain_triple (pid : ℕ) (input : Text) :
    (protocol deployment).Triple pid (fun _ => True) (ask (.findActiveChain input))
      (Protocol.ends (fun chain _ => ∀ found, chain = some found →
        deployment.chainNamed input = some found.id ∧ deployment.family found.id = found.family)
        fun _ _ => True) := by
  refine read_triple Protocol.stable_true ?_
  intro s reply s' _ _ made
  cases made with
  | failed => exact ⟨rfl, trivial⟩
  | found named isFamily =>
    refine ⟨rfl, ?_⟩
    rintro found ⟨⟩
    exact ⟨named, isFamily⟩
  | notFound =>
    refine ⟨rfl, ?_⟩
    rintro found ⟨⟩

theorem chainHasSupportedAsset_triple (pid : ℕ) (chain : ChainId) :
    (protocol deployment).Triple pid (fun _ => True) (ask (.chainHasSupportedAsset chain))
      (Protocol.ends (fun _ _ => True) fun _ _ => True) := by
  refine read_triple Protocol.stable_true ?_
  intro s reply s' _ _ made
  cases made with
  | failed => exact ⟨rfl, trivial⟩
  | supported => exact ⟨rfl, trivial⟩

theorem request_triple (pid : ℕ) (request : Request) :
    (protocol deployment).Triple pid (fun _ => True)
      (requestDepositAddress request.userId request.chainInput) (Ended deployment request) := by
  refine (findActiveChain_triple pid request.chainInput).seq ?_
  intro chain
  cases chain with
  | none => exact Protocol.Triple.throw fun _ _ _ => trivial
  | some chain =>
    refine Protocol.Triple.fact fun found => ?_
    obtain ⟨named, isFamily⟩ := found chain rfl
    have ended : ∀ result s, Answers request.userId chain.id result s → Ended deployment request result s := by
      intro result s answers
      cases result with
      | ok response => exact ⟨chain.id, named, answers⟩
      | error failure => trivial
    refine (chainHasSupportedAsset_triple pid chain.id).seq fun supported => ?_
    split
    · exact Protocol.Triple.throw fun _ _ _ => trivial
    · refine (findActiveAddress_triple pid request.userId chain.id).seq ?_
      intro existing
      cases existing with
      | some row => exact Protocol.Triple.returns fun s _ found => ended (.ok ⟨row, false⟩) s (found row rfl)
      | none =>
        exact (allocate_triple pid request.userId chain isFamily MAX_ALLOC_ATTEMPTS).imp
          (fun _ _ _ => trivial) fun result s _ => ended result s

theorem proved (requests : ℕ → Request) :
    Pool.Proved (protocol deployment) (IsRequest requests) Fresh (fun _ _ => True)
      fun pid => Ended deployment (requests pid) where
  initial s fresh := by
    refine ⟨?_, fun _ => trivial⟩
    have isNil : s.rows = [] := fresh
    simp only [protocol, isNil, Allocated]
  noninterference _ _ _ _ _ _ _ grown := grown
  unused_stable _ := Protocol.stable_true
  ended_stable pid := ended_stable pid (requests pid)
  triple pid program isRequest := by
    rw [show program = _ from isRequest]
    exact request_triple pid (requests pid)

end

/-! Two users at once. -/

instance (userId : ℕ) (chain : ChainId) (row : DepositAddress) : Decidable (IsActiveOf userId chain row) :=
  inferInstanceAs (Decidable (_ ∧ _))

instance (row : DepositAddress) (rows : List DepositAddress) : Decidable (Admitted row rows) :=
  inferInstanceAs (Decidable (∀ _ ∈ rows, _ ∧ _))

/-- Every name names the one chain, and an address counts its index. -/
def oneChain : Deployment :=
  ⟨fun _ => some ['E', 'T', 'H'], fun _ => .evm, fun _ _ index => List.replicate index '1'⟩

/-- The calls, on the table as it is. -/
def perform (_ : ℕ) : (call : WalletCall) → Store → Option (Except Failure call.Reply × Store)
  | .findActiveChain _, s => some (.ok (some ⟨['E', 'T', 'H'], .evm⟩), s)
  | .chainHasSupportedAsset _, s => some (.ok true, s)
  | .findActiveAddress userId chain, s => some (.ok (s.rows.find? fun row => IsActiveOf userId chain row), s)
  | .nextDerivationIndex chain, s => some (.ok (nextIndex chain s.rows), s)
  | .deriveAddress chain family index, s => some (.ok (oneChain.deriveAddress chain family index), s)
  | .createAddress userId chain address index, s =>
    if Admitted (newRow userId chain address index) s.rows then
      some (.ok (newRow userId chain address index), ⟨newRow userId chain address index :: s.rows⟩)
    else some (.error .uniqueViolation, s)
  | .recordAudit _ _, s => some (.ok (), s)

def userOf (pid : ℕ) : Request := ⟨pid, ['e', 't', 'h']⟩

end Exchange.Wallet
