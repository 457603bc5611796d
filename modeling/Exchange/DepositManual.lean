import Exchange.DepositAgreement

/-! The credit of a manual deposit and its row. An approval credits the ledger
and then changes the row if it is still PENDING; nothing keeps a rejection from
changing it in between. -/
namespace Exchange.Deposits.Manual
open Ledger Service Agreement

def isFailed (s : Store) (id : DepositId) : Bool :=
  (s.deposits.lookup id).any fun row => row.status = .failed

/-- The credit is there if and only if the row is SUCCESS, and not if it is
FAILED. -/
def CreditedAsDecided (s : Store) (id : DepositId) : Prop :=
  (credited s id ↔ isSuccess s id) ∧ (isFailed s id → ¬credited s id)

variable {config : Config} {requests : DepositId → Request} {s : Store} {id : DepositId}

theorem failed_not_success (failed : isFailed s id) : ¬isSuccess s id := by
  intro success
  obtain ⟨row, found, isFailed⟩ := (Option.any_eq_true _ _).mp failed
  obtain ⟨row', found', isSuccess⟩ := isSuccess_iff.mp success
  cases found.symm.trans found'
  cases (of_decide_eq_true isFailed).symm.trans isSuccess

/-- In every run in which each approval that has credited a deposit finds its
row PENDING, or SUCCESS already, a manual deposit is credited as it was decided
whenever no request is in flight. -/
theorem credited_as_decided {pool : DepositPool}
    (run : Logged.Run (followed .manual) (IsRequest config requests) Agreed pool) (quiet : pool.Quiet)
    (id : DepositId) (manual : isOn pool.store.store .manual id) :
    CreditedAsDecided pool.store.store id := by
  have agreed := agreed_quiet (fun _ agreed => agreed) run quiet manual
  refine ⟨agreed, fun failed isCredited => ?_⟩
  exact failed_not_success failed (agreed.mp isCredited)

/-- Deposit 1, for which two admins are needed, and deposit 2, for which one
is enough; admins 7, 8 and 9 decide on them. -/
private def decisions : DepositId → Request
  | 1 => .createManualDeposit 1 ⟨rupees 60000 (by omega), "UTR1", "IMPS", none⟩
  | 2 => .createManualDeposit 1 ⟨rupees 1000 (by omega), "UTR2", "IMPS", none⟩
  | 3 => .approveManualDeposit 1 (some 7)
  | 4 => .approveManualDeposit 1 (some 8)
  | 5 => .approveManualDeposit 2 (some 7)
  | _ => .rejectManualDeposit 2 (some "no payment found") (some 9)

/-- Deposit 1 gets its second approval, deposit 2 is rejected before anybody
approves it. -/
theorem credited_as_decided_both : ∃ s : Store, isSuccess s 1 ∧ isFailed s 2 ∧
    CreditedAsDecided s 1 ∧ CreditedAsDecided s 2 := by
  have played : (schedule smallConfig (fun _ _ => false)
      (fun _ call x reply => keeps .manual x.store ⟨call, reply⟩) decisions [1, 2, 3, 4, 5, 6]
      [(1, 9), (2, 9), (3, 9), (4, 9), (6, 9), (5, 9)] emptyDesk).map (fun pool =>
        (isSuccess pool.store.store 1, isFailed pool.store.store 2, isOn pool.store.store .manual 1,
          isOn pool.store.store .manual 2, pool.isQuiet)) = some (true, true, true, true, true) := by
    decide +kernel
  obtain ⟨pool, scheduled, facts⟩ := Option.map_eq_some_iff.mp played
  simp only [Prod.mk.injEq] at facts
  obtain ⟨success, failed, manual, manual', isQuiet⟩ := facts
  have run : Logged.Run (followed .manual) (IsRequest smallConfig decisions) Agreed pool :=
    schedule_run emptyDesk_agreed (fun _ _ _ _ _ isKept makes => ⟨makes, isKept⟩) scheduled
  have quiet := Pool.quiet_of_isQuiet isQuiet
  exact ⟨pool.store.store, success, failed, credited_as_decided run quiet 1 manual,
    credited_as_decided run quiet 2 manual'⟩

/-- An approval credits deposit 2, the rejection finds it PENDING still. -/
theorem credited_and_rejected : ¬∀ pool : DepositPool,
    Logged.Run interleaved (IsRequest smallConfig decisions) Agreed pool → pool.Quiet →
      ∀ id, isOn pool.store.store .manual id → CreditedAsDecided pool.store.store id := by
  intro decided
  have played : (schedule smallConfig (fun _ _ => false) (fun _ _ _ _ => true) decisions [2, 5, 6]
      [(2, 9), (5, 2), (6, 9), (5, 9)] emptyDesk).map (fun pool =>
        (isFailed pool.store.store 2, credited pool.store.store 2, isOn pool.store.store .manual 2,
          pool.isQuiet)) = some (true, true, true, true) := by decide +kernel
  obtain ⟨pool, scheduled, facts⟩ := Option.map_eq_some_iff.mp played
  simp only [Prod.mk.injEq] at facts
  obtain ⟨failed, isCredited, manual, isQuiet⟩ := facts
  have run := schedule_run emptyDesk_agreed (fun _ _ _ _ _ _ makes => makes) scheduled
  exact (decided pool run (Pool.quiet_of_isQuiet isQuiet) 2 manual).2 failed isCredited

end Exchange.Deposits.Manual
