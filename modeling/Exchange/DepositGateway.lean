import Exchange.DepositOrders

/-! The credit of a gateway deposit and its row. The payment handlers write the
row unconditionally, whatever it has become since they read it, and take a
deposit that is FAILED for closed. -/
namespace Exchange.Deposits.Gateway
open Ledger Service Agreement Orders

/-- A gateway deposit is SUCCESS if and only if it is credited. -/
def AgreesWhenQuiet (pool : DepositPool) : Prop :=
  pool.Quiet → ∀ id, isOn pool.store.store .gateway id →
    (isSuccess pool.store.store id ↔ credited pool.store.store id)

def answered (pool : DepositPool) (pid : DepositId) : Bool :=
  match pool.programs.lookup pid with
  | some (.done (.ok _)) => true
  | _ => false

/-- A captured payment that was answered is credited to the deposit of its
order, or there is an excuse in what the request has read. -/
def CapturedCredited (requests : DepositId → Request) (excuse : String → DepositId → Past → Prop)
    (pool : DepositPool) : Prop :=
  ∀ pid payment, requests pid = .settleCapturedPayment payment → answered pool pid →
    ∀ id row, pool.store.store.deposits.lookup id = some row → IsOf payment.orderId row →
      amountMatches payment row →
        credited pool.store.store id ∨ excuse payment.orderId id (pool.store.past pid)

/-- No step takes SUCCESS away. -/
def KeepsSuccess (config : Config) (requests : DepositId → Request)
    (step : DepositId → (call : DepositCall) → History → Except Failure call.Reply → Store → Prop)
    (pool : DepositPool) : Prop :=
  ∀ pool', Pool.Step (Logged.protocol step) (IsRequest config requests) pool pool' →
    ∀ id, isOn pool.store.store .gateway id → isSuccess pool.store.store id →
      isSuccess pool'.store.store id

variable {config : Config} {requests : DepositId → Request} {pool : DepositPool} {pid id : DepositId}

theorem answered_iff : answered pool pid ↔
    ∃ response, pool.programs.lookup pid = some (.done (.ok response)) := by
  unfold answered
  split
  · rename_i response found
    exact ⟨fun _ => ⟨response, found⟩, fun _ => rfl⟩
  · rename_i other
    constructor
    · intro isAnswered
      cases isAnswered
    · rintro ⟨response, found⟩
      exact (other response found).elim

/-- What was read of the orders is so along every run. -/
theorem traced_run (existing : ∀ pid, creates (requests pid) = false)
    (run : Logged.Run (followed .gateway) (IsRequest config requests) Opening pool) :
    Traced pool.store :=
  run.inv (fun _ _ isRequest => isRequest_obeys isRequest)
    (fun _ opening => traced_initial (sound_agreed opening.toAgreed) opening.orders)
    fun _ pid _ _ _ traced call' made => traced_step traced call'.1 (existing pid) made.1

/-- In every run of handlers in which the row of a gateway deposit follows its
credit, and is not written by others when it is SUCCESS, they agree when no
request is in flight, SUCCESS is kept, and a captured payment that was answered
is credited unless its deposit was found FAILED or REVERSED. -/
theorem gateway_agreement (existing : ∀ pid, creates (requests pid) = false)
    (run : Logged.Run (followed .gateway) (IsRequest config requests) Opening pool) :
    AgreesWhenQuiet pool ∧ KeepsSuccess config requests (followed .gateway) pool ∧
      CapturedCredited requests FoundClosed pool := by
  refine ⟨fun quiet id gateway => ?_, fun pool' step' id gateway success => ?_, ?_⟩
  · exact (agreed_quiet (fun _ opening => opening.toAgreed) run quiet gateway).symm
  · exact success_final (fun _ opening => opening.toAgreed) run step' gateway success
  · intro pid payment isSettle isAnswered id row found isOf isAmount
    obtain ⟨response, ended⟩ := answered_iff.mp isAnswered
    have knows := (run.orderly fun _ _ isRequest => isRequest_obeys isRequest).ended ended
    have settled : Settled payment (pool.store.past pid) := by
      have knows := knows.2
      rwa [isSettle] at knows
    exact Settled.credited settled (traced_run existing run) found isOf isAmount

/-- The payments of both orders are captured, and attempts to pay them fail. -/
private def attempts : DepositId → Request
  | 3 => .settleCapturedPayment ⟨"pay_A2", "order_A", 50000⟩
  | 4 => .markPaymentFailed ⟨"pay_A1", "order_A", 50000⟩
  | 5 => .markPaymentFailed ⟨"pay_B1", "order_B", 50000⟩
  | _ => .settleCapturedPayment ⟨"pay_B2", "order_B", 50000⟩

private theorem attempts_existing (pid : DepositId) : creates (attempts pid) = false := by
  unfold attempts
  split <;> rfl

/-- Order A is paid before its failure is looked at; order B has failed before. -/
theorem gateway_agreement_paid : ∃ pool : DepositPool, isSuccess pool.store.store 1 ∧ pool.Quiet ∧
    answered pool 6 ∧ AgreesWhenQuiet pool ∧
      KeepsSuccess smallConfig attempts (followed .gateway) pool ∧
        CapturedCredited attempts FoundClosed pool := by
  have played : (schedule smallConfig (fun _ _ => false)
      (fun _ call x reply => keeps .gateway x.store ⟨call, reply⟩) attempts [3, 4, 5, 6]
      [(3, 9), (4, 9), (5, 9), (6, 9)] twoOrders).map (fun pool =>
        (isSuccess pool.store.store 1, pool.isQuiet, answered pool 6)) = some (true, true, true) := by
    decide +kernel
  obtain ⟨pool, scheduled, facts⟩ := Option.map_eq_some_iff.mp played
  simp only [Prod.mk.injEq] at facts
  obtain ⟨success, isQuiet, isAnswered⟩ := facts
  have run : Logged.Run (followed .gateway) (IsRequest smallConfig attempts) Opening pool :=
    schedule_run twoOrders_opening (fun _ _ _ _ _ isKept makes => ⟨makes, isKept⟩) scheduled
  exact ⟨pool, success, Pool.quiet_of_isQuiet isQuiet, isAnswered, gateway_agreement attempts_existing run⟩

/-- A failure of order A that was read before the payment is written after it;
and the payment of order B comes after a failed attempt. -/
theorem late_failure_and_closed_order :
    (¬∀ pool : DepositPool, Logged.Run interleaved (IsRequest smallConfig attempts) Opening pool →
      AgreesWhenQuiet pool) ∧
    ¬∀ pool : DepositPool, Logged.Run interleaved (IsRequest smallConfig attempts) Opening pool →
      CapturedCredited attempts (fun _ _ _ => False) pool := by
  constructor
  · intro agrees
    have played : (schedule smallConfig (fun _ _ => false) (fun _ _ _ _ => true) attempts [3, 4]
        [(4, 1), (3, 9), (4, 9)] twoOrders).map (fun pool =>
          (isOn pool.store.store .gateway 1, isSuccess pool.store.store 1,
            credited pool.store.store 1, pool.isQuiet)) = some (true, false, true, true) := by
      decide +kernel
    obtain ⟨pool, scheduled, facts⟩ := Option.map_eq_some_iff.mp played
    simp only [Prod.mk.injEq] at facts
    obtain ⟨gateway, failed, isCredited, isQuiet⟩ := facts
    have run := schedule_run twoOrders_opening (fun _ _ _ _ _ _ makes => makes) scheduled
    have success := (agrees pool run (Pool.quiet_of_isQuiet isQuiet) 1 gateway).mpr isCredited
    cases failed.symm.trans success
  · intro captured
    have played : (schedule smallConfig (fun _ _ => false) (fun _ _ _ _ => true) attempts [5, 6]
        [(5, 9), (6, 9)] twoOrders).map (fun pool =>
          (answered pool 6, (pool.store.store.deposits.lookup 2).any (fun row =>
            IsOf "order_B" row ∧ amountMatches ⟨"pay_B2", "order_B", 50000⟩ row),
            credited pool.store.store 2)) = some (true, true, false) := by decide +kernel
    obtain ⟨pool, scheduled, facts⟩ := Option.map_eq_some_iff.mp played
    simp only [Prod.mk.injEq] at facts
    obtain ⟨isAnswered, isThere, uncredited⟩ := facts
    obtain ⟨row, found, isDeposit⟩ := (Option.any_eq_true _ _).mp isThere
    obtain ⟨isOf, isAmount⟩ := of_decide_eq_true isDeposit
    have run := schedule_run twoOrders_opening (fun _ _ _ _ _ _ makes => makes) scheduled
    rcases captured pool run 6 _ rfl isAnswered 2 row found isOf isAmount with isCredited | excused
    · cases uncredited.symm.trans isCredited
    · exact excused

end Exchange.Deposits.Gateway
