import StuHelper.TopUps.RefundSteps

/-!
# The refund ledger of a top-up

The refunded money and quota of a top-up are the sums over its refunds that have not
failed.  They stay within what was paid and credited, and the user has lost exactly the
refunded quota.  `Ledger` says so of a state of the books, and there is one lemma for each
way of booking a refund, for its success and for its failure.

Refunds in money take the last quota with the last money, so a top-up whose money is
refunded has lost all of its quota.  A refund of an administrator's top-up is measured in
quota and its money is rounded down, so it may book quota without money.
-/

namespace StuHelper.TopUps

open Lib Subscription TopUpRefund Decimal List

/-! ## Sums over refunds -/

def liveRefunds (books : Books) (tradeNo : String) : List TopUpRefund :=
  books.refunds.rows.filter fun refund =>
    refund.tradeNo = tradeNo && refund.status ≠ .failed

/-- The sum of a column over the refunds that have not failed. -/
def liveSum {M : Type} [AddCommMonoid M] (column : TopUpRefund → M) (books : Books)
    (tradeNo : String) : M :=
  ((liveRefunds books tradeNo).map column).sum

section Sums

variable {M : Type} [AddCommMonoid M] {books next : Books} {tradeNo : String} {refund : TopUpRefund}
  {column : TopUpRefund → M}

theorem mem_liveRefunds :
    refund ∈ liveRefunds books tradeNo ↔
      refund ∈ books.refunds.rows ∧ refund.tradeNo = tradeNo ∧ refund.status ≠ .failed := by
  simp [liveRefunds]

theorem liveSum_insert (column : TopUpRefund → M)
    (inserted : books.refunds.insert? refund = some next.refunds)
    (trade : refund.tradeNo = tradeNo) (live : refund.status ≠ .failed) :
    liveSum column next tradeNo = liveSum column books tradeNo + column refund := by
  have rows := (Table.insert?_some inserted).2
  simp [liveSum, liveRefunds, rows, filter_append, trade, live]

theorem liveSum_nonneg [PartialOrder M] [IsOrderedAddMonoid M]
    (nonneg : ∀ refund ∈ books.refunds.rows, refund.tradeNo = tradeNo → 0 ≤ column refund) :
    0 ≤ liveSum column books tradeNo := by
  apply sum_nonneg
  intro value member
  obtain ⟨refund, live, rfl⟩ := mem_map.mp member
  obtain ⟨inRows, trade, -⟩ := mem_liveRefunds.mp live
  exact nonneg refund inRows trade

theorem le_liveSum [PartialOrder M] [IsOrderedAddMonoid M]
    (nonneg : ∀ refund ∈ books.refunds.rows, refund.tradeNo = tradeNo → 0 ≤ column refund)
    (member : refund ∈ liveRefunds books tradeNo) :
    column refund ≤ liveSum column books tradeNo := by
  apply single_le_sum
  · intro value valueMem
    obtain ⟨other, live, rfl⟩ := mem_map.mp valueMem
    obtain ⟨inRows, trade, -⟩ := mem_liveRefunds.mp live
    exact nonneg other inRows trade
  · exact mem_map_of_mem member

theorem liveSum_fail (column : TopUpRefund → M) (member : refund ∈ liveRefunds books tradeNo)
    (refunds : next.refunds = books.refunds.save { refund with status := .failed }) :
    liveSum column next tradeNo + column refund = liveSum column books tradeNo := by
  obtain ⟨inRows, rfl, live⟩ := mem_liveRefunds.mp member
  obtain ⟨_, _, rowsEq, savedEq⟩ := @Table.save_rows _ _ _ _ books.refunds refund
    { refund with status := .failed } inRows rfl
  rw [← refunds] at savedEq
  simp [liveSum, liveRefunds, rowsEq, savedEq, live, add_comm, add_left_comm]

theorem liveSum_succeed (column : TopUpRefund → M)
    (found : refund ∈ books.refunds.rows) (pending : refund.status = .pending)
    (same : column { refund with status := .success } = column refund)
    (refunds : next.refunds = books.refunds.save { refund with status := .success }) :
    liveSum column next tradeNo = liveSum column books tradeNo := by
  obtain ⟨_, _, rowsEq, savedEq⟩ := @Table.save_rows _ _ _ _ books.refunds refund
    { refund with status := .success } found rfl
  rw [← refunds] at savedEq
  by_cases trade : refund.tradeNo = tradeNo
  · subst trade
    simp [liveSum, liveRefunds, rowsEq, savedEq, pending, same]
  · simp [liveSum, liveRefunds, rowsEq, savedEq, trade]

end Sums

/-! ## The invariant -/

/-- A refund row of a top-up of `user`.  Unless the top-up is an administrator's, a
refund without money is one without quota. -/
structure SoundRefund (admin : Bool) (userId : Int) (refund : TopUpRefund) : Prop where
  user : refund.userId = userId
  cents : Decimal.HasPlaces 2 refund.refundAmount
  amount : 0 ≤ refund.refundAmount
  quota : 0 ≤ refund.refundQuota
  free : admin = false → refund.refundAmount = 0 → refund.refundQuota = 0

/-- The books agree on the top-up `topUp`, which was credited `total` and whose user had
`balance` then. -/
structure Ledger (settings : RefundSettings) (total balance : Int) (books : Books)
    (topUp : TopUp) : Prop where
  row : books.store.topUps.find? topUp.tradeNo = some topUp
  noOrder : books.store.orders.find? topUp.tradeNo = none
  credited : topUpCreditedQuota settings.quotaPerUnit topUp = total
  cents : Decimal.HasPlaces 2 topUp.money
  refundedCents : Decimal.HasPlaces 2 topUp.refundedMoney
  paid : 0 < topUp.money
  money : topUp.refundedMoney = liveSum refundAmount books topUp.tradeNo
  quota : topUp.refundedQuota = liveSum refundQuota books topUp.tradeNo
  moneyLe : topUp.refundedMoney ≤ topUp.money
  quotaLe : topUp.refundedQuota ≤ total
  refunds : ∀ refund ∈ books.refunds.rows, refund.tradeNo = topUp.tradeNo →
    SoundRefund (isAdminTopUpRecord topUp) topUp.userId refund
  user : (books.store.users.find? topUp.userId).map User.quota =
    some (balance - topUp.refundedQuota)
  audits : ∀ audit ∈ books.store.audits.rows, audit.tradeNo = topUp.tradeNo →
    audit.creditedQuota = total
  full : isAdminTopUpRecord topUp = false → topUp.refundedMoney = topUp.money →
    topUp.refundedQuota = total

variable {quota : Int}

theorem userQuota_addQuota {books : Books} {userId : Int} (delta : Int)
    (found : (books.store.users.find? userId).map User.quota = some quota) :
    ((books.addQuota userId delta).store.users.find? userId).map User.quota =
      some (quota + delta) := by
  obtain ⟨user, userFound, rfl⟩ := Option.map_eq_some_iff.mp found
  have same : user.id = userId := Table.find?_key userFound
  simp [Books.addQuota, Store.addQuota, Table.find?_update, userFound, same]

section Steps

variable {settings : RefundSettings} {total balance : Int} {books next : Books}
  {topUp : TopUp}

namespace Ledger

section

variable (ledger : Ledger settings total balance books topUp)

include ledger

theorem row_of_eq {tradeNo : String} (same : tradeNo = topUp.tradeNo) :
    books.store.topUps.find? tradeNo = some topUp := by
  rw [same]
  exact ledger.row

theorem orderMoney_eq : orderMoney topUp = topUp.money := round_of_hasPlaces ledger.cents

theorem refundedMoney_eq : refundedMoney topUp = topUp.refundedMoney :=
  round_of_hasPlaces ledger.refundedCents

theorem refundedMoney_nonneg : 0 ≤ topUp.refundedMoney := by
  rw [ledger.money]
  exact liveSum_nonneg fun refund inRows trade => (ledger.refunds refund inRows trade).amount

theorem refundedQuota_nonneg : 0 ≤ topUp.refundedQuota := by
  rw [ledger.quota]
  exact liveSum_nonneg fun refund inRows trade => (ledger.refunds refund inRows trade).quota

theorem booked {amount money : ℚ}
    (booked : Booked books next topUp amount quota money)
    (moneyEq : money = topUp.refundedMoney + amount)
    (sound : ∀ outRequestNo status, SoundRefund (isAdminTopUpRecord topUp) topUp.userId
      (refundRow topUp outRequestNo amount quota status))
    (fits : amount ≤ topUp.money - topUp.refundedMoney)
    (quotaFits : quota ≤ total - topUp.refundedQuota)
    (full : isAdminTopUpRecord topUp = false → money = topUp.money →
      topUp.refundedQuota + quota = total) :
    ∃ status, Ledger settings total balance next
      (withRefunded topUp money (topUp.refundedQuota + quota) status) := by
  obtain ⟨status, topUps⟩ := booked.topUps
  obtain ⟨outRequestNo, rowStatus, live, inserted⟩ := booked.refunds
  have rows := (Table.insert?_some inserted).2
  refine ⟨status, { ledger with
    row := ?row, noOrder := ?noOrder, refundedCents := ?refundedCents, money := ?money
    quota := ?quota, moneyLe := ?moneyLe, quotaLe := ?quotaLe, refunds := ?refunds, user := ?user
    audits := ?audits, full := full }⟩
  case row =>
    rw [topUps]
    exact Table.find?_save ledger.row rfl
  case noOrder =>
    rw [booked.orders]
    exact ledger.noOrder
  case refundedCents =>
    rw [moneyEq]
    exact ledger.refundedCents.add (sound "" .pending).cents
  case money =>
    have sum : liveSum refundAmount next topUp.tradeNo = _ :=
      liveSum_insert refundAmount inserted rfl live
    change money = liveSum refundAmount next topUp.tradeNo
    rw [sum, ← ledger.money]
    exact moneyEq
  case quota =>
    have sum : liveSum refundQuota next topUp.tradeNo = _ :=
      liveSum_insert refundQuota inserted rfl live
    change topUp.refundedQuota + quota = liveSum refundQuota next topUp.tradeNo
    rw [sum, ← ledger.quota]
    rfl
  case moneyLe =>
    change money ≤ topUp.money
    linarith
  case quotaLe =>
    change topUp.refundedQuota + quota ≤ total
    omega
  case refunds =>
    intro refund member trade
    rw [rows, mem_append, mem_singleton] at member
    rcases member with old | rfl
    · exact ledger.refunds refund old trade
    · exact sound outRequestNo rowStatus
  case user =>
    have moved := userQuota_addQuota (-quota) ledger.user
    rw [booked.users]
    change ((books.addQuota topUp.userId (-quota)).store.users.find? topUp.userId).map
      User.quota = some (balance - (topUp.refundedQuota + quota))
    rw [moved]
    congr 1
    omega
  case audits =>
    intro audit member trade
    obtain ⟨old, oldMem, sameTrade, sameQuota⟩ := booked.audits audit member
    rw [← sameQuota]
    exact ledger.audits old oldMem (sameTrade.trans trade)

theorem moneyRefund {amount : ℚ} (refund : MoneyRefund settings books next topUp amount quota) :
    ∃ money status, Ledger settings total balance next
      (withRefunded topUp money (topUp.refundedQuota + quota) status) := by
  have quotaEq := refund.quotaEq
  have fits := refund.fits
  have booked := refund.booked
  rw [ledger.orderMoney_eq, ledger.refundedMoney_eq] at quotaEq fits
  rw [ledger.refundedMoney_eq] at booked
  rw [ledger.credited] at quotaEq
  have positive := refund.quotaPositive
  refine ⟨_, ledger.booked booked rfl ?_ fits ?_ ?_⟩
  · intro outRequestNo status
    exact ⟨rfl, refund.cents, refund.positive.le, positive.le,
      fun _ free => absurd free refund.positive.ne'⟩
  · rw [quotaEq] at positive ⊢
    exact calculateOfficialRefundQuota_le positive
  · intro _ whole
    have rest : ¬ amount < topUp.money - topUp.refundedMoney := by linarith
    unfold calculateOfficialRefundQuota at quotaEq
    dsimp only at quotaEq
    split at quotaEq
    · omega
    · omega

theorem reject {audit : SelfServeTopUpAudit} (member : audit ∈ books.store.audits.rows)
    (trade : audit.tradeNo = topUp.tradeNo) (booked : Booked books next topUp
      (max (round 2 (topUp.money - topUp.refundedMoney)) 0)
      (max (audit.creditedQuota - topUp.refundedQuota) 0)
      (round 2 (topUp.refundedMoney + max (round 2 (topUp.money - topUp.refundedMoney)) 0))) :
    ∃ money quota status, Ledger settings total balance next
      (withRefunded topUp money quota status) := by
  have left := ledger.cents.sub ledger.refundedCents
  have moneyLe := ledger.moneyLe
  have quotaLe := ledger.quotaLe
  have whole : topUp.refundedMoney + (topUp.money - topUp.refundedMoney) = topUp.money := by ring
  rw [round_of_hasPlaces left, max_eq_left (by linarith), whole,
    round_of_hasPlaces ledger.cents, ledger.audits audit member trade,
    max_eq_left (by omega)] at booked
  refine ⟨_, _, ledger.booked booked whole.symm ?_ le_rfl le_rfl (fun _ _ => by omega)⟩
  intro outRequestNo status
  refine ⟨rfl, left, sub_nonneg.mpr moneyLe, sub_nonneg.mpr quotaLe, ?_⟩
  intro notAdmin free
  -- Without money to give back the top-up was fully refunded before.
  have all := ledger.full notAdmin (sub_eq_zero.mp free).symm
  exact sub_eq_zero.mpr all.symm

end

theorem refundAmountForQuota_bounds {orderMoney remaining : ℚ} (nonneg : 0 ≤ remaining)
    (cents : Decimal.HasPlaces 2 remaining) :
    0 ≤ refundAmountForQuota quota total orderMoney remaining ∧
      refundAmountForQuota quota total orderMoney remaining ≤ remaining ∧
      Decimal.HasPlaces 2 (refundAmountForQuota quota total orderMoney remaining) := by
  unfold refundAmountForQuota
  split
  · exact ⟨le_rfl, nonneg, .zero⟩
  dsimp only
  generalize shareEq : roundFloor 2 (div (orderMoney * quota) total) = share
  have shareCents : Decimal.HasPlaces 2 share := shareEq ▸ roundFloor_hasPlaces 2 _
  split
  · rw [if_neg (not_lt.mpr nonneg)]
    exact ⟨nonneg, le_rfl, cents⟩
  next small =>
    split
    · exact ⟨le_rfl, nonneg, .zero⟩
    next positive => exact ⟨not_lt.mp positive, not_lt.mp small, shareCents⟩

section

variable (ledger : Ledger settings total balance books topUp)

include ledger

theorem remainingMoney_eq :
    max (orderMoney topUp - refundedMoney topUp) 0 = topUp.money - topUp.refundedMoney := by
  rw [ledger.orderMoney_eq, ledger.refundedMoney_eq]
  exact max_eq_left (sub_nonneg.mpr ledger.moneyLe)

theorem adminRefundAmount_bounds (quota : Int) :
    0 ≤ adminRefundAmount topUp total quota ∧
      adminRefundAmount topUp total quota ≤ topUp.money - topUp.refundedMoney ∧
      Decimal.HasPlaces 2 (adminRefundAmount topUp total quota) := by
  have nonneg := sub_nonneg.mpr ledger.moneyLe
  have left := ledger.cents.sub ledger.refundedCents
  unfold adminRefundAmount
  rw [ledger.remainingMoney_eq]
  split
  · exact ⟨le_rfl, nonneg, .zero⟩
  split
  · exact ⟨nonneg, le_rfl, left⟩
  · obtain ⟨amountNonneg, amountLe, cents⟩ :=
      @refundAmountForQuota_bounds quota total (orderMoney topUp) _ nonneg left
    rw [round_of_hasPlaces cents]
    exact ⟨amountNonneg, amountLe, cents⟩

theorem admin {call : AdminRefund} (on : Text.trimSpace call.tradeNo = topUp.tradeNo)
    (done : refundAdminBalanceTopUp settings books call = .ok next) :
    0 < call.refundQuota ∧ call.refundQuota ≤ total - topUp.refundedQuota ∧
      ∃ status, Ledger settings total balance next (withRefunded topUp
        (topUp.refundedMoney + adminRefundAmount topUp total call.refundQuota)
        (topUp.refundedQuota + call.refundQuota) status) := by
  obtain ⟨isAdmin, positive, quotaFits, booked⟩ := admin_ok (ledger.row_of_eq on) done
  rw [ledger.credited] at quotaFits booked
  refine ⟨positive, quotaFits, ?_⟩
  obtain ⟨amountNonneg, amountLe, cents⟩ := ledger.adminRefundAmount_bounds call.refundQuota
  rw [ledger.refundedMoney_eq, round_of_hasPlaces (ledger.refundedCents.add cents),
    min_eq_left (by linarith)] at booked
  apply ledger.booked booked rfl _ amountLe quotaFits
  · intro notAdmin
    simp [isAdmin] at notAdmin
  · intro outRequestNo status
    exact ⟨rfl, cents, amountNonneg, positive.le, fun notAdmin => by simp [isAdmin] at notAdmin⟩

variable {refund : TopUpRefund} {outRequestNo : String}

theorem refunds_save (member : refund ∈ books.refunds.rows) (status : RefundRowStatus) :
    ∀ other ∈ (books.refunds.save { refund with status := status }).rows,
      other.tradeNo = topUp.tradeNo →
      SoundRefund (isAdminTopUpRecord topUp) topUp.userId other := by
  intro other otherMem trade
  rcases Table.mem_save.mp otherMem with ⟨rfl, -⟩ | ⟨old, -⟩
  · exact { ledger.refunds refund member trade with }
  · exact ledger.refunds other old trade

/-- The columns cover every refund that has not failed, so nothing is cut off at 0 when it
is taken back. -/
theorem unbookRefund_eq (member : refund ∈ liveRefunds books topUp.tradeNo) :
    unbookRefund topUp refund = withRefunded topUp (topUp.refundedMoney - refund.refundAmount)
      (topUp.refundedQuota - refund.refundQuota) (unbookRefund topUp refund).status := by
  obtain ⟨inRows, trade, -⟩ := mem_liveRefunds.mp member
  have cents := ledger.refundedCents.sub (ledger.refunds refund inRows trade).cents
  have amountLe : refund.refundAmount ≤ topUp.refundedMoney := by
    rw [ledger.money]
    exact le_liveSum (fun other mem same => (ledger.refunds other mem same).amount) member
  have quotaLe : refund.refundQuota ≤ topUp.refundedQuota := by
    rw [ledger.quota]
    exact le_liveSum (fun other mem same => (ledger.refunds other mem same).quota) member
  unfold unbookRefund withRefunded
  rw [round_of_hasPlaces cents, max_eq_left (sub_nonneg.mpr amountLe),
    max_eq_left (sub_nonneg.mpr quotaLe)]

theorem fail (found : books.refunds.find? outRequestNo = some refund)
    (trade : refund.tradeNo = topUp.tradeNo) (live : refund.status ≠ .failed) :
    ∃ money quota status, Ledger settings total balance
      (Books.addQuota
        (Books.saveTopUp
          { books with refunds := books.refunds.save { refund with status := .failed } }
          (unbookRefund topUp refund))
        refund.userId refund.refundQuota) (withRefunded topUp money quota status) := by
  have member := Table.find?_mem found
  have sound := ledger.refunds refund member trade
  have liveMember : refund ∈ liveRefunds books topUp.tradeNo :=
    mem_liveRefunds.mpr ⟨member, trade, live⟩
  rw [ledger.unbookRefund_eq liveMember]
  generalize (unbookRefund topUp refund).status = status
  refine ⟨topUp.refundedMoney - refund.refundAmount,
    topUp.refundedQuota - refund.refundQuota, status, ?_⟩
  have moneyLe := ledger.moneyLe
  have quotaLe := ledger.quotaLe
  have amountNonneg := sound.amount
  have quotaNonneg := sound.quota
  refine { ledger with
    row := Table.find?_save ledger.row rfl
    refundedCents := ledger.refundedCents.sub sound.cents
    money := ?money, quota := ?quota, moneyLe := ?moneyLe, quotaLe := ?quotaLe
    refunds := ledger.refunds_save member .failed
    user := ?user, full := ?full }
  case money =>
    apply sub_eq_of_eq_add
    rw [ledger.money]
    exact (liveSum_fail refundAmount liveMember rfl).symm
  case quota =>
    apply sub_eq_of_eq_add
    rw [ledger.quota]
    exact (liveSum_fail refundQuota liveMember rfl).symm
  case moneyLe =>
    change topUp.refundedMoney - refund.refundAmount ≤ topUp.money
    linarith
  case quotaLe =>
    change topUp.refundedQuota - refund.refundQuota ≤ total
    omega
  case user =>
    have moved := userQuota_addQuota refund.refundQuota ledger.user
    rw [sound.user]
    change ((books.addQuota topUp.userId refund.refundQuota).store.users.find?
      topUp.userId).map User.quota = some (balance - (topUp.refundedQuota - refund.refundQuota))
    rw [moved]
    congr 1
    omega
  case full =>
    intro notAdmin whole
    change topUp.refundedMoney - refund.refundAmount = topUp.money at whole
    change topUp.refundedQuota - refund.refundQuota = total
    have noMoney : refund.refundAmount = 0 := by linarith
    have noQuota := sound.free notAdmin noMoney
    have all := ledger.full notAdmin (by linarith)
    omega

theorem succeed (found : books.refunds.find? outRequestNo = some refund)
    (pending : refund.status = .pending) :
    Ledger settings total balance
      { books with refunds := books.refunds.save { refund with status := .success } }
      topUp := by
  have member := Table.find?_mem found
  exact { ledger with
    money := ledger.money.trans (liveSum_succeed refundAmount member pending rfl rfl).symm
    quota := ledger.quota.trans (liveSum_succeed refundQuota member pending rfl rfl).symm
    refunds := ledger.refunds_save member .success }

end

end Ledger

end Steps

end StuHelper.TopUps
