import StuHelper.Subscription.PayloadLink
import StuHelper.TopUps.RefundNotice
import StuHelper.TopUps.SelfServe

/-!
# What a rejection takes back

A self-serve order is served when it is created, corrected while its audit is pending and
taken back when the audit is rejected.  Each of the three decides for itself whether the
order is a top-up of the wallet or a purchase: the correction takes every order for a top-up.
-/

namespace StuHelper.TopUps

open Lib Subscription Table List

/-! ## One order among others -/

@[ext] structure OrderRows where
  topUp : Option TopUp
  audits : List SelfServeTopUpAudit
  order : Option SubscriptionOrder

def Books.orderRows (books : Books) (tradeNo : String) : OrderRows where
  topUp := books.store.topUps.find? tradeNo
  audits := books.store.audits.rows.filter fun audit => audit.tradeNo = tradeNo
  order := books.store.orders.find? tradeNo

/-- The quota of a user; a user who is missing has none. -/
def Books.quotaOf (books : Books) (userId : Int) : Int :=
  ((books.store.users.find? userId).map User.quota).getD 0

def Books.hasUser (books : Books) (userId : Int) : Bool :=
  (books.store.users.find? userId).isSome

/-- If the transaction number of a purchase names a subscription, it is the one with this id
first; the id fits into an `int`. -/
structure PlainNumber (settings : SelfServeSettings) (call : SelfServePurchase) (id : Int) :
    Prop where
  inRange : id < 2 ^ 63
  unnamed : ∀ paymentMethod transactionNo,
    normalizeSelfServePaymentMethod call.paymentMethod = some paymentMethod →
    selfServeResolveAuditTransactionNo settings.payments paymentMethod call.transactionNo
      call.generatedTransactionNo = .ok transactionNo →
    ((payloadParts ("transaction_no=" ++ transactionNo)).findSome? payloadPartId).getD id = id

/-- A self-serve order, of either kind. -/
inductive SelfServeOrder where
  | wallet (call : SelfServeCreate)
  | purchase (call : SelfServePurchase)

namespace SelfServeOrder

/-- The trade number that is drawn for the order. -/
def tradeNo : SelfServeOrder → String
  | .wallet call => call.tradeNo
  | .purchase call => call.tradeNo

def userId : SelfServeOrder → Int
  | .wallet call => call.userId
  | .purchase call => call.userId

/-- The id of the subscription that the order buys. -/
def bought (books : Books) : SelfServeOrder → Option Int
  | .wallet _ => none
  | .purchase _ => some books.store.subs.next

def commit (settings : SelfServeSettings) (codec : PayloadCodec) (books : Books) :
    SelfServeOrder → Except TopUpError Books
  | .wallet call => createSelfServeTopUp settings books call
  | .purchase call =>
    match purchaseSubscriptionWithSelfServe settings.loc codec settings.payments books.store
        call with
    | .error error => .error (.subscription error)
    | .ok store => .ok { books with store := store }

/-- The transaction number of a purchase names no other subscription. -/
def Unforged (settings : SelfServeSettings) (books : Books) : SelfServeOrder → Prop
  | .wallet _ => True
  | .purchase call => PlainNumber settings call books.store.subs.next

end SelfServeOrder

theorem PlainNumber.link {settings : SelfServeSettings} {codec : PayloadCodec}
    {call : SelfServePurchase} {id : Int} {paymentMethod transactionNo : String}
    (plainNumber : PlainNumber settings call id) (positive : 0 < id)
    (normal : normalizeSelfServePaymentMethod call.paymentMethod = some paymentMethod)
    (resolved : selfServeResolveAuditTransactionNo settings.payments paymentMethod
      call.transactionNo call.generatedTransactionNo = .ok transactionNo) :
    providerPayloadSubscriptionID codec (providerPayloadWithSubscriptionId codec
      ("transaction_no=" ++ transactionNo) id) = some id := by
  have plain : payloadIsObject (Text.trimSpace ("transaction_no=" ++ transactionNo)) = false :=
    plain_of_cons 't' ("ransaction_no=".toList ++ transactionNo.toList) (by simp) (by decide)
      (by decide)
  rw [link_plain plain positive plainNumber.inRange,
    plainNumber.unnamed paymentMethod transactionNo normal resolved]

/-- What happens while the audit of an order is pending: corrections of the order, and
whatever else moves the database elsewhere. -/
inductive PendingOp where
  | edit (settings : SelfServeSettings) (call : SelfServeEdit)
  | elsewhere (next : Books)

/-- The operation corrects the order. -/
def PendingOp.isEdit : PendingOp → Bool
  | .edit _ _ => true
  | .elsewhere _ => false

/-- The database, and how far the order has moved the quota of its user. -/
structure OrderRun where
  books : Books
  moved : Int

open OrderRun

def OrderRun.move (run : OrderRun) (userId : Int) (next : Books) : OrderRun where
  books := next
  moved := run.moved + (next.quotaOf userId - run.books.quotaOf userId)

def pendingStep (userId : Int) (run : OrderRun) : PendingOp → OrderRun
  | .edit settings call =>
    match updateSelfServeTopUp settings run.books call with
    | .error _ => run
    | .ok next => run.move userId next
  | .elsewhere next => { run with books := next }

/-- The columns of a subscription by which its order finds it again. -/
def linkColumns (sub : UserSubscription) : Int × Int × Source × String × String :=
  (sub.userId, sub.planId, sub.source, sub.upgradeGroup, sub.downgradeGroup)

/-- The rows of the order, its user and its subscription stay. -/
structure Elsewhere (tradeNo : String) (userId : Int) (bought : Option Int)
    (books next : Books) : Prop where
  rows : next.orderRows tradeNo = books.orderRows tradeNo
  user : next.hasUser userId = books.hasUser userId
  subscription : ∀ id ∈ bought, (next.store.subs.find? id).map linkColumns =
    (books.store.subs.find? id).map linkColumns

/-- A correction is one of this order and is accepted. -/
def PendingOp.Fits (tradeNo : String) (userId : Int) (bought : Option Int) (run : OrderRun) :
    PendingOp → Prop
  | .edit settings call => Text.trimSpace call.tradeNo = tradeNo ∧
      (updateSelfServeTopUp settings run.books call).isOk
  | .elsewhere next => Elsewhere tradeNo userId bought run.books next

/-! ## The quota of the user -/

section Quota

variable (books : Books) (userId delta : Int)

@[simp] theorem hasUser_addQuota (wanted : Int) :
    (books.addQuota userId delta).hasUser wanted = books.hasUser wanted := by
  rw [Books.hasUser, Books.addQuota, Store.addQuota]
  rw [find?_update, Option.isSome_map]
  rfl

end Quota

/-! ## Corrections -/

variable {store : Store}

section Edit

variable {settings : SelfServeSettings} {books next : Books} {call : SelfServeEdit} {topUp : TopUp}
  {audit : SelfServeTopUpAudit} {order : Option SubscriptionOrder} {tradeNo : String} {money : ℚ}

/-- An order has its top-up and one audit. -/
structure HasRows (books : Books) (tradeNo : String) (topUp : TopUp)
    (audit : SelfServeTopUpAudit) (order : Option SubscriptionOrder) : Prop where
  found : books.store.topUps.find? tradeNo = some topUp
  key : topUp.tradeNo = tradeNo
  audits : books.store.audits.rows.filter (fun audit => audit.tradeNo = tradeNo) = [audit]
  own : audit.tradeNo = tradeNo
  placed : books.store.orders.find? tradeNo = order

theorem calculate_pos {userId quota : Int}
    (done : calculateSelfServeTopUpQuota settings store userId money = .ok quota) : 0 < quota := by
  unfold calculateSelfServeTopUpQuota at done
  split at done
  · cases done
  split at done
  · cases done
  extract_lets ratio topupGroupRatio denominator quota at done
  iterate 3
    split at done
    · cases done
  next positive =>
    rw [Except.ok.injEq] at done
    rw [← done]
    exact not_le.mp positive

section Rows

variable (rows : books.orderRows tradeNo = ⟨some topUp, [audit], order⟩)

include rows

theorem hasRows_of_eq : HasRows books tradeNo topUp audit order := by
  have found : books.store.topUps.find? tradeNo = some topUp := congrArg OrderRows.topUp rows
  have audits : books.store.audits.rows.filter (fun audit => audit.tradeNo = tradeNo) = [audit] :=
    congrArg OrderRows.audits rows
  have listed : audit ∈ books.store.audits.rows.filter (fun audit => audit.tradeNo = tradeNo) := by
    rw [audits]
    exact mem_cons_self
  exact ⟨found, find?_key found, audits, by simpa using (mem_filter.mp listed).2,
    congrArg OrderRows.order rows⟩

theorem find?_of_orderRows :
    books.store.audits.rows.find? (fun audit => audit.tradeNo = topUp.tradeNo) = some audit := by
  rw [(hasRows_of_eq rows).key, ← head?_filter, (hasRows_of_eq rows).audits]
  rfl

/-- An accepted correction writes some positive quota. -/
theorem update_ok (own : Text.trimSpace call.tradeNo = tradeNo)
    (done : updateSelfServeTopUp settings books call = .ok next) :
    ∃ transactionNo money newQuota, 0 < newQuota ∧
      SelfServeEdit.write books topUp audit transactionNo money newQuota = .ok next := by
  simp only [updateSelfServeTopUp, own, (hasRows_of_eq rows).found, find?_of_orderRows rows] at done
  simp only [check_ok] at done
  obtain ⟨-, -, -, done⟩ := done
  split at done
  · cases done
  split at done
  · cases done
  rename_i transactionNo _
  split at done
  · cases done
  split at done
  · cases done
  next newQuota quoted => exact ⟨transactionNo, _, newQuota, calculate_pos quoted, done⟩

theorem write_ok {transactionNo : String} {newQuota : Int}
    (done : SelfServeEdit.write books topUp audit transactionNo money newQuota = .ok next) :
    next.orderRows tradeNo =
        ⟨some { topUp with amount := newQuota, money := money },
          [{ audit with transactionNo := transactionNo, declaredMoney := money
                        creditedQuota := newQuota }], order⟩ ∧ next.store.users =
        (books.addQuota topUp.userId (newQuota - audit.creditedQuota)).store.users ∧
      next.store.subs = books.store.subs := by
  obtain ⟨foundTopUp, key, audits, own, placed⟩ := hasRows_of_eq rows
  have moved : (if newQuota - audit.creditedQuota ≠ 0 then
      books.addQuota topUp.userId (newQuota - audit.creditedQuota) else books) =
      books.addQuota topUp.userId (newQuota - audit.creditedQuota) := by
    split
    · rfl
    next same => rw [not_not.mp same, addQuota_zero]
  simp only [SelfServeEdit.write, moved] at done
  split at done
  · cases done
  rename_i replaced inserted
  cases done
  refine ⟨?_, rfl, rfl⟩
  apply OrderRows.ext
  · exact find?_save foundTopUp rfl
  · have replacedRows := @filter_insert _ _ _ _ _ _ _ inserted
      (fun audit => audit.tradeNo = tradeNo) (by simpa using own)
    rw [filter_discard audits] at replacedRows
    exact replacedRows
  · exact placed

end Rows

end Edit

/-! ## While the audit is pending -/

/-- The order waits for its review, with the quota that its audit says given to the user. -/
structure Awaiting (tradeNo : String) (userId : Int) (order : Option SubscriptionOrder)
    (run : OrderRun) (topUp : TopUp) (audit : SelfServeTopUpAudit) : Prop where
  rows : run.books.orderRows tradeNo = ⟨some topUp, [audit], order⟩
  pending : audit.status = .pending
  provider : topUp.paymentProvider = .selfServe
  user : topUp.userId = userId
  unrefunded : topUp.refundedQuota = 0 ∧ topUp.refundedMoney = 0
  moved : run.moved = if run.books.hasUser userId then audit.creditedQuota else 0

section Waiting

variable {tradeNo : String} {userId : Int} {order : Option SubscriptionOrder}
  {bought : Option Int} {start : OrderRun} {topUp : TopUp} {audit : SelfServeTopUpAudit}

theorem pendingStep_edit {settings : SelfServeSettings} {call : SelfServeEdit}
    (accepted : (updateSelfServeTopUp settings start.books call).isOk) :
    ∃ next, updateSelfServeTopUp settings start.books call = .ok next ∧
      pendingStep userId start (.edit settings call) = start.move userId next := by
  rw [pendingStep]
  cases done : updateSelfServeTopUp settings start.books call with
  | error =>
    rw [done] at accepted
    cases accepted
  | ok next => exact ⟨next, rfl, rfl⟩

theorem quotaOf_of_users {books next : Books} {delta : Int}
    (users : next.store.users = (books.addQuota userId delta).store.users) :
    next.hasUser userId = books.hasUser userId ∧
      next.quotaOf userId = books.quotaOf userId + if books.hasUser userId then delta else 0 := by
  constructor
  · rw [← hasUser_addQuota books userId delta userId, Books.hasUser, users]
    rfl
  · rw [Books.quotaOf, users, Books.addQuota, Store.addQuota]
    rw [find?_update, Books.quotaOf, Books.hasUser]
    cases found : books.store.users.find? userId with
    | none => simp
    | some user => simp [show user.id = userId from find?_key found]

theorem Awaiting.step (awaiting : Awaiting tradeNo userId order start topUp audit) {op : PendingOp}
    (fits : op.Fits tradeNo userId bought start) :
    ∃ topUp' audit', Awaiting tradeNo userId order (pendingStep userId start op) topUp' audit' ∧
      (op.isEdit = true → 0 < audit'.creditedQuota) ∧
      (op.isEdit = false → topUp' = topUp ∧ audit' = audit) := by
  cases op with
  | elsewhere =>
    refine ⟨topUp, audit, ?_, nofun, fun _ => ⟨rfl, rfl⟩⟩
    refine { awaiting with rows := fits.rows.trans awaiting.rows, moved := ?_ }
    have moved := awaiting.moved
    rw [← fits.user] at moved
    exact moved
  | edit settings call =>
    obtain ⟨own, accepted⟩ := fits
    obtain ⟨_, done, stepped⟩ := @pendingStep_edit userId start settings call accepted
    obtain ⟨_, _, _, positive, written⟩ := update_ok awaiting.rows own done
    obtain ⟨rows, users, -⟩ := write_ok awaiting.rows written
    rw [awaiting.user] at users
    obtain ⟨present, quota⟩ := quotaOf_of_users users
    rw [stepped]
    refine ⟨_, _, { awaiting with rows := rows, moved := ?_ }, fun _ => positive, nofun⟩
    -- the new credit is the old one and the difference
    simp only [move, present, quota, awaiting.moved]
    split <;> omega

/-- Corrections leave a positive credit; without one the rows of the order stay as they
were. -/
theorem Awaiting.run (awaiting : Awaiting tradeNo userId order start topUp audit)
    (ops : List PendingOp)
    (fits : Along (PendingOp.Fits tradeNo userId bought) (pendingStep userId) start ops) :
    ∃ topUp' audit', Awaiting tradeNo userId order (run (pendingStep userId) start ops)
        topUp' audit' ∧ (ops.any PendingOp.isEdit = true → 0 < audit'.creditedQuota) ∧
      (ops.any PendingOp.isEdit = false → topUp' = topUp ∧ audit' = audit) := by
  induction ops generalizing start topUp audit with
  | nil => exact ⟨topUp, audit, awaiting, nofun, fun _ => ⟨rfl, rfl⟩⟩
  | cons op ops ih =>
    obtain ⟨here, later⟩ := fits
    obtain ⟨_, _, awaiting₁, edited₁, kept₁⟩ := awaiting.step here
    obtain ⟨topUp₂, audit₂, awaiting₂, edited₂, kept₂⟩ := ih awaiting₁ later
    refine ⟨topUp₂, audit₂, awaiting₂, ?_, ?_⟩
    · intro edits
      cases rest : ops.any PendingOp.isEdit with
      | true => exact edited₂ rest
      | false =>
        rw [any_cons, rest, Bool.or_false] at edits
        rw [(kept₂ rest).2]
        exact edited₁ edits
    · intro unedited
      rw [any_cons, Bool.or_eq_false_iff] at unedited
      obtain ⟨sameTopUp, sameAudit⟩ := kept₂ unedited.2
      rw [sameTopUp, sameAudit]
      exact kept₁ unedited.1

theorem subscription_run {subscription : Int} (owned : subscription ∈ bought)
    (awaiting : Awaiting tradeNo userId order start topUp audit) (ops : List PendingOp)
    (fits : Along (PendingOp.Fits tradeNo userId bought) (pendingStep userId) start ops) :
    ((run (pendingStep userId) start ops).books.store.subs.find? subscription).map linkColumns =
      (start.books.store.subs.find? subscription).map linkColumns := by
  induction ops generalizing start topUp audit with
  | nil => rfl
  | cons op ops ih =>
    obtain ⟨here, later⟩ := fits
    obtain ⟨_, _, awaiting₁, -⟩ := awaiting.step here
    refine (ih awaiting₁ later).trans ?_
    cases op with
    | elsewhere => exact here.subscription subscription owned
    | edit settings call =>
      obtain ⟨own, accepted⟩ := here
      obtain ⟨_, done, stepped⟩ := @pendingStep_edit userId start settings call accepted
      obtain ⟨_, _, _, -, written⟩ := update_ok awaiting.rows own done
      obtain ⟨-, -, subs⟩ := write_ok awaiting.rows written
      rw [stepped, move, subs]

end Waiting

/-! ## Creation -/

def OrderRun.begin (books : Books) (userId : Int) (first : Books) : OrderRun :=
  move ⟨books, 0⟩ userId first

section Creation

variable {settings : SelfServeSettings} {codec : PayloadCodec} {books first : Books}

theorem orderRows_insert {topUps : Table TopUp.tradeNo}
    {audits : Table SelfServeTopUpAudit.transactionNo} {topUp : TopUp} {audit : SelfServeTopUpAudit}
    {order : Option SubscriptionOrder} {tradeNo : String}
    (noAudits : books.store.audits.rows.filter (fun audit => audit.tradeNo = tradeNo) = [])
    (topUpInserted : books.store.topUps.insert? topUp = some topUps)
    (auditInserted : books.store.audits.insert? audit = some audits)
    (ofTopUp : topUp.tradeNo = tradeNo) (ofAudit : audit.tradeNo = tradeNo)
    (sameTopUps : store.topUps = topUps) (sameAudits : store.audits = audits)
    (placed : store.orders.find? tradeNo = order) :
    ({ books with store := store } : Books).orderRows tradeNo = ⟨some topUp, [audit], order⟩ := by
  apply OrderRows.ext
  · change store.topUps.find? tradeNo = some topUp
    rw [sameTopUps, find?_insert topUpInserted, if_pos ofTopUp.symm]
  · change store.audits.rows.filter _ = [audit]
    rw [sameAudits, filter_insert auditInserted (by simpa using ofAudit), noAudits, nil_append]
  · exact placed

theorem wallet_awaits {call : SelfServeCreate}
    (fresh : books.orderRows call.tradeNo = ⟨none, [], none⟩)
    (done : createSelfServeTopUp settings books call = .ok first) :
    ∃ topUp audit, Awaiting call.tradeNo call.userId none
      (begin books call.userId first) topUp audit ∧ 0 < audit.creditedQuota := by
  have noAudits : books.store.audits.rows.filter (fun audit => audit.tradeNo = call.tradeNo) = [] :=
    congrArg OrderRows.audits fresh
  have noOrder : books.store.orders.find? call.tradeNo = none := congrArg OrderRows.order fresh
  simp only [createSelfServeTopUp] at done
  iterate 3
    split at done
    · cases done
  rename_i quotaToAdd quoted
  simp only [SelfServeCreate.insert] at done
  split at done
  · cases done
  split at done
  · cases done
  split at done
  · next topUps audits topUpInserted auditInserted =>
    cases done
    have rows := @orderRows_insert
      { books.store with topUps := topUps, audits := audits } books _ _ _ _ _ call.tradeNo noAudits
      topUpInserted auditInserted rfl rfl rfl rfl noOrder
    obtain ⟨present, quota⟩ := @quotaOf_of_users call.userId books
      (({ books with store := { books.store with
        topUps := topUps, audits := audits } } : Books).addQuota call.userId quotaToAdd)
      quotaToAdd rfl
    refine ⟨_, _, ⟨rows, rfl, rfl, rfl, ⟨rfl, rfl⟩, ?_⟩, calculate_pos quoted⟩
    simp only [begin, move, present, quota]
    split <;> omega
  · cases done

/-- A purchase waits for its review: nothing is credited, and its rows and its subscription
belong together. -/
structure Purchased (codec : PayloadCodec) (store : Store) (order : SubscriptionOrder)
    (topUp : TopUp) (audit : SelfServeTopUpAudit) (sub : UserSubscription) : Prop where
  uncredited : audit.creditedQuota = 0
  mirrored : topUp.money = order.money
  cents : Decimal.round 2 order.money = order.money
  paid : 0 < order.money
  status : order.status = .success
  provider : order.paymentProvider = .selfServe
  link : LinkedTo codec store order sub
  user : 0 < sub.userId

theorem purchase_awaits {call : SelfServePurchase}
    (fresh : books.orderRows call.tradeNo = ⟨none, [], none⟩)
    (unforged : PlainNumber settings call books.store.subs.next)
    (done : purchaseSubscriptionWithSelfServe settings.loc codec settings.payments books.store
      call = .ok store) :
    ∃ order topUp audit sub, Awaiting call.tradeNo call.userId (some order)
        (begin books call.userId { books with store := store }) topUp audit ∧
      Purchased codec store order topUp audit sub ∧ sub.id = books.store.subs.next := by
  have noAudits : books.store.audits.rows.filter (fun audit => audit.tradeNo = call.tradeNo) = [] :=
    congrArg OrderRows.audits fresh
  have noTopUp : books.store.topUps.find? call.tradeNo = none := congrArg OrderRows.topUp fresh
  rw [purchaseSubscriptionWithSelfServe_eq] at done
  split at done
  · cases done
  rename_i plan paymentMethod money checked
  obtain ⟨normal, declared, admitted⟩ := checkSelfServePurchase_ok checked
  obtain ⟨user, paid⟩ : 0 < call.userId ∧ 0 < money := by
    simp only [validateSelfServeTopUpMoney] at admitted
    split at admitted
    · cases admitted
    next user =>
      split at admitted
      · cases admitted
      next positive => exact ⟨not_le.mp user, not_le.mp positive⟩
  simp only [insertSelfServePurchase] at done
  split at done
  · cases done
  rename_i transactionNo resolved
  have linked := @PlainNumber.link settings codec call _ _ _ unforged
    books.store.subs.next_pos normal resolved
  simp only [createSelfServe, check_ok] at done
  obtain ⟨-, -, done⟩ := done
  split at done
  · cases done
  rename_i served paying
  split at done
  · cases done
  rename_i audits auditInserted
  cases done
  obtain ⟨_, endTime, orders, topUps, orderInserted, topUpInserted, frame⟩ :=
    createPaid_fresh noTopUp paying
  generalize orderEq : SubscriptionOrder.paid _ codec books.store.subs.next call.now =
    order at orderInserted topUpInserted
  have money' : order.money = money := by rw [← orderEq]; rfl
  have payload : order.providerPayload = providerPayloadWithSubscriptionId codec
      ("transaction_no=" ++ transactionNo) books.store.subs.next := by
    rw [← orderEq, SubscriptionOrder.paid]
  have tradeNo : order.tradeNo = call.tradeNo := by rw [← orderEq]; rfl
  have owner : order.userId = call.userId := by rw [← orderEq]; rfl
  have provider : order.paymentProvider = .selfServe := by rw [← orderEq]; rfl
  have sameAudits : served.audits = books.store.audits := by rw [frame]
  have sameOrders : served.orders = orders := by rw [frame]
  have sameTopUps : served.topUps = topUps := by rw [frame]
  rw [sameAudits] at auditInserted
  have rows := @orderRows_insert { served with audits := audits } books topUps audits
    (order.mirror call.now) _ (some order) call.tradeNo noAudits topUpInserted auditInserted
    tradeNo rfl sameTopUps rfl (by
      rw [sameOrders, find?_insert orderInserted, if_pos tradeNo.symm])
  have quotas : (served.users.find? call.userId).map User.quota =
      (books.store.users.find? call.userId).map User.quota := by
    rw [frame]
    rw [upgradedUsers_quotas]
  have found : served.subs.find? books.store.subs.next = some (newSubscription settings.loc
      books.store call.userId plan .order call.now endTime books.store.subs.next) := by
    rw [frame]
    exact Serial.find?_create _ _
      (newSubscription_id settings.loc books.store call.userId plan .order call.now endTime)
  refine ⟨order, order.mirror call.now, _, newSubscription settings.loc books.store
    call.userId plan .order call.now endTime books.store.subs.next,
    ⟨rows, rfl, provider, owner, ⟨rfl, rfl⟩, ?_⟩,
    { uncredited := rfl
      mirrored := rfl
      cents := by
        rw [money', declared]
        exact Decimal.round_of_hasPlaces (Decimal.round_hasPlaces 2 _)
      paid := by rw [money']; exact paid
      status := by rw [← orderEq]; rfl
      provider := provider
      link :=
        { named := by rw [payload, newSubscription_id, linked]
          found := found
          user := owner.symm
          plan := by rw [← orderEq]; rfl
          source := rfl }
      user := user }, rfl⟩
  simp only [begin, move, Books.quotaOf, quotas, ite_self]
  omega

end Creation

/-! ## Rejection -/

/-- The books after a rejection, up to the sync of the subscription. -/
def rejectedBooks (books : Books) (topUp : TopUp) (audit : SelfServeTopUpAudit) (amount : ℚ)
    (quota : Int) (refunds : Table TopUpRefund.outRequestNo) : Books where
  store := { (books.addQuota topUp.userId (-quota)).store with
    topUps := books.store.topUps.save (rejectTopUp topUp amount quota)
    audits := books.store.audits.save { audit with status := .rejected } }
  refunds := refunds

section Rejection

variable {settings : RefundSettings} {books final : Books} {call : Rejection} {topUp : TopUp}
  {audit : SelfServeTopUpAudit} {order : Option SubscriptionOrder} {tradeNo : String}

theorem reject_eq (rows : books.orderRows tradeNo = ⟨some topUp, [audit], order⟩)
    (pending : audit.status = .pending) (provider : topUp.paymentProvider = .selfServe)
    (own : Text.trimSpace call.tradeNo = tradeNo) (named : tradeNo ≠ "") :
    rejectSelfServeTopUp settings books call = call.book settings books topUp audit := by
  have selfServe : isSelfServeTopUpRecord topUp = true := by simp [isSelfServeTopUpRecord, provider]
  simp only [rejectSelfServeTopUp, own, if_neg named, (hasRows_of_eq rows).found, selfServe,
    Bool.not_true, Bool.false_eq_true, if_false, find?_of_orderRows rows, pending]

theorem createRefund_commits {refund : TopUpRefund}
    (unused : books.refunds.find? refund.outRequestNo = none) :
    ∃ refunds, books.createRefund refund = .ok { books with refunds := refunds } := by
  rw [Books.createRefund]
  cases inserted : books.refunds.insert? refund with
  | none =>
    rw [insert?_eq_none, unused] at inserted
    cases inserted
  | some refunds => exact ⟨refunds, rfl⟩

theorem book_purchase {bought : SubscriptionOrder}
    (placed : books.store.orders.find? topUp.tradeNo = some bought)
    (unused : books.refunds.find? call.outRequestNo = none) :
    ∃ refunds, call.book settings books topUp audit =
      (rejectedBooks books topUp audit
        (max (Decimal.round 2 (topUp.money - topUp.refundedMoney)) 0) 0 refunds).syncSubscription
        settings topUp.tradeNo true call.now call.bookkeepingFails := by
  simp only [Rejection.book, placed, Option.isSome_some, if_true, gt_iff_lt, lt_self_iff_false,
    if_false]
  obtain ⟨refunds, created⟩ := @createRefund_commits books
    (refundRow topUp call.outRequestNo
      (max (Decimal.round 2 (topUp.money - topUp.refundedMoney)) 0) 0 .success) unused
  refine ⟨refunds, ?_⟩
  rw [created, rejectedBooks, neg_zero, addQuota_zero]
  rfl

theorem orderRows_rejected {amount : ℚ} {quota : Int} {refunds : Table TopUpRefund.outRequestNo}
    (rows : books.orderRows tradeNo = ⟨some topUp, [audit], order⟩) :
    (rejectedBooks books topUp audit amount quota refunds).orderRows tradeNo =
      ⟨some (rejectTopUp topUp amount quota), [{ audit with status := .rejected }], order⟩ := by
  obtain ⟨foundTopUp, key, audits, own, placed⟩ := hasRows_of_eq rows
  apply OrderRows.ext
  · exact find?_save foundTopUp rfl
  · exact filter_save audits rfl (by simpa using own)
  · exact placed

end Rejection

/-! ## The sync of a rejected purchase -/

section Sync

variable {settings : RefundSettings} {books final : Books} {topUp : TopUp}
  {audit : SelfServeTopUpAudit} {order : SubscriptionOrder} {tradeNo : String}
  {full fails : Bool} {now : Int}

theorem syncSubscription_rows (rows : books.orderRows tradeNo = ⟨some topUp, [audit], some order⟩)
    (paid : order.paymentProvider ≠ .balance ∧ topUp.paymentProvider ≠ .balance)
    (done : books.syncSubscription settings tradeNo full now fails = .ok final) :
    ∃ topUp' order', final.orderRows tradeNo = ⟨some topUp', [audit], some order'⟩ ∧
      topUp'.refundedQuota = 0 ∧ SameQuotas books.store.users final.store.users := by
  rw [Books.syncSubscription] at done
  split at done
  · cases done
  next store synced =>
  cases done
  obtain ⟨_, _, _, foundOrder, foundTopUp, -, -, kept, written⟩ := sync_writes synced
  obtain ⟨found, -, audits, -, placed⟩ := hasRows_of_eq rows
  cases placed.symm.trans foundOrder
  cases found.symm.trans foundTopUp
  refine ⟨RefundSync.topUpAfter ⟨tradeNo, some .selfServe, full, now, fails⟩ order topUp,
    RefundSync.orderAfter ⟨tradeNo, some .selfServe, full, now, fails⟩ order topUp,
    OrderRows.ext ?_ ?_ ?_, if_pos paid, ?_⟩
  · change store.topUps.find? tradeNo = _
    rw [written]
    exact find?_topUps_write found
  · rw [written]
    exact audits
  · change store.orders.find? tradeNo = _
    rw [written]
    exact find?_orders_write placed
  · rw [written]
    exact kept

theorem syncSubscription_cancels {sub : UserSubscription}
    (rows : books.orderRows tradeNo = ⟨some topUp, [audit], some order⟩)
    (provider : order.paymentProvider = .selfServe) (status : order.status = .success)
    (link : LinkedTo settings.codec books.store order sub) (user : 0 < sub.userId)
    (refunded : 0 < refundedMoney topUp)
    (fits : refundedMoney topUp ≤ Decimal.round 2 order.money) :
    ∃ final, books.syncSubscription settings tradeNo full now false = .ok final ∧
      ∃ sub', final.store.subs.find? sub.id = some sub' ∧ sub'.status = .cancelled := by
  obtain ⟨found, -, -, -, placed⟩ := hasRows_of_eq rows
  have admits : RefundSync.Admits ⟨tradeNo, some .selfServe, full, now, false⟩ order topUp :=
    ⟨by rw [provider]; rfl, .inl status, fits, rfl⟩
  obtain ⟨store, synced⟩ := @sync_commits settings.codec
    ⟨tradeNo, some .selfServe, full, now, false⟩ books.store order topUp placed found admits (by
      intro row findable _
      rw [link.refundable_after, Option.some.injEq] at findable
      rw [← findable]
      exact .inr user)
  refine ⟨{ books with store := store }, by rw [Books.syncSubscription, synced], ?_⟩
  obtain ⟨_, _, _, foundOrder, foundTopUp, -, -, -, written⟩ := sync_writes synced
  cases placed.symm.trans foundOrder
  cases found.symm.trans foundTopUp
  have refunds : RefundSync.status ⟨tradeNo, some .selfServe, full, now, false⟩ order topUp =
        .refunded ∨ RefundSync.status ⟨tradeNo, some .selfServe, full, now, false⟩ order topUp =
        .partialRefunded := refundStatus_refunds_iff.mpr refunded
  have subs : store.subs = books.store.subs.save { sub with status := .cancelled } := by
    rw [written, link.synced, UserSubscription.afterSync, if_pos refunds]
  refine ⟨{ sub with status := .cancelled }, ?_, rfl⟩
  rw [subs]
  exact find?_save link.found rfl

end Sync

/-! ## What is left of a rejected order -/

/-- Everything is taken back: the quota of the user, as far as the order has moved it, and
the subscription that the order has bought. -/
structure TakenBack (tradeNo : String) (bought : Option Int) (run : OrderRun) : Prop where
  moved : run.moved = 0
  refunded : ∃ topUp audit order, run.books.orderRows tradeNo = ⟨some topUp, [audit], order⟩ ∧
    topUp.refundedQuota = audit.creditedQuota
  cancelled : ∀ id ∈ bought, ∃ sub, run.books.store.subs.find? id = some sub ∧
    sub.status = .cancelled

section TakenBack

variable {settings : RefundSettings} {call : Rejection} {tradeNo : String} {userId : Int}
  {last : OrderRun} {topUp : TopUp} {audit : SelfServeTopUpAudit}
  (own : Text.trimSpace call.tradeNo = tradeNo) (named : tradeNo ≠ "")
  (unused : last.books.refunds.find? call.outRequestNo = none)

include own named unused

theorem wallet_taken_back (awaiting : Awaiting tradeNo userId none last topUp audit)
    (credited : 0 < audit.creditedQuota) :
    ∃ final, rejectSelfServeTopUp settings last.books call = .ok final ∧
      TakenBack tradeNo none (last.move userId final) := by
  obtain ⟨-, key, -, -, noOrder⟩ := hasRows_of_eq awaiting.rows
  rw [← key] at noOrder
  have quota : max (audit.creditedQuota - topUp.refundedQuota) 0 = audit.creditedQuota := by
    rw [awaiting.unrefunded.1]
    omega
  obtain ⟨refunds, amount, booked⟩ : ∃ refunds amount, call.book settings last.books topUp audit =
      .ok (rejectedBooks last.books topUp audit amount audit.creditedQuota refunds) := by
    simp only [Rejection.book, noOrder, Option.isSome_none, Bool.false_eq_true, if_false, quota,
      if_pos credited]
    obtain ⟨refunds, created⟩ := @createRefund_commits
      (last.books.addQuota topUp.userId (-audit.creditedQuota))
      (refundRow topUp call.outRequestNo
        (max (Decimal.round 2 (topUp.money - topUp.refundedMoney)) 0) audit.creditedQuota .success)
      unused
    rw [created]
    exact ⟨refunds, _, rfl⟩
  refine ⟨_, (reject_eq awaiting.rows awaiting.pending awaiting.provider own named).trans booked,
    ?_⟩
  obtain ⟨_, quota⟩ := @quotaOf_of_users userId last.books
    (rejectedBooks last.books topUp audit amount audit.creditedQuota refunds)
    (-audit.creditedQuota) (by rw [← awaiting.user]; rfl)
  refine ⟨?_, ⟨_, _, _, orderRows_rejected awaiting.rows, ?_⟩, by simp⟩
  · simp only [move, quota, awaiting.moved]
    split <;> omega
  · simp [rejectTopUp, awaiting.unrefunded.1]

variable {order : SubscriptionOrder}

variable (awaiting : Awaiting tradeNo userId (some order) last topUp audit)

include awaiting

theorem reject_purchase_rows {final : Books}
    (provider : order.paymentProvider = .selfServe)
    (done : rejectSelfServeTopUp settings last.books call = .ok final) :
    ∃ topUp' order', final.orderRows tradeNo =
        ⟨some topUp', [{ audit with status := .rejected }], some order'⟩ ∧
      topUp'.refundedQuota = 0 ∧ final.quotaOf userId = last.books.quotaOf userId := by
  obtain ⟨-, key, -, -, placed⟩ := hasRows_of_eq awaiting.rows
  rw [← key] at placed
  obtain ⟨_, booked⟩ := @book_purchase settings last.books call topUp audit order placed
    unused
  rw [reject_eq awaiting.rows awaiting.pending awaiting.provider own named, booked, key] at done
  have paid : order.paymentProvider ≠ .balance ∧ topUp.paymentProvider ≠ .balance := by
    rw [provider, awaiting.provider]
    decide
  obtain ⟨topUp', order', rows, unrefunded, kept⟩ := @syncSubscription_rows settings _ final
    (rejectTopUp topUp (max (Decimal.round 2 (topUp.money - topUp.refundedMoney)) 0) 0)
    { audit with status := .rejected } order tradeNo true call.bookkeepingFails call.now
    (orderRows_rejected awaiting.rows) paid done
  refine ⟨topUp', order', rows, unrefunded, ?_⟩
  rw [Books.quotaOf, kept userId]
  change (last.books.addQuota topUp.userId (-0)).quotaOf userId = _
  rw [neg_zero, addQuota_zero]

theorem purchase_taken_back {sub row : UserSubscription}
    (purchased : Purchased settings.codec store order topUp audit sub)
    (found : last.books.store.subs.find? sub.id = some row)
    (columns : linkColumns row = linkColumns sub) (works : call.bookkeepingFails = false) :
    ∃ final, rejectSelfServeTopUp settings last.books call = .ok final ∧
      TakenBack tradeNo (some sub.id) (last.move userId final) := by
  obtain ⟨-, key, -, -, placed⟩ := hasRows_of_eq awaiting.rows
  rw [← key] at placed
  obtain ⟨refunds, booked⟩ := @book_purchase settings last.books call topUp audit order placed
    unused
  have amount : max (Decimal.round 2 (topUp.money - topUp.refundedMoney)) 0 = order.money := by
    rw [awaiting.unrefunded.2, sub_zero, purchased.mirrored, purchased.cents,
      max_eq_left purchased.paid.le]
  rw [key, works, amount] at booked
  have refunded : refundedMoney (rejectTopUp topUp order.money 0) = order.money := by
    simp only [refundedMoney, rejectTopUp, awaiting.unrefunded.2, zero_add, purchased.cents]
  have id : row.id = sub.id := find?_key found
  simp only [linkColumns, Prod.mk.injEq] at columns
  obtain ⟨user, plan, source, -, -⟩ := columns
  have link : LinkedTo settings.codec (rejectedBooks last.books topUp audit order.money 0
      refunds).store order row :=
    { named := by rw [id]; exact purchased.link.named
      found := by rw [id]; exact found
      user := user.trans purchased.link.user
      plan := plan.trans purchased.link.plan
      source := source.trans purchased.link.source }
  obtain ⟨final, synced, row', foundRow, cancelled⟩ := @syncSubscription_cancels settings
    (rejectedBooks last.books topUp audit order.money 0 refunds) _ _ order tradeNo true call.now row
    (orderRows_rejected awaiting.rows) purchased.provider purchased.status link
    (by rw [user]; exact purchased.user) (by rw [refunded]; exact purchased.paid)
    (by rw [refunded, purchased.cents])
  have done : rejectSelfServeTopUp settings last.books call = .ok final := by
    rw [reject_eq awaiting.rows awaiting.pending awaiting.provider own named, booked, synced]
  obtain ⟨topUp', order', rows, unrefunded, quota⟩ :=
    reject_purchase_rows own named unused awaiting purchased.provider done
  refine ⟨final, done, ?_, ⟨topUp', _, some order', rows, ?_⟩, ?_⟩
  · simp only [move, quota, awaiting.moved, purchased.uncredited, ite_self]
    omega
  · exact unrefunded.trans purchased.uncredited.symm
  · rintro _ ⟨rfl⟩
    rw [id] at foundRow
    exact ⟨row', foundRow, cancelled⟩

theorem edited_purchase_kept {final : Books} {bought : Option Int}
    (provider : order.paymentProvider = .selfServe) (credited : 0 < audit.creditedQuota)
    (done : rejectSelfServeTopUp settings last.books call = .ok final) :
    ¬ TakenBack tradeNo bought (last.move userId final) := by
  intro takenBack
  obtain ⟨topUp', order', rows, unrefunded, -⟩ :=
    reject_purchase_rows own named unused awaiting provider done
  obtain ⟨_, _, _, rows₁, same⟩ := takenBack.refunded
  change final.orderRows tradeNo = _ at rows₁
  rw [rows, OrderRows.mk.injEq, Option.some.injEq, cons.injEq] at rows₁
  obtain ⟨rfl, ⟨rfl, -⟩, -⟩ := rows₁
  rw [unrefunded] at same
  exact credited.ne same

end TakenBack

/-- The rejection of a self-serve order takes back everything that the order has given,
exactly if the order is a top-up of the wallet or was never corrected. -/
theorem rejection_takes_back_iff (settings : SelfServeSettings) (refund : RefundSettings)
    {books first : Books} (order : SelfServeOrder)
    (fresh : books.orderRows order.tradeNo = ⟨none, [], none⟩) (named : order.tradeNo ≠ "")
    (created : order.commit settings refund.codec books = .ok first)
    (unforged : order.Unforged settings books) (ops : List PendingOp)
    (fits : Along (PendingOp.Fits order.tradeNo order.userId (order.bought books))
      (pendingStep order.userId) (begin books order.userId first) ops)
    (call : Rejection) (own : Text.trimSpace call.tradeNo = order.tradeNo)
    (unused : (run (pendingStep order.userId) (begin books order.userId first)
      ops).books.refunds.find? call.outRequestNo = none) (works : call.bookkeepingFails = false) :
    (∃ final, rejectSelfServeTopUp refund
        (run (pendingStep order.userId) (begin books order.userId first) ops).books
        call = .ok final ∧ TakenBack order.tradeNo (order.bought books)
        ((run (pendingStep order.userId) (begin books order.userId first) ops).move
          order.userId final)) ↔ order.bought books = none ∨ ops.any PendingOp.isEdit = false := by
  cases order with
  | wallet =>
    obtain ⟨topUp, audit, awaiting, credited⟩ := wallet_awaits fresh created
    obtain ⟨topUp', audit', awaiting', edited, kept⟩ := awaiting.run ops fits
    have stillCredited : 0 < audit'.creditedQuota := by
      cases edits : ops.any PendingOp.isEdit with
      | true => exact edited edits
      | false =>
        rw [(kept edits).2]
        exact credited
    exact ⟨fun _ => .inl rfl, fun _ => wallet_taken_back own named unused awaiting' stillCredited⟩
  | purchase purchase =>
    rw [SelfServeOrder.commit] at created
    split at created
    · cases created
    rename_i store bought
    cases created
    obtain ⟨_, topUp, audit, sub, awaiting, purchased, id⟩ :=
      purchase_awaits fresh unforged bought
    obtain ⟨topUp', audit', awaiting', edited, kept⟩ := awaiting.run ops fits
    constructor
    · rintro ⟨final, done, takenBack⟩
      right
      by_contra edits
      rw [Bool.not_eq_false] at edits
      exact edited_purchase_kept own named unused awaiting' purchased.provider (edited edits)
        done takenBack
    · intro unedited
      obtain ⟨rfl, rfl⟩ := kept (unedited.resolve_left nofun)
      have columns := subscription_run (show sub.id ∈ SelfServeOrder.bought books
        (.purchase purchase) by rw [id]; rfl) awaiting ops fits
      change _ = (store.subs.find? sub.id).map linkColumns at columns
      rw [purchased.link.found, Option.map_some, Option.map_eq_some_iff] at columns
      obtain ⟨_, found, same⟩ := columns
      rw [SelfServeOrder.bought, ← id]
      exact purchase_taken_back own named unused awaiting' purchased found same works

def sellingBooks : Books where
  store :=
    { users := .single { id := 2 }
      plans := .single { id := 1, priceAmount := 10, durationUnit := .day } }

def planPurchase (tradeNo transactionNo : String) : SelfServeOrder :=
  .purchase
    { userId := 2, planId := 1, paymentMethod := "alipay_self_serve", declaredMoney := 10
      transactionNo := transactionNo, tradeNo := tradeNo, generatedTransactionNo := "", now := 1 }

def correction (money : ℚ) : SelfServeEdit :=
  { tradeNo := "T1", declaredMoney := money, transactionNo := "2026010112345678"
    generatedTransactionNo := "", now := 2 }

def correctedAndRejected (money : ℚ) : Except TopUpError Books := do
  let first ← (planPurchase "T1" "2026010112345678").commit selfServePlain
    plainServer.refund.codec sellingBooks
  let corrected ← updateSelfServeTopUp selfServePlain first (correction money)
  rejectSelfServeTopUp plainServer.refund corrected ⟨"T1", "R1", 3, false⟩

/-- Two purchases are served, the second with a number that names the subscription of the
first, and the second is rejected. -/
def forgedAndRejected : Except TopUpError Books := do
  let first ← (planPurchase "T1" "2026010112345678").commit selfServePlain
    plainServer.refund.codec sellingBooks
  let second ← (planPurchase "T2" "pay;subscription_id=1").commit selfServePlain
    plainServer.refund.codec first
  rejectSelfServeTopUp plainServer.refund second ⟨"T2", "R1", 3, false⟩

/-- After a correction to 5.00 the rejected purchase leaves 5 units of quota with the user,
after a correction to 20.00 it cannot be rejected, and with a forged number the rejection
cancels the subscription of the other purchase. -/
theorem rejection_leaves_quota :
    (correctedAndRejected 5).toOption.map (fun books =>
      (books.quotaOf 2, (books.store.topUps.find? "T1").map TopUp.refundedQuota,
        (books.store.audits.find? "2026010112345678").map SelfServeTopUpAudit.creditedQuota)) =
      some (5, some 0, some 5) ∧ (correctedAndRejected 20).toOption.isNone ∧
    forgedAndRejected.toOption.map (fun books => books.store.subs.rows.map fun sub =>
      (sub.id, sub.status)) = some [(1, .cancelled), (2, .active)] := by
  decide +kernel

/-- A top-up of the wallet by 10.00. -/
def walletOrder : SelfServeOrder :=
  .wallet
    { userId := 2, paymentMethod := "alipay_self_serve", declaredMoney := 10
      transactionNo := "2026010112345678", tradeNo := "T1", generatedTransactionNo := "", now := 1 }

/-- The books after the top-up. -/
def creditedBooks : Books :=
  (walletOrder.commit selfServePlain plainServer.refund.codec sellingBooks).toOption.getD
    sellingBooks

/-- The top-up, corrected to 5.00 and rejected, is taken back. -/
theorem corrected_top_up_taken_back :
    ∃ final, rejectSelfServeTopUp plainServer.refund
        (run (pendingStep 2) (begin sellingBooks 2 creditedBooks)
          [.edit selfServePlain (correction 5)]).books ⟨"T1", "R1", 3, false⟩ = .ok final ∧
      TakenBack "T1" none ((run (pendingStep 2) (begin sellingBooks 2 creditedBooks)
        [.edit selfServePlain (correction 5)]).move 2 final) := by
  have created : walletOrder.commit selfServePlain plainServer.refund.codec sellingBooks =
      .ok creditedBooks := by
    have served : (walletOrder.commit selfServePlain plainServer.refund.codec
        sellingBooks).isOk := by decide +kernel
    rw [creditedBooks]
    cases done : walletOrder.commit selfServePlain plainServer.refund.codec sellingBooks with
    | error =>
      rw [done] at served
      cases served
    | ok => rfl
  exact (rejection_takes_back_iff selfServePlain plainServer.refund walletOrder rfl (by decide)
    created trivial [.edit selfServePlain (correction 5)]
    ⟨⟨by decide +kernel, by decide +kernel⟩, trivial⟩ ⟨"T1", "R1", 3, false⟩ (by decide +kernel)
    (by decide +kernel) rfl).mpr (.inl rfl)

end StuHelper.TopUps
