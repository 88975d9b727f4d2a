import StuHelper.TopUps.Credit

/-!
# One quota for an order

Which completions of a pending order credit the quota that refunds are computed from.
The callbacks of the providers do, except that the Stripe callback does not truncate.
`manualCompleteTopUp` takes the amount of every other order for units, although the
amount of a Creem order, of a self-serve order and of an administrator's top-up is
already the quota.
-/

namespace StuHelper.TopUps

open Lib Subscription TopUps.Path

/-! ## What a completion credits -/

namespace Path

def quota (quotaPerUnit : ℚ) (topUp : TopUp) : Path → ℚ
  | .stripe => topUp.money * quotaPerUnit
  | .creem _ => topUp.amount
  | .manual => manualQuota quotaPerUnit topUp
  | _ => truncatedQuota quotaPerUnit topUp.amount

/-- The payment method of the completed row. -/
def paymentMethod (topUp : TopUp) : Path → String
  | .epay actual => if actual ≠ "" then actual else topUp.paymentMethod
  | .official _ actual _ => if actual ≠ "" then actual else topUp.paymentMethod
  | _ => topUp.paymentMethod

/-- The paths that refuse a quota that is not positive. -/
def checksQuota : Path → Bool
  | .stripe => false
  | .creem _ => false
  | _ => true

end Path

/-- A completion has credited `quota` to the order `topUp`. -/
structure Credited (settings : CreditSettings) (store : Store) (topUp : TopUp)
    (path : Path) (now : Int) (completed : Completed) (quota : ℚ) : Prop where
  amount : quota = path.quota settings.quotaPerUnit topUp
  positive : path.checksQuota = true → 0 < quota
  store : completed.store = creditUser settings
    { store with topUps := store.topUps.save (succeed topUp (path.paymentMethod topUp) now) }
    topUp.userId quota

section Completions

variable {settings : CreditSettings} {store : Store} {call : Completion} {topUp : TopUp}
  {completed : Completed} {quota : ℚ}
variable {path : Path}

variable {method : String} {amount : Int}

theorem credit_ok {amount : ℚ}
    (done : credit settings store call topUp method amount = .ok completed) :
    completed =
      { store := creditUser settings
          { store with topUps := store.topUps.save (succeed topUp method call.now) }
          topUp.userId amount
        credited := some amount } := by
  unfold credit at done
  split at done
  · cases done
  · cases done
    rfl

theorem hideCause_ok {α : Type} {result : Except TopUpError α} {value : α}
    (done : hideCause result = .ok value) : result = .ok value := by
  cases result with
  | error => cases done
  | ok => exact done

/-- A completion that commits finds the order complete, or credits an order that is not. -/
def Completes (settings : CreditSettings) (store : Store) (call : Completion) (path : Path)
    (completed : Completed) : Prop :=
  completed = { store := store, credited := none } ∨
    ∃ topUp quota, store.topUps.find? call.tradeNo = some topUp ∧ completable topUp ∧
      completed.credited = some quota ∧ Credited settings store topUp path call.now completed quota

theorem completable_of_pending (pending : topUp.status = .pending) : completable topUp := by
  simp [completable, pending]

theorem completes_of_credit (found : store.topUps.find? call.tradeNo = some topUp)
    (pending : completable topUp) (unchecked : path.checksQuota = false)
    (done : credit settings store call topUp (path.paymentMethod topUp)
      (path.quota settings.quotaPerUnit topUp) = .ok completed) :
    Completes settings store call path completed := by
  rw [credit_ok done]
  exact .inr ⟨topUp, _, found, pending, rfl, rfl, by simp [unchecked], rfl⟩

theorem completes_of_creditPositive (found : store.topUps.find? call.tradeNo = some topUp)
    (pending : completable topUp) (quota : path.quota settings.quotaPerUnit topUp = amount)
    (done : creditPositive settings store call topUp (path.paymentMethod topUp) amount =
      .ok completed) : Completes settings store call path completed := by
  unfold creditPositive at done
  split at done
  · cases done
  next positive =>
    rw [credit_ok done]
    exact .inr ⟨topUp, _, found, pending, rfl, quota.symm,
      fun _ => by exact_mod_cast Int.not_le.mp positive, rfl⟩

theorem rechargeByAmount_completes {provider : PaymentProvider}
    (method : ∀ topUp, path.paymentMethod topUp = topUp.paymentMethod)
    (quota : ∀ topUp, path.quota settings.quotaPerUnit topUp =
      truncatedQuota settings.quotaPerUnit topUp.amount)
    (done : rechargeByAmount provider settings store call = .ok completed) :
    Completes settings store call path completed := by
  simp only [rechargeByAmount] at done
  split at done
  · cases done
  replace done := hideCause_ok done
  split at done
  · cases done
  rename_i topUp found
  split at done
  · cases done
  split at done
  · cases done
    exact .inl rfl
  obtain ⟨pending, done⟩ := check_ok.mp done
  rw [← method] at done
  exact completes_of_creditPositive found (completable_of_pending (not_not.mp pending))
    (quota topUp) done

/-- What a completion that commits has done. -/
theorem complete_cases (done : path.complete settings store call = .ok completed) :
    Completes settings store call path completed := by
  cases path with
  | epay =>
    simp only [complete, completeEpayTopUp] at done
    split at done
    · cases done
    split at done
    · cases done
    rename_i topUp found
    split at done
    · cases done
    split at done
    · cases done
      exact .inl rfl
    obtain ⟨pending, done⟩ := check_ok.mp done
    exact completes_of_creditPositive found
      (completable_of_pending (not_not.mp pending)) rfl done
  | stripe =>
    simp only [complete, recharge] at done
    split at done
    · cases done
    replace done := hideCause_ok done
    split at done
    · cases done
    next topUp found =>
      simp only [check_ok] at done
      obtain ⟨-, pending, done⟩ := done
      exact completes_of_credit found (completable_of_pending (not_not.mp pending)) rfl done
  | creem =>
    simp only [complete, rechargeCreem] at done
    split at done
    · cases done
    replace done := hideCause_ok done
    split at done
    · cases done
    rename_i topUp found
    simp only [check_ok] at done
    obtain ⟨-, pending, -, done⟩ := done
    exact completes_of_credit found (completable_of_pending (not_not.mp pending)) rfl
      done
  | waffo | waffoPancake => exact rechargeByAmount_completes (fun _ => rfl) (fun _ => rfl) done
  | official =>
    simp only [complete, rechargeOfficialPayment] at done
    split at done
    · cases done
    replace done := hideCause_ok done
    split at done
    · cases done
    rename_i topUp found
    split at done
    · cases done
    split at done
    · cases done
      exact .inl rfl
    simp only [check_ok] at done
    obtain ⟨pending, -, done⟩ := done
    exact completes_of_creditPositive found (by simpa using pending) rfl done
  | manual =>
    simp only [complete, manualCompleteTopUp] at done
    split at done
    · cases done
    split at done
    · cases done
    rename_i topUp found
    split at done
    · cases done
      exact .inl rfl
    obtain ⟨pending, done⟩ := check_ok.mp done
    exact completes_of_creditPositive found (by simpa using pending) rfl done

theorem complete_ok (found : store.topUps.find? call.tradeNo = some topUp)
    (done : path.complete settings store call = .ok completed)
    (credited : completed.credited = some quota) :
    Credited settings store topUp path call.now completed quota := by
  rcases complete_cases done with rfl | ⟨other, amount, foundOther, -, creditedOther, effect⟩
  · cases credited
  · cases found.symm.trans foundOther
    cases credited.symm.trans creditedOther
    exact effect

theorem Credited.row {now : Int} (found : store.topUps.find? call.tradeNo = some topUp)
    (credited : Credited settings store topUp path now completed quota) :
    completed.store.topUps.find? call.tradeNo =
      some (succeed topUp (path.paymentMethod topUp) now) := by
  rw [credited.store]
  exact Table.find?_save found rfl

/-- What a completion credits is what the row of the order's user gets, and no other user gets
anything. -/
theorem Credited.quotas {now : Int}
    (credited : Credited settings store topUp path now completed quota) (userId : Int) :
    (completed.store.users.find? userId).map User.quota = (store.users.find? userId).map fun user =>
      if userId = topUp.userId then settings.column (user.quota + quota) else user.quota := by
  rw [credited.store, creditUser, Table.find?_update]
  cases found : store.users.find? userId with
  | none => rfl
  | some user =>
    obtain rfl := Table.find?_key found
    simp only [Option.map_some]
    split <;> rfl

end Completions

/-! ## Agreement with the figure of refunds -/

def TruncatesTo (value : ℚ) (amount : Int) : Prop :=
  (amount : ℚ) ≤ value ∧ value < amount + 1

theorem truncatesTo_iff {value : ℚ} {amount : Int} (positive : 0 < Decimal.intPart value) :
    Decimal.intPart value = amount ↔ TruncatesTo value amount := by
  unfold Decimal.intPart at positive ⊢
  split
  · exact Int.floor_eq_iff
  next negative =>
    -- A negative value is truncated to 0 or below.
    rw [if_neg negative] at positive
    exact absurd (Int.ceil_le.mpr (by push_cast; linarith)) (not_le.mpr positive)

theorem eq_intPart_iff {value : ℚ} :
    value = Decimal.intPart value ↔ ∃ quota : Int, value = quota := by
  constructor
  · intro whole
    exact ⟨_, whole⟩
  · rintro ⟨quota, rfl⟩
    rw [Decimal.intPart_intCast]

namespace Path

/-- The completed row counts as a top-up of an administrator. -/
def leavesAdmin (topUp : TopUp) (path : Path) : Bool :=
  topUp.paymentProvider = .admin || isAdminTopUpPaymentMethod (path.paymentMethod topUp)

/-- The orders and payment units for which a path credits the figure of refunds. -/
def Agrees (quotaPerUnit : ℚ) (topUp : TopUp) (path : Path) : Prop :=
  match path with
  | .stripe =>
    if path.leavesAdmin topUp then topUp.money * quotaPerUnit = topUp.amount
    else ∃ quota : Int, topUp.money * quotaPerUnit = quota
  | .creem _ => True
  | .manual =>
    if topUp.paymentProvider = .stripe then
      path.leavesAdmin topUp = true → TruncatesTo (topUp.money * quotaPerUnit) topUp.amount
    else
      path.leavesAdmin topUp = true ∨ topUp.paymentProvider = .creem ∨
          topUp.paymentProvider = .selfServe →
        TruncatesTo (topUp.amount * quotaPerUnit) topUp.amount
  | _ =>
    path.leavesAdmin topUp = true → TruncatesTo (topUp.amount * quotaPerUnit) topUp.amount

end Path

section Agreement

variable {quotaPerUnit : ℚ} {topUp : TopUp} {path : Path}

/-- A truncated quota is the figure unless the row counts as an administrator's. -/
theorem truncated_agrees {units : ℚ} {admin : Bool} {amount figure : Int}
    (positive : 0 < truncatedQuota quotaPerUnit units)
    (same : figure = truncatedQuota quotaPerUnit units) :
    (truncatedQuota quotaPerUnit units : ℚ) = (if admin then amount else figure : Int) ↔
      (admin = true → TruncatesTo (units * quotaPerUnit) amount) := by
  cases admin with
  | false => simp [same]
  | true =>
    simp only [if_true, forall_const, Int.cast_inj]
    exact truncatesTo_iff positive

theorem providerQuota_of_serves
    (serves : path.servesProvider topUp.paymentProvider = true) (own : path ≠ .manual) :
    providerQuota quotaPerUnit topUp = Decimal.intPart (path.quota quotaPerUnit topUp) := by
  cases path with
  | stripe =>
    have provider : topUp.paymentProvider = .stripe := by simpa [servesProvider] using serves
    simp [quota, providerQuota, provider, truncatedQuota]
  | manual => exact absurd rfl own
  | creem | epay | waffo | waffoPancake =>
    simp only [servesProvider, decide_eq_true_eq] at serves
    simp [quota, providerQuota, serves, Decimal.intPart_intCast]
  | official =>
    have provider : topUp.paymentProvider = .alipayOfficial ∨
        topUp.paymentProvider = .wechatPayOfficial := by
      simpa [servesProvider, PaymentProvider.isOfficial] using serves
    rcases provider with provider | provider <;>
      simp [quota, providerQuota, provider, Decimal.intPart_intCast]

theorem quota_eq_credited_iff (now : Int)
    (serves : path.servesProvider topUp.paymentProvider = true)
    (positive : path.checksQuota = true → 0 < path.quota quotaPerUnit topUp) :
    path.quota quotaPerUnit topUp =
        topUpCreditedQuota quotaPerUnit (succeed topUp (path.paymentMethod topUp) now) ↔
      path.Agrees quotaPerUnit topUp := by
  change _ = ((if path.leavesAdmin topUp then topUp.amount
    else providerQuota quotaPerUnit topUp : Int) : ℚ) ↔ _
  cases path with
  | stripe =>
    simp only [Path.Agrees, providerQuota_of_serves serves nofun]
    split
    · rfl
    · exact eq_intPart_iff
  | creem =>
    simp [quota, Path.Agrees, providerQuota_of_serves serves nofun, Decimal.intPart_intCast]
  | manual =>
    have positiveQuota : 0 < manualQuota quotaPerUnit topUp := Int.cast_pos.mp (positive rfl)
    simp only [quota, Path.Agrees]
    unfold manualQuota at positiveQuota ⊢
    split at positiveQuota
    next stripe =>
      rw [if_pos stripe, if_pos stripe]
      exact truncated_agrees positiveQuota (by simp [providerQuota, stripe])
    rename_i other
    rw [if_neg other, if_neg other]
    by_cases amounts : topUp.paymentProvider = .creem ∨ topUp.paymentProvider = .selfServe
    · -- The amount is the figure, whether or not the row is an administrator's.
      have figure : providerQuota quotaPerUnit topUp = topUp.amount := by
        rcases amounts with provider | provider <;> simp [providerQuota, provider]
      simp only [figure, ite_self, amounts, or_true, forall_const, Int.cast_inj]
      exact truncatesTo_iff positiveQuota
    · have figure : providerQuota quotaPerUnit topUp =
          truncatedQuota quotaPerUnit topUp.amount := by
        unfold providerQuota
        split <;> simp_all
      simp only [amounts, or_false]
      exact truncated_agrees positiveQuota figure
  | epay | waffo | waffoPancake | official =>
    exact truncated_agrees (Int.cast_pos.mp (positive rfl))
      ((providerQuota_of_serves serves nofun).trans (Decimal.intPart_intCast _))

/-- A path that agrees credits what the provider's own completion would. -/
theorem quota_of_agrees (serves : path.servesProvider topUp.paymentProvider = true)
    (positive : path.checksQuota = true → 0 < path.quota quotaPerUnit topUp)
    (agrees : path.Agrees quotaPerUnit topUp) :
    path.quota quotaPerUnit topUp = providerQuota quotaPerUnit topUp := by
  cases path with
  | stripe =>
    have whole : ∃ quota : Int, topUp.money * quotaPerUnit = quota := by
      simp only [Path.Agrees] at agrees
      split at agrees
      · exact ⟨topUp.amount, agrees⟩
      · exact agrees
    rw [providerQuota_of_serves serves nofun]
    exact eq_intPart_iff.mpr whole
  | creem =>
    rw [providerQuota_of_serves serves nofun]
    exact eq_intPart_iff.mpr ⟨_, rfl⟩
  | manual =>
    have positiveQuota : 0 < manualQuota quotaPerUnit topUp := Int.cast_pos.mp (positive rfl)
    simp only [quota, Path.Agrees, Int.cast_inj] at agrees ⊢
    unfold manualQuota at positiveQuota ⊢
    split at agrees
    next stripe => simp [stripe, providerQuota]
    rename_i other
    rw [if_neg other] at positiveQuota ⊢
    unfold providerQuota
    split
    next creem => exact (truncatesTo_iff positiveQuota).mpr (agrees (.inr (.inl creem)))
    next selfServe => exact (truncatesTo_iff positiveQuota).mpr (agrees (.inr (.inr selfServe)))
    next stripe => exact absurd stripe other
    · rfl
  | epay | waffo | waffoPancake | official =>
    rw [providerQuota_of_serves serves nofun]
    exact eq_intPart_iff.mpr ⟨_, rfl⟩

end Agreement

/-- Two completions of one order that both credit it, each by a path for its provider, credit the
same quota, and the quota that refunds are computed from, exactly when both paths agree. -/
theorem completions_agree_iff (settings : CreditSettings) (store : Store) (topUp : TopUp)
    (left right : Path) (leftCall rightCall : Completion)
    (leftDone rightDone : Completed) (leftQuota rightQuota : ℚ)
    (leftFound : store.topUps.find? leftCall.tradeNo = some topUp)
    (rightFound : store.topUps.find? rightCall.tradeNo = some topUp)
    (leftServes : left.servesProvider topUp.paymentProvider = true)
    (rightServes : right.servesProvider topUp.paymentProvider = true)
    (leftComplete : left.complete settings store leftCall = .ok leftDone)
    (rightComplete : right.complete settings store rightCall = .ok rightDone)
    (leftCredited : leftDone.credited = some leftQuota)
    (rightCredited : rightDone.credited = some rightQuota) :
    (leftQuota = rightQuota ∧
      (∃ row, leftDone.store.topUps.find? leftCall.tradeNo = some row ∧
        leftQuota = topUpCreditedQuota settings.quotaPerUnit row) ∧
      ∃ row, rightDone.store.topUps.find? rightCall.tradeNo = some row ∧
        rightQuota = topUpCreditedQuota settings.quotaPerUnit row) ↔
      left.Agrees settings.quotaPerUnit topUp ∧ right.Agrees settings.quotaPerUnit topUp := by
  have leftEffect := complete_ok leftFound leftComplete leftCredited
  have rightEffect := complete_ok rightFound rightComplete rightCredited
  have leftPositive := leftEffect.positive
  have rightPositive := rightEffect.positive
  rw [leftEffect.amount] at leftPositive
  rw [rightEffect.amount] at rightPositive
  have leftIff := quota_eq_credited_iff leftCall.now leftServes leftPositive
  have rightIff := quota_eq_credited_iff rightCall.now rightServes rightPositive
  rw [leftEffect.row leftFound, rightEffect.row rightFound, leftEffect.amount, rightEffect.amount]
  simp only [Option.some.injEq, exists_eq_left', leftIff, rightIff]
  constructor
  · rintro ⟨-, leftAgrees, rightAgrees⟩
    exact ⟨leftAgrees, rightAgrees⟩
  · rintro ⟨leftAgrees, rightAgrees⟩
    refine ⟨?_, leftAgrees, rightAgrees⟩
    rw [quota_of_agrees leftServes leftPositive leftAgrees,
      quota_of_agrees rightServes rightPositive rightAgrees]

theorem complete_of_credited {settings : CreditSettings} {store : Store}
    {call : Completion} {path : Path} {quota : ℚ}
    (credited : (path.complete settings store call).map Completed.credited = .ok (some quota)) :
    ∃ completed, path.complete settings store call = .ok completed ∧
      completed.credited = some quota := by
  cases done : path.complete settings store call with
  | error => simp [done, Except.map] at credited
  | ok completed =>
    simp only [done, Except.map, Except.ok.injEq] at credited
    exact ⟨completed, rfl, credited⟩

/-- A unit is 500000 quota, and the column drops the fraction. -/
def unitSettings : CreditSettings := ⟨500000, fun sum => ⌊sum⌋⟩

/-- A pending order of a Creem product of 500000 quota, that is, of one unit. -/
def creemOrder : TopUp :=
  { tradeNo := "c", userId := 7, amount := 500000, money := 1, paymentMethod := "creem",
    paymentProvider := .creem }

/-- A pending order of two units. -/
def epayOrder : TopUp :=
  { tradeNo := "e", userId := 7, amount := 2, money := 2, paymentMethod := "alipay",
    paymentProvider := .epay }

def shopStore : Store where
  users := .single { id := 7 }
  topUps := ⟨[creemOrder, epayOrder], by decide⟩

/-- The Creem callback credits the product's quota, and refunds are computed from it; the
manual completion credits 500000 times as much. -/
theorem manual_completion_multiplies_creem :
    shopStore.topUps.find? "c" = some creemOrder ∧ creemOrder.status = .pending ∧
      ((creem "").complete unitSettings shopStore { tradeNo := "c", now := 5 }).map
        Completed.credited = .ok (some 500000) ∧
      (manual.complete unitSettings shopStore { tradeNo := "c", now := 5 }).map
        Completed.credited = .ok (some 250000000000) ∧
      (manual.complete unitSettings shopStore { tradeNo := "c", now := 5 }).map
        (fun completed => (completed.store.topUps.find? "c").map
          (topUpCreditedQuota unitSettings.quotaPerUnit)) = .ok (some 500000) := by
  decide +kernel

/-- The callback and the manual completion of an Epay order. -/
theorem epay_completions_agree :
    ∃ leftDone rightDone,
      (epay "wxpay").complete unitSettings shopStore { tradeNo := "e", now := 5 } =
        .ok leftDone ∧
      manual.complete unitSettings shopStore { tradeNo := "e", now := 6 } = .ok rightDone ∧
      ∃ row, rightDone.store.topUps.find? "e" = some row ∧
        (1000000 : ℚ) = topUpCreditedQuota unitSettings.quotaPerUnit row := by
  have left : ((epay "wxpay").complete unitSettings shopStore
      { tradeNo := "e", now := 5 }).map Completed.credited = .ok (some 1000000) := by
    decide +kernel
  have right : (manual.complete unitSettings shopStore
      { tradeNo := "e", now := 6 }).map Completed.credited = .ok (some 1000000) := by
    decide +kernel
  obtain ⟨leftDone, leftComplete, leftCredited⟩ := complete_of_credited left
  obtain ⟨rightDone, rightComplete, rightCredited⟩ := complete_of_credited right
  have agree := completions_agree_iff unitSettings shopStore epayOrder (.epay "wxpay")
    .manual _ _ leftDone rightDone _ _ (by decide +kernel) (by decide +kernel)
    (by decide) rfl leftComplete rightComplete leftCredited rightCredited
  have wxpay : (epay "wxpay").leavesAdmin epayOrder = false := by decide +kernel
  have alipay : manual.leavesAdmin epayOrder = false := by decide +kernel
  have provider : epayOrder.paymentProvider = .epay := rfl
  have figures := agree.mpr
    ⟨by simp [Path.Agrees, wxpay], by simp [Path.Agrees, alipay, provider]⟩
  exact ⟨leftDone, rightDone, leftComplete, rightComplete, figures.2.2⟩

end StuHelper.TopUps
