import BackendCore.Billing.Parsing
import BackendCore.Billing.Redelivery

/-!
# Amount reconciliation

The adapters read the carried amount in three unit conventions (tiyin, decimal
sums, smallest units) and `_amount_ok` compares it with the payment's own.  For
each adapter the comparison succeeds exactly for the right sum, and what the
adapter puts into a checkout comes back as that sum.
-/

set_option autoImplicit false

namespace BackendCore.Billing

open BackendCore.Python

/-- The table `currencies`: seeded by the migration, and only read by the roles the service
runs under. -/
def currencies : List String := ["UZS", "USD"]

/-- A payment amount as the database holds it: positive, a `BIGINT`, and
`payments.currency` is a foreign key to `currencies`. -/
structure StoredAmount (money : Money) : Prop where
  positive : 0 < money.amount
  bigint : money.amount < 2 ^ 63
  registered : money.currency ∈ currencies

/-- The request becomes an authentic callback that carries the payment's amount. -/
def Reconciles (parsed : Except Exc ProviderCallback) (payment : Payment) : Prop :=
  ∃ callback, parsed = .ok callback ∧ callback.signatureValid = true ∧
    callback.amount.isSome = true ∧ amountOk callback payment = true

theorem reconciles_iff {parsed : Except Exc ProviderCallback} {callback : ProviderCallback}
    {money : Money} (done : parsed = .ok callback) (valid : callback.signatureValid = true)
    (carried : callback.amount = some money) (payment : Payment) :
    Reconciles parsed payment ↔ money = payment.amount := by
  constructor
  · rintro ⟨other, same, _, _, passes⟩
    rw [done] at same
    cases same
    simpa [amountOk, carried] using passes
  · intro equal
    exact ⟨callback, done, valid, by simp [carried], by simp [amountOk, carried, equal]⟩

theorem Escapes.not_reconciles {parsed : Except Exc ProviderCallback} (escapes : Escapes parsed)
    (payment : Payment) : ¬ Reconciles parsed payment := by
  rintro ⟨callback, done, _⟩
  obtain ⟨raised, failed, _⟩ := escapes
  rw [done] at failed
  cases failed

/-- Both currencies are three ASCII capitals, so `Money` accepts them. -/
theorem StoredAmount.currency {money : Money} (stored : StoredAmount money) (data : UnicodeData) :
    isascii money.currency = true ∧ money.currency.toList.length = 3 ∧
      data.isalpha money.currency = true ∧ data.isupper money.currency = true := by
  have registered := stored.registered
  simp only [currencies, List.mem_cons, List.not_mem_nil, or_false] at registered
  rcases registered with sums | dollars
  · rw [sums]
    exact ⟨rfl, rfl, rfl, rfl⟩
  · rw [dollars]
    exact ⟨rfl, rfl, rfl, rfl⟩

/-! ## Payme -/

namespace Payme

/-- An authentic request that carries an amount in its params. -/
structure Carrying (runtime : Runtime) (config : Config) (raw : RawWebhook)
    (params : List (String × Json)) : Prop where
  recognized : ∃ data action, Recognized runtime raw data action params ∧
    carriesAmount action = true
  authentic : authOk config raw = .ok true

theorem Carrying.parsed {runtime : Runtime} {config : Config} {raw : RawWebhook}
    {params : List (String × Json)} (carrying : Carrying runtime config raw params) {money : Money}
    (amount : carriedAmount runtime (tiyinOf params) = .ok money) :
    ∃ callback, Payme.parseWebhook runtime config raw = .ok callback ∧
      callback.signatureValid = true ∧ callback.amount = some money := by
  obtain ⟨data, action, recognized, carries⟩ := carrying.recognized
  have checks : action = .check ∨ action = .create := by
    cases action with
    | check => exact Or.inl rfl
    | create => exact Or.inr rfl
    | confirm => cases carries
    | cancel => cases carries
    | status => cases carries
  unfold tiyinOf at amount
  unfold Payme.parseWebhook normalize
  simp only [recognized.decoded, ok_bind, recognized.known, recognized.given, if_pos checks, amount,
    carrying.authentic]
  exact ⟨_, rfl, rfl, rfl⟩

theorem denotes_iff (params : List (String × Json)) {sums : Nat} (positive : 0 < sums) :
    Denotes (tiyinOf params) sums ↔ Json.lookup params "amount" = some (.int (100 * sums)) := by
  unfold Denotes tiyinOf tiyinPerSum
  cases found : Json.lookup params "amount" with
  | none =>
    simp only [Option.getD_none, asInt, Option.some.injEq]
    constructor
    · intro equal
      omega
    · intro absurdity
      cases absurdity
  | some tiyin =>
    simp only [Option.getD_some, Option.some.injEq]
    cases tiyin with
    | int value =>
      simp only [asInt, Option.some.injEq, Json.int.injEq]
      constructor
      · intro equal
        omega
      · intro equal
        omega
    | bool value =>
      simp only [asInt, Option.some.injEq]
      constructor
      · intro equal
        cases value
        · simp only [Bool.false_eq_true, if_false] at equal
          omega
        · simp only [if_true] at equal
          omega
      · intro absurdity
        cases absurdity
    | null => simp [asInt]
    | float shown => simp [asInt]
    | str value => simp [asInt]
    | list items => simp [asInt]
    | dict fields => simp [asInt]

theorem Carrying.reconciles_iff {runtime : Runtime} {config : Config} {raw : RawWebhook}
    {params : List (String × Json)} (carrying : Carrying runtime config raw params)
    {payment : Payment} (positive : 0 < payment.amount.amount) :
    Reconciles (Payme.parseWebhook runtime config raw) payment ↔
      Json.lookup params "amount" = some (.int (100 * payment.amount.amount)) ∧
        payment.amount.currency = "UZS" := by
  obtain ⟨sums, amount, denotes⟩ := carriedAmount_spec runtime (tiyinOf params)
  obtain ⟨callback, done, valid, carried⟩ := carrying.parsed amount
  rw [Billing.reconciles_iff done valid carried, ← denotes_iff params positive]
  constructor
  · intro equal
    rw [← equal] at positive ⊢
    refine ⟨?_, rfl⟩
    rcases denotes with denoted | ⟨zero, _⟩
    · exact denoted
    · simp only [zero] at positive
      omega
  · rintro ⟨denoted, currency⟩
    have same : sums = payment.amount.amount := by
      rcases denotes with own | ⟨_, none⟩
      · rw [Denotes, own, Option.some.injEq] at denoted
        unfold tiyinPerSum at denoted
        omega
      · exact absurd denoted (none _)
    cases held : payment.amount with
    | mk units code =>
      rw [held] at same currency
      simp only at same currency
      rw [same, currency]
      rfl

theorem toTiyin_eq_ok_iff (money : Money) (tiyin : Int) :
    toTiyin money = .ok tiyin ↔ money.currency = "UZS" ∧ tiyin = 100 * money.amount := by
  unfold toTiyin paymeCurrency tiyinPerSum
  by_cases supported : money.currency = "UZS"
  · simp only [supported, ne_eq, not_true_eq_false, if_false, Except.ok.injEq, true_and]
    constructor
    · intro equal
      omega
    · intro equal
      omega
  · simp [supported]

end Payme

/-! ## Click -/

namespace Click

/-- An authentic Prepare, or Complete that reports no failure. -/
def Carrying (runtime : Runtime) (config : Config) (raw : RawWebhook) : Prop :=
  ∃ actionCode transId action, raw.formGet "action" = some actionCode ∧
    raw.formGet "click_trans_id" = some transId ∧ actionOfCode actionCode = some action ∧
    failureOf raw action = none ∧ signOk runtime config raw actionCode = .ok true

theorem Carrying.parsed {runtime : Runtime} {config : Config} {raw : RawWebhook}
    (carrying : Carrying runtime config raw) {money : Money}
    (amount : carriedAmount runtime (amountText raw) = .ok money) :
    ∃ callback, Click.parseWebhook runtime config raw = .ok callback ∧
      callback.signatureValid = true ∧ callback.amount = some money := by
  obtain ⟨actionCode, transId, action, named, carried, known, succeeds, signed⟩ := carrying
  rw [parseWebhook_recognized named carried known, amount, ok_bind, signed, ok_bind]
  exact ⟨_, rfl, rfl, by simp [callbackOf, succeeds]⟩

theorem Carrying.escapes {runtime : Runtime} {config : Config} {raw : RawWebhook}
    (carrying : Carrying runtime config raw)
    (amount : Escapes (carriedAmount runtime (amountText raw))) :
    Escapes (Click.parseWebhook runtime config raw) := by
  obtain ⟨actionCode, transId, action, named, carried, known, _, _⟩ := carrying
  rw [parseWebhook_recognized named carried known]
  exact amount.bind _

theorem Denotes.readable {runtime : Runtime} {text : String} {sums : Nat}
    (denotes : Denotes text sums) (small : sums < 10 ^ runtime.digitLimit) :
    amountReadable runtime text = true := by
  obtain ⟨negative, coefficient, exponent, parsed, value⟩ := denotes
  unfold amountReadable
  rw [parsed]
  by_contra unreadable
  simp only [Bool.or_eq_true, decide_eq_true_eq, not_or, Bool.not_eq_true, not_le] at unreadable
  obtain ⟨⟨rfl, nonzero⟩, large⟩ := unreadable
  obtain ⟨places, rfl⟩ : ∃ places : Nat, exponent = places := ⟨exponent.toNat, by omega⟩
  have written : coefficient * 10 ^ places = sums := by
    simp only [Decimal.value, Bool.false_eq_true, if_false, one_mul, zpow_natCast] at value
    exact_mod_cast value
  have longer : 10 ^ runtime.digitLimit ≤ 10 ^ places :=
    Nat.pow_le_pow_right (by decide) (by omega)
  have scaled : 10 ^ places ≤ coefficient * 10 ^ places :=
    Nat.le_mul_of_pos_left _ (Nat.pos_of_ne_zero nonzero)
  omega

theorem denotes_amountText_iff (raw : RawWebhook) {sums : Nat} (positive : 0 < sums) :
    Denotes (amountText raw) sums ↔
      ∃ text, raw.formGet "amount" = some text ∧ Denotes text sums := by
  unfold amountText
  cases found : raw.formGet "amount" with
  | some text => simp
  | none =>
    have zero : Denotes "0" 0 := ⟨false, 0, 0, by decide, by simp [Decimal.value]⟩
    constructor
    · intro denotes
      have blank := zero.unique denotes
      omega
    · rintro ⟨_, absurdity, _⟩
      cases absurdity

theorem Carrying.reconciles_iff {runtime : Runtime} {config : Config} {raw : RawWebhook}
    (carrying : Carrying runtime config raw) {payment : Payment}
    (positive : 0 < payment.amount.amount)
    (small : payment.amount.amount < 10 ^ runtime.digitLimit) :
    Reconciles (Click.parseWebhook runtime config raw) payment ↔
      (∃ text, raw.formGet "amount" = some text ∧ Denotes text payment.amount.amount) ∧
        payment.amount.currency = "UZS" := by
  rw [← denotes_amountText_iff raw positive]
  by_cases readable : amountReadable runtime (amountText raw) = true
  · obtain ⟨sums, amount, denotes⟩ := carriedAmount_readable runtime _ readable
    obtain ⟨callback, done, valid, carried⟩ := carrying.parsed amount
    rw [Billing.reconciles_iff done valid carried]
    constructor
    · intro equal
      rw [← equal] at positive ⊢
      refine ⟨?_, rfl⟩
      rcases denotes with denoted | ⟨zero, _⟩
      · exact denoted
      · simp only [zero] at positive
        omega
    · rintro ⟨denoted, currency⟩
      have same : sums = payment.amount.amount := by
        rcases denotes with own | ⟨_, none⟩
        · exact own.unique denoted
        · exact absurd denoted (none _ positive)
      cases held : payment.amount with
      | mk units code =>
        rw [held] at same currency
        simp only at same currency
        rw [same, currency]
        rfl
  · refine iff_of_false ?_ (fun both => readable (both.1.readable small))
    exact (carrying.escapes
      (carriedAmount_escapes runtime _ (by simpa using readable))).not_reconciles payment

theorem toSumAmount_eq_ok_iff (money : Money) (text : String) :
    toSumAmount money = .ok text ↔ money.currency = "UZS" ∧ text = toString money.amount := by
  unfold toSumAmount clickCurrency
  by_cases supported : money.currency = "UZS"
  · simp [supported, eq_comm]
  · simp [supported]

/-- `str(amount)` denotes the amount. -/
theorem denotes_toString {sums : Nat} (bigint : sums < 2 ^ 63) : Denotes (toString sums) sums := by
  have digits : Nat.log 10 sums ≤ 63 := by
    have wide : sums < 10 ^ 63 := lt_of_lt_of_le bigint (Nat.pow_le_pow_left (by decide) 63)
    exact (Nat.log_lt_of_lt_pow' (by decide) wide).le
  refine ⟨false, sums, 0, Decimal.parse_toString ?_, by simp [Decimal.value]⟩
  unfold Decimal.maxEmax
  omega

end Click

/-! ## Stripe -/

namespace Stripe

/-- An authentic event of a paid checkout session. -/
structure Carrying (runtime : Runtime) (config : Config) (moment : ℚ) (raw : RawWebhook)
    (event : List (String × Json)) : Prop where
  decoded : decodeEvent runtime raw.body = .ok event
  completes : Completes runtime event
  authentic : signatureOk runtime config moment raw = .ok true

theorem Carrying.parsed {runtime : Runtime} {config : Config} {moment : ℚ} {raw : RawWebhook}
    {event : List (String × Json)} (carrying : Carrying runtime config moment raw event)
    {money : Money}
    (amount : minorUnitsFromStripe runtime (Json.getD (eventObject event) "amount_total")
      (Json.getD (eventObject event) "currency") = .ok money) :
    ∃ callback, Stripe.parseWebhook runtime config moment raw = .ok callback ∧
      callback.signatureValid = true ∧ callback.amount = some money := by
  have paid := carrying.completes
  unfold Completes eventType at paid
  unfold Stripe.parseWebhook normalize
  simp only [carrying.decoded, ok_bind, carrying.authentic, if_pos paid, amount]
  exact ⟨_, rfl, rfl, rfl⟩

theorem Carrying.escapes {runtime : Runtime} {config : Config} {moment : ℚ} {raw : RawWebhook}
    {event : List (String × Json)} (carrying : Carrying runtime config moment raw event)
    (unparsed : ¬ SessionParses runtime event) :
    Escapes (Stripe.parseWebhook runtime config moment raw) := by
  have escapes := normalize_escapes carrying.completes unparsed
  unfold eventType at escapes
  unfold Stripe.parseWebhook
  simp only [carrying.decoded, ok_bind, carrying.authentic]
  exact escapes.bind _

theorem currencyCode_str (runtime : Runtime) (code : String) :
    currencyCode runtime (.str code) = runtime.unicode.upper code := by
  unfold currencyCode
  by_cases blank : code = ""
  · simp [blank, Json.truthy]
  · simp [blank, Json.truthy, Json.toStr]

theorem Carrying.reconciles_iff {runtime : Runtime} {config : Config} {moment : ℚ}
    {raw : RawWebhook} {event : List (String × Json)}
    (carrying : Carrying runtime config moment raw event) {payment : Payment}
    (stored : StoredAmount payment.amount) {total : Int} {code : String}
    (amount : Json.getD (eventObject event) "amount_total" = .int total)
    (currency : Json.getD (eventObject event) "currency" = .str code) :
    Reconciles (Stripe.parseWebhook runtime config moment raw) payment ↔
      total = payment.amount.amount ∧ runtime.unicode.upper code = payment.amount.currency := by
  by_cases parses : SessionParses runtime event
  · obtain ⟨units, whole, money⟩ := minorUnitsFromStripe_parses parses
    obtain ⟨callback, done, valid, carried⟩ := carrying.parsed money
    rw [amount] at whole
    cases whole
    rw [Billing.reconciles_iff done valid carried, currency, currencyCode_str]
    cases payment.amount with
    | mk amount code =>
      rw [Money.mk.injEq, Nat.cast_inj]
  · refine iff_of_false ((carrying.escapes parses).not_reconciles payment) ?_
    rintro ⟨equal, same⟩
    apply parses
    unfold SessionParses Denotes CurrencyParses
    rw [amount, currency, currencyCode_str, same, equal]
    exact ⟨⟨_, rfl⟩, (stored.currency runtime.unicode).2⟩

theorem upper_checkoutCurrency {money : Money} (stored : StoredAmount money)
    (data : UnicodeData) (letters : LowerCase) :
    data.upper (checkoutCurrency letters money) = money.currency := by
  obtain ⟨ascii, _, alpha, upper⟩ := stored.currency data
  rw [checkoutCurrency, letters.ascii _ ascii]
  exact upper_lower fun c member => data.upper_letter ascii alpha upper member

end Stripe

/-! ## Every adapter -/

/-- An authentic callback that carries an amount passes reconciliation exactly for
the right sum: as tiyin for Payme, as a decimal of sums for Click, as smallest
units for Stripe.  An amount of zero never passes, and the amount and currency
that an adapter puts into the checkout of the payment always do. -/
theorem reconciliation_is_exact (runtime : Runtime) (letters : LowerCase) (payment : Payment)
    (stored : StoredAmount payment.amount)
    (memory : 2 ^ 63 ≤ 10 ^ runtime.digitLimit) :
    (∀ config raw params, Payme.Carrying runtime config raw params →
      (Reconciles (Payme.parseWebhook runtime config raw) payment ↔
        Json.lookup params "amount" = some (.int (100 * payment.amount.amount)) ∧
          payment.amount.currency = "UZS") ∧
      ∀ tiyin, Payme.toTiyin payment.amount = .ok tiyin →
        Json.lookup params "amount" = some (.int tiyin) →
        Reconciles (Payme.parseWebhook runtime config raw) payment) ∧
    (∀ config raw, Click.Carrying runtime config raw →
      (Reconciles (Click.parseWebhook runtime config raw) payment ↔
        (∃ text, raw.formGet "amount" = some text ∧
          Click.Denotes text payment.amount.amount) ∧ payment.amount.currency = "UZS") ∧
      ∀ text, Click.toSumAmount payment.amount = .ok text → raw.formGet "amount" = some text →
        Reconciles (Click.parseWebhook runtime config raw) payment) ∧
    (∀ config moment raw event total code, Stripe.Carrying runtime config moment raw event →
      Json.getD (Stripe.eventObject event) "amount_total" = .int total →
      Json.getD (Stripe.eventObject event) "currency" = .str code →
      (Reconciles (Stripe.parseWebhook runtime config moment raw) payment ↔
        total = payment.amount.amount ∧ runtime.unicode.upper code = payment.amount.currency) ∧
      (total = Stripe.toStripeAmount payment.amount →
        code = Stripe.checkoutCurrency letters payment.amount →
        Reconciles (Stripe.parseWebhook runtime config moment raw) payment)) ∧
    ∀ callback money, callback.amount = some money → money.amount = 0 →
      amountOk callback payment = false := by
  have small : payment.amount.amount < 10 ^ runtime.digitLimit :=
    lt_of_lt_of_le stored.bigint memory
  refine ⟨?_, ?_, ?_, ?_⟩
  · intro config raw params carrying
    have passes := carrying.reconciles_iff stored.positive
    refine ⟨passes, ?_⟩
    intro tiyin sent echoed
    obtain ⟨currency, rfl⟩ := (Payme.toTiyin_eq_ok_iff _ _).mp sent
    exact passes.mpr ⟨echoed, currency⟩
  · intro config raw carrying
    have passes := carrying.reconciles_iff stored.positive small
    refine ⟨passes, ?_⟩
    intro text sent echoed
    obtain ⟨currency, rfl⟩ := (Click.toSumAmount_eq_ok_iff _ _).mp sent
    exact passes.mpr ⟨⟨_, echoed, Click.denotes_toString stored.bigint⟩, currency⟩
  · intro config moment raw event total code carrying amount currency
    have passes := carrying.reconciles_iff stored amount currency
    refine ⟨passes, ?_⟩
    intro sent lowered
    refine passes.mpr ⟨sent, ?_⟩
    rw [lowered]
    exact Stripe.upper_checkoutCurrency stored runtime.unicode letters
  · intro callback money carried zero
    have positive := stored.positive
    simp only [amountOk, carried, decide_eq_false_iff_not]
    rintro rfl
    omega

namespace Sample

/-- Click's Complete for 500 sums, the amount of its checkout. -/
theorem complete_reconciles :
    Click.toSumAmount orderPayment.amount = .ok "500" ∧
      Reconciles (Click.parseWebhook clickApp.runtime clickConfig completeRequest)
        orderPayment := by
  have stored : StoredAmount orderPayment.amount := ⟨by decide, by decide, by decide⟩
  have memory : 2 ^ 63 ≤ 10 ^ clickApp.runtime.digitLimit :=
    (Nat.pow_le_pow_left (by decide) 63).trans (Nat.pow_le_pow_right (by decide) (by decide))
  have carrying : Click.Carrying clickApp.runtime clickConfig completeRequest :=
    ⟨"1", "42", .confirm, rfl, rfl, rfl, rfl, rfl⟩
  obtain ⟨_, click, _⟩ := reconciliation_is_exact clickApp.runtime ⟨lower, fun _ _ => rfl⟩
    orderPayment stored memory
  exact ⟨rfl, (click clickConfig completeRequest carrying).2 "500" rfl rfl⟩

end Sample

end BackendCore.Billing
