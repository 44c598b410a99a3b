import BackendCore.Billing.System

/-!
# What `parse_webhook` promises

`core/billing/ports.py`: a recognized request comes back as a callback, with
`signature_valid` false when it does not authenticate and with an amount of zero
when the carried amount cannot be parsed; `WebhookVerificationError` is the only
exception.  For each adapter the requests of which this is true are told from
the request alone.
-/

set_option autoImplicit false

namespace BackendCore.Billing

open BackendCore.Python

/-- The promise, given whether the request authenticates, whether the amount it
carries can be parsed and which actions carry one. -/
def Promised (authentic amountParses : Prop) (carriesAmount : CallbackAction → Bool)
    (result : Except Exc ProviderCallback) : Prop :=
  match result with
  | .ok callback =>
    (callback.signatureValid = true → authentic) ∧
      (carriesAmount callback.action = true → ¬ amountParses →
        ∃ money, callback.amount = some money ∧ money.amount = 0)
  | .error raised => raised.isWebhookVerification = true

/-- An exception other than `WebhookVerificationError`. -/
def Escapes {α : Type} (result : Except Exc α) : Prop :=
  ∃ raised, result = .error raised ∧ raised.isWebhookVerification = false

theorem Escapes.not_promised {authentic amountParses : Prop}
    {carriesAmount : CallbackAction → Bool} {result : Except Exc ProviderCallback}
    (escapes : Escapes result) : ¬ Promised authentic amountParses carriesAmount result := by
  obtain ⟨raised, rfl, other⟩ := escapes
  intro promised
  simp only [Promised, other] at promised
  cases promised

theorem Escapes.bind {α β : Type} {first : Except Exc α} (escapes : Escapes first)
    (next : α → Except Exc β) : Escapes (first >>= next) := by
  obtain ⟨raised, rfl, other⟩ := escapes
  exact ⟨raised, rfl, other⟩

theorem not_verification_of_foreign {raised : Exc} (foreign : raised.isDomainError = false) :
    raised.isWebhookVerification = false := by
  cases raised <;> first | rfl | cases foreign

/-! ## Comparing digests -/

theorem compareDigest_of_ascii {left right : String} (leftAscii : isascii left = true)
    (rightAscii : isascii right = true) :
    compareDigest left right = .ok (decide (left = right)) := by
  simp only [compareDigest, leftAscii, rightAscii, Bool.and_self, if_true]

theorem compareDigest_escapes {left right : String}
    (foreign : isascii left = false ∨ isascii right = false) :
    Escapes (compareDigest left right) := by
  refine ⟨.typeError, ?_, rfl⟩
  rcases foreign with left | right
  · simp [compareDigest, left]
  · simp [compareDigest, right]

theorem encode_escapes {runtime : Runtime} {text : String}
    (foreign : runtime.unicode.encodes text ≠ true) : Escapes (encode runtime text) := by
  refine ⟨.unexpected "UnicodeEncodeError", ?_, rfl⟩
  rw [encode, if_neg foreign]

theorem Money.make_uzs (data : UnicodeData) (amount : Nat) :
    Money.make data amount "UZS" = .ok ⟨amount, "UZS"⟩ := by
  have letters : data.isalpha "UZS" = true ∧ data.isupper "UZS" = true := ⟨rfl, rfl⟩
  simp [Money.make, letters.1, letters.2]

/-! ## Click -/

namespace Click

/-- The amount text of the form. -/
def amountText (raw : RawWebhook) : String := (raw.formGet "amount").getD "0"

/-- `sign_string` is the md5 of the fields and the secret key. -/
def Authentic (runtime : Runtime) (config : Config) (raw : RawWebhook) : Prop :=
  get raw "sign_string" =
    runtime.md5Hex (signedText config raw ((raw.formGet "action").getD ""))

/-- The text is a number of whole sums. -/
def Denotes (text : String) (sums : Nat) : Prop :=
  ∃ negative coefficient exponent,
    Decimal.parse text = some (.finite negative coefficient exponent) ∧
      Decimal.value negative coefficient exponent = sums

def AmountParses (raw : RawWebhook) : Prop := ∃ sums, Denotes (amountText raw) sums

def carriesAmount : CallbackAction → Bool
  | .create => true
  | .confirm => true
  | _ => false

/-- Neither a NaN nor the positive infinity nor a positive number too large to be
written out. -/
def amountReadable (runtime : Runtime) (text : String) : Bool :=
  match Decimal.parse text with
  | none => true
  | some .nan => false
  | some (.infinity negative) => negative
  | some (.finite negative coefficient exponent) =>
    negative || decide (coefficient = 0) || decide (exponent ≤ (runtime.digitLimit : Int))

/-- The condition on a request that names a supported action and a transaction. -/
def Readable (runtime : Runtime) (config : Config) (raw : RawWebhook) : Prop :=
  ∀ actionCode transId action, raw.formGet "action" = some actionCode →
    raw.formGet "click_trans_id" = some transId → actionOfCode actionCode = some action →
    amountReadable runtime (amountText raw) = true ∧
      runtime.unicode.encodes (signedText config raw actionCode) = true ∧
      isascii (get raw "sign_string") = true

private theorem carriedAmount_of_refused {runtime : Runtime} {text detail : String}
    (refused : minorUnitsFromSum runtime text = .error (.paymentProviderError detail)) :
    carriedAmount runtime text = .ok ⟨0, clickCurrency⟩ := by
  simp only [carriedAmount, refused]
  exact Money.make_uzs runtime.unicode 0

theorem Denotes.unique {text : String} {left right : Nat} (first : Denotes text left)
    (second : Denotes text right) : left = right := by
  obtain ⟨negative, coefficient, exponent, parsed, value⟩ := first
  obtain ⟨otherNegative, otherCoefficient, otherExponent, otherParsed, otherValue⟩ := second
  rw [parsed] at otherParsed
  cases otherParsed
  rw [value] at otherValue
  exact_mod_cast otherValue

/-- A readable amount is carried over when it is a number of sums, and is zero
otherwise. -/
theorem carriedAmount_readable (runtime : Runtime) (text : String)
    (readable : amountReadable runtime text = true) :
    ∃ sums, carriedAmount runtime text = .ok ⟨sums, clickCurrency⟩ ∧
      (Denotes text sums ∨ sums = 0 ∧ ∀ other, 0 < other → ¬ Denotes text other) := by
  have zero : ∀ detail, minorUnitsFromSum runtime text = .error (.paymentProviderError detail) →
      (∀ other, 0 < other → ¬ Denotes text other) →
      ∃ sums, carriedAmount runtime text = .ok ⟨sums, clickCurrency⟩ ∧
        (Denotes text sums ∨ sums = 0 ∧ ∀ other, 0 < other → ¬ Denotes text other) :=
    fun detail refused none => ⟨0, carriedAmount_of_refused refused, Or.inr ⟨rfl, none⟩⟩
  let shown := Json.reprStr runtime.unicode.isPrintableChar text
  have nonIntegral := zero ("non-integral Click amount for UZS: " ++ shown)
  unfold amountReadable at readable
  cases parsed : Decimal.parse text with
  | none =>
    apply zero ("invalid Click amount: " ++ shown)
    · simp only [minorUnitsFromSum, parsed, shown]
    · rintro other _ ⟨_, _, _, otherParsed, _⟩
      rw [parsed] at otherParsed
      cases otherParsed
  | some number =>
    rw [parsed] at readable
    cases number with
    | nan => cases readable
    | infinity negative =>
      obtain rfl : negative = true := readable
      apply nonIntegral
      · simp only [minorUnitsFromSum, parsed, if_true, shown]
      · rintro other _ ⟨_, _, _, otherParsed, _⟩
        rw [parsed] at otherParsed
        cases otherParsed
    | finite negative coefficient exponent =>
      have denotes_iff : ∀ other : Nat, Denotes text other ↔
          Decimal.integral? negative coefficient exponent = some (other : Int) := by
        intro other
        rw [Decimal.integral?_eq_some_iff]
        constructor
        · rintro ⟨_, _, _, otherParsed, value⟩
          rw [parsed] at otherParsed
          cases otherParsed
          exact_mod_cast value
        · intro value
          exact ⟨negative, coefficient, exponent, parsed, by exact_mod_cast value⟩
      by_cases below : negative = true ∧ coefficient ≠ 0
      · apply nonIntegral
        · simp only [minorUnitsFromSum, parsed, if_pos below, shown]
        · intro other positive denotes
          obtain ⟨magnitude, _, signed⟩ :=
            Option.map_eq_some_iff.mp ((denotes_iff other).mp denotes)
          rw [if_pos below.1] at signed
          omega
      have fits : ¬ (coefficient ≠ 0 ∧ (runtime.digitLimit : Int) < exponent) := by
        intro large
        simp only [Bool.or_eq_true, decide_eq_true_eq] at readable
        rcases readable with (sign | blank) | small
        · exact below ⟨sign, large.1⟩
        · exact large.1 blank
        · omega
      cases whole : Decimal.integral? negative coefficient exponent with
      | none =>
        apply nonIntegral
        · simp only [minorUnitsFromSum, parsed, if_neg below, if_neg fits, whole, shown]
        · intro other _ denotes
          rw [denotes_iff, whole] at denotes
          cases denotes
      | some amount =>
        have nonneg := Decimal.nonneg_of_integral? whole below
        obtain ⟨sums, rfl⟩ := Int.eq_ofNat_of_zero_le nonneg
        refine ⟨sums, ?_, Or.inl ((denotes_iff sums).mpr whole)⟩
        simp only [carriedAmount, minorUnitsFromSum, parsed, if_neg below, if_neg fits, whole]
        exact Money.make_uzs runtime.unicode sums

theorem carriedAmount_escapes (runtime : Runtime) (text : String)
    (unreadable : amountReadable runtime text = false) : Escapes (carriedAmount runtime text) := by
  unfold amountReadable at unreadable
  cases parsed : Decimal.parse text with
  | none =>
    rw [parsed] at unreadable
    cases unreadable
  | some number =>
    rw [parsed] at unreadable
    cases number with
    | nan => exact ⟨.invalidOperation, by simp only [carriedAmount, minorUnitsFromSum, parsed], rfl⟩
    | infinity negative =>
      obtain rfl : negative = false := unreadable
      exact ⟨.overflowError, by simp [carriedAmount, minorUnitsFromSum, parsed], rfl⟩
    | finite negative coefficient exponent =>
      simp only [Bool.or_eq_false_iff, decide_eq_false_iff_not, not_le] at unreadable
      obtain ⟨⟨sign, nonzero⟩, large⟩ := unreadable
      refine ⟨.memoryError, ?_, rfl⟩
      simp [carriedAmount, minorUnitsFromSum, parsed, sign, nonzero, large]

/-- The callback of a recognized request. -/
def callbackOf (raw : RawWebhook) (transId : String) (action : CallbackAction) (amount : Money)
    (signatureValid : Bool) : ProviderCallback where
  provider := .click
  providerTxnId := some transId
  action := if (failureOf raw action).isSome then .cancel else action
  paymentReference := get raw "merchant_trans_id"
  amount := if (failureOf raw action).isSome then none else some amount
  raw := raw.form.map fun entry => (entry.1, .str entry.2)
  signatureValid := signatureValid
  reason := (failureOf raw action).map toString

theorem parseWebhook_recognized {raw : RawWebhook} {actionCode transId : String}
    {action : CallbackAction} (named : raw.formGet "action" = some actionCode)
    (carried : raw.formGet "click_trans_id" = some transId)
    (known : actionOfCode actionCode = some action) (runtime : Runtime) (config : Config) :
    parseWebhook runtime config raw = (do
      let amount ← carriedAmount runtime (amountText raw)
      let signatureValid ← signOk runtime config raw actionCode
      pure (callbackOf raw transId action amount signatureValid)) := by
  unfold parseWebhook
  simp only [named, carried, known]
  rfl

theorem signOk_of_encodes {runtime : Runtime} {config : Config} {raw : RawWebhook}
    {actionCode : String}
    (encodes : runtime.unicode.encodes (signedText config raw actionCode) = true) :
    signOk runtime config raw actionCode =
      compareDigest (get raw "sign_string")
        (runtime.md5Hex (signedText config raw actionCode)) := by
  rw [signOk, sign, encode, if_pos encodes]
  rfl

private theorem promised_of_callback {runtime : Runtime} {config : Config} {raw : RawWebhook}
    {actionCode transId : String} {action : CallbackAction} {money : Money}
    (named : raw.formGet "action" = some actionCode)
    (parses : AmountParses raw ∨ money.amount = 0) :
    Promised (Authentic runtime config raw) (AmountParses raw) carriesAmount
      (.ok (callbackOf raw transId action money
        (decide (get raw "sign_string" =
          runtime.md5Hex (signedText config raw actionCode))))) := by
  constructor
  · intro valid
    unfold Authentic
    rw [named, Option.getD_some]
    simpa [callbackOf] using valid
  · intro carries unparsed
    cases failure : failureOf raw action with
    | some code =>
      simp [callbackOf, failure, carriesAmount] at carries
    | none =>
      refine ⟨money, by simp [callbackOf, failure], ?_⟩
      exact parses.resolve_left unparsed

theorem parseWebhook_promised_iff (runtime : Runtime) (config : Config) (raw : RawWebhook) :
    Promised (Authentic runtime config raw) (AmountParses raw) carriesAmount
        (parseWebhook runtime config raw) ↔ Readable runtime config raw := by
  by_cases recognized : ∃ actionCode transId action, raw.formGet "action" = some actionCode ∧
      raw.formGet "click_trans_id" = some transId ∧ actionOfCode actionCode = some action
  · obtain ⟨actionCode, transId, action, named, carried, known⟩ := recognized
    have condition : Readable runtime config raw ↔
        amountReadable runtime (amountText raw) = true ∧
          runtime.unicode.encodes (signedText config raw actionCode) = true ∧
          isascii (get raw "sign_string") = true := by
      constructor
      · intro readable
        exact readable actionCode transId action named carried known
      · intro all other _ _ again _ _
        cases named.symm.trans again
        exact all
    rw [condition, parseWebhook_recognized named carried known]
    by_cases readable : amountReadable runtime (amountText raw) = true
    · obtain ⟨sums, amount, denotes⟩ := carriedAmount_readable runtime _ readable
      have parses : AmountParses raw ∨ (⟨sums, clickCurrency⟩ : Money).amount = 0 := by
        rcases denotes with denoted | ⟨zero, _⟩
        · exact Or.inl ⟨sums, denoted⟩
        · exact Or.inr zero
      rw [amount]
      by_cases encodes : runtime.unicode.encodes (signedText config raw actionCode) = true
      · rw [signOk_of_encodes encodes]
        by_cases ascii : isascii (get raw "sign_string") = true
        · refine iff_of_true ?_ ⟨readable, encodes, ascii⟩
          rw [compareDigest_of_ascii ascii (runtime.md5_digest _).isascii]
          exact promised_of_callback named parses
        · refine iff_of_false ?_ (fun all => ascii all.2.2)
          apply Escapes.not_promised
          exact (compareDigest_escapes (Or.inl (by simpa using ascii))).bind _
      · refine iff_of_false ?_ (fun all => encodes all.2.1)
        apply Escapes.not_promised
        exact (((encode_escapes encodes).bind _).bind _).bind _
    · refine iff_of_false ?_ (fun all => readable all.1)
      apply Escapes.not_promised
      exact (carriedAmount_escapes runtime _ (by simpa using readable)).bind _
  · have refused : ∃ detail, parseWebhook runtime config raw =
        .error (.webhookVerificationError detail) := by
      unfold parseWebhook
      split
      · rename_i actionCode transId named carried
        split
        · exact ⟨_, rfl⟩
        · rename_i action known
          exact absurd ⟨actionCode, transId, action, named, carried, known⟩ recognized
      · exact ⟨_, rfl⟩
    obtain ⟨detail, raised⟩ := refused
    rw [raised]
    refine iff_of_true rfl ?_
    intro actionCode transId action named carried known
    exact absurd ⟨actionCode, transId, action, named, carried, known⟩ recognized

end Click

/-! ## Payme -/

namespace Payme

/-- What follows the scheme in the authorization header. -/
def payload (header : String) : String := strip (String.ofList (header.toList.drop 6))

/-- The Basic credentials decode to the merchant's. -/
def Authentic (config : Config) (raw : RawWebhook) : Prop :=
  ∃ header, raw.header "authorization" = some header ∧
    startswith (lower header) "basic " = true ∧
    b64decodeText (payload header) = .ok (expectedAuth config)

/-- `amount` of the params, zero where it is missing. -/
def tiyinOf (params : List (String × Json)) : Json := (Json.lookup params "amount").getD (.int 0)

/-- A number of tiyin that makes whole sums. -/
def Denotes (tiyin : Json) (sums : Nat) : Prop :=
  asInt tiyin = some ((sums : Int) * (tiyinPerSum : Int))

def AmountParses (runtime : Runtime) (raw : RawWebhook) : Prop :=
  ∃ data params sums, runtime.loads raw.body = .ok (.dict data) ∧
    paramsOf data = .ok params ∧ Denotes (tiyinOf params) sums

def carriesAmount : CallbackAction → Bool
  | .check => true
  | .create => true
  | _ => false

/-- The credentials are ASCII before and after they are decoded, and so are the
merchant's. -/
def HeaderReadable (config : Config) (raw : RawWebhook) : Prop :=
  ∀ header, raw.header "authorization" = some header →
    startswith (lower header) "basic " = true →
    isascii (payload header) = true ∧
      ∀ decoded, b64decodeText (payload header) = .ok decoded →
        isascii decoded = true ∧ isascii (expectedAuth config) = true

/-- `json.loads` ends within the interpreter's limits, and the header of a
recognized request is readable. -/
structure Readable (runtime : Runtime) (config : Config) (raw : RawWebhook) : Prop where
  body : ∀ raised, runtime.loads raw.body = .error raised →
    raised = .jsonDecodeError ∨ raised = .typeError
  header : ∀ data action params, runtime.loads raw.body = .ok (.dict data) →
    actionOf runtime (Json.getD data "method") = .ok action → paramsOf data = .ok params →
    HeaderReadable config raw

private theorem authOk_basic {raw : RawWebhook} {header : String}
    (present : raw.header "authorization" = some header)
    (basic : startswith (lower header) "basic " = true) (config : Config) :
    authOk config raw =
      match b64decodeText (payload header) with
      | .error .notAscii => .error .valueError
      | .error .malformed => .ok false
      | .ok decoded => compareDigest decoded (expectedAuth config) := by
  unfold payload
  cases decoding : b64decodeText (strip (String.ofList (header.toList.drop 6))) with
  | error failure =>
    cases failure <;> simp only [authOk, present, basic, if_true, decoding]
  | ok decoded => simp only [authOk, present, basic, if_true, decoding]

private theorem authOk_other {raw : RawWebhook} (config : Config)
    (other : ¬ ∃ header, raw.header "authorization" = some header ∧
      startswith (lower header) "basic " = true) : authOk config raw = .ok false := by
  cases present : raw.header "authorization" with
  | none => simp only [authOk, present]
  | some header =>
    have scheme : startswith (lower header) "basic " = false := by
      rw [← Bool.not_eq_true]
      intro basic
      exact other ⟨header, present, basic⟩
    simp [authOk, present, scheme]

theorem authOk_readable {config : Config} {raw : RawWebhook}
    (readable : HeaderReadable config raw) :
    ∃ valid, authOk config raw = .ok valid ∧ (valid = true → Authentic config raw) := by
  by_cases credentials : ∃ header, raw.header "authorization" = some header ∧
      startswith (lower header) "basic " = true
  · obtain ⟨header, present, basic⟩ := credentials
    obtain ⟨ascii, decodes⟩ := readable header present basic
    rw [authOk_basic present basic]
    cases decoding : b64decodeText (payload header) with
    | error failure =>
      cases failure with
      | notAscii =>
        rw [b64decodeText_notAscii_iff, ascii] at decoding
        cases decoding
      | malformed => exact ⟨false, rfl, by simp⟩
    | ok decoded =>
      obtain ⟨decodedAscii, expectedAscii⟩ := decodes decoded decoding
      refine ⟨_, compareDigest_of_ascii decodedAscii expectedAscii, ?_⟩
      intro same
      rw [decide_eq_true_eq] at same
      rw [same] at decoding
      exact ⟨header, present, basic, decoding⟩
  · exact ⟨false, authOk_other config credentials, by simp⟩

theorem authOk_escapes {config : Config} {raw : RawWebhook}
    (unreadable : ¬ HeaderReadable config raw) : Escapes (authOk config raw) := by
  unfold HeaderReadable at unreadable
  push Not at unreadable
  obtain ⟨header, present, basic, foreign⟩ := unreadable
  rw [authOk_basic present basic]
  by_cases ascii : isascii (payload header) = true
  · obtain ⟨decoded, decoding, other⟩ := foreign ascii
    rw [decoding]
    apply compareDigest_escapes
    by_cases decodedAscii : isascii decoded = true
    · exact Or.inr (by simpa using other decodedAscii)
    · exact Or.inl (by simpa using decodedAscii)
  · rw [(b64decodeText_notAscii_iff _).mpr (by simpa using ascii)]
    exact ⟨.valueError, rfl, rfl⟩

theorem carriedAmount_spec (runtime : Runtime) (tiyin : Json) :
    ∃ sums, carriedAmount runtime tiyin = .ok ⟨sums, paymeCurrency⟩ ∧
      (Denotes tiyin sums ∨ sums = 0 ∧ ∀ other, ¬ Denotes tiyin other) := by
  have invalid : minorUnitsFromTiyin runtime tiyin =
      .error (.paymentProviderError ("invalid Payme amount in tiyin: " ++
        Json.reprValue runtime.unicode.isPrintableChar tiyin)) →
      (∀ other, ¬ Denotes tiyin other) →
      ∃ sums, carriedAmount runtime tiyin = .ok ⟨sums, paymeCurrency⟩ ∧
        (Denotes tiyin sums ∨ sums = 0 ∧ ∀ other, ¬ Denotes tiyin other) := by
    intro refused none
    refine ⟨0, ?_, Or.inr ⟨rfl, none⟩⟩
    simp only [carriedAmount, refused]
    exact Money.make_uzs runtime.unicode 0
  cases number : asInt tiyin with
  | none =>
    apply invalid
    · simp only [minorUnitsFromTiyin, number]
    · intro other denotes
      rw [Denotes, number] at denotes
      cases denotes
  | some value =>
    by_cases bad : value < 0 ∨ value % tiyinPerSum ≠ 0
    · apply invalid
      · simp only [minorUnitsFromTiyin, number, if_pos bad]
      · intro other denotes
        rw [Denotes, number, Option.some.injEq] at denotes
        unfold tiyinPerSum at bad denotes
        omega
    · obtain ⟨sums, whole⟩ : ∃ sums : Nat, value / (tiyinPerSum : Int) = sums := by
        apply Int.eq_ofNat_of_zero_le
        unfold tiyinPerSum at bad ⊢
        omega
      have exact : value = (sums : Int) * (tiyinPerSum : Int) := by
        unfold tiyinPerSum at bad whole ⊢
        omega
      refine ⟨sums, ?_, Or.inl (by rw [Denotes, number, exact])⟩
      simp only [carriedAmount, minorUnitsFromTiyin, number, if_neg bad, whole]
      exact Money.make_uzs runtime.unicode sums

theorem normalize_spec (runtime : Runtime) (action : CallbackAction)
    (params : List (String × Json)) :
    ∃ normalized, normalize runtime action params = .ok normalized ∧
      (carriesAmount action = true → ∃ money, normalized.amount = some money ∧
        ((∃ sums, Denotes (tiyinOf params) sums) ∨ money.amount = 0)) := by
  obtain ⟨sums, carried, denotes⟩ := carriedAmount_spec runtime (tiyinOf params)
  unfold tiyinOf at carried
  unfold normalize
  by_cases carrying : action = .check ∨ action = .create
  · simp only [if_pos carrying, carried]
    refine ⟨_, rfl, fun _ => ⟨⟨sums, paymeCurrency⟩, rfl, ?_⟩⟩
    rcases denotes with denoted | ⟨zero, _⟩
    · exact Or.inl ⟨sums, denoted⟩
    · exact Or.inr zero
  · simp only [if_neg carrying]
    refine ⟨_, rfl, ?_⟩
    intro carries
    cases action with
    | check => exact absurd (Or.inl rfl) carrying
    | create => exact absurd (Or.inr rfl) carrying
    | confirm => cases carries
    | cancel => cases carries
    | status => cases carries

theorem actionOf_refused {runtime : Runtime} {method : Json} {raised : Exc}
    (refused : actionOf runtime method = .error raised) :
    raised.isWebhookVerification = true := by
  unfold actionOf at refused
  split at refused
  · cases refused
    rfl
  · split at refused
    · cases refused
    · cases refused
      rfl

theorem paramsOf_refused {data : List (String × Json)} {raised : Exc}
    (refused : paramsOf data = .error raised) : raised.isWebhookVerification = true := by
  unfold paramsOf at refused
  simp only at refused
  split at refused
  · split at refused
    · cases refused
    · cases refused
      rfl
  · cases refused

theorem decodeJsonrpc_escapes {runtime : Runtime} {body : String} {raised : Exc}
    (loaded : runtime.loads body = .error raised)
    (uncaught : ¬ (raised = .jsonDecodeError ∨ raised = .typeError)) :
    Escapes (decodeJsonrpc runtime body) := by
  refine ⟨raised, ?_, not_verification_of_foreign (runtime.loads_foreign _ _ loaded)⟩
  unfold decodeJsonrpc
  rw [loaded]
  cases raised with
  | jsonDecodeError => exact absurd (Or.inl rfl) uncaught
  | typeError => exact absurd (Or.inr rfl) uncaught
  | _ => rfl

/-- A request that is a JSON-RPC call of a supported method with an object of params. -/
structure Recognized (runtime : Runtime) (raw : RawWebhook) (data : List (String × Json))
    (action : CallbackAction) (params : List (String × Json)) : Prop where
  loaded : runtime.loads raw.body = .ok (.dict data)
  known : actionOf runtime (Json.getD data "method") = .ok action
  given : paramsOf data = .ok params

theorem Recognized.decoded {runtime : Runtime} {raw : RawWebhook}
    {data params : List (String × Json)} {action : CallbackAction}
    (recognized : Recognized runtime raw data action params) :
    decodeJsonrpc runtime raw.body = .ok data := by
  have named : (Json.lookup data "method").isSome = true := by
    cases missing : Json.lookup data "method" with
    | some method => rfl
    | none =>
      have known := recognized.known
      rw [Json.getD, missing, Option.getD_none] at known
      cases known
  simp only [decodeJsonrpc, recognized.loaded, named, if_true]

theorem Recognized.parseWebhook {runtime : Runtime} {raw : RawWebhook}
    {data params : List (String × Json)} {action : CallbackAction}
    (recognized : Recognized runtime raw data action params) (config : Config) :
    ∃ callbackOf : Bool → ProviderCallback,
      Payme.parseWebhook runtime config raw =
        (authOk config raw >>= fun valid => pure (callbackOf valid)) ∧
      ∀ valid, (callbackOf valid).signatureValid = valid ∧
        (carriesAmount (callbackOf valid).action = true → ∃ money,
          (callbackOf valid).amount = some money ∧
            (AmountParses runtime raw ∨ money.amount = 0)) := by
  obtain ⟨normalized, normalizes, carries⟩ := normalize_spec runtime action params
  unfold Payme.parseWebhook
  simp only [recognized.decoded, ok_bind, recognized.known, recognized.given, normalizes]
  refine ⟨_, rfl, ?_⟩
  intro valid
  refine ⟨rfl, ?_⟩
  intro carrying
  obtain ⟨money, amount, denotes | zero⟩ := carries carrying
  · obtain ⟨sums, denoted⟩ := denotes
    exact ⟨money, amount, Or.inl ⟨data, params, sums, recognized.loaded, recognized.given, denoted⟩⟩
  · exact ⟨money, amount, Or.inr zero⟩

/-- Any other request that `json.loads` accepts is refused. -/
theorem parseWebhook_refused {runtime : Runtime} {raw : RawWebhook} {value : Json}
    (loaded : runtime.loads raw.body = .ok value)
    (other : ¬ ∃ data action params, Recognized runtime raw data action params) (config : Config) :
    ∃ raised, parseWebhook runtime config raw = .error raised ∧
      raised.isWebhookVerification = true := by
  unfold parseWebhook
  cases decoded : decodeJsonrpc runtime raw.body with
  | error raised =>
    refine ⟨raised, rfl, ?_⟩
    unfold decodeJsonrpc at decoded
    rw [loaded] at decoded
    cases value with
    | dict data =>
      simp only at decoded
      split at decoded
      · cases decoded
      · cases decoded
        rfl
    | _ =>
      cases decoded
      rfl
  | ok data =>
    have object : runtime.loads raw.body = .ok (.dict data) := by
      unfold decodeJsonrpc at decoded
      rw [loaded] at decoded ⊢
      cases value with
      | dict fields =>
        simp only at decoded
        split at decoded
        · cases decoded
          rfl
        · cases decoded
      | _ => cases decoded
    cases known : actionOf runtime (Json.getD data "method") with
    | error raised =>
      exact ⟨raised, by simp only [ok_bind, known, error_bind], actionOf_refused known⟩
    | ok action =>
      cases given : paramsOf data with
      | error raised =>
        refine ⟨raised, ?_, paramsOf_refused given⟩
        simp only [ok_bind, known, given, error_bind]
      | ok params => exact absurd ⟨data, action, params, object, known, given⟩ other

theorem parseWebhook_promised_iff (runtime : Runtime) (config : Config) (raw : RawWebhook) :
    Promised (Authentic config raw) (AmountParses runtime raw) carriesAmount
        (parseWebhook runtime config raw) ↔ Readable runtime config raw := by
  cases loaded : runtime.loads raw.body with
  | error raised =>
    by_cases caught : raised = .jsonDecodeError ∨ raised = .typeError
    · refine iff_of_true ?_ ⟨by simpa [loaded] using caught, by simp [loaded]⟩
      rcases caught with rfl | rfl
      · simp only [parseWebhook, decodeJsonrpc, loaded]
        rfl
      · simp only [parseWebhook, decodeJsonrpc, loaded]
        rfl
    · refine iff_of_false ?_ (fun readable => caught (readable.body raised loaded))
      apply Escapes.not_promised
      exact (decodeJsonrpc_escapes loaded caught).bind _
  | ok value =>
    have body : ∀ raised, runtime.loads raw.body = .error raised →
        raised = .jsonDecodeError ∨ raised = .typeError := by simp [loaded]
    by_cases some : ∃ data action params, Recognized runtime raw data action params
    · obtain ⟨data, action, params, recognized⟩ := some
      obtain ⟨callbackOf, run, spec⟩ := recognized.parseWebhook config
      rw [run]
      by_cases readable : HeaderReadable config raw
      · obtain ⟨valid, checked, authentic⟩ := authOk_readable readable
        refine iff_of_true ?_ ⟨body, fun _ _ _ _ _ _ => readable⟩
        rw [checked]
        refine ⟨fun signed => authentic ((spec valid).1 ▸ signed), ?_⟩
        intro carries unparsed
        obtain ⟨money, amount, parses⟩ := (spec valid).2 carries
        exact ⟨money, amount, parses.resolve_left unparsed⟩
      · refine iff_of_false ?_ ?_
        · apply Escapes.not_promised
          exact (authOk_escapes readable).bind _
        · intro all
          exact readable (all.header data action params recognized.loaded recognized.known
            recognized.given)
    · obtain ⟨raised, run, verification⟩ := parseWebhook_refused loaded some config
      rw [run]
      refine iff_of_true verification ⟨body, ?_⟩
      intro data action params object known given
      exact absurd ⟨data, action, params, object, known, given⟩ some

end Payme

/-! ## Stripe -/

namespace Stripe

def expectedSignature (runtime : Runtime) (config : Config) (raw : RawWebhook)
    (timestamp : String) : String :=
  runtime.hmacSha256Hex config.webhookSecret (timestamp ++ "." ++ raw.body)

/-- The clock is within the tolerance of the timestamp. -/
def Fresh (config : Config) (moment : ℚ) (seconds : Int) : Prop :=
  |toDouble (moment - toDouble (seconds : ℚ))| ≤ (config.toleranceSeconds : ℚ)

/-- One of the signatures of a fresh timestamp is the HMAC of the body under it. -/
def Authentic (runtime : Runtime) (config : Config) (moment : ℚ) (raw : RawWebhook) : Prop :=
  ∃ header timestamp signatures seconds, raw.header "stripe-signature" = some header ∧
    parseSignatureHeader header = (some timestamp, signatures) ∧ isdigit timestamp = true ∧
    Python.int timestamp = some seconds ∧ Fresh config moment seconds ∧
    expectedSignature runtime config raw timestamp ∈ signatures

/-- `str(currency or "").upper()`. -/
def currencyCode (runtime : Runtime) (currency : Json) : String :=
  runtime.unicode.upper
    (if currency.truthy then Json.toStr runtime.unicode.isPrintableChar currency else "")

/-- Three upper case letters. -/
def CurrencyParses (runtime : Runtime) (currency : Json) : Prop :=
  (currencyCode runtime currency).toList.length = 3 ∧
    runtime.unicode.isalpha (currencyCode runtime currency) = true ∧
    runtime.unicode.isupper (currencyCode runtime currency) = true

/-- A number of minor units and a currency. -/
def Denotes (runtime : Runtime) (amount currency : Json) : Prop :=
  (∃ units : Nat, amount = .int (units : Int)) ∧ CurrencyParses runtime currency

/-- The amount of the checkout session of an event. -/
def SessionParses (runtime : Runtime) (event : List (String × Json)) : Prop :=
  Denotes runtime (Json.getD (eventObject event) "amount_total")
    (Json.getD (eventObject event) "currency")

def AmountParses (runtime : Runtime) (raw : RawWebhook) : Prop :=
  ∃ event, decodeEvent runtime raw.body = .ok event ∧ SessionParses runtime event

def carriesAmount : CallbackAction → Bool
  | .confirm => true
  | _ => false

/-- A signature outside ASCII comes after one that matches. -/
def SignaturesReadable (expected : String) (signatures : List String) : Prop :=
  ∀ before candidate after, signatures = before ++ candidate :: after →
    isascii candidate = false → expected ∈ before

/-- What is hashed has a UTF-8 form. -/
def Encodes (runtime : Runtime) (config : Config) (raw : RawWebhook) (timestamp : String) : Prop :=
  runtime.unicode.encodes (timestamp ++ "." ++ raw.body) = true ∧
    runtime.unicode.encodes config.webhookSecret = true

/-- A timestamp of digits is a number that converts to a double, and for a fresh
one the texts encode and the signatures are readable. -/
def HeaderReadable (runtime : Runtime) (config : Config) (moment : ℚ) (raw : RawWebhook) : Prop :=
  ∀ header timestamp first rest, raw.header "stripe-signature" = some header →
    parseSignatureHeader header = (some timestamp, first :: rest) → isdigit timestamp = true →
    ∃ seconds, Python.int timestamp = some seconds ∧ |(seconds : ℚ)| < doubleOverflow ∧
      (Fresh config moment seconds → Encodes runtime config raw timestamp ∧
        SignaturesReadable (expectedSignature runtime config raw timestamp) (first :: rest))

/-- `str(event.get("type"))`. -/
def eventType (runtime : Runtime) (event : List (String × Json)) : String :=
  Json.toStr runtime.unicode.isPrintableChar (Json.getD event "type")

/-- A paid checkout session. -/
def Completes (runtime : Runtime) (event : List (String × Json)) : Prop :=
  eventType runtime event = eventCompleted ∧ isPaid (eventObject event) = true

/-- `json.loads` ends within the interpreter's limits, the header of an event is
readable and the amount of a paid session parses. -/
structure Readable (runtime : Runtime) (config : Config) (moment : ℚ) (raw : RawWebhook) :
    Prop where
  body : ∀ raised, runtime.loads raw.body = .error raised →
    raised = .jsonDecodeError ∨ raised = .typeError
  header : ∀ event, decodeEvent runtime raw.body = .ok event →
    HeaderReadable runtime config moment raw
  amount : ∀ event, decodeEvent runtime raw.body = .ok event → Completes runtime event →
    SessionParses runtime event

/-! ### Signatures -/

theorem signaturesReadable_nil (expected : String) : SignaturesReadable expected [] := by
  intro before candidate after split
  simp at split

theorem signaturesReadable_cons (expected candidate : String) (rest : List String) :
    SignaturesReadable expected (candidate :: rest) ↔
      isascii candidate = true ∧ (expected = candidate ∨ SignaturesReadable expected rest) := by
  constructor
  · intro readable
    constructor
    · rw [← Bool.not_eq_false]
      intro foreign
      have impossible := readable [] candidate rest rfl foreign
      cases impossible
    · rw [or_iff_not_imp_left]
      intro differs before other after split foreign
      have member := readable (candidate :: before) other after (by rw [split]; rfl) foreign
      exact (List.mem_cons.mp member).resolve_left differs
  · rintro ⟨ascii, later⟩ before other after split foreign
    cases before with
    | nil =>
      obtain ⟨rfl, _⟩ := List.cons.inj split
      rw [ascii] at foreign
      cases foreign
    | cons first before =>
      obtain ⟨rfl, remaining⟩ := List.cons.inj split
      rcases later with rfl | readable
      · exact List.mem_cons_self
      · exact List.mem_cons_of_mem _ (readable before other after remaining foreign)

theorem anyMatch_readable {expected : String} (ascii : isascii expected = true)
    {signatures : List String} (readable : SignaturesReadable expected signatures) :
    anyMatch expected signatures = .ok (decide (expected ∈ signatures)) := by
  induction signatures with
  | nil => rfl
  | cons candidate rest hypothesis =>
    obtain ⟨candidateAscii, later⟩ := (signaturesReadable_cons _ _ _).mp readable
    rw [anyMatch, compareDigest_of_ascii ascii candidateAscii]
    by_cases same : expected = candidate
    · simp [same]
    · have remaining := hypothesis (later.resolve_left same)
      simp only [same, decide_false, remaining, List.mem_cons, false_or]

theorem anyMatch_escapes {expected : String} (ascii : isascii expected = true)
    {signatures : List String} (unreadable : ¬ SignaturesReadable expected signatures) :
    Escapes (anyMatch expected signatures) := by
  induction signatures with
  | nil => exact absurd (signaturesReadable_nil expected) unreadable
  | cons candidate rest hypothesis =>
    rw [signaturesReadable_cons] at unreadable
    by_cases candidateAscii : isascii candidate = true
    · have neither : ¬ (expected = candidate ∨ SignaturesReadable expected rest) :=
        fun later => unreadable ⟨candidateAscii, later⟩
      rw [not_or] at neither
      rw [anyMatch, compareDigest_of_ascii ascii candidateAscii]
      simp only [neither.1, decide_false]
      exact hypothesis neither.2
    · have foreign : isascii expected = false ∨ isascii candidate = false :=
        Or.inr (by simpa using candidateAscii)
      obtain ⟨raised, compared, other⟩ := compareDigest_escapes foreign
      exact ⟨raised, by simp only [anyMatch, compared], other⟩

private theorem signatureOk_dated {raw : RawWebhook} {header timestamp first : String}
    {rest : List String} (present : raw.header "stripe-signature" = some header)
    (entries : parseSignatureHeader header = (some timestamp, first :: rest))
    (digits : isdigit timestamp = true) (runtime : Runtime) (config : Config) (moment : ℚ) :
    signatureOk runtime config moment raw =
      match Python.int timestamp with
      | none => .error .valueError
      | some seconds =>
        match outsideWindow config moment seconds with
        | .error raised => .error raised
        | .ok true => .ok false
        | .ok false => (do
          let payload ← encode runtime (timestamp ++ "." ++ raw.body)
          let secret ← encode runtime config.webhookSecret
          anyMatch (runtime.hmacSha256Hex secret payload) (first :: rest)) := by
  cases read : Python.int timestamp with
  | none => simp only [signatureOk, present, entries, digits, if_true, read]
  | some seconds =>
    cases window : outsideWindow config moment seconds with
    | error raised => simp only [signatureOk, present, entries, digits, if_true, read, window]
    | ok outside =>
      cases outside <;>
        simp only [signatureOk, present, entries, digits, if_true, read, window]

private theorem signatureOk_other {raw : RawWebhook}
    (other : ¬ ∃ header timestamp first rest, raw.header "stripe-signature" = some header ∧
      parseSignatureHeader header = (some timestamp, first :: rest) ∧ isdigit timestamp = true)
    (runtime : Runtime) (config : Config) (moment : ℚ) :
    signatureOk runtime config moment raw = .ok false := by
  unfold signatureOk
  cases present : raw.header "stripe-signature" with
  | none => rfl
  | some header =>
    simp only
    split
    · rename_i timestamp first rest entries
      split
      · rename_i digits
        exact absurd ⟨header, timestamp, first, rest, present, entries, digits⟩ other
      · rfl
    · rfl

theorem signatureOk_readable {runtime : Runtime} {config : Config} {moment : ℚ}
    {raw : RawWebhook} (readable : HeaderReadable runtime config moment raw) :
    ∃ valid, signatureOk runtime config moment raw = .ok valid ∧
      (valid = true → Authentic runtime config moment raw) := by
  by_cases dated : ∃ header timestamp first rest, raw.header "stripe-signature" = some header ∧
      parseSignatureHeader header = (some timestamp, first :: rest) ∧ isdigit timestamp = true
  · obtain ⟨header, timestamp, first, rest, present, entries, digits⟩ := dated
    obtain ⟨seconds, number, fits, signatures⟩ :=
      readable header timestamp first rest present entries digits
    rw [signatureOk_dated present entries digits, number]
    simp only [outsideWindow, if_neg (not_le.mpr fits)]
    by_cases fresh : Fresh config moment seconds
    · have inside : decide ((config.toleranceSeconds : ℚ) <
          |toDouble (moment - toDouble (seconds : ℚ))|) = false := by
        rw [decide_eq_false_iff_not, not_lt]
        exact fresh
      obtain ⟨⟨body, secret⟩, readable⟩ := signatures fresh
      rw [inside]
      simp only [encode, body, secret, if_true, ok_bind]
      refine ⟨_, anyMatch_readable (runtime.hmac_digest _ _).isascii readable, ?_⟩
      intro matched
      rw [decide_eq_true_eq] at matched
      exact ⟨header, timestamp, first :: rest, seconds, present, entries, digits, number, fresh,
        matched⟩
    · have outside : decide ((config.toleranceSeconds : ℚ) <
          |toDouble (moment - toDouble (seconds : ℚ))|) = true := by
        rw [decide_eq_true_eq, ← not_le]
        exact fresh
      rw [outside]
      exact ⟨false, rfl, by simp⟩
  · exact ⟨false, signatureOk_other dated runtime config moment, by simp⟩

theorem signatureOk_escapes {runtime : Runtime} {config : Config} {moment : ℚ}
    {raw : RawWebhook} (unreadable : ¬ HeaderReadable runtime config moment raw) :
    Escapes (signatureOk runtime config moment raw) := by
  unfold HeaderReadable at unreadable
  push Not at unreadable
  obtain ⟨header, timestamp, first, rest, present, entries, digits, bad⟩ := unreadable
  rw [signatureOk_dated present entries digits]
  cases number : Python.int timestamp with
  | none => exact ⟨.valueError, rfl, rfl⟩
  | some seconds =>
    by_cases fits : |(seconds : ℚ)| < doubleOverflow
    · obtain ⟨fresh, signatures⟩ := bad seconds number fits
      have inside : decide ((config.toleranceSeconds : ℚ) <
          |toDouble (moment - toDouble (seconds : ℚ))|) = false := by
        rw [decide_eq_false_iff_not, not_lt]
        exact fresh
      simp only [outsideWindow, if_neg (not_le.mpr fits), inside]
      by_cases body : runtime.unicode.encodes (timestamp ++ "." ++ raw.body) = true
      · by_cases secret : runtime.unicode.encodes config.webhookSecret = true
        · simp only [encode, body, secret, if_true, ok_bind]
          exact anyMatch_escapes (runtime.hmac_digest _ _).isascii (signatures ⟨body, secret⟩)
        · rw [encode, if_pos body, ok_bind]
          exact (encode_escapes secret).bind _
      · exact (encode_escapes body).bind _
    · simp only [outsideWindow, if_pos (not_lt.mp fits)]
      exact ⟨.overflowError, rfl, rfl⟩

/-! ### Amounts -/

private theorem normalizeCurrency_ok {runtime : Runtime} {currency : Json}
    (length : (currencyCode runtime currency).toList.length = 3)
    (letters : runtime.unicode.isalpha (currencyCode runtime currency) = true) :
    normalizeCurrency runtime currency = .ok (currencyCode runtime currency) := by
  unfold currencyCode at length letters ⊢
  simp [normalizeCurrency, length, letters]

private theorem normalizeCurrency_error {runtime : Runtime} {currency : Json}
    (other : ¬ ((currencyCode runtime currency).toList.length = 3 ∧
      runtime.unicode.isalpha (currencyCode runtime currency) = true)) :
    normalizeCurrency runtime currency =
      .error (.paymentProviderError ("invalid Stripe currency: " ++
        Json.reprValue runtime.unicode.isPrintableChar currency)) := by
  unfold currencyCode at other
  rw [not_and_or, Bool.not_eq_true] at other
  simp only [normalizeCurrency]
  rw [if_pos other]

theorem minorUnitsFromStripe_parses {runtime : Runtime} {amount currency : Json}
    (denotes : Denotes runtime amount currency) :
    ∃ units : Nat, amount = .int units ∧
      minorUnitsFromStripe runtime amount currency =
        .ok ⟨units, currencyCode runtime currency⟩ := by
  obtain ⟨⟨units, rfl⟩, length, letters, upper⟩ := denotes
  have code := normalizeCurrency_ok length letters
  have nonneg : ¬ (units : Int) < 0 := by omega
  refine ⟨units, rfl, ?_⟩
  simp only [minorUnitsFromStripe, if_neg nonneg, code, Money.make]
  simp [length, letters, upper]

theorem minorUnitsFromStripe_escapes {runtime : Runtime} {amount currency : Json}
    (unparsed : ¬ Denotes runtime amount currency) :
    Escapes (minorUnitsFromStripe runtime amount currency) := by
  cases amount with
  | int value =>
    unfold minorUnitsFromStripe
    by_cases negative : value < 0
    · simp only [if_pos negative]
      exact ⟨_, rfl, rfl⟩
    simp only [if_neg negative]
    by_cases code : (currencyCode runtime currency).toList.length = 3 ∧
        runtime.unicode.isalpha (currencyCode runtime currency) = true
    · obtain ⟨units, rfl⟩ := Int.eq_ofNat_of_zero_le (not_lt.mp negative)
      have lower : runtime.unicode.isupper (currencyCode runtime currency) = false := by
        rw [← Bool.not_eq_true]
        intro upper
        exact unparsed ⟨⟨units, rfl⟩, code.1, code.2, upper⟩
      rw [normalizeCurrency_ok code.1 code.2]
      exact ⟨.valueError, by simp [Money.make, lower], rfl⟩
    · rw [normalizeCurrency_error code]
      exact ⟨_, rfl, rfl⟩
  | _ => exact ⟨_, rfl, rfl⟩

/-! ### Events -/

theorem decodeEvent_escapes {runtime : Runtime} {body : String} {raised : Exc}
    (loaded : runtime.loads body = .error raised)
    (uncaught : ¬ (raised = .jsonDecodeError ∨ raised = .typeError)) :
    Escapes (decodeEvent runtime body) := by
  refine ⟨raised, ?_, not_verification_of_foreign (runtime.loads_foreign _ _ loaded)⟩
  unfold decodeEvent
  rw [loaded]
  cases raised with
  | jsonDecodeError => exact absurd (Or.inl rfl) uncaught
  | typeError => exact absurd (Or.inr rfl) uncaught
  | _ => rfl

/-- A body that `json.loads` accepts or refuses as malformed raises no other exception. -/
theorem decodeEvent_refused {runtime : Runtime} {body : String} {raised : Exc}
    (accepted : ∀ failure, runtime.loads body = .error failure →
      failure = .jsonDecodeError ∨ failure = .typeError)
    (refused : decodeEvent runtime body = .error raised) :
    raised.isWebhookVerification = true := by
  unfold decodeEvent at refused
  cases loaded : runtime.loads body with
  | error failure =>
    rw [loaded] at refused
    rcases accepted failure loaded with rfl | rfl
    · cases refused
      rfl
    · cases refused
      rfl
  | ok value =>
    rw [loaded] at refused
    cases value with
    | dict fields =>
      simp only at refused
      split at refused
      · cases refused
      · cases refused
        rfl
    | _ =>
      cases refused
      rfl

theorem normalize_spec (runtime : Runtime) (event : List (String × Json))
    (parses : Completes runtime event → SessionParses runtime event) :
    ∃ normalized, normalize runtime event (eventType runtime event) (eventObject event) =
        .ok normalized ∧
      (carriesAmount normalized.action = true → SessionParses runtime event) := by
  unfold normalize
  by_cases completes : Completes runtime event
  · obtain ⟨units, _, amount⟩ := minorUnitsFromStripe_parses (parses completes)
    have paid := completes
    unfold Completes at paid
    simp only [if_pos paid, amount, ok_bind]
    exact ⟨_, rfl, fun _ => parses completes⟩
  · unfold Completes at completes
    simp only [if_neg completes]
    split
    · refine ⟨_, rfl, ?_⟩
      intro carries
      cases carries
    · refine ⟨_, rfl, ?_⟩
      intro carries
      cases carries

theorem normalize_escapes {runtime : Runtime} {event : List (String × Json)}
    (completes : Completes runtime event) (unparsed : ¬ SessionParses runtime event) :
    Escapes (normalize runtime event (eventType runtime event) (eventObject event)) := by
  unfold Completes at completes
  unfold normalize
  simp only [if_pos completes]
  exact (minorUnitsFromStripe_escapes unparsed).bind _

theorem parseWebhook_promised_iff (runtime : Runtime) (config : Config) (moment : ℚ)
    (raw : RawWebhook) :
    Promised (Authentic runtime config moment raw) (AmountParses runtime raw) carriesAmount
        (parseWebhook runtime config moment raw) ↔ Readable runtime config moment raw := by
  by_cases body : ∀ raised, runtime.loads raw.body = .error raised →
      raised = .jsonDecodeError ∨ raised = .typeError
  · unfold parseWebhook
    cases decoded : decodeEvent runtime raw.body with
    | error raised =>
      refine iff_of_true (decodeEvent_refused body decoded) ⟨body, ?_, ?_⟩
      · simp [decoded]
      · simp [decoded]
    | ok event =>
      simp only [ok_bind]
      by_cases header : HeaderReadable runtime config moment raw
      · obtain ⟨valid, checked, authentic⟩ := signatureOk_readable header
        simp only [checked, ok_bind]
        by_cases parses : Completes runtime event → SessionParses runtime event
        · obtain ⟨normalized, normalizes, carries⟩ := normalize_spec runtime event parses
          unfold eventType at normalizes
          rw [normalizes]
          refine iff_of_true ⟨authentic, ?_⟩ ⟨body, fun _ _ => header, ?_⟩
          · intro carrying unparsed
            exact absurd ⟨event, decoded, carries carrying⟩ unparsed
          · intro other same
            rw [decoded] at same
            cases same
            exact parses
        · push Not at parses
          refine iff_of_false ?_ (fun readable =>
            parses.2 (readable.amount event decoded parses.1))
          apply Escapes.not_promised
          exact (normalize_escapes parses.1 parses.2).bind _
      · refine iff_of_false ?_ (fun readable => header (readable.header event decoded))
        apply Escapes.not_promised
        exact (signatureOk_escapes header).bind _
  · refine iff_of_false ?_ (fun readable => body readable.body)
    push Not at body
    obtain ⟨raised, loaded, notDecode, notType⟩ := body
    apply Escapes.not_promised
    exact (decodeEvent_escapes loaded (not_or.mpr ⟨notDecode, notType⟩)).bind _

end Stripe

/-! ## Every adapter -/

/-- `parse_webhook` keeps the promise of the port on the request. -/
def Adapter.KeepsPromise (adapter : Adapter) (runtime : Runtime) (moment : ℚ)
    (raw : RawWebhook) : Prop :=
  match adapter with
  | .payme config =>
    Promised (Payme.Authentic config raw) (Payme.AmountParses runtime raw) Payme.carriesAmount
      (adapter.parseWebhook runtime moment raw)
  | .click config =>
    Promised (Click.Authentic runtime config raw) (Click.AmountParses raw) Click.carriesAmount
      (adapter.parseWebhook runtime moment raw)
  | .stripe config =>
    Promised (Stripe.Authentic runtime config moment raw) (Stripe.AmountParses runtime raw)
      Stripe.carriesAmount (adapter.parseWebhook runtime moment raw)

def Adapter.Readable (adapter : Adapter) (runtime : Runtime) (moment : ℚ) (raw : RawWebhook) :
    Prop :=
  match adapter with
  | .payme config => Payme.Readable runtime config raw
  | .click config => Click.Readable runtime config raw
  | .stripe config => Stripe.Readable runtime config moment raw

/-- For every request, `parse_webhook` returns a callback as promised or raises
`WebhookVerificationError` iff the request is readable. -/
theorem parseWebhook_keeps_promise_iff_readable (adapter : Adapter) (runtime : Runtime)
    (moment : ℚ) (raw : RawWebhook) :
    adapter.KeepsPromise runtime moment raw ↔ adapter.Readable runtime moment raw := by
  cases adapter with
  | payme config => exact Payme.parseWebhook_promised_iff runtime config raw
  | click config => exact Click.parseWebhook_promised_iff runtime config raw
  | stripe config => exact Stripe.parseWebhook_promised_iff runtime config moment raw

namespace Sample

/-- An unsigned Prepare whose amount is not a number. -/
def nanRequest : RawWebhook where
  headers := []
  body := ""
  form := [("action", "0"), ("click_trans_id", "1"), ("amount", "NaN")]

/-- `InvalidOperation` leaves `parse_webhook`. -/
theorem nan_amount_escapes :
    (Adapter.click ⟨"secret"⟩).parseWebhook runtime 0 nanRequest = .error .invalidOperation ∧
      ¬ (Adapter.click ⟨"secret"⟩).KeepsPromise runtime 0 nanRequest := by
  have raised : (Adapter.click ⟨"secret"⟩).parseWebhook runtime 0 nanRequest =
      .error .invalidOperation := rfl
  refine ⟨raised, ?_⟩
  unfold Adapter.KeepsPromise
  rw [raised]
  intro promised
  cases promised

end Sample

end BackendCore.Billing
