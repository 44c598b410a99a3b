import BackendCore.Python.Splitting
import BackendCore.Billing.Adapters.Payme
import BackendCore.Billing.System

/-!
# The Payme checkout URL

`PaymeProvider.create_checkout` joins its parameters with `;`, unescaped, and puts the base64
text of the result into the URL.  Payme decodes the path and splits it again; an accepted
`return_url` cannot disturb that, since `_validate_return_url` refuses the separator.
-/

set_option autoImplicit false

namespace BackendCore.Billing.Payme

open BackendCore.Python

/-! ## Building the URL -/

def checkoutBaseUrl : String := "https://checkout.paycom.uz"

/-- The parameters before they are joined; an empty `return_url` is falsy. -/
def checkoutParams (merchantId : String) (payment : PaymentDTO) (tiyin : Int)
    (returnUrl : Option String) : List String :=
  ["m=" ++ merchantId, "ac." ++ accountField ++ "=" ++ payment.id.toStr, "a=" ++ toString tiyin] ++
    match returnUrl with
    | none => []
    | some url => if url = "" then [] else ["c=" ++ url]

def createCheckout (merchantId : String) (payment : PaymentDTO) (returnUrl : Option String) :
    Except Exc CheckoutDTO := do
  let tiyin ← toTiyin payment.amount
  let params := checkoutParams merchantId payment tiyin returnUrl
  let encoded := b64encodeText (";".intercalate params)
  .ok ⟨payment.id, .payme, checkoutBaseUrl ++ "/" ++ encoded, none⟩

/-! ## Reading it back -/

/-- The path of a checkout URL without its leading slash: up to a query or a fragment. -/
def checkoutPath (url : String) : Option String :=
  let base := (checkoutBaseUrl ++ "/").toList
  if base.isPrefixOf url.toList then
    some (String.ofList ((url.toList.drop base.length).takeWhile fun c => c ≠ '?' && c ≠ '#'))
  else none

/-- The decoded path, split at `;`, each parameter at its first `=`. -/
def readCheckout (url : String) : Option (List (String × String)) :=
  match checkoutPath url with
  | none => none
  | some path =>
    match b64decodeText path with
    | .error _ => none
    | .ok text => some ((split text ';').map fun param => partition param '=')

theorem checkoutPath_encoded (text : String) :
    checkoutPath (checkoutBaseUrl ++ "/" ++ b64encodeText text) = some (b64encodeText text) := by
  have kept : ∀ c ∈ (b64encodeText text).toList, (c ≠ '?' && c ≠ '#') = true := by
    intro c member
    rcases mem_b64encodeText member with rfl | ⟨value, small, rfl⟩
    · rfl
    · obtain ⟨-, -, notQuery, notFragment, -⟩ := base64Digit_facts value small
      simp [notQuery, notFragment]
  have joined : (checkoutBaseUrl ++ "/" ++ b64encodeText text).toList =
      (checkoutBaseUrl ++ "/").toList ++ (b64encodeText text).toList := String.toList_append
  have starts : (checkoutBaseUrl ++ "/").toList.isPrefixOf
      ((checkoutBaseUrl ++ "/").toList ++ (b64encodeText text).toList) = true :=
    List.isPrefixOf_iff_prefix.mpr (List.prefix_append _ _)
  rw [checkoutPath, joined, if_pos starts, List.drop_left,
    List.takeWhile_eq_self_iff.mpr kept, String.ofList_toList]

theorem readCheckout_of_params {params : List String} (nonempty : params ≠ [])
    (plain : ∀ param ∈ params, ';' ∉ param.toList) :
    readCheckout (checkoutBaseUrl ++ "/" ++ b64encodeText (";".intercalate params)) =
      some (params.map fun param => partition param '=') := by
  rw [readCheckout, checkoutPath_encoded]
  dsimp only
  rw [b64decodeText_b64encodeText]
  dsimp only
  rw [show (";" : String) = String.ofList [';'] from rfl, split_intercalate nonempty plain]

/-! ## No parameter holds the separator -/

theorem toStr_plain (id : Uuid) : ';' ∉ id.toStr.toList := by
  intro member
  rcases Uuid.mem_toStr member with isDash | ⟨digit, small, isDigit⟩
  · exact absurd isDash (by decide)
  · have plain : ∀ value, value < 16 → ';' ≠ hexDigit value := by decide
    exact plain digit small isDigit

theorem toString_plain (number : Nat) : ';' ∉ (toString number).toList := by
  intro member
  rw [Nat.toString_eq_ofList_toDigits, String.toList_ofList] at member
  have isDigit : (';').isDigit = true := Nat.isDigit_of_mem_toDigits (by decide) (by decide) member
  exact absurd isDigit (by decide)

/-- What `_validate_return_url` accepts holds no `;` and, as the empty text has no network
location, is not empty. -/
theorem accepted_plain {runtime : Runtime} {url : String} {db final : Db} {result : Unit}
    (emptyHasNoHost : ∀ parts, runtime.urlsplit "" = .ok parts → parts.2 = "")
    (accepted : validateReturnUrl runtime (some url) db = .ok result final) :
    ';' ∉ url.toList ∧ url ≠ "" := by
  obtain ⟨parts, _, parsed, rest⟩ := (Tx.bind_ok_iff _ _ _ _ _).mp accepted
  obtain ⟨known, rfl⟩ := (Tx.liftExcept_ok_iff _ _ _ _).mp parsed
  have passed := ((Tx.require_ok_iff _ _ _ _ _).mp rest).1
  simp only [Bool.not_eq_true', Bool.or_eq_false_iff] at passed
  obtain ⟨⟨⟨safe, -⟩, -⟩, host⟩ := passed
  constructor
  · intro member
    have kept := List.any_eq_false.mp safe ';' member
    exact kept rfl
  · rintro rfl
    exact absurd (emptyHasNoHost parts known) (of_decide_eq_false host)

/-! ## The checkout -/

theorem createCheckout_eq {payment : PaymentDTO} (merchantId : String)
    (returnUrl : Option String) (inSums : payment.amount.currency = paymeCurrency) :
    createCheckout merchantId payment returnUrl = .ok ⟨payment.id, .payme,
      checkoutBaseUrl ++ "/" ++ b64encodeText (";".intercalate
        (checkoutParams merchantId payment ((100 * payment.amount.amount : Nat) : Int) returnUrl)),
      none⟩ := by
  have tiyin : toTiyin payment.amount = .ok ((100 * payment.amount.amount : Nat) : Int) := by
    have scaled : (payment.amount.amount : Int) * tiyinPerSum =
        ((100 * payment.amount.amount : Nat) : Int) := by
      rw [tiyinPerSum]
      omega
    rw [toTiyin, if_neg (fun other => other inSums), scaled]
  rw [createCheckout, tiyin]
  rfl

theorem createCheckout_paymentId {merchantId : String} {payment : PaymentDTO}
    {returnUrl : Option String} {checkout : CheckoutDTO}
    (made : createCheckout merchantId payment returnUrl = .ok checkout) :
    checkout.paymentId = payment.id := by
  unfold createCheckout at made
  cases scaled : toTiyin payment.amount with
  | error raised =>
    rw [scaled] at made
    cases made
  | ok tiyin =>
    rw [scaled] at made
    cases made
    rfl

theorem partition_param (name value : String) (absent : '=' ∉ name.toList) :
    partition (name ++ "=" ++ value) '=' = (name, value) := by
  rw [String.append_assoc]
  exact partition_of_absent absent

theorem checkoutParams_reads (merchantId : String) (plainMerchant : ';' ∉ merchantId.toList)
    (payment : PaymentDTO) (tiyin : Nat) (returnUrl : Option String)
    (plainUrl : ∀ url, returnUrl = some url → ';' ∉ url.toList ∧ url ≠ "") :
    (∀ param ∈ checkoutParams merchantId payment (tiyin : Int) returnUrl, ';' ∉ param.toList) ∧
    (checkoutParams merchantId payment (tiyin : Int) returnUrl).map
        (fun param => partition param '=') =
      [("m", merchantId), ("ac.payment_id", payment.id.toStr), ("a", toString tiyin)] ++
        returnUrl.toList.map (fun url => ("c", url)) := by
  have plainParam : ∀ name value : String, ';' ∉ name.toList → ';' ∉ value.toList →
      ';' ∉ (name ++ value).toList := by
    intro name value plainName plainValue member
    rw [String.toList_append] at member
    exact (List.mem_append.mp member).elim plainName plainValue
  have merchant : partition ("m=" ++ merchantId) '=' = ("m", merchantId) :=
    partition_param "m" merchantId (by decide)
  have account : partition ("ac." ++ accountField ++ "=" ++ payment.id.toStr) '=' =
      ("ac.payment_id", payment.id.toStr) :=
    partition_param "ac.payment_id" payment.id.toStr (by decide)
  have amount : partition ("a=" ++ toString (tiyin : Int)) '=' = ("a", toString tiyin) :=
    partition_param "a" (toString tiyin) (by decide)
  have plainFirst : ∀ param ∈ ["m=" ++ merchantId,
      "ac." ++ accountField ++ "=" ++ payment.id.toStr, "a=" ++ toString (tiyin : Int)],
      ';' ∉ param.toList := by
    intro param member
    simp only [List.mem_cons, List.not_mem_nil, or_false] at member
    rcases member with rfl | rfl | rfl
    · exact plainParam "m=" merchantId (by decide) plainMerchant
    · exact plainParam "ac.payment_id=" _ (by decide) (toStr_plain payment.id)
    · exact plainParam "a=" _ (by decide) (toString_plain tiyin)
  unfold checkoutParams
  cases returnUrl with
  | none =>
    refine ⟨plainFirst, ?_⟩
    simp only [List.append_nil, List.map_cons, List.map_nil, Option.toList_none, merchant, account,
      amount]
  | some url =>
    obtain ⟨plain, nonempty⟩ := plainUrl url rfl
    have back : partition ("c=" ++ url) '=' = ("c", url) := partition_param "c" url (by decide)
    dsimp only
    rw [if_neg nonempty]
    constructor
    · intro param member
      rcases List.mem_append.mp member with first | last
      · exact plainFirst param first
      · rw [List.mem_singleton.mp last]
        exact plainParam "c=" url (by decide) plain
    · simp only [List.map_append, List.map_cons, List.map_nil, Option.toList_some, merchant,
        account, amount, back]

/-- A payment in sums gets a checkout, whose URL reads back as exactly these parameters in this
order; any other payment gets none. -/
theorem checkout_reads_back (runtime : Runtime)
    (emptyHasNoHost : ∀ parts, runtime.urlsplit "" = .ok parts → parts.2 = "")
    (merchantId : String) (plainMerchant : ';' ∉ merchantId.toList) (payment : PaymentDTO)
    (returnUrl : Option String) (db final : Db)
    (accepted : validateReturnUrl runtime returnUrl db = .ok () final) :
    (payment.amount.currency = paymeCurrency →
      ∃ checkout, createCheckout merchantId payment returnUrl = .ok checkout ∧
        readCheckout checkout.checkoutUrl = some
          ([("m", merchantId), ("ac.payment_id", payment.id.toStr),
              ("a", toString (100 * payment.amount.amount))] ++
            returnUrl.toList.map (fun url => ("c", url)))) ∧
    (payment.amount.currency ≠ paymeCurrency →
      createCheckout merchantId payment returnUrl =
        .error (.paymentProviderError ("Payme supports only UZS, got " ++
          payment.amount.currency))) := by
  constructor
  · intro inSums
    have plainUrl : ∀ url, returnUrl = some url → ';' ∉ url.toList ∧ url ≠ "" := by
      rintro url rfl
      exact accepted_plain emptyHasNoHost accepted
    obtain ⟨plain, reads⟩ := checkoutParams_reads merchantId plainMerchant payment
      (100 * payment.amount.amount) returnUrl plainUrl
    refine ⟨_, createCheckout_eq merchantId returnUrl inSums, ?_⟩
    have nonempty : checkoutParams merchantId payment ((100 * payment.amount.amount : Nat) : Int)
        returnUrl ≠ [] := List.append_ne_nil_of_left_ne_nil (List.cons_ne_nil _ _) _
    exact (readCheckout_of_params nonempty plain).trans (congrArg some reads)
  · intro foreign
    rw [createCheckout, toTiyin, if_pos foreign]
    rfl

end BackendCore.Billing.Payme

namespace BackendCore.Billing.Sample

def shopUrl : String := "https://shop.uz/paid?order=1&a=5"

/-- `urlsplit` on the two texts it is asked about. -/
def shopSplit (url : String) : Except Exc (String × String) :=
  if url = shopUrl then .ok ("https", "shop.uz") else .ok ("", "")

def browser : Runtime := { runtime with urlsplit := shopSplit }

theorem shop_checkout_reads_back :
    ∃ checkout, Payme.createCheckout "merchant" (paymentDto orderPayment) (some shopUrl) =
        .ok checkout ∧
      Payme.readCheckout checkout.checkoutUrl =
        some [("m", "merchant"), ("ac.payment_id", "00000000-0000-0000-0000-000000000007"),
          ("a", "50000"), ("c", "https://shop.uz/paid?order=1&a=5")] := by
  have accepted : validateReturnUrl browser (some shopUrl) emptyDb = .ok () emptyDb := by
    have parsed : shopSplit shopUrl = .ok ("https", "shop.uz") := by
      rw [shopSplit, if_pos rfl]
    refine (Tx.bind_ok_iff _ _ _ _ _).mpr ⟨("https", "shop.uz"), emptyDb, ?_, ?_⟩
    · exact (Tx.liftExcept_ok_iff _ _ _ _).mpr ⟨parsed, rfl⟩
    · exact (Tx.require_ok_iff _ _ _ _ _).mpr ⟨by decide +kernel, rfl⟩
  have text : (paymentDto orderPayment).id.toStr = "00000000-0000-0000-0000-000000000007" := by
    decide +kernel
  obtain ⟨checkout, created, reads⟩ := (Payme.checkout_reads_back browser (by
    intro parts known
    cases known
    rfl) "merchant" (by decide) (paymentDto orderPayment) (some shopUrl) emptyDb emptyDb
    accepted).1 rfl
  rw [text] at reads
  exact ⟨checkout, created, reads⟩

end BackendCore.Billing.Sample
