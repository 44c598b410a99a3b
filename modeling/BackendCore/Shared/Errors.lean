import BackendCore.Python.Json
import BackendCore.Python.DateTime
import BackendCore.Python.Uuid

/-!
# Exceptions and the runtime

The domain errors of `shared/errors.py`, the exceptions of the standard library
and the database driver that the modelled code raises, catches or lets through,
and the library facilities that stay parameters of the model: the JSON decoder,
the URL splitter, the Unicode database and the digest functions.
-/

set_option autoImplicit false

namespace BackendCore

open BackendCore.Python

inductive Exc where
  | notFoundError (detail : String)
  | conflictError (detail : String)
  | invariantViolationError (detail : String)
  | permissionDeniedError (detail : String)
  | authenticationError (detail : String)
  | rateLimitedError (detail : String)
  | paymentProviderError (detail : String)
  | webhookVerificationError (detail : String)
  | integrityError
  | jsonDecodeError
  | valueError
  | typeError
  | overflowError
  | invalidOperation
  | memoryError
  | unexpected (name : String)
  deriving DecidableEq, Repr

@[simp] theorem ok_bind {α β : Type} (value : α) (next : α → Except Exc β) :
    ((.ok value : Except Exc α) >>= next) = next value := rfl

@[simp] theorem error_bind {α β : Type} (raised : Exc) (next : α → Except Exc β) :
    ((.error raised : Except Exc α) >>= next) = .error raised := rfl

theorem bind_ok_iff {α β : Type} (first : Except Exc α) (next : α → Except Exc β) (result : β) :
    (first >>= next) = .ok result ↔ ∃ value, first = .ok value ∧ next value = .ok result := by
  cases first with
  | ok value =>
    constructor
    · intro done
      exact ⟨value, rfl, done⟩
    · rintro ⟨other, same, done⟩
      cases same
      exact done
  | error raised =>
    constructor
    · intro done
      cases done
    · rintro ⟨other, same, _⟩
      cases same

/-- `isinstance(exc, DomainError)`. -/
def Exc.isDomainError : Exc → Bool
  | .notFoundError _ => true
  | .conflictError _ => true
  | .invariantViolationError _ => true
  | .permissionDeniedError _ => true
  | .authenticationError _ => true
  | .rateLimitedError _ => true
  | .paymentProviderError _ => true
  | .webhookVerificationError _ => true
  | _ => false

def Exc.isInvariantViolation : Exc → Bool
  | .invariantViolationError _ => true
  | _ => false

def Exc.isWebhookVerification : Exc → Bool
  | .webhookVerificationError _ => true
  | _ => false

/-- What `hexdigest()` returns: `width` lower case hexadecimal digits. -/
def IsHexDigest (width : Nat) (text : String) : Prop :=
  text.toList.length = width ∧
    ∀ c ∈ text.toList, (48 ≤ c.toNat ∧ c.toNat ≤ 57) ∨ (97 ≤ c.toNat ∧ c.toNat ≤ 102)

structure Runtime where
  loads : String → Except Exc Json
  /-- Scheme and network location of `urllib.parse.urlsplit`. -/
  urlsplit : String → Except Exc (String × String)
  unicode : UnicodeData
  /-- An integer of more decimal digits than this does not fit in memory. -/
  digitLimit : Nat
  sha256Hex : String → String
  md5Hex : String → String
  hmacSha256Hex : String → String → String
  /-- `json.loads` raises no error of `shared/errors.py`. -/
  loads_foreign : ∀ text raised, loads text = .error raised → raised.isDomainError = false
  sha256_digest : ∀ text, IsHexDigest 64 (sha256Hex text)
  md5_digest : ∀ text, IsHexDigest 32 (md5Hex text)
  hmac_digest : ∀ secret text, IsHexDigest 64 (hmacSha256Hex secret text)

theorem IsHexDigest.isascii {width : Nat} {text : String} (digest : IsHexDigest width text) :
    isascii text = true := by
  unfold Python.isascii
  rw [List.all_eq_true]
  intro c member
  have range := digest.2 c member
  unfold isAsciiChar
  rw [decide_eq_true_eq]
  omega

/-- `str.encode()`; the digest functions take the text. -/
def encode (runtime : Runtime) (text : String) : Except Exc String :=
  if runtime.unicode.encodes text then .ok text else .error (.unexpected "UnicodeEncodeError")

/-- `hmac.compare_digest` of two strings. -/
def compareDigest (left right : String) : Except Exc Bool :=
  if isascii left && isascii right then .ok (left = right) else .error .typeError

/-! ## Money -/

/-- `shared/money.py`: integer minor units and a currency code. -/
structure Money where
  amount : Nat
  currency : String
  deriving DecidableEq, Repr

/-- `Money.__post_init__`. -/
def Money.make (data : UnicodeData) (amount : Int) (currency : String) : Except Exc Money :=
  if amount < 0 then .error .valueError
  else if currency.toList.length ≠ 3 ∨ data.isalpha currency = false ∨
      data.isupper currency = false then .error .valueError
  else .ok ⟨amount.toNat, currency⟩

end BackendCore
