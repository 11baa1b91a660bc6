/-
**The signature of a notification.**

`post_midtrans_webhook` accepts a notification when its signature key is the SHA-512 digest, in
hexadecimal digits of either case, of the order id, the status code, the gross amount and the
server key written one after the other.  The hash function itself is a parameter.

Main definitions:

* `Gt06.verifyMidtransSignature` — the check of the signature key;
* `Gt06.acceptMidtransWebhook` — what the endpoint checks before it applies a notification;
* `Gt06.MidtransWebhookNotification.signed` — the text a signature is about, without the key.

Main results:

* `Gt06.acceptMidtransWebhook_eq_ok_iff` — which notifications are accepted, and as what;
* `Gt06.signature_binding` — **a signature key stands for one signed text and for any mapped
  transaction status**.
-/

import Mathlib
import Gt06Server.Midtrans

set_option relaxedAutoImplicit false
set_option autoImplicit false

namespace Gt06

/-! ### Hexadecimal digits -/

def hexDigit (n : ℕ) : Char := "0123456789abcdef".toList.getD n '0'

/-- The two digits of a byte. -/
def hexByte (byte : UInt8) : List Char :=
  [hexDigit (byte.toNat / 16), hexDigit (byte.toNat % 16)]

/-- `format!("{:x}", digest)`. -/
def lowerHex (digest : List UInt8) : List Char := digest.flatMap hexByte

theorem toLower_hexDigit : ∀ n < 16, (hexDigit n).toLower = hexDigit n := by decide

theorem hexDigit_inj : ∀ m < 16, ∀ n < 16, hexDigit m = hexDigit n → m = n := by decide

theorem toLower_lowerHex (digest : List UInt8) :
    (lowerHex digest).map Char.toLower = lowerHex digest := by
  induction digest with
  | nil => rfl
  | cons byte digest ih =>
      have hbyte := byte.toNat_lt
      have hhigh := toLower_hexDigit (byte.toNat / 16) (by omega)
      have hlow := toLower_hexDigit (byte.toNat % 16) (by omega)
      rw [lowerHex, List.flatMap_cons, List.map_append]
      exact congrArg₂ _ (by simp [hexByte, hhigh, hlow]) ih

theorem lowerHex_injective : Function.Injective lowerHex := by
  intro digest
  induction digest with
  | nil =>
      intro digest' h
      cases digest' with
      | nil => rfl
      | cons byte' digest' => simp [lowerHex, hexByte] at h
  | cons byte digest ih =>
      intro digest' h
      cases digest' with
      | nil => simp [lowerHex, hexByte] at h
      | cons byte' digest' =>
          have hbyte := byte.toNat_lt
          have hbyte' := byte'.toNat_lt
          simp only [lowerHex, List.flatMap_cons, hexByte, List.cons_append, List.nil_append,
            List.cons.injEq] at h
          obtain ⟨hhigh, hlow, hrest⟩ := h
          have hdiv := hexDigit_inj _ (by omega) _ (by omega) hhigh
          have hmod := hexDigit_inj _ (by omega) _ (by omega) hlow
          have hnat : byte.toNat = byte'.toNat := by omega
          rw [UInt8.toNat_inj.1 hnat, ih hrest]

/-! ### The check -/

/-- `str::eq_ignore_ascii_case`. -/
def eqIgnoreAsciiCase (s t : List Char) : Bool := s.map Char.toLower = t.map Char.toLower

inductive ApiError where
  | missingMidtransServerKey
  | invalidMidtransSignature
  | unsupportedMidtransStatus
  | query (error : SqlError)
  deriving DecidableEq, Repr

/-- The text a signature is about, without the key. -/
def MidtransWebhookNotification.signed (notification : MidtransWebhookNotification) : String :=
  notification.orderId ++ notification.statusCode ++ notification.grossAmount

section Sha512

variable (sha512 : ByteArray → List UInt8)

def verifyMidtransSignature (serverKey orderId statusCode grossAmount signatureKey : String) :
    Bool :=
  let expected := lowerHex (sha512 (orderId ++ statusCode ++ grossAmount ++ serverKey).toUTF8)
  eqIgnoreAsciiCase expected signatureKey.toList

/-- What `post_midtrans_webhook` checks before it applies a notification: the status to apply. -/
def acceptMidtransWebhook (serverKey : Option String)
    (notification : MidtransWebhookNotification) : Except ApiError MidtransPaymentStatus := do
  match serverKey with
  | none => throw .missingMidtransServerKey
  | some serverKey =>
      if !verifyMidtransSignature sha512 serverKey notification.orderId notification.statusCode
          notification.grossAmount notification.signatureKey then
        throw .invalidMidtransSignature
      else
        match mapMidtransStatus notification.transactionStatus with
        | none => throw .unsupportedMidtransStatus
        | some mappedStatus => return mappedStatus

/-- The digest that makes a notification acceptable. -/
def MidtransWebhookNotification.digest (serverKey : String)
    (notification : MidtransWebhookNotification) : List UInt8 :=
  sha512 (notification.signed ++ serverKey).toUTF8

/-- Which notifications are accepted, and as what. -/
theorem acceptMidtransWebhook_eq_ok_iff {serverKey : String}
    {notification : MidtransWebhookNotification} {status : MidtransPaymentStatus} :
    acceptMidtransWebhook sha512 (some serverKey) notification = .ok status ↔
      notification.signatureKey.toList.map Char.toLower =
          lowerHex (notification.digest sha512 serverKey) ∧
        mapMidtransStatus notification.transactionStatus = some status := by
  have hverify : verifyMidtransSignature sha512 serverKey notification.orderId
      notification.statusCode notification.grossAmount notification.signatureKey = true ↔
      notification.signatureKey.toList.map Char.toLower =
        lowerHex (notification.digest sha512 serverKey) := by
    simp only [verifyMidtransSignature, eqIgnoreAsciiCase, toLower_lowerHex, decide_eq_true_eq]
    exact eq_comm
  rw [← hverify, acceptMidtransWebhook]
  cases hsignature : verifyMidtransSignature sha512 serverKey notification.orderId
    notification.statusCode notification.grossAmount notification.signatureKey with
  | false => simp [throw, throwThe, MonadExceptOf.throw]
  | true =>
      cases hstatus : mapMidtransStatus notification.transactionStatus with
      | none => simp [throw, throwThe, MonadExceptOf.throw]
      | some mapped => simp [pure, Except.pure]

/-- Two notifications that carry the same accepted signature key have the same signed text. -/
theorem signed_eq_of_digest_eq {sha512 : ByteArray → List UInt8}
    (hcollision : Function.Injective sha512) {serverKey : String}
    {m n : MidtransWebhookNotification}
    (h : m.digest sha512 serverKey = n.digest sha512 serverKey) : m.signed = n.signed := by
  have htext : m.signed ++ serverKey = n.signed ++ serverKey :=
    String.toByteArray_inj.1 (hcollision h)
  exact (String.append_left_inj serverKey).1 htext

/-- A signed text and the lengths of its first two fields determine its fields. -/
theorem fields_eq_of_signed_eq {m n : MidtransWebhookNotification} (h : m.signed = n.signed)
    (horder : m.orderId.length = n.orderId.length)
    (hcode : m.statusCode.length = n.statusCode.length) :
    m.orderId = n.orderId ∧ m.statusCode = n.statusCode ∧ m.grossAmount = n.grossAmount := by
  have htext := congrArg String.toList h
  simp only [MidtransWebhookNotification.signed, String.toList_append, List.append_assoc] at htext
  obtain ⟨horders, hrest⟩ := List.append_inj htext
    (by rw [String.length_toList, String.length_toList, horder])
  obtain ⟨hcodes, hamounts⟩ := List.append_inj hrest
    (by rw [String.length_toList, String.length_toList, hcode])
  exact ⟨String.toList_inj.1 horders, String.toList_inj.1 hcodes, String.toList_inj.1 hamounts⟩

/-- **A signature key stands for one signed text and for any mapped transaction status**: when one
notification is accepted, another with its signature key is accepted exactly when it has the same
signed text, as whatever its transaction status maps to.  Order ids and status codes of the same
lengths then leave no choice of the order, the status code and the amount. -/
theorem signature_binding {sha512 : ByteArray → List UInt8}
    (hcollision : Function.Injective sha512) {serverKey : String}
    {genuine presented : MidtransWebhookNotification} {status : MidtransPaymentStatus}
    (haccepted : acceptMidtransWebhook sha512 (some serverKey) genuine = .ok status)
    (hkey : presented.signatureKey = genuine.signatureKey) :
    (∀ presentedStatus,
      acceptMidtransWebhook sha512 (some serverKey) presented = .ok presentedStatus ↔
        presented.signed = genuine.signed ∧
          mapMidtransStatus presented.transactionStatus = some presentedStatus) ∧
      (∀ presentedStatus,
        acceptMidtransWebhook sha512 (some serverKey) presented = .ok presentedStatus →
          presented.orderId.length = genuine.orderId.length →
          presented.statusCode.length = genuine.statusCode.length →
          presented.orderId = genuine.orderId ∧ presented.statusCode = genuine.statusCode ∧
            presented.grossAmount = genuine.grossAmount) := by
  have hgenuine := ((acceptMidtransWebhook_eq_ok_iff sha512).1 haccepted).1
  have hiff : ∀ presentedStatus,
      acceptMidtransWebhook sha512 (some serverKey) presented = .ok presentedStatus ↔
        presented.signed = genuine.signed ∧
          mapMidtransStatus presented.transactionStatus = some presentedStatus := by
    intro presentedStatus
    rw [acceptMidtransWebhook_eq_ok_iff, hkey, hgenuine]
    refine and_congr_left fun _ => ?_
    constructor
    · intro hdigest
      exact (signed_eq_of_digest_eq hcollision (lowerHex_injective hdigest)).symm
    · intro hsigned
      rw [MidtransWebhookNotification.digest, MidtransWebhookNotification.digest, hsigned]
  refine ⟨hiff, ?_⟩
  intro presentedStatus hpresented horder hcode
  exact fields_eq_of_signed_eq ((hiff presentedStatus).1 hpresented).1 horder hcode

end Sha512

/-! ### A genuine notification and what its signature also fits -/

def pendingText : String := "hb-12345-17771112000002012000.00server-key"

def deniedText : String := "hb-12345-17771112000002022000.00server-key"

def settledText : String := "hb-12345-17771112000002002000.00server-key"

/-- The SHA-512 digest of `pendingText`. -/
def pendingDigest : List UInt8 :=
  [235, 86, 50, 171, 186, 252, 169, 148, 220, 220, 48, 137, 157, 209, 204, 67, 87, 155, 109, 171,
    150, 35, 130, 193, 72, 185, 142, 75, 75, 237, 197, 20, 85, 23, 104, 249, 235, 137, 10, 35,
    93, 110, 142, 209, 174, 242, 238, 19, 215, 73, 163, 4, 222, 134, 222, 9, 97, 62, 96, 242,
    120, 87, 242, 204]

/-- The SHA-512 digest of `deniedText`. -/
def deniedDigest : List UInt8 :=
  [41, 106, 213, 105, 105, 243, 129, 120, 38, 62, 213, 97, 199, 85, 10, 70, 69, 172, 123, 38,
    204, 198, 160, 246, 1, 220, 175, 190, 163, 67, 100, 147, 222, 152, 218, 249, 54, 219, 123, 217,
    14, 177, 146, 1, 232, 202, 49, 56, 199, 44, 182, 30, 217, 83, 119, 252, 244, 217, 18, 80,
    133, 64, 224, 245]

/-- The SHA-512 digest of `settledText`. -/
def settledDigest : List UInt8 :=
  [214, 123, 70, 226, 199, 255, 57, 177, 56, 187, 182, 72, 55, 223, 98, 187, 185, 191, 141, 148,
    248, 131, 65, 76, 71, 217, 74, 8, 72, 235, 241, 245, 12, 70, 141, 56, 166, 57, 76, 221,
    171, 152, 184, 21, 47, 49, 62, 99, 20, 51, 81, 183, 150, 229, 209, 109, 32, 49, 100, 50,
    160, 22, 194, 70]

/-- A hash function without collisions that has the SHA-512 digests of the three texts above. -/
def sampleSha512 (message : ByteArray) : List UInt8 :=
  if message = pendingText.toUTF8 then pendingDigest
  else if message = deniedText.toUTF8 then deniedDigest
  else if message = settledText.toUTF8 then settledDigest
  else 0 :: message.data.toList

/-- The message of a digest of `sampleSha512`. -/
def sampleMessage (digest : List UInt8) : ByteArray :=
  if digest = pendingDigest then pendingText.toUTF8
  else if digest = deniedDigest then deniedText.toUTF8
  else if digest = settledDigest then settledText.toUTF8
  else ⟨digest.tail.toArray⟩

theorem sampleSha512_injective : Function.Injective sampleSha512 := by
  refine Function.LeftInverse.injective (g := sampleMessage) ?_
  intro message
  have hhead : ∀ rest : List UInt8,
      0 :: rest ≠ pendingDigest ∧ 0 :: rest ≠ deniedDigest ∧ 0 :: rest ≠ settledDigest := by
    simp [pendingDigest, deniedDigest, settledDigest]
  unfold sampleSha512
  split_ifs with hpending hdenied hsettled
  · rw [hpending]
    decide +kernel
  · rw [hdenied]
    decide +kernel
  · rw [hsettled]
    decide +kernel
  · obtain ⟨h₁, h₂, h₃⟩ := hhead message.data.toList
    rw [sampleMessage, if_neg h₁, if_neg h₂, if_neg h₃]
    rfl

/-- A notification of a transaction that waits for its payment. -/
def pendingNotification : MidtransWebhookNotification where
  orderId := "hb-12345-1777111200000"
  statusCode := "201"
  grossAmount := "2000.00"
  signatureKey := "eb5632abbafca994dcdc30899dd1cc43579b6dab962382c148b98e4b4bedc514551768f9eb890a235d6e8ed1aef2ee13d749a304de86de09613e60f27857f2cc"
  transactionStatus := "pending"

/-- The same signed text cut at another place, for another order and as a settlement. -/
def resplitNotification : MidtransWebhookNotification :=
  { pendingNotification with
    orderId := "hb-12345-17771112000002"
    statusCode := "01"
    transactionStatus := "settlement" }

/-- The same signed text cut so that the amount is larger. -/
def inflatedNotification : MidtransWebhookNotification :=
  { pendingNotification with
    statusCode := "20"
    grossAmount := "12000.00"
    transactionStatus := "settlement" }

theorem accept_pendingNotification :
    acceptMidtransWebhook sampleSha512 (some "server-key") pendingNotification = .ok .pending := by
  decide +kernel

/-- The signature of the pending transaction settles another order. -/
theorem pendingNotification_signature :
    ¬ ∀ (m n : MidtransWebhookNotification) (s t : MidtransPaymentStatus),
      acceptMidtransWebhook sampleSha512 (some "server-key") m = .ok s →
      acceptMidtransWebhook sampleSha512 (some "server-key") n = .ok t →
      m.signatureKey = n.signatureKey →
      m.orderId = n.orderId ∧ m.grossAmount = n.grossAmount ∧ s = t := by
  intro h
  have hresplit : acceptMidtransWebhook sampleSha512 (some "server-key") resplitNotification =
      .ok .paid := by decide +kernel
  obtain ⟨horder, _⟩ := h _ _ _ _ accept_pendingNotification hresplit rfl
  exact absurd horder (by decide)

/-- It also claims a larger amount. -/
theorem signature_binding_inflated :
    (∀ s, acceptMidtransWebhook sampleSha512 (some "server-key") inflatedNotification = .ok s ↔
      inflatedNotification.signed = pendingNotification.signed ∧
        mapMidtransStatus inflatedNotification.transactionStatus = some s) ∧
      (∀ s, acceptMidtransWebhook sampleSha512 (some "server-key") inflatedNotification = .ok s →
        inflatedNotification.orderId.length = pendingNotification.orderId.length →
        inflatedNotification.statusCode.length = pendingNotification.statusCode.length →
        inflatedNotification.orderId = pendingNotification.orderId ∧
          inflatedNotification.statusCode = pendingNotification.statusCode ∧
          inflatedNotification.grossAmount = pendingNotification.grossAmount) :=
  signature_binding sampleSha512_injective accept_pendingNotification rfl

end Gt06
