/-
**Snap transactions.**

What `midtrans.rs` needs to ask the payment provider for a payment page: the plans, the id of an
order, the request with the items of the invoice, and what the answer is turned into.  The provider
may have made the transaction also when no usable answer arrives.

Main definitions:

* `Gt06.MidtransClient`, `Gt06.SubscriptionPlan` — the configuration and its plans;
* `Gt06.buildMidtransOrderId` — the id of an order;
* `Gt06.MidtransClient.snapRequest`, `Gt06.MidtransClient.createdPayment` —
  `create_snap_transaction`, before and after the request.

Main results:

* `Gt06.sum_itemDetails` — the items of an invoice and its amount.
-/

import Mathlib
import Gt06Server.Primitives

set_option relaxedAutoImplicit false
set_option autoImplicit false

namespace Gt06

inductive MidtransError where
  | invalidPricingTier (value : String)
  | http
  | json
  | missingPaymentUrl (rawResponse : String)
  deriving DecidableEq, Repr

/-! ### Plans -/

inductive PricingTier where
  | basic
  | ojol
  deriving DecidableEq, Repr

def PricingTier.parse (value : String) : Option PricingTier :=
  if value = "basic" then some .basic else if value = "ojol" then some .ojol else none

def PricingTier.label : PricingTier → String
  | .basic => "Heartbeats Basic"
  | .ojol => "Heartbeats Ojol"

def parsePricingTier (value : String) : Except MidtransError PricingTier :=
  match PricingTier.parse value with
  | some tier => .ok tier
  | none => .error (.invalidPricingTier value)

structure SubscriptionPlan where
  tier : PricingTier
  planCode : String
  priceIdr : ℤ
  deriving DecidableEq, Repr

structure MidtransClient where
  basicPriceIdr : ℤ
  ojolPriceIdr : ℤ
  expiryHours : ℤ
  deriving DecidableEq, Repr

def MidtransClient.subscriptionPlanForTier (midtrans : MidtransClient) :
    PricingTier → SubscriptionPlan
  | .basic => ⟨.basic, "monthly_basic", midtrans.basicPriceIdr⟩
  | .ojol => ⟨.ojol, "monthly_ojol", midtrans.ojolPriceIdr⟩

/-! ### Orders -/

/-- `timestamp_millis`. -/
def timestampMillis (value : ℤ) : ℤ := value / 1000

def buildMidtransOrderId (telegramUserId createdAt : ℤ) : String :=
  s!"hb-{telegramUserId}-{timestampMillis createdAt}"

/-- `chrono::Duration::hours`. -/
def hours (n : ℤ) : ℤ := n * (60 * 60 * microsPerSecond)

/-! ### Requests -/

structure MidtransItemDetail where
  id : String
  price : ℤ
  quantity : ℤ
  name : String
  deriving DecidableEq, Repr

def midtransBreakdownBaseTotalIdr : ℤ := 45000

/-- The items of the plan: with the parts of the price, when it is large enough for them. -/
def SubscriptionPlan.itemDetails (plan : SubscriptionPlan) (effectiveBaseAmountIdr : ℤ) :
    List MidtransItemDetail :=
  if effectiveBaseAmountIdr ≥ midtransBreakdownBaseTotalIdr then
    let remainder := effectiveBaseAmountIdr - 35000
    [⟨"internet_data", 10000, 1, "Data internet"⟩, ⟨"sewa_alat", 20000, 1, "Sewa alat"⟩,
      ⟨"server dan biaya layanan", 5000, 1, "Server"⟩] ++
      (if remainder > 0 then [⟨"heartbeats_service", remainder, 1, "Layanan Heartbeats"⟩] else [])
  else
    [⟨plan.planCode, effectiveBaseAmountIdr, 1, s!"Akses {plan.tier.label} 30 Hari"⟩]

/-- The items of an invoice. -/
def itemDetails (plan : SubscriptionPlan)
    (effectiveBaseAmountIdr shipmentFeeIdr fineAmountIdr : ℤ) : List MidtransItemDetail :=
  plan.itemDetails effectiveBaseAmountIdr ++
    (if fineAmountIdr > 0 then
      [⟨"late_payment_sanction", fineAmountIdr, 1, "Denda keterlambatan"⟩] else []) ++
    (if shipmentFeeIdr > 0 then
      [⟨"device_shipment_fee", shipmentFeeIdr, 1, "Biaya pengiriman perangkat"⟩] else [])

def MidtransItemDetail.amount (item : MidtransItemDetail) : ℤ := item.price * item.quantity

theorem sum_plan_itemDetails (plan : SubscriptionPlan) (effectiveBaseAmountIdr : ℤ) :
    ((plan.itemDetails effectiveBaseAmountIdr).map MidtransItemDetail.amount).sum =
      effectiveBaseAmountIdr := by
  unfold SubscriptionPlan.itemDetails
  split
  case isTrue hlarge =>
      -- from the breakdown total on there is always a remainder
      have hremainder : effectiveBaseAmountIdr - 35000 > 0 := by
        unfold midtransBreakdownBaseTotalIdr at hlarge
        omega
      simp only [if_pos hremainder]
      simp [MidtransItemDetail.amount]
      ring
  case isFalse => simp [MidtransItemDetail.amount]

/-- The items of an invoice add up to the base amount and the fees that are above zero. -/
theorem sum_itemDetails (plan : SubscriptionPlan)
    (effectiveBaseAmountIdr shipmentFeeIdr fineAmountIdr : ℤ) :
    ((itemDetails plan effectiveBaseAmountIdr shipmentFeeIdr fineAmountIdr).map
      MidtransItemDetail.amount).sum =
        effectiveBaseAmountIdr + max fineAmountIdr 0 + max shipmentFeeIdr 0 := by
  have hfee : ∀ (fee : ℤ) (id name : String),
      (((if fee > 0 then [⟨id, fee, 1, name⟩] else []) : List MidtransItemDetail).map
        MidtransItemDetail.amount).sum = max fee 0 := by
    intro fee id name
    split
    · simp [MidtransItemDetail.amount]
      omega
    · simp
      omega
  unfold itemDetails
  rw [List.map_append, List.map_append, List.sum_append, List.sum_append, sum_plan_itemDetails,
    hfee, hfee]

structure MidtransSnapRequest where
  orderId : String
  grossAmount : ℤ
  itemDetails : List MidtransItemDetail
  startTime : ℤ
  durationHours : ℤ
  deriving DecidableEq, Repr

namespace MidtransClient

variable (midtrans : MidtransClient)

def snapRequest (plan : SubscriptionPlan) (orderId : String)
    (createdAt effectiveBaseAmountIdr shipmentFeeIdr grossAmountIdr fineAmountIdr : ℤ) :
    MidtransSnapRequest where
  orderId := orderId
  grossAmount := grossAmountIdr
  itemDetails := Gt06.itemDetails plan effectiveBaseAmountIdr shipmentFeeIdr fineAmountIdr
  startTime := createdAt
  durationHours := midtrans.expiryHours

end MidtransClient

/-! ### Answers -/

/-- How a request ends: without a usable answer, when the provider may or may not have made the
transaction, or with the answer that it has. -/
inductive SnapReply where
  | failed (made : Bool) (error : MidtransError)
  | answered (token redirectUrl rawResponse : String)
  deriving DecidableEq, Repr

/-- Whether the provider has the transaction afterwards. -/
def SnapReply.made : SnapReply → Bool
  | .failed made _ => made
  | .answered _ _ _ => true

structure MidtransCreatedPayment where
  orderId : String
  transactionId : Option String
  paymentType : Option String
  paymentUrl : String
  rawResponse : String
  expiresAt : ℤ
  deriving DecidableEq, Repr

def MidtransClient.createdPayment (midtrans : MidtransClient) (orderId : String) (createdAt : ℤ) :
    SnapReply → Except MidtransError MidtransCreatedPayment
  | .failed _ error => .error error
  | .answered token redirectUrl rawResponse =>
      if redirectUrl.toList.all isWhitespace then .error (.missingPaymentUrl rawResponse)
      else
        .ok {
          orderId := orderId
          transactionId := some token
          paymentType := some "snap"
          paymentUrl := redirectUrl
          rawResponse := rawResponse
          expiresAt := createdAt + hours midtrans.expiryHours }

end Gt06
