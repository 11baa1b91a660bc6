/-
**Buttons come back as what they were.**

A keyboard of the bot carries a short text behind each of its buttons, and Telegram sends that text
back when the button is pressed.  Builders and parsers are written apart from each other: some texts
have two parts and some three, and an alert names its ride only when there is one.

Main definitions:

* `Gt06.theftAlertCallbackData`, `Gt06.analyticsCallbackData` — the texts behind buttons;
* `Gt06.theftAlertKeyboard` and the others — the keyboards;
* `Gt06.routeCallback` — what the parsers make of a text, tried one after the other;
* `Gt06.CallbackFamily` — the four families of buttons.

Main results:

* `Gt06.parseI64_toString` — an integer is read as what was written;
* `Gt06.CallbackFamily.eq_of_accepts` — no text is a button of two families;
* `Gt06.buttons_come_back` — **every button of every keyboard comes back as the action it was made
  for, and is short enough for Telegram**.
-/

import Gt06Server.ChatHandlers
import Gt06Server.Decimals

set_option relaxedAutoImplicit false
set_option autoImplicit false

namespace Gt06

/-! ### Keyboards -/

structure InlineKeyboardButton where
  text : String
  callbackData : String
  deriving DecidableEq, Repr

structure InlineKeyboardMarkup where
  inlineKeyboard : List (List InlineKeyboardButton)
  deriving DecidableEq, Repr

/-- The texts behind the buttons, row by row. -/
def InlineKeyboardMarkup.callbackData (keyboard : InlineKeyboardMarkup) : List String :=
  keyboard.inlineKeyboard.flatten.map InlineKeyboardButton.callbackData

def AnalyticsRange.callbackValue : AnalyticsRange → String
  | .select => "select"
  | .today => "today"
  | .yesterday => "yesterday"
  | .month => "month"
  | .custom => "custom"

theorem AnalyticsRange.parse_callbackValue (range : AnalyticsRange) :
    parse range.callbackValue = some range := by
  cases range <;> rfl

def AnalyticsRange.label : AnalyticsRange → String
  | .select => "Pilih rentang"
  | .today => "Hari ini"
  | .yesterday => "Kemarin"
  | .month => "Bulan ini"
  | .custom => "Pilih sendiri"

def theftAlertCallbackData (action : String) : Option ℤ → String
  | some sessionId => "theft_alert:" ++ action ++ ":" ++ toString sessionId
  | none => "theft_alert:" ++ action

def analyticsCallbackData (kind : AnalyticsKind) (range : AnalyticsRange) : String :=
  "analytics:" ++ kind.callbackValue ++ ":" ++ range.callbackValue

def engineSessionConfirmationKeyboard : InlineKeyboardMarkup where
  inlineKeyboard :=
    [[⟨"Ya, ini saya", "engine_session:yes"⟩, ⟨"Bukan saya", "engine_session:no"⟩]]

def theftAlertKeyboard (sessionId : Option ℤ) : InlineKeyboardMarkup where
  inlineKeyboard :=
    [[⟨"live tracking", theftAlertCallbackData "stream_location" sessionId⟩,
      ⟨"cek status", theftAlertCallbackData "check_latest_status" sessionId⟩],
     [⟨"hubungi bantuan", theftAlertCallbackData "contact_support" sessionId⟩]]

def subscribedStartMenuKeyboard : InlineKeyboardMarkup where
  inlineKeyboard :=
    [[⟨"Live Tracking", theftAlertCallbackData "stream_location" none⟩,
      ⟨"Status terkini", theftAlertCallbackData "check_latest_status" none⟩],
     [⟨"History Perjalanan", analyticsCallbackData .sessions .select⟩,
      ⟨"Aktivitas Kendaraan", analyticsCallbackData .metrics .select⟩]]

/-- The button for a range. -/
def analyticsRangeButton (kind : AnalyticsKind) (range : AnalyticsRange) : InlineKeyboardButton :=
  ⟨range.label, analyticsCallbackData kind range⟩

def analyticsRangeKeyboard (kind : AnalyticsKind) : InlineKeyboardMarkup where
  inlineKeyboard :=
    if kind = .sessions then
      [[analyticsRangeButton kind .today, analyticsRangeButton kind .yesterday],
       [analyticsRangeButton kind .custom]]
    else
      [[analyticsRangeButton kind .today, analyticsRangeButton kind .yesterday],
       [analyticsRangeButton kind .month, analyticsRangeButton kind .custom]]

/-- Under a payment prompt of the bot, and under the reminders of `subscription_maintenance.rs`. -/
def subscriptionPaymentKeyboard : InlineKeyboardMarkup where
  inlineKeyboard := [[⟨"Berlangganan", "payment:subscribe"⟩]]

/-! ### Presses -/

/-- What a press asks for. -/
inductive CallbackAction where
  | payment (action : PaymentAction)
  | analytics (action : AnalyticsAction)
  | theftAlert (action : TheftAlertAction)
  | session (action : SessionAction)
  deriving DecidableEq

inductive CallbackFamily where
  | payment
  | analytics
  | theftAlert
  | session
  deriving DecidableEq, Repr

/-- The parser of a family. -/
def CallbackFamily.parse (data : String) : CallbackFamily → Option CallbackAction
  | .payment => (PaymentAction.parse data).map .payment
  | .analytics => (AnalyticsAction.parse data).map .analytics
  | .theftAlert => (TheftAlertAction.parse data).map .theftAlert
  | .session => (SessionAction.parse data).map .session

/-- The parsers in the order of `handle_callback_query`. -/
def routeCallback (data : String) : Option CallbackAction :=
  [.payment, .analytics, .theftAlert, .session].findSome? (CallbackFamily.parse data)

/-- The part of `handle_callback_query` behind the parsers. -/
def handleCallbackAction (query : TelegramCallbackQuery) (message : TelegramMessage) :
    Option CallbackAction → ChatM Unit
  | some (.payment _) => askChat (.handlePaymentAction query.id query.fromId)
  | some (.analytics action) => handleAnalyticsCallback query message action
  | some (.theftAlert action) => handleTheftAlertCallback query message action
  | some (.session action) => handleSessionActionCallback query message action
  | none => pure ()

theorem handleChatCallbackQuery_eq {query : TelegramCallbackQuery} {message : TelegramMessage}
    {data : String} (hdata : query.data = some data) (hmessage : query.message = some message) :
    handleChatCallbackQuery query = handleCallbackAction query message (routeCallback data) := by
  unfold handleChatCallbackQuery routeCallback
  simp only [hdata, hmessage, List.findSome?_cons, List.findSome?_nil, CallbackFamily.parse]
  cases PaymentAction.parse data with
  | some action => rfl
  | none =>
      cases AnalyticsAction.parse data with
      | some action => rfl
      | none =>
          cases TheftAlertAction.parse data with
          | some action => rfl
          | none =>
              cases SessionAction.parse data with
              | some action => rfl
              | none => rfl

/-! ### Families -/

namespace CallbackFamily

/-- The first part of a text of the family. -/
def name : CallbackFamily → String
  | .payment => "payment"
  | .analytics => "analytics"
  | .theftAlert => "theft_alert"
  | .session => "engine_session"

theorem name_injective {family family' : CallbackFamily} (h : family.name = family'.name) :
    family = family' := by
  cases family <;> cases family' <;> first | rfl | exact absurd h (by decide)

variable {data : String} {family family' : CallbackFamily} {action action' : CallbackAction}

/-- A parser looks at the name of its family. -/
theorem head_of_parse (h : family.parse data = some action) :
    (splitColon data).head? = some family.name := by
  cases family with
  | payment =>
      obtain ⟨action, h, -⟩ := Option.map_eq_some_iff.1 h
      unfold PaymentAction.parse at h
      split at h
      · next hsplit => rw [hsplit]; rfl
      · next hsplit => rw [hsplit]; rfl
      · cases h
  | analytics =>
      obtain ⟨action, h, -⟩ := Option.map_eq_some_iff.1 h
      unfold AnalyticsAction.parse at h
      split at h
      · next hsplit => rw [hsplit]; rfl
      · cases h
  | theftAlert =>
      obtain ⟨action, h, -⟩ := Option.map_eq_some_iff.1 h
      unfold TheftAlertAction.parse at h
      split at h
      · next hsplit => rw [hsplit]; rfl
      · next hsplit => rw [hsplit]; rfl
      · cases h
  | session =>
      obtain ⟨action, h, -⟩ := Option.map_eq_some_iff.1 h
      unfold SessionAction.parse at h
      split at h
      · next hsplit => rw [hsplit]; rfl
      · next hsplit => rw [hsplit]; rfl
      · cases h

/-- No text is a button of two families. -/
theorem eq_of_parse (h : family.parse data = some action) (h' : family'.parse data = some action') :
    family = family' := by
  have hname := (head_of_parse h).symm.trans (head_of_parse h')
  exact name_injective (Option.some.inj hname)

/-- In whichever order the parsers are tried, the one that takes the text is found. -/
theorem findSome_parse {order : List CallbackFamily} (hfamily : family ∈ order)
    (h : family.parse data = some action) : order.findSome? (parse data) = some action := by
  cases hfound : order.findSome? (parse data) with
  | none =>
      rw [List.findSome?_eq_none_iff.1 hfound family hfamily] at h
      cases h
  | some action' =>
      obtain ⟨family', -, hparse⟩ := List.exists_of_findSome?_eq_some hfound
      obtain rfl := eq_of_parse h hparse
      rw [← h, hparse]

theorem findSome_parse_eq {order order' : List CallbackFamily} (hall : ∀ family, family ∈ order)
    (hall' : ∀ family, family ∈ order') :
    order.findSome? (parse data) = order'.findSome? (parse data) := by
  cases hfound : order.findSome? (parse data) with
  | none =>
      symm
      rw [List.findSome?_eq_none_iff]
      exact fun family _ => List.findSome?_eq_none_iff.1 hfound family (hall family)
  | some action =>
      obtain ⟨family, -, hparse⟩ := List.exists_of_findSome?_eq_some hfound
      exact (findSome_parse (hall' family) hparse).symm

end CallbackFamily

theorem routeCallback_of_parse {data : String} {family : CallbackFamily} {action : CallbackAction}
    (h : family.parse data = some action) : routeCallback data = some action :=
  CallbackFamily.findSome_parse (by cases family <;> decide) h

/-! ### Integers -/

theorem foldl_digits (digits : List Char) (m : ℕ) :
    digits.foldl (fun (n : ℤ) c => 10 * n + (c.toNat - '0'.toNat : ℕ)) m =
      Nat.ofDigitChars 10 digits m := by
  induction digits generalizing m with
  | nil => simp
  | cons c digits ih =>
      rw [List.foldl_cons, Nat.ofDigitChars_cons, ← ih]
      push_cast
      rfl

/-- What `parse` makes of the digits behind a sign. -/
def signedDigits (negative : Bool) (digits : List Char) : Option ℤ :=
  if digits.isEmpty || !digits.all Char.isDigit then none
  else
    let magnitude : ℤ := digits.foldl (fun n c => 10 * n + (c.toNat - '0'.toNat : ℕ)) 0
    let n := if negative then -magnitude else magnitude
    if Binary64.i64Min ≤ n ∧ n ≤ Binary64.i64Max then some n else none

theorem signedDigits_toDigits (negative : Bool) (m : ℕ)
    (hfits : FitsI64 (if negative then -(m : ℤ) else m)) :
    signedDigits negative (Nat.toDigits 10 m) = some (if negative then -(m : ℤ) else m) := by
  have hread : (Nat.toDigits 10 m).foldl
      (fun (n : ℤ) c => 10 * n + (c.toNat - '0'.toNat : ℕ)) 0 = m := by
    have hfold := foldl_digits (Nat.toDigits 10 m) 0
    rwa [Nat.ofDigitChars_ten_toDigits] at hfold
  have hall : (Nat.toDigits 10 m).all Char.isDigit = true :=
    List.all_eq_true.2 fun c hc => Decimals.isDigit_of_mem_toDigits hc
  have hdigits :
      ((Nat.toDigits 10 m).isEmpty || !(Nat.toDigits 10 m).all Char.isDigit) = false := by
    rw [hall, List.isEmpty_eq_false_iff.2 Nat.toDigits_ne_nil]
    rfl
  unfold signedDigits
  simp only [hdigits, hread, Bool.false_eq_true, if_false]
  exact if_pos hfits

theorem parseI64_of_minus {value : String} {digits : List Char}
    (h : value.toList = '-' :: digits) : parseI64 value = signedDigits true digits := by
  unfold parseI64
  rw [h]
  rfl

theorem parseI64_of_digit {value : String} {c : Char} {digits : List Char}
    (h : value.toList = c :: digits) (hc : c.isDigit = true) :
    parseI64 value = signedDigits false (c :: digits) := by
  unfold parseI64
  rw [h]
  split
  next hsign =>
    split at hsign
    · next hlist => exact absurd ((List.cons.inj hlist).1 ▸ hc) (by decide)
    · next hlist => exact absurd ((List.cons.inj hlist).1 ▸ hc) (by decide)
    · obtain ⟨rfl, rfl⟩ := Prod.mk.inj hsign
      rfl

/-- An integer is read as what was written. -/
theorem parseI64_toString {n : ℤ} (h : FitsI64 n) : parseI64 (toString n) = some n := by
  by_cases hn : 0 ≤ n
  · have hlist := Decimals.toList_toString_of_nonneg hn
    obtain ⟨c, digits, hdigits⟩ := List.exists_cons_of_ne_nil (Nat.toDigits_ne_nil (n := n.toNat))
    have hc : c.isDigit = true :=
      Decimals.isDigit_of_mem_toDigits (n := n.toNat) (hdigits ▸ List.mem_cons_self)
    rw [parseI64_of_digit (hlist.trans hdigits) hc, ← hdigits, signedDigits_toDigits]
    · simp [Int.toNat_of_nonneg hn]
    · simpa [Int.toNat_of_nonneg hn] using h
  · have hneg : -((-n).toNat : ℤ) = n := by omega
    rw [parseI64_of_minus (Decimals.toList_toString_of_neg (by omega)), signedDigits_toDigits]
    · rw [if_pos rfl, hneg]
    · rwa [if_pos rfl, hneg]

/-! ### Texts behind buttons -/

theorem splitColon_append (a b : String) :
    splitColon (a ++ ":" ++ b) = splitColon a ++ splitColon b := by
  unfold splitColon
  rw [String.toList_append, String.toList_append, List.append_assoc]
  change List.map _ (List.splitOn ':' (a.toList ++ ':' :: b.toList)) = _
  rw [List.splitOn_append_cons_self, List.map_append]

theorem splitColon_of_notMem {a : String} (h : ':' ∉ a.toList) : splitColon a = [a] := by
  rw [splitColon, List.splitOn_eq_singleton h, List.map_singleton, String.ofList_toList]

theorem colon_notMem_toString (n : ℤ) : ':' ∉ (toString n).toList := by
  intro h
  obtain h | h := Decimals.isDigit_of_mem_toString h
  · exact absurd h (by decide)
  · exact absurd h (by decide)

theorem theftAlertCallbackData_some (action : String) (sessionId : ℤ) :
    theftAlertCallbackData action (some sessionId) =
      "theft_alert:" ++ action ++ ":" ++ toString sessionId := rfl

theorem theftAlertCallbackData_none (action : String) :
    theftAlertCallbackData action none = "theft_alert:" ++ action := rfl

theorem parse_theftAlertCallbackData {action : String} (haction : ':' ∉ action.toList)
    {sessionId : Option ℤ} (hfits : ∀ id ∈ sessionId, FitsI64 id) :
    TheftAlertAction.parse (theftAlertCallbackData action sessionId) =
      TheftAlertAction.ofName action sessionId := by
  have hprefix : splitColon ("theft_alert:" ++ action) = ["theft_alert", action] := by
    rw [show "theft_alert:" = "theft_alert" ++ ":" from rfl, splitColon_append,
      splitColon_of_notMem haction]
    rfl
  unfold TheftAlertAction.parse
  cases sessionId with
  | none =>
      rw [theftAlertCallbackData_none, hprefix]
      rfl
  | some id =>
      rw [theftAlertCallbackData_some, splitColon_append, hprefix,
        splitColon_of_notMem (colon_notMem_toString id)]
      simp only [List.cons_append, List.nil_append, parseI64_toString (hfits id rfl),
        Option.bind_some]

theorem parse_analyticsCallbackData (kind : AnalyticsKind) (range : AnalyticsRange) :
    AnalyticsAction.parse (analyticsCallbackData kind range) = some ⟨kind, range⟩ := by
  cases kind <;> cases range <;> decide +kernel

/-- A 64-bit integer has nineteen digits at most. -/
theorem utf8ByteSize_toString_le {n : ℤ} (h : FitsI64 n) : (toString n).utf8ByteSize ≤ 20 := by
  have hdigits : ∀ m : ℕ, m < 10 ^ 19 → m.repr.utf8ByteSize ≤ 19 := by
    intro m hm
    have hall : ∀ c ∈ m.repr.toList, c.isDigit = true := by
      rw [Nat.toList_repr]
      exact fun c => Decimals.isDigit_of_mem_toDigits
    rw [utf8ByteSize_eq_length hall, Nat.toList_repr]
    exact (Nat.length_toDigits_le_iff (by decide) (by decide)).2 hm
  unfold FitsI64 Binary64.i64Min Binary64.i64Max at h
  rw [Int.toString_eq_repr, Int.repr_eq_if]
  split
  · exact (hdigits _ (by omega)).trans (by decide)
  · rw [String.utf8ByteSize_append]
    have hsize := hdigits (-n).toNat (by omega)
    have hminus : "-".utf8ByteSize = 1 := rfl
    omega

/-! ### Every button -/

/-- A text behind a button, and what pressing the button asks for. -/
structure ComesBack (data : String) (action : CallbackAction) : Prop where
  routed : routeCallback data = some action
  /-- Telegram takes no longer texts. -/
  size : data.utf8ByteSize ≤ 64

theorem comesBack_theftAlert {action : String} {result : TheftAlertAction} {sessionId : Option ℤ}
    (hfits : ∀ id ∈ sessionId, FitsI64 id) (haction : ':' ∉ action.toList)
    (hsize : action.utf8ByteSize ≤ 19)
    (hname : TheftAlertAction.ofName action sessionId = some result) :
    ComesBack (theftAlertCallbackData action sessionId) (.theftAlert result) where
  routed := by
    have hparse : CallbackFamily.theftAlert.parse (theftAlertCallbackData action sessionId) =
        some (.theftAlert result) := by
      rw [CallbackFamily.parse, parse_theftAlertCallbackData haction hfits, hname]
      rfl
    exact routeCallback_of_parse hparse
  size := by
    have hprefix : "theft_alert:".utf8ByteSize = 12 := rfl
    cases sessionId with
    | none =>
        rw [theftAlertCallbackData_none, String.utf8ByteSize_append]
        omega
    | some id =>
        have hcolon : ":".utf8ByteSize = 1 := rfl
        have hid := utf8ByteSize_toString_le (hfits id rfl)
        rw [theftAlertCallbackData_some, String.utf8ByteSize_append, String.utf8ByteSize_append,
          String.utf8ByteSize_append]
        omega

theorem comesBack_analytics (kind : AnalyticsKind) (range : AnalyticsRange) :
    ComesBack (analyticsCallbackData kind range) (.analytics ⟨kind, range⟩) where
  routed := by
    have hparse : CallbackFamily.analytics.parse (analyticsCallbackData kind range) =
        some (.analytics ⟨kind, range⟩) := by
      rw [CallbackFamily.parse, parse_analyticsCallbackData]
      rfl
    exact routeCallback_of_parse hparse
  size := by cases kind <;> cases range <;> decide

/-- The actions the buttons of the keyboards were made for. -/
structure ButtonsComeBack (sessionId : Option ℤ) (kind : AnalyticsKind) : Prop where
  engineSession : List.Forall₂ ComesBack engineSessionConfirmationKeyboard.callbackData
    [.session .yes, .session .no]
  theftAlert : List.Forall₂ ComesBack (theftAlertKeyboard sessionId).callbackData
    [.theftAlert (.streamLocation sessionId), .theftAlert (.checkLatestStatus sessionId),
      .theftAlert (.contactSupport sessionId)]
  startMenu : List.Forall₂ ComesBack subscribedStartMenuKeyboard.callbackData
    [.theftAlert (.streamLocation none), .theftAlert (.checkLatestStatus none),
      .analytics ⟨.sessions, .select⟩, .analytics ⟨.metrics, .select⟩]
  analyticsRange : List.Forall₂ ComesBack (analyticsRangeKeyboard kind).callbackData
    ([.analytics ⟨kind, .today⟩, .analytics ⟨kind, .yesterday⟩] ++
      (if kind = .sessions then [] else [.analytics ⟨kind, .month⟩]) ++
      [.analytics ⟨kind, .custom⟩])
  payment : List.Forall₂ ComesBack subscriptionPaymentKeyboard.callbackData [.payment .subscribe]
  /-- Also the texts of the builder that no keyboard has. -/
  analytics : ∀ range, ComesBack (analyticsCallbackData kind range) (.analytics ⟨kind, range⟩)

/-- **Buttons come back as what they were**, for every ride an alert may name and every report.  No
text is taken by two of the four parsers, so that the order in which the handler tries them does not
matter. -/
theorem buttons_come_back {sessionId : Option ℤ} (hfits : ∀ id ∈ sessionId, FitsI64 id)
    (kind : AnalyticsKind) :
    ButtonsComeBack sessionId kind ∧
      (∀ (data : String) (family family' : CallbackFamily) (action action' : CallbackAction),
        family.parse data = some action → family'.parse data = some action' →
          family = family') ∧
      (∀ (data : String) (order : List CallbackFamily), (∀ family, family ∈ order) →
        order.findSome? (CallbackFamily.parse data) = routeCallback data) ∧
      ∀ (query : TelegramCallbackQuery) (message : TelegramMessage) (data : String),
        query.data = some data → query.message = some message →
          handleChatCallbackQuery query =
            handleCallbackAction query message (routeCallback data) := by
  have hnone : ∀ id ∈ (none : Option ℤ), FitsI64 id := fun id hid => by cases hid
  refine ⟨⟨?_, ?_, ?_, ?_, ?_, comesBack_analytics kind⟩, ?_, ?_, ?_⟩
  · exact .cons ⟨by decide +kernel, by decide⟩ (.cons ⟨by decide +kernel, by decide⟩ .nil)
  · exact .cons (comesBack_theftAlert hfits (by decide) (by decide) rfl)
      (.cons (comesBack_theftAlert hfits (by decide) (by decide) rfl)
        (.cons (comesBack_theftAlert hfits (by decide) (by decide) rfl) .nil))
  · exact .cons (comesBack_theftAlert hnone (by decide) (by decide) rfl)
      (.cons (comesBack_theftAlert hnone (by decide) (by decide) rfl)
        (.cons (comesBack_analytics _ _) (.cons (comesBack_analytics _ _) .nil)))
  · have hrange := comesBack_analytics kind
    unfold analyticsRangeKeyboard
    by_cases hkind : kind = .sessions
    · rw [if_pos hkind, if_pos hkind]
      exact .cons (hrange _) (.cons (hrange _) (.cons (hrange _) .nil))
    · rw [if_neg hkind, if_neg hkind]
      exact .cons (hrange _) (.cons (hrange _) (.cons (hrange _) (.cons (hrange _) .nil)))
  · exact .cons ⟨by decide +kernel, by decide⟩ .nil
  · exact fun data family family' action action' => CallbackFamily.eq_of_parse
  · intro data order hall
    refine CallbackFamily.findSome_parse_eq hall ?_
    intro family
    cases family <;> decide
  · exact fun query message data => handleChatCallbackQuery_eq

/-- The ride with the longest id there is. -/
theorem buttons_come_back_longest :
    ButtonsComeBack (some (-9223372036854775808)) .totalKm ∧
      (theftAlertCallbackData "check_latest_status"
        (some (-9223372036854775808))).utf8ByteSize = 52 := by
  have hfits : ∀ id ∈ some (-9223372036854775808 : ℤ), FitsI64 id := by
    intro id hid
    obtain rfl := Option.some.inj hid
    exact ⟨by decide, by decide⟩
  exact ⟨(buttons_come_back hfits .totalKm).1, by decide +kernel⟩

end Gt06
