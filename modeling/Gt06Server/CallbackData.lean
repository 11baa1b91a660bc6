/-
**What users type and what buttons carry.**

A message to the bot is a command when its first word starts with a slash; the rest of the word
up to an `@` names the command.  The data of a button is a short text whose parts are separated by
colons: the family the button belongs to, what it does, and for some families one more part.

Main definitions:

* `Gt06.BotCommand.parse` — the command of a text;
* `Gt06.AnalyticsKind`, `Gt06.AnalyticsRange`, `Gt06.AnalyticsAction.parse` — the reports;
* `Gt06.TheftAlertAction.parse`, `Gt06.SessionAction.parse` — the buttons of rides and alerts;
* `Gt06.parseI64` — the integers a text may stand for.
-/

import Gt06Server.Binary64
import Gt06Server.Bot
import Gt06Server.PaymentTap

set_option relaxedAutoImplicit false
set_option autoImplicit false

namespace Gt06

/-! ### Integers -/

/-- The range of an `i64`. -/
def FitsI64 (n : ℤ) : Prop := Binary64.i64Min ≤ n ∧ n ≤ Binary64.i64Max

/-- `str::parse::<i64>`: a sign, then decimal digits, within the range of the type. -/
def parseI64 (value : String) : Option ℤ :=
  let (negative, digits) :=
    match value.toList with
    | '-' :: digits => (true, digits)
    | '+' :: digits => (false, digits)
    | digits => (false, digits)
  if digits.isEmpty || !digits.all Char.isDigit then none
  else
    let magnitude : ℤ := digits.foldl (fun n c => 10 * n + (c.toNat - '0'.toNat : ℕ)) 0
    let n := if negative then -magnitude else magnitude
    if Binary64.i64Min ≤ n ∧ n ≤ Binary64.i64Max then some n else none

example : parseI64 "-9223372036854775808" = some (-9223372036854775808) := by decide +kernel

/-! ### Commands -/

inductive BotCommand where
  | start
  | help
  | paySupport
  | terms
  | unknown (command : String)
  deriving DecidableEq, Repr

/-- `split_whitespace().next()`. -/
def firstWord (text : String) : Option String :=
  let word := (text.toList.dropWhile isWhitespace).takeWhile fun c => !isWhitespace c
  if word.isEmpty then none else some (String.ofList word)

def BotCommand.parse (text : String) : Option BotCommand :=
  (firstWord text).bind fun command =>
    let normalized := String.ofList (command.toList.takeWhile (· ≠ '@'))
    if normalized = "/start" then some .start
    else if normalized = "/help" then some .help
    else if normalized = "/paysupport" then some .paySupport
    else if normalized = "/terms" then some .terms
    else if normalized.toList.head? = some '/' then some (.unknown normalized)
    else none

example : BotCommand.parse " /start@tryheartbeatsbot now" = some .start := by decide +kernel

/-! ### Buttons -/

def SessionAction.parse (data : String) : Option SessionAction :=
  match splitColon data with
  | ["engine_session", "yes"] => some .yes
  | ["engine_session", "no"] => some .no
  | _ => none

inductive TheftAlertAction where
  | streamLocation (sessionId : Option ℤ)
  | checkLatestStatus (sessionId : Option ℤ)
  | contactSupport (sessionId : Option ℤ)
  deriving DecidableEq, Repr

namespace TheftAlertAction

/-- The action with the given name. -/
def ofName (action : String) (sessionId : Option ℤ) : Option TheftAlertAction :=
  if action = "stream_location" then some (.streamLocation sessionId)
  else if action = "check_latest_status" then some (.checkLatestStatus sessionId)
  else if action = "contact_support" then some (.contactSupport sessionId)
  else none

def parse (data : String) : Option TheftAlertAction :=
  match splitColon data with
  | ["theft_alert", action] => ofName action none
  | ["theft_alert", action, value] =>
      (parseI64 value).bind fun sessionId => ofName action (some sessionId)
  | _ => none

def requiresActiveSubscription : TheftAlertAction → Bool
  | .streamLocation _ => true
  | .checkLatestStatus _ => true
  | .contactSupport _ => false

def sessionId : TheftAlertAction → Option ℤ
  | .streamLocation sessionId => sessionId
  | .checkLatestStatus sessionId => sessionId
  | .contactSupport sessionId => sessionId

end TheftAlertAction

inductive AnalyticsKind where
  | sessions
  | metrics
  | totalKm
  | totalDrivingTime
  deriving DecidableEq, Repr

namespace AnalyticsKind

def parse (value : String) : Option AnalyticsKind :=
  if value = "sessions" then some .sessions
  else if value = "metrics" then some .metrics
  else if value = "km" then some .totalKm
  else if value = "time" then some .totalDrivingTime
  else none

def callbackValue : AnalyticsKind → String
  | .sessions => "sessions"
  | .metrics => "metrics"
  | .totalKm => "km"
  | .totalDrivingTime => "time"

theorem parse_callbackValue (kind : AnalyticsKind) : parse kind.callbackValue = some kind := by
  cases kind <;> rfl

end AnalyticsKind

inductive AnalyticsRange where
  | select
  | today
  | yesterday
  | month
  | custom
  deriving DecidableEq, Repr

def AnalyticsRange.parse (value : String) : Option AnalyticsRange :=
  if value = "select" then some .select
  else if value = "today" then some .today
  else if value = "yesterday" then some .yesterday
  else if value = "month" then some .month
  else if value = "custom" then some .custom
  else none

structure AnalyticsAction where
  kind : AnalyticsKind
  range : AnalyticsRange
  deriving DecidableEq, Repr

def AnalyticsAction.parse (data : String) : Option AnalyticsAction :=
  match splitColon data with
  | ["analytics", kind, range] =>
      (AnalyticsKind.parse kind).bind fun kind =>
        (AnalyticsRange.parse range).map fun range => { kind := kind, range := range }
  | _ => none

end Gt06
