/-
**Who owns which device.**

A user starts with `/start`, types an IMEI, and from then on is bound to that device.  The
registration is spread over a command, which writes a row and leaves the status of a bound user
alone, and a text, which is read as an IMEI only when no report waits for its dates and which
checks the row it has read before it writes.  Between the two, and between any two statements, the
other processes go on, and other users send what they like.

Here each user has one device at most and each device one user, and what is bound stays bound: the
row that the text handler has checked is still unbound when it is written, because only the bot
writes the table and it handles one update after the other.

Main definitions:

* `Gt06.BindingInv` — what holds of the registrations;
* `Gt06.ChatWorld.KeepsBound` — a device that is bound stays bound to its user;
* `Gt06.bindPre` — what the bot has checked when it binds a device.

Main results:

* `Gt06.binding_verified` — the bot keeps `Gt06.BindingInv`;
* `Gt06.binding_invariant` — **registrations are well formed and final**.
-/

import Gt06Server.ChatHandlers

set_option relaxedAutoImplicit false
set_option autoImplicit false

namespace Gt06

open Await Relational

/-! ### What holds of the registrations -/

/-- The device table has a row with the IMEI. -/
def ChatWorld.HasDevice (w : ChatWorld) (imei : String) : Prop :=
  ∃ device ∈ w.devices, device.imei = imei

/-- An IMEI is fifteen ASCII digits. -/
structure ImeiDigits (imei : String) : Prop where
  length : imei.toList.length = 15
  digits : ∀ c ∈ imei.toList, c.isDigit = true

/-- The users are told apart by their ids; a user is `bound` exactly when there is a device, which
is a device of the table and of nobody else. -/
structure BindingInv (w : ChatWorld) : Prop where
  users_nodup : UniqueOn TelegramUserRow.telegramUserId w.telegramUsers
  bound_iff : ∀ row ∈ w.telegramUsers,
    row.registrationStatus = "bound" ↔ row.boundImei.isSome = true
  imei_unique : ∀ row ∈ w.telegramUsers, ∀ row' ∈ w.telegramUsers, ∀ imei,
    row.boundImei = some imei → row'.boundImei = some imei → row = row'
  imei_valid : ∀ row ∈ w.telegramUsers, ∀ imei ∈ row.boundImei,
    ImeiDigits imei ∧ w.HasDevice imei

/-- What is bound stays bound. -/
def ChatWorld.KeepsBound (w w' : ChatWorld) : Prop :=
  ∀ row ∈ w.telegramUsers, ∀ imei ∈ row.boundImei,
    ∃ row' ∈ w'.telegramUsers, row'.telegramUserId = row.telegramUserId ∧ row'.boundImei = some imei

/-- The user has no device. -/
def ChatWorld.Unbound (w : ChatWorld) (telegramUserId : ℤ) : Prop :=
  ∀ row ∈ w.telegramUsers, row.telegramUserId = telegramUserId → row.boundImei = none

/-- What the bot has checked when it binds a device; a registration starts with waiting. -/
def bindPre (w : ChatWorld) : ChatRequest → Prop
  | .bindTelegramUserToImei telegramUserId _ imei =>
      w.Unbound telegramUserId ∧ ImeiDigits imei ∧ w.HasDevice imei
  | .upsertTelegramUserRegistrationState _ _ status => status = .awaitingImei
  | _ => True

theorem ChatWorld.KeepsBound.trans {w₁ w₂ w₃ : ChatWorld} (h : w₁.KeepsBound w₂)
    (h' : w₂.KeepsBound w₃) : w₁.KeepsBound w₃ := by
  intro row hrow imei himei
  obtain ⟨row₂, hrow₂, hid₂, himei₂⟩ := h row hrow imei himei
  obtain ⟨row₃, hrow₃, hid₃, himei₃⟩ := h' row₂ hrow₂ imei himei₂
  exact ⟨row₃, hrow₃, hid₃.trans hid₂, himei₃⟩

theorem keepsBound_of_eq {w w' : ChatWorld} (h : w'.telegramUsers = w.telegramUsers) :
    w.KeepsBound w' := by
  intro row hrow imei himei
  exact ⟨row, h ▸ hrow, rfl, himei⟩

theorem imeiDigits_of_isValidImei {imei : String} (h : isValidImei imei = true) :
    ImeiDigits imei := by
  obtain ⟨hsize, hdigits⟩ : imei.utf8ByteSize = 15 ∧ imei.toList.all Char.isDigit = true :=
    of_decide_eq_true h
  have hdigits := List.all_eq_true.1 hdigits
  exact ⟨(utf8ByteSize_eq_length hdigits).symm.trans hsize, hdigits⟩

/-! ### What requests do to the registrations -/

/-- Which device a row binds. -/
def TelegramUserRow.binding (row : TelegramUserRow) : ℤ × Option String :=
  (row.telegramUserId, row.boundImei)

section Requests

variable {w w' : ChatWorld}

/-- Registrations that bind nothing new are as well formed as before. -/
theorem BindingInv.of_bindings (h : BindingInv w)
    (hnodup : UniqueOn TelegramUserRow.telegramUserId w'.telegramUsers)
    (hbound : ∀ row ∈ w'.telegramUsers,
      row.registrationStatus = "bound" ↔ row.boundImei.isSome = true)
    (horigin : ∀ row' ∈ w'.telegramUsers, ∀ imei ∈ row'.boundImei,
      ∃ row ∈ w.telegramUsers, row.binding = row'.binding)
    (hdevices : ∀ imei, w.HasDevice imei → w'.HasDevice imei) : BindingInv w' where
  users_nodup := hnodup
  bound_iff := hbound
  imei_unique := by
    intro row hrow row' hrow' imei himei himei'
    obtain ⟨old, hold, hbinding⟩ := horigin row hrow imei himei
    obtain ⟨old', hold', hbinding'⟩ := horigin row' hrow' imei himei'
    obtain ⟨hid, himeiOld⟩ := Prod.mk.inj hbinding
    obtain ⟨hid', himeiOld'⟩ := Prod.mk.inj hbinding'
    obtain rfl := h.imei_unique old hold old' hold' imei (himeiOld.trans himei)
      (himeiOld'.trans himei')
    exact hnodup.eq_of_key_eq hrow hrow' (hid.symm.trans hid')
  imei_valid := by
    intro row hrow imei himei
    obtain ⟨old, hold, hbinding⟩ := horigin row hrow imei himei
    obtain ⟨hdigits, hdevice⟩ := h.imei_valid old hold imei
      ((Prod.mk.inj hbinding).2.trans himei)
    exact ⟨hdigits, hdevices imei hdevice⟩

theorem BindingInv.of_eq (h : BindingInv w) (hw : w'.telegramUsers = w.telegramUsers)
    (hdevices : ∀ imei, w.HasDevice imei → w'.HasDevice imei) : BindingInv w' := by
  refine h.of_bindings (hw ▸ h.users_nodup) (hw ▸ h.bound_iff) ?_ hdevices
  intro row hrow imei himei
  exact ⟨row, hw ▸ hrow, rfl⟩

section Upsert

variable (telegramUserId chatId : ℤ)

/-- The upsert of a user who waits for an IMEI leaves every binding and may add a row without
one. -/
theorem bindings_upsert (rows : List TelegramUserRow) :
    (upsertTelegramUserRegistrationState rows telegramUserId chatId .awaitingImei).map
        TelegramUserRow.binding = rows.map TelegramUserRow.binding ∨
      (upsertTelegramUserRegistrationState rows telegramUserId chatId .awaitingImei).map
        TelegramUserRow.binding = rows.map TelegramUserRow.binding ++ [(telegramUserId, none)] :=
  map_upsertAt fun _ => rfl

theorem bindingInv_upsert (h : BindingInv w)
    (hw : w'.telegramUsers = upsertTelegramUserRegistrationState w.telegramUsers telegramUserId
      chatId .awaitingImei) (hdevices : w'.devices = w.devices) :
    BindingInv w' ∧ w.KeepsBound w' := by
  have hmap := bindings_upsert telegramUserId chatId w.telegramUsers
  rw [← hw] at hmap
  constructor
  · refine h.of_bindings ?_ ?_ ?_ ?_
    · rw [hw]
      exact h.users_nodup.upsertAt fun _ => rfl
    · intro row hrow
      rw [hw] at hrow
      -- an old row, a new one, or one whose status depends on whether it binds a device
      rcases mem_upsertAt hrow with hrow | rfl | ⟨old, hold, rfl⟩
      · exact h.bound_iff row hrow
      · simp [registrationStatusValue]
      · have hbound := h.bound_iff old hold
        cases himei : old.boundImei with
        | none => simp [registrationStatusValue]
        | some imei => simpa [himei] using hbound
    · intro row hrow imei himei
      have hmem : row.binding ∈ w'.telegramUsers.map TelegramUserRow.binding :=
        List.mem_map_of_mem hrow
      rcases hmap with hmap | hmap
      · rw [hmap] at hmem
        exact List.mem_map.1 hmem
      · rw [hmap] at hmem
        rcases List.mem_append.1 hmem with hmem | hmem
        · exact List.mem_map.1 hmem
        · have hnone := (Prod.mk.inj (List.mem_singleton.1 hmem)).2
          rw [hnone] at himei
          exact absurd himei (Option.not_mem_none imei)
    · intro imei hdevice
      rwa [ChatWorld.HasDevice, hdevices]
  · intro row hrow imei himei
    have hmem : row.binding ∈ w'.telegramUsers.map TelegramUserRow.binding := by
      rcases hmap with hmap | hmap
      · rw [hmap]
        exact List.mem_map_of_mem hrow
      · rw [hmap]
        exact List.mem_append_left _ (List.mem_map_of_mem hrow)
    obtain ⟨row', hrow', hbinding⟩ := List.mem_map.1 hmem
    obtain ⟨hid, hbound⟩ := Prod.mk.inj hbinding
    exact ⟨row', hrow', hid, hbound.trans himei⟩

end Upsert

section Bind

variable {telegramUserId chatId : ℤ} {imei : String}

/-- A statement that the constraint lets through binds a device that is nobody's. -/
theorem free_of_violatesUnique
    (hunique : w.violatesUnique (.bindTelegramUserToImei telegramUserId chatId imei) = false)
    {row row' : TelegramUserRow} (hrow : row ∈ w.telegramUsers)
    (hid : row.telegramUserId = telegramUserId) (hrow' : row' ∈ w.telegramUsers)
    (himei : row'.boundImei = some imei) : row'.telegramUserId = telegramUserId := by
  by_contra hne
  have hother : isDeviceBoundToAnotherUser w.telegramUsers imei telegramUserId = true :=
    List.any_eq_true.2 ⟨row', hrow', decide_eq_true ⟨himei, hne⟩⟩
  have hexists : (w.telegramUsers.any fun row => row.telegramUserId = telegramUserId) = true :=
    List.any_eq_true.2 ⟨row, hrow, decide_eq_true hid⟩
  rw [ChatWorld.violatesUnique, hother, hexists] at hunique
  exact absurd hunique (by decide)

theorem bindingInv_bind (h : BindingInv w)
    (hpre : bindPre w (.bindTelegramUserToImei telegramUserId chatId imei))
    (hunique : w.violatesUnique (.bindTelegramUserToImei telegramUserId chatId imei) = false)
    (hw : w'.telegramUsers = bindTelegramUserToImei w.telegramUsers telegramUserId chatId imei)
    (hdevices : w'.devices = w.devices) : BindingInv w' ∧ w.KeepsBound w' := by
  obtain ⟨hunbound, hdigits, hdevice⟩ := hpre
  have hmem : ∀ row' ∈ w'.telegramUsers, row' ∈ w.telegramUsers ∧
      row'.telegramUserId ≠ telegramUserId ∨
      ∃ row ∈ w.telegramUsers, row.telegramUserId = telegramUserId ∧
        row'.telegramUserId = telegramUserId ∧ row'.boundImei = some imei ∧
          row'.registrationStatus = "bound" := by
    intro row' hrow'
    rw [hw] at hrow'
    obtain ⟨row, hrow, hrow'⟩ := mem_updateAt.1 hrow'
    split at hrow'
    · next hid =>
      subst hrow'
      exact Or.inr ⟨row, hrow, hid, hid, rfl, rfl⟩
    · next hid =>
      subst hrow'
      exact Or.inl ⟨hrow, hid⟩
  have hnodup : UniqueOn TelegramUserRow.telegramUserId w'.telegramUsers := by
    rw [hw]
    exact h.users_nodup.updateAt _ _ fun _ => rfl
  constructor
  · refine ⟨hnodup, ?_, ?_, ?_⟩
    · intro row hrow
      rcases hmem row hrow with ⟨hrow, -⟩ | ⟨old, -, -, -, himei, hstatus⟩
      · exact h.bound_iff row hrow
      · simp [himei, hstatus]
    · intro row hrow row' hrow' imei' himei himei'
      rcases hmem row hrow with ⟨hold, hid⟩ | ⟨old, hold, hold_id, hid, hnew, -⟩
      · rcases hmem row' hrow' with ⟨hold', -⟩ | ⟨old', hold', hold_id', -, hnew', -⟩
        · exact h.imei_unique row hold row' hold' imei' himei himei'
        · obtain rfl : imei = imei' := Option.some.inj (hnew'.symm.trans himei')
          exact absurd (free_of_violatesUnique hunique hold' hold_id' hold himei) hid
      · rcases hmem row' hrow' with ⟨hold', hid'⟩ | ⟨old', -, -, hid', -, -⟩
        · obtain rfl : imei = imei' := Option.some.inj (hnew.symm.trans himei)
          exact absurd (free_of_violatesUnique hunique hold hold_id hold' himei') hid'
        · exact hnodup.eq_of_key_eq hrow hrow' (hid.trans hid'.symm)
    · intro row hrow imei' himei
      rw [ChatWorld.HasDevice, hdevices]
      rcases hmem row hrow with ⟨hold, -⟩ | ⟨old, -, -, -, hnew, -⟩
      · exact h.imei_valid row hold imei' himei
      · obtain rfl : imei = imei' := Option.some.inj (hnew.symm.trans himei)
        exact ⟨hdigits, hdevice⟩
  · intro row hrow imei' himei
    have hid : row.telegramUserId ≠ telegramUserId := by
      intro hid
      rw [hunbound row hrow hid] at himei
      exact absurd himei (Option.not_mem_none imei')
    refine ⟨row, ?_, rfl, himei⟩
    rw [hw]
    exact mem_updateAt.2 ⟨row, hrow, if_neg hid⟩

end Bind

end Requests

/-! ### The handlers -/

/-- No condition on the next event. -/
def anyChat : Guard ChatRequest ChatWorld ChatEvent ChatOutcome where
  env := fun _ _ => True
  call := fun _ _ _ => True

section Handlers

variable (summarize : List RidePoint → RideSummary) (parseDate : String → Option ℤ)

/-- A quiet request leaves users and devices alone. -/
theorem same_of_quiet {D : String → Prop} {r : ChatRequest} (hr : r.Quiet D) (w : ChatWorld)
    (outcome : ChatOutcome) :
    (w.execute summarize outcome r).2.telegramUsers = w.telegramUsers ∧
      (w.execute summarize outcome r).2.devices = w.devices := by
  cases r with
  | upsertTelegramUserRegistrationState telegramUserId chatId status => exact hr.elim
  | bindTelegramUserToImei telegramUserId chatId imei => exact hr.elim
  | _ => exact ⟨rfl, rfl⟩

/-- Nothing is owed for a quiet request. -/
theorem bindPre_of_quiet {D : String → Prop} {r : ChatRequest} (hr : r.Quiet D) (w : ChatWorld) :
    bindPre w r := by
  cases r with
  | upsertTelegramUserRegistrationState telegramUserId chatId status => exact hr.elim
  | bindTelegramUserToImei telegramUserId chatId imei => exact hr.elim
  | _ => trivial

/-- The terms of the handlers. -/
abbrev bindingContract : Contract ChatRequest ChatRequest.Reply ChatWorld :=
  (chatBot summarize parseDate).contract anyChat BindingInv bindPre

variable {summarize parseDate} {w w' : ChatWorld}

theorem answer_related (h : BindingInv w) {outcome : ChatOutcome} {r : ChatRequest}
    (hpre : bindPre w r) :
    BindingInv (w.answer summarize outcome r).2 ∧
      w.KeepsBound (w.answer summarize outcome r).2 := by
  rcases w.answer_cases summarize outcome r with
    hanswer | ⟨hunique, hanswer⟩
  · rw [hanswer]
    exact ⟨h, keepsBound_of_eq rfl⟩
  · rw [hanswer]
    cases r with
    | upsertTelegramUserRegistrationState telegramUserId chatId status =>
        obtain rfl : status = .awaitingImei := hpre
        exact bindingInv_upsert telegramUserId chatId h rfl rfl
    | bindTelegramUserToImei telegramUserId chatId imei =>
        exact bindingInv_bind h hpre hunique rfl rfl
    | _ => exact ⟨h.of_eq rfl fun _ hdevice => hdevice, keepsBound_of_eq rfl⟩

theorem env_related {event : ChatEvent} (hw : w.env event = some w') :
    w'.telegramUsers = w.telegramUsers ∧ ∀ imei, w.HasDevice imei → w'.HasDevice imei := by
  cases event with
  | setDevices devices =>
      simp only [ChatWorld.env] at hw
      split at hw
      · next hgains =>
        obtain rfl := Option.some.inj hw
        refine ⟨rfl, ?_⟩
        rintro imei ⟨device, hdevice, rfl⟩
        exact hgains device hdevice
      · exact absurd hw (by simp)
  | setOthers others =>
      simp only [ChatWorld.env] at hw
      split at hw
      · obtain rfl := Option.some.inj hw
        exact ⟨rfl, fun _ hdevice => hdevice⟩
      · exact absurd hw (by simp)

/-- An assertion about the registrations and about devices that are there. -/
def AboutUsers (J : ChatWorld → Prop) : Prop :=
  ∀ w w', w'.telegramUsers = w.telegramUsers →
    (∀ imei, w.HasDevice imei → w'.HasDevice imei) → J w → J w'

theorem AboutUsers.and {J K : ChatWorld → Prop} (hJ : AboutUsers J) (hK : AboutUsers K) :
    AboutUsers fun w => J w ∧ K w := by
  intro w w' husers hdevices h
  exact ⟨hJ w w' husers hdevices h.1, hK w w' husers hdevices h.2⟩

theorem aboutUsers_unbound (telegramUserId : ℤ) :
    AboutUsers fun w => w.Unbound telegramUserId := by
  intro w w' husers _ h row hrow
  exact h row (husers ▸ hrow)

theorem aboutUsers_hasDevice (imei : String) : AboutUsers fun w => w.HasDevice imei :=
  fun _ _ _ hdevices h => hdevices imei h

theorem rely_related (hrely : (bindingContract summarize parseDate).rely w w') :
    w'.telegramUsers = w.telegramUsers ∧ ∀ imei, w.HasDevice imei → w'.HasDevice imei := by
  obtain ⟨event, -, -, hw⟩ := hrely
  exact env_related hw

theorem AboutUsers.stable {J : ChatWorld → Prop} (hJ : AboutUsers J) :
    (bindingContract summarize parseDate).Stable J := by
  intro w w' hrely h
  obtain ⟨husers, hdevices⟩ := rely_related hrely
  exact hJ w w' husers hdevices h

theorem AboutUsers.execute {J : ChatWorld → Prop} (hJ : AboutUsers J) {D : String → Prop}
    {r : ChatRequest} (hr : r.Quiet D) (outcome : ChatOutcome) (h : J w) :
    J (w.execute summarize outcome r).2 := by
  obtain ⟨husers, hdevices⟩ := same_of_quiet summarize hr w outcome
  refine hJ w _ husers ?_ h
  intro imei hdevice
  rwa [ChatWorld.HasDevice, hdevices]

/-- Nothing is owed at the end. -/
abbrev Registers {α : Type} (summarize : List RidePoint → RideSummary)
    (parseDate : String → Option ℤ) (p : ChatM α) (w : ChatWorld) : Prop :=
  (bindingContract summarize parseDate).Safe p (fun _ _ => True) w

/-- A quiet request, and what follows from its answer. -/
theorem registers_ask_bind {α : Type} {D : String → Prop} {r : ChatRequest}
    {f : r.Reply → ChatM α} {J : ChatWorld → Prop} (hr : r.Quiet D) (hJ : AboutUsers J) (h : J w)
    (hf : ∀ w outcome, BindingInv w → J w →
      Registers summarize parseDate (f (w.execute summarize outcome r).1)
        (w.execute summarize outcome r).2) :
    Registers summarize parseDate (askChat r >>= f) w := by
  refine Contract.safe_bind.2 (Contract.safe_request ?_)
  intro w₁ hw₁ hinv
  have h₁ : J w₁ := hJ.stable.later hw₁ h
  refine ⟨bindPre_of_quiet hr w₁, ?_⟩
  rintro x w₂ ⟨outcome, -, hanswer⟩ -
  have hanswer : w₁.answer summarize outcome r = (x, w₂) := hanswer
  rcases w₁.answer_cases summarize outcome r with
    hnone | ⟨-, hsome⟩
  · rw [hnone] at hanswer
    obtain ⟨rfl, rfl⟩ := Prod.mk.inj hanswer
    trivial
  · rw [hsome] at hanswer
    obtain ⟨rfl, rfl⟩ := Prod.mk.inj hanswer
    exact hf w₁ outcome hinv h₁

/-- A request that is paid for, and what follows. -/
theorem registers_paid_bind {α : Type} {r : ChatRequest} {f : r.Reply → ChatM α}
    {J : ChatWorld → Prop} (hJ : AboutUsers J) (h : J w) (hpre : ∀ w, J w → bindPre w r)
    (hf : ∀ x w, Registers summarize parseDate (f x) w) :
    Registers summarize parseDate (askChat r >>= f) w := by
  refine Contract.safe_bind.2 (Contract.safe_request ?_)
  intro w₁ hw₁ _
  refine ⟨hpre w₁ (hJ.stable.later hw₁ h), ?_⟩
  intro x w₂ _ _
  cases x with
  | none => trivial
  | some x => exact hf x w₂

/-- A quiet program leaves an assertion about the registrations alone. -/
theorem safe_quiet {α : Type} {D : String → Prop} {p : ChatM α} {J : ChatWorld → Prop}
    (hp : p.Uses (ChatRequest.Quiet D)) (hJ : AboutUsers J) (h : J w) :
    (bindingContract summarize parseDate).Safe p (fun _ w => J w) w := by
  refine Contract.safe_of_uses hJ.stable (fun w r hr _ _ => bindPre_of_quiet hr w) ?_ hp h
  rintro w r x w' hr - hw ⟨outcome, -, hanswer⟩
  have hanswer : w.answer summarize outcome r = (x, w') := hanswer
  rcases w.answer_cases summarize outcome r with
    hnone | ⟨-, hsome⟩
  · rw [hnone] at hanswer
    obtain ⟨-, rfl⟩ := Prod.mk.inj hanswer
    exact hw
  · rw [hsome] at hanswer
    obtain ⟨-, rfl⟩ := Prod.mk.inj hanswer
    exact hJ.execute hr outcome hw

theorem registers_quiet_bind {α β : Type} {D : String → Prop} {p : ChatM α} {f : α → ChatM β}
    {J : ChatWorld → Prop} (hp : p.Uses (ChatRequest.Quiet D)) (hJ : AboutUsers J) (h : J w)
    (hf : ∀ a w, J w → Registers summarize parseDate (f a) w) :
    Registers summarize parseDate (p >>= f) w := by
  refine Contract.safe_bind.2 ((safe_quiet hp hJ h).mono ?_)
  intro x w hx
  cases x with
  | none => trivial
  | some a => exact hf a w hx

theorem registers_of_quiet {α : Type} {D : String → Prop} {p : ChatM α}
    (hp : p.Uses (ChatRequest.Quiet D)) (w : ChatWorld) : Registers summarize parseDate p w :=
  (safe_quiet (J := fun _ => True) hp (fun _ _ _ _ h => h) trivial).mono fun _ _ _ => trivial

/-- Every device. -/
abbrev anyDevice : String → Prop := fun _ => True

/-- The IMEI of a user without a device is bound once everything has been checked. -/
theorem registers_handleImei {telegramUserId : ℤ} {user : TelegramUserRecord} (chatId : ℤ)
    (imei : String) (h : user.boundImei = none → w.Unbound telegramUserId) :
    Registers summarize parseDate (handleImei chatId telegramUserId user imei) w := by
  have hsay : ∀ message w, message.device = none →
      Registers summarize parseDate (sendChat chatId message) w :=
    fun message w hmessage =>
      registers_of_quiet (uses_quiet (sendChat_uses_of_none (D := anyDevice) hmessage)) w
  unfold handleImei
  split
  · exact hsay _ w rfl
  · next hvalid =>
    have hdigits : ImeiDigits imei := imeiDigits_of_isValidImei (by simpa using hvalid)
    split
    · exact hsay _ w rfl
    · next hbound =>
      have hunbound : w.Unbound telegramUserId := h (by simpa using hbound)
      refine registers_ask_bind (D := anyDevice) trivial (aboutUsers_unbound telegramUserId)
        hunbound ?_
      intro w outcome _ hunbound
      dsimp only [ChatWorld.execute]
      split
      · exact hsay _ w rfl
      · next hexists =>
        have hdevice : w.HasDevice imei := by simpa [ChatWorld.HasDevice] using hexists
        refine registers_ask_bind (D := anyDevice) trivial
          ((aboutUsers_unbound telegramUserId).and (aboutUsers_hasDevice imei))
          ⟨hunbound, hdevice⟩ ?_
        intro w outcome _ hchecked
        dsimp only [ChatWorld.execute]
        split
        · exact hsay _ w rfl
        · refine registers_paid_bind
            ((aboutUsers_unbound telegramUserId).and (aboutUsers_hasDevice imei)) hchecked
            (fun w hw => ⟨hw.1, hdigits, hw.2⟩) ?_
          intro _ w
          refine registers_of_quiet (uses_quiet (D := anyDevice) ?_) w
          refine Prog.uses_bind (sendChat_uses_of_none rfl) ?_
          intro _
          exact Prog.uses_bind (logged_uses trivial) fun _ => sendChat_uses_of_none rfl

/-- A record without a device is that of a user without a device. -/
theorem unbound_of_fetch (h : BindingInv w) {telegramUserId : ℤ} {user : TelegramUserRecord}
    (hfetch : fetchTelegramUserByUserId w.telegramUsers telegramUserId = some user)
    (hbound : user.boundImei = none) : w.Unbound telegramUserId := by
  obtain ⟨row, hrow, hrecord⟩ := Option.bind_eq_some_iff.1 hfetch
  obtain ⟨status, -, rfl⟩ := Option.map_eq_some_iff.1 hrecord
  intro row' hrow' hid
  obtain ⟨hmem, hkey⟩ := mem_of_rowAt hrow
  obtain rfl : row' = row := h.users_nodup.eq_of_key_eq hrow' hmem (hid.trans hkey.symm)
  exact hbound

theorem registers_handleText {telegramUserId : ℤ} {user : TelegramUserRecord} (chatId : ℤ)
    (text : String) (h : user.boundImei = none → w.Unbound telegramUserId) :
    Registers summarize parseDate (handleText parseDate chatId telegramUserId user text) w := by
  have habout : AboutUsers fun w => user.boundImei = none → w.Unbound telegramUserId :=
    fun w w' husers hdevices hw hnone =>
      aboutUsers_unbound telegramUserId w w' husers hdevices (hw hnone)
  refine registers_quiet_bind (D := anyDevice)
    (Prog.uses_bind (Prog.uses_request trivial) fun _ => trivial) habout h ?_
  intro pending w hw
  cases pending with
  | some kind =>
      exact registers_of_quiet (uses_quiet (handleCustomAnalyticsInput_uses (D := anyDevice)
        parseDate (fun _ _ => trivial) text)) w
  | none =>
      dsimp only
      split
      · trivial
      · generalize trim text = imei
        exact registers_handleImei chatId imei hw

theorem registers_handleStart (chatId telegramUserId : ℤ) (user : Option TelegramUserRecord)
    (w : ChatWorld) :
    Registers summarize parseDate (handleStart chatId telegramUserId user) w := by
  unfold handleStart
  split
  · refine registers_of_quiet (uses_quiet (D := anyDevice) ?_) w
    refine Prog.uses_bind hasActiveSubscriptionNow_uses ?_
    intro active
    split
    · exact sendChat_uses_of_none rfl
    · exact Prog.uses_bind (logged_uses trivial) fun _ => sendChat_uses_of_none rfl
  · refine registers_paid_bind (J := fun _ => True) (fun _ _ _ _ h => h) trivial
      (fun _ _ => rfl) ?_
    intro _ w
    exact registers_of_quiet (uses_quiet (sendChat_uses_of_none (D := anyDevice) rfl)) w

theorem registers_handleCommand (chatId telegramUserId : ℤ) (command : BotCommand)
    (w : ChatWorld) :
    Registers summarize parseDate (handleCommand chatId telegramUserId command) w := by
  refine registers_ask_bind (D := anyDevice) (J := fun _ => True) trivial
    (fun _ _ _ _ h => h) trivial ?_
  intro w outcome _ _
  cases command with
  | start => exact registers_handleStart chatId telegramUserId _ _
  | help => exact registers_of_quiet (uses_quiet (sendChat_uses_of_none (D := anyDevice) rfl)) _
  | paySupport =>
      exact registers_of_quiet (uses_quiet (sendChat_uses_of_none (D := anyDevice) rfl)) _
  | terms => exact registers_of_quiet (uses_quiet (sendChat_uses_of_none (D := anyDevice) rfl)) _
  | unknown command =>
      exact registers_of_quiet (uses_quiet (sendChat_uses_of_none (D := anyDevice) rfl)) _

theorem registers_handleMessage (message : TelegramMessage) (w : ChatWorld) :
    Registers summarize parseDate (handleMessage parseDate message) w := by
  unfold handleMessage
  split
  · next telegramUserId text _ _ =>
    cases BotCommand.parse text with
    | some command => exact registers_handleCommand message.chatId telegramUserId command w
    | none =>
        refine registers_ask_bind (D := anyDevice) (J := fun _ => True) trivial
          (fun _ _ _ _ h => h) trivial ?_
        intro w outcome hinv _
        dsimp only [ChatWorld.execute]
        cases hfetch : fetchTelegramUserByUserId w.telegramUsers telegramUserId with
        | none => trivial
        | some user =>
            exact registers_handleText message.chatId text (unbound_of_fetch hinv hfetch)
  · trivial

end Handlers

/-! ### Buttons -/

section Buttons

variable {query : TelegramCallbackQuery} {message : TelegramMessage}

theorem handleAnalyticsCallback_uses (action : AnalyticsAction) :
    (handleAnalyticsCallback query message action).Uses (ChatRequest.Quiet anyDevice) := by
  refine Prog.uses_bind (uses_quiet (ensureActiveSubscription_uses query.id message.messageId)) ?_
  intro active
  split
  · refine quiet_ask_bind trivial ?_
    intro _
    have haction : (handleAnalyticsAction message.chatId query.fromId action).Uses
        (ChatRequest.Quiet anyDevice) := by
      refine quiet_ask_bind trivial ?_
      intro user
      split
      · exact uses_quiet (answerAnalyticsAction_uses trivial action)
      · exact uses_quiet (sendChat_uses_of_none rfl)
    split
    · exact Prog.uses_bind (uses_quiet (clearKeyboard_uses message.messageId)) fun _ => haction
    · exact haction
  · trivial

theorem handleTheftAlertCallback_uses (action : TheftAlertAction) :
    (handleTheftAlertCallback query message action).Uses (ChatRequest.Quiet anyDevice) := by
  refine Prog.uses_bind ?_ ?_
  · unfold ensureTheftAlertSubscription
    split
    · exact uses_quiet (ensureActiveSubscription_uses query.id message.messageId)
    · trivial
  · intro active
    split
    · refine quiet_ask_bind trivial ?_
      intro _
      refine quiet_ask_bind trivial ?_
      intro user
      cases action.sessionId with
      | some sessionId =>
          refine quiet_ask_bind trivial ?_
          intro session
          split
          · exact uses_quiet (answerTheftAlertAction_uses trivial _ action)
          · trivial
      | none =>
          dsimp only
          split
          · exact uses_quiet (answerTheftAlertAction_uses trivial _ action)
          · exact uses_quiet (sendChat_uses_of_none rfl)
    · trivial

theorem handleSessionActionCallback_uses (action : SessionAction) :
    (handleSessionActionCallback query message action).Uses (ChatRequest.Quiet anyDevice) := by
  refine Prog.uses_bind (uses_quiet (ensureActiveSubscription_uses query.id message.messageId)) ?_
  intro active
  split
  · exact uses_quiet (handleSessionAction_uses query.id _ action)
  · trivial

/-- The handlers of buttons register nobody. -/
theorem handleChatCallbackQuery_uses (query : TelegramCallbackQuery) :
    (handleChatCallbackQuery query).Uses (ChatRequest.Quiet anyDevice) := by
  unfold handleChatCallbackQuery
  cases query.data with
  | none => trivial
  | some data =>
      dsimp only
      split
      · exact Prog.uses_request trivial
      · cases query.message with
        | none => trivial
        | some message =>
            dsimp only
            split
            · exact handleAnalyticsCallback_uses _
            · split
              · exact handleTheftAlertCallback_uses _
              · split
                · exact handleSessionActionCallback_uses _
                · trivial

end Buttons

/-! ### Runs -/

section Runs

variable (summarize : List RidePoint → RideSummary) (parseDate : String → Option ℤ)

theorem registers_handleChatUpdate (update : TelegramUpdate) (w : ChatWorld) :
    Registers summarize parseDate (handleChatUpdate parseDate update) w := by
  have hmessage : Registers summarize parseDate
      (whenSome update.message (handleMessage parseDate)) w := by
    cases update.message with
    | some message => exact registers_handleMessage message w
    | none => trivial
  refine Contract.safe_bind.2 (hmessage.mono ?_)
  intro x w _
  cases x with
  | none => trivial
  | some _ =>
      cases update.callbackQuery with
      | some query => exact registers_of_quiet (handleChatCallbackQuery_uses query) w
      | none => trivial

/-- What one event preserves. -/
theorem binding_verified : (chatBot summarize parseDate).Verified anyChat BindingInv bindPre where
  env := by
    intro event w w' h _ hw
    obtain ⟨husers, hdevices⟩ := env_related hw
    exact h.of_eq husers hdevices
  call := fun _ _ _ h hpre _ => (answer_related h hpre).1
  main := fun update w _ => registers_handleChatUpdate summarize parseDate update w

theorem bindingInv_of_no_users {w : ChatWorld} (h : w.telegramUsers = []) : BindingInv w where
  users_nodup := by simp [UniqueOn, h]
  bound_iff := by simp [h]
  imei_unique := by simp [h]
  imei_valid := by simp [h]

theorem allows_anyChat (m : Machine ChatRequest ChatRequest.Reply ChatWorld)
    (event : Event ChatEvent ChatOutcome TelegramUpdate) : anyChat.Allows m event := by
  cases event with
  | answer outcome =>
      cases htask : m.task with
      | call r k => simp [Guard.Allows, htask, anyChat]
      | _ => simp [Guard.Allows, htask]
  | _ => trivial

/-- **Registrations are well formed and final**: from a database without users, whatever updates
users send and other processes do in between, with any request failing at any point and the
process killed and started again, in every state of a run a user is `bound` exactly when there is
a device, no device has two users, every device that is bound is fifteen ASCII digits and a row of
the device table, and a user who has a device has it in every later state. -/
theorem binding_invariant {w₀ : ChatWorld} (h₀ : w₀.telegramUsers = [])
    {m : Machine ChatRequest ChatRequest.Reply ChatWorld}
    {tr : List (Machine ChatRequest ChatRequest.Reply ChatWorld ×
      Event ChatEvent ChatOutcome TelegramUpdate)}
    (run : Run (chatBot summarize parseDate).step (.idle w₀) tr m) :
    ((∀ p ∈ tr, BindingInv p.1.world) ∧ BindingInv m.world) ∧
      ∀ p ∈ tr, p.1.world.KeepsBound m.world := by
  have V := binding_verified summarize parseDate
  obtain ⟨htr, hm⟩ := V.sound_of_run (bindingInv_of_no_users h₀) run
    fun p _ => allows_anyChat p.1 p.2
  refine ⟨⟨fun p hp => (htr p hp).1, hm.1⟩, ?_⟩
  refine run.related (R := fun m m' => m.world.KeepsBound m'.world)
    (fun _ _ _ h h' => h.trans h') ?_
  intro p hp m' hm'
  refine V.step_related (fun _ => keepsBound_of_eq rfl) ?_ ?_ (htr p hp) hm'
  · intro event w w' _ hw
    exact keepsBound_of_eq (env_related hw).1
  · intro outcome w r h hpre
    exact (answer_related h hpre).2

end Runs

/-- A bot without reports. -/
def plainChatBot :
    System ChatRequest ChatRequest.Reply ChatWorld ChatEvent ChatOutcome TelegramUpdate :=
  chatBot (fun _ => { totalDistanceKm := 0, ridingSeconds := 0 }) fun _ => none

def ChatWorld.empty (now : ℤ) : ChatWorld where
  now := now
  devices := []
  deviceLocations := []
  deviceHeartbeats := []
  telegramUsers := []
  telegramSubscriptions := []
  telegramEngineSessions := []
  telegramBotState := []

/-- A user sends a text, and a number of requests succeed. -/
def types (telegramUserId : ℤ) (text : String) (requests : ℕ) :
    List (Event ChatEvent ChatOutcome TelegramUpdate) :=
  .start ⟨0, some ⟨telegramUserId, some telegramUserId, some text, none⟩, none⟩ ::
    List.replicate requests (.answer ⟨false, 1, 0⟩)

/-- Two users want the same device. -/
def twoUsers : List (Event ChatEvent ChatOutcome TelegramUpdate) :=
  .env (.setDevices [⟨"866221070478388", none, none, none, none⟩]) :: types 1 "/start" 3 ++
    types 2 "/start" 3 ++ types 1 " 866221070478388" 8 ++ types 2 "866221070478388" 5 ++
    types 1 "/start" 5

theorem replay_twoUsers :
    (replay plainChatBot.step (.idle (ChatWorld.empty 0)) twoUsers).any (fun m => decide
      (m.world.telegramUsers = [⟨1, 1, some "866221070478388", "bound"⟩,
        ⟨2, 2, none, "awaiting_imei"⟩])) = true := by
  decide +kernel

theorem binding_invariant_twoUsers :
    ∃ tr m, tr.map Prod.snd = twoUsers ∧
      Run plainChatBot.step (.idle (ChatWorld.empty 0)) tr m ∧
      m.world.telegramUsers = [⟨1, 1, some "866221070478388", "bound"⟩,
        ⟨2, 2, none, "awaiting_imei"⟩] ∧ BindingInv m.world := by
  obtain ⟨tr, m, hes, run, husers⟩ := run_of_replay_any replay_twoUsers
  exact ⟨tr, m, hes, run, of_decide_eq_true husers, (binding_invariant _ _ rfl run).1.2⟩

end Gt06
