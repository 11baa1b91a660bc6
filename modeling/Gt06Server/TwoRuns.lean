/-
**Two runs of a program.**

What a program gives away is said by comparing two of its runs: from worlds that differ in what is
to be kept secret, and with the same choices wherever the worlds leave something open, it has to
send the same requests.  The two runs are followed side by side.  They stop together, every request
of one is the next request of the other, and a relation between the two worlds and between what
the two programs know is carried from request to request.

Main definitions:

* `Await.Prog.trace` — the requests that a program sends, for given choices;
* `Await.Prog.Twin` — two programs side by side;
* `Await.Prog.Steady` — a program that does not tell related worlds apart.

Main results:

* `Await.Prog.twin_bind`, `Await.Prog.twin_request` — the rules;
* `Await.Prog.steady_bind`, `Await.Prog.steady_of_uses` — programs whose requests are answered
  alike;
* `Await.Prog.Twin.trace_eq`, `Await.Prog.Twin.mem_trace` — the requests are the same, and all of
  them are of the kind that has been followed.
-/

import Gt06Server.Await

set_option relaxedAutoImplicit false
set_option autoImplicit false

namespace Await

namespace Prog

variable {ρ : Type} {reply : ρ → Type} {ω χ α β γ δ : Type}
variable (answer : χ → ω → (r : ρ) → Option (reply r) × ω)

/-- The requests that the program sends from the world `w`. -/
def trace : Prog ρ reply α → (ℕ → χ) → ω → List ρ
  | .done _, _, _ => []
  | .fail, _, _ => []
  | .call r k, choices, w =>
      r :: trace (k (answer (choices 0) w r).1) (fun n => choices (n + 1))
        (answer (choices 0) w r).2

/-- From the worlds `w` and `w'` the two programs send the same requests, all of them of the kind
`P`, and end together so that `Q` holds. -/
def Twin (P : ρ → Prop) : Prog ρ reply α → Prog ρ reply β →
    (Option α → Option β → ω → ω → Prop) → ω → ω → Prop
  | .done a, q, Q, w, w' => ∃ b, q = .done b ∧ Q (some a) (some b) w w'
  | .fail, q, Q, w, w' => q = .fail ∧ Q none none w w'
  | .call r k, q, Q, w, w' => P r ∧ ∃ k', q = .call r k' ∧
      ∀ c, Twin P (k (answer c w r).1) (k' (answer c w' r).1) Q (answer c w r).2
        (answer c w' r).2

variable {answer} {P : ρ → Prop} {p : Prog ρ reply α} {q : Prog ρ reply β}
  {Q : Option α → Option β → ω → ω → Prop} {w w' : ω}

/-! ### Rules -/

theorem Twin.mono {Q' : Option α → Option β → ω → ω → Prop}
    (hQ : ∀ x y w w', Q x y w w' → Q' x y w w') (h : p.Twin answer P q Q w w') :
    p.Twin answer P q Q' w w' := by
  induction p generalizing q w w' with
  | done a =>
      obtain ⟨b, rfl, hab⟩ := h
      exact ⟨b, rfl, hQ _ _ _ _ hab⟩
  | fail => exact ⟨h.1, hQ _ _ _ _ h.2⟩
  | call r k ih =>
      obtain ⟨hr, k', rfl, hk⟩ := h
      exact ⟨hr, k', rfl, fun c => ih _ (hk c)⟩

/-- Two programs follow two others, which have ended together. -/
def followed (answer : χ → ω → (r : ρ) → Option (reply r) × ω) (P : ρ → Prop)
    (f : α → Prog ρ reply γ) (g : β → Prog ρ reply δ)
    (Q : Option γ → Option δ → ω → ω → Prop) : Option α → Option β → ω → ω → Prop
  | some a, some b, w, w' => (f a).Twin answer P (g b) Q w w'
  | none, none, w, w' => Q none none w w'
  | _, _, _, _ => False

theorem twin_bind {f : α → Prog ρ reply γ} {g : β → Prog ρ reply δ}
    {Q : Option γ → Option δ → ω → ω → Prop}
    (h : p.Twin answer P q (followed answer P f g Q) w w') :
    (p >>= f).Twin answer P (q >>= g) Q w w' := by
  rw [bind_eq, bind_eq]
  induction p generalizing q w w' with
  | done a =>
      obtain ⟨b, rfl, hab⟩ := h
      exact hab
  | fail =>
      obtain ⟨rfl, hnone⟩ := h
      exact ⟨rfl, hnone⟩
  | call r k ih =>
      obtain ⟨hr, k', rfl, hk⟩ := h
      exact ⟨hr, _, rfl, fun c => ih _ (hk c)⟩

/-- One request: both runs get an answer, or neither does. -/
theorem twin_request {r : ρ} {Q : Option (reply r) → Option (reply r) → ω → ω → Prop} (hr : P r)
    (h : ∀ c, Q (answer c w r).1 (answer c w' r).1 (answer c w r).2 (answer c w' r).2)
    (hsame : ∀ c, (answer c w r).1.isSome = (answer c w' r).1.isSome) :
    (request r : Prog ρ reply (reply r)).Twin answer P (request r) Q w w' := by
  refine ⟨hr, _, rfl, ?_⟩
  intro c
  have hc := h c
  have hsome := hsame c
  cases hx : (answer c w r).1 with
  | none =>
      cases hy : (answer c w' r).1 with
      | none => exact ⟨rfl, by rwa [hx, hy] at hc⟩
      | some b => simp [hx, hy] at hsome
  | some a =>
      cases hy : (answer c w' r).1 with
      | none => simp [hx, hy] at hsome
      | some b => exact ⟨b, rfl, by rwa [hx, hy] at hc⟩

/-! ### Programs that do not tell worlds apart -/

/-- From worlds that are related the program runs alike and leaves them related, and the value it
returns, if it returns one, satisfies `J`. -/
def Steady (answer : χ → ω → (r : ρ) → Option (reply r) × ω) (P : ρ → Prop) (R : ω → ω → Prop)
    (J : α → Prop) (p : Prog ρ reply α) : Prop :=
  ∀ w w', R w w' → p.Twin answer P p (fun x y w w' => x = y ∧ R w w' ∧ ∀ a ∈ x, J a) w w'

variable {R : ω → ω → Prop} {J : α → Prop}

theorem Steady.mono {J' : α → Prop} (hJ : ∀ a, J a → J' a) (h : Steady answer P R J p) :
    Steady answer P R J' p := by
  intro w w' hw
  refine (h w w' hw).mono ?_
  rintro x y w w' ⟨hxy, hR, hx⟩
  exact ⟨hxy, hR, fun a ha => hJ a (hx a ha)⟩

theorem steady_done {a : α} (h : J a) : Steady answer P R J (.done a : Prog ρ reply α) := by
  intro w w' hR
  refine ⟨a, rfl, rfl, hR, ?_⟩
  intro b hb
  obtain rfl : a = b := Option.some.inj hb
  exact h

theorem steady_bind {f : α → Prog ρ reply γ} {K : γ → Prop} (hp : Steady answer P R J p)
    (hf : ∀ a, J a → Steady answer P R K (f a)) : Steady answer P R K (p >>= f) := by
  intro w w' h
  refine twin_bind ((hp w w' h).mono ?_)
  rintro x _ w w' ⟨rfl, h, hx⟩
  cases x with
  | none => exact ⟨rfl, h, fun a ha => absurd ha (Option.not_mem_none a)⟩
  | some a => exact hf a (hx a rfl) w w' h

/-- One request that related worlds answer alike, and what the answer says. -/
theorem steady_request {r : ρ} {J : reply r → Prop} (hr : P r)
    (h : ∀ c w w', R w w' → (answer c w r).1 = (answer c w' r).1 ∧
      R (answer c w r).2 (answer c w' r).2 ∧ ∀ a ∈ (answer c w r).1, J a) :
    Steady answer P R J (request r : Prog ρ reply (reply r)) :=
  fun w w' hR => twin_request hr (fun c => h c w w' hR)
    fun c => congrArg Option.isSome (h c w w' hR).1

/-- Requests that related worlds answer alike. -/
theorem steady_of_uses {F : ρ → Prop} (hP : ∀ r, F r → P r)
    (hsame : ∀ c w w' r, F r → R w w' → (answer c w r).1 = (answer c w' r).1 ∧
      R (answer c w r).2 (answer c w' r).2) (hp : p.Uses F) :
    Steady answer P R (fun _ => True) p := by
  intro w w' h
  induction p generalizing w w' with
  | done a => exact ⟨a, rfl, rfl, h, fun _ _ => trivial⟩
  | fail => exact ⟨rfl, rfl, h, fun _ _ => trivial⟩
  | call r k ih =>
      refine ⟨hP r hp.1, k, rfl, ?_⟩
      intro c
      obtain ⟨heq, hrel⟩ := hsame c w w' r hp.1 h
      rw [← heq]
      exact ih _ (hp.2 _) _ _ hrel

/-! ### What is sent -/

/-- A request that is answered, and what follows. -/
theorem trace_request_bind {r : ρ} {a : reply r} {f : reply r → Prog ρ reply α} {choices : ℕ → χ}
    (h : answer (choices 0) w r = (some a, w')) :
    trace answer (request r >>= f) choices w =
      r :: trace answer (f a) (fun n => choices (n + 1)) w' := by
  rw [bind_eq, request, Prog.bind, trace, h]
  rfl

theorem mem_trace_of_uses {F : ρ → Prop} (hp : p.Uses F) (choices : ℕ → χ) :
    ∀ r ∈ trace answer p choices w, F r := by
  induction p generalizing w choices with
  | done a => exact fun r hr => absurd hr List.not_mem_nil
  | fail => exact fun r hr => absurd hr List.not_mem_nil
  | call r k ih =>
      intro r' hr'
      rcases List.mem_cons.1 hr' with rfl | hr'
      · exact hp.1
      · exact ih _ (hp.2 _) _ r' hr'

theorem Twin.trace_eq (h : p.Twin answer P q Q w w') (choices : ℕ → χ) :
    trace answer p choices w = trace answer q choices w' := by
  induction p generalizing q w w' choices with
  | done a =>
      obtain ⟨b, rfl, -⟩ := h
      rfl
  | fail =>
      obtain ⟨rfl, -⟩ := h
      rfl
  | call r k ih =>
      obtain ⟨-, k', rfl, hk⟩ := h
      exact congrArg (r :: ·) (ih _ (hk (choices 0)) _)

theorem Twin.mem_trace (h : p.Twin answer P q Q w w') (choices : ℕ → χ) :
    ∀ r ∈ trace answer p choices w, P r := by
  induction p generalizing q w w' choices with
  | done a => exact fun r hr => absurd hr List.not_mem_nil
  | fail => exact fun r hr => absurd hr List.not_mem_nil
  | call r k ih =>
      obtain ⟨hr, k', rfl, hk⟩ := h
      intro r' hr'
      rcases List.mem_cons.1 hr' with rfl | hr'
      · exact hr
      · exact ih _ (hk (choices 0)) _ r' hr'

end Prog

end Await
