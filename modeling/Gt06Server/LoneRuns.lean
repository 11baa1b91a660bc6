/-
**A program on its own.**

A program that nobody interrupts runs under the terms of `Await.Contract` in which the others do
nothing.  What it owes before a request is then a condition on the requests alone, and the rules for
sequencing and for loops say which requests a run can send, from a given world and whatever the
answers leave open.

Main definitions:

* `Await.Prog.after` — the world in which a program ends;
* `Await.Prog.outcome` — how it ends, when nothing is left open;
* `Await.Contract.alone` — the terms of a program that nobody interrupts.

Main results:

* `Await.Contract.alone_request_bind`, `Await.Contract.alone_of_uses` — the rules;
* `Await.Contract.Safe.mem_trace` — **what a run sends**;
* `Await.Contract.Safe.inv_after` — what holds where it ends.
-/

import Gt06Server.TwoRuns

set_option relaxedAutoImplicit false
set_option autoImplicit false

namespace Await

variable {ρ : Type} {reply : ρ → Type} {ω χ α β : Type}
variable (answer : χ → ω → (r : ρ) → Option (reply r) × ω)

/-- The world in which the program ends when it is started in the world `w`. -/
def Prog.after : Prog ρ reply α → (ℕ → χ) → ω → ω
  | .done _, _, w => w
  | .fail, _, w => w
  | .call r k, choices, w =>
      Prog.after (k (answer (choices 0) w r).1) (fun n => choices (n + 1))
        (answer (choices 0) w r).2

namespace Prog

section Outcome

variable {answer' : ω → (r : ρ) → Option (reply r) × ω} {p : Prog ρ reply α} {w w' : ω}

/-- How the program ends, and in which world, when nothing is left open about an answer. -/
def outcome (answer' : ω → (r : ρ) → Option (reply r) × ω) : Prog ρ reply α → ω → Option α × ω
  | .done a, w => (some a, w)
  | .fail, w => (none, w)
  | .call r k, w => outcome answer' (k (answer' w r).1) (answer' w r).2

theorem outcome_bind_some {f : α → Prog ρ reply β} {a : α}
    (h : p.outcome answer' w = (some a, w')) :
    (p >>= f).outcome answer' w = (f a).outcome answer' w' := by
  induction p generalizing w with
  | done b =>
      cases h
      rfl
  | fail => cases h
  | call r k ih => exact ih _ h

theorem outcome_bind_none {f : α → Prog ρ reply β} (h : p.outcome answer' w = (none, w')) :
    (p >>= f).outcome answer' w = (none, w') := by
  induction p generalizing w with
  | done b => cases h
  | fail =>
      cases h
      rfl
  | call r k ih => exact ih _ h

theorem outcome_request (r : ρ) :
    (request r : Prog ρ reply (reply r)).outcome answer' w = answer' w r := by
  rcases hanswer : answer' w r with ⟨_ | a, w'⟩
  · simp only [request, outcome, hanswer]
  · simp only [request, outcome, hanswer]

theorem outcome_attempt :
    p.attempt.outcome answer' w = (some (p.outcome answer' w).1, (p.outcome answer' w).2) := by
  induction p generalizing w with
  | done a => rfl
  | fail => rfl
  | call r k ih => exact ih _

end Outcome

end Prog

namespace Contract

/-- Nobody else moves, and every request is of the kind `P`. -/
def alone (P : ρ → Prop) : Contract ρ reply ω where
  rely := fun _ _ => False
  inv := fun _ => True
  pre := fun _ r => P r
  exec := fun w r x w' => ∃ c, answer c w r = (x, w')

variable {answer} {P : ρ → Prop} {p : Prog ρ reply α} {Q : Option α → ω → Prop} {w w' : ω}

/-! ### Rules -/

theorem eq_of_later_alone (h : (alone answer P).Later w w') : w' = w := by
  induction h with
  | refl => rfl
  | tail _ hstep _ => exact hstep.elim

theorem stable_alone (J : ω → Prop) : (alone answer P).Stable J := fun _ _ h => h.elim

theorem alone_request {r : ρ} {Q : Option (reply r) → ω → Prop} (hr : P r)
    (h : ∀ c, Q (answer c w r).1 (answer c w r).2) :
    (alone answer P).Safe (request r) Q w := by
  refine safe_request ?_
  intro w₁ hw₁ _
  obtain rfl := eq_of_later_alone hw₁
  refine ⟨hr, ?_⟩
  rintro x w₂ ⟨c, hc⟩ _
  have hQ := h c
  rwa [hc] at hQ

/-- A request, and what follows its answer. -/
theorem alone_request_bind {r : ρ} {f : reply r → Prog ρ reply α} (hr : P r)
    (hnone : ∀ c, (answer c w r).1 = none → Q none (answer c w r).2)
    (hsome : ∀ c a, (answer c w r).1 = some a →
      (alone answer P).Safe (f a) Q (answer c w r).2) :
    (alone answer P).Safe (request r >>= f) Q w := by
  refine safe_bind.2 (alone_request hr ?_)
  intro c
  cases ha : (answer c w r).1 with
  | none => exact hnone c ha
  | some a => exact hsome c a ha

/-- Requests of a kind that is allowed and that keeps an assertion. -/
theorem alone_of_uses {F : ρ → Prop} {J : ω → Prop} (hF : ∀ r, F r → P r)
    (hJ : ∀ c w r, F r → J w → J (answer c w r).2) (hp : p.Uses F) (h : J w) :
    (alone answer P).Safe p (fun _ w => J w) w := by
  refine safe_of_uses (stable_alone J) (fun _ r hr _ _ => hF r hr) ?_ hp h
  rintro w r x w' hr _ hw ⟨c, hc⟩
  have hnext := hJ c w r hr hw
  rwa [hc] at hnext

/-- Requests of a kind that is allowed, when nothing is to be known afterwards. -/
theorem alone_of_allowed (hp : p.Uses P) :
    (alone answer P).Safe p (fun _ _ => True) w :=
  alone_of_uses (J := fun _ => True) (fun _ hr => hr) (fun _ _ _ _ _ => trivial) hp trivial

/-! ### Runs -/

/-- Every request of a run is allowed. -/
theorem Safe.mem_trace (h : (alone answer P).Safe p Q w) (choices : ℕ → χ) :
    ∀ r ∈ p.trace answer choices w, P r := by
  induction p generalizing w choices with
  | done a => exact fun r hr => absurd hr List.not_mem_nil
  | fail => exact fun r hr => absurd hr List.not_mem_nil
  | call r k ih =>
      obtain ⟨hr, hk⟩ := h w .refl trivial
      intro r' hr'
      rcases List.mem_cons.1 hr' with rfl | hr'
      · exact hr
      · exact ih _ (hk _ _ ⟨choices 0, rfl⟩ trivial) _ r' hr'

/-- What always holds under the terms of a program holds where a run on its own ends. -/
theorem Safe.inv_after {C : Contract ρ reply ω} (h : C.Safe p Q w) (hw : C.inv w)
    (hexec : ∀ c w r, C.inv w → C.pre w r →
      C.exec w r (answer c w r).1 (answer c w r).2 ∧ C.inv (answer c w r).2) (choices : ℕ → χ) :
    C.inv (p.after answer choices w) := by
  induction p generalizing w choices with
  | done a => exact hw
  | fail => exact hw
  | call r k ih =>
      obtain ⟨hpre, hk⟩ := h w .refl hw
      obtain ⟨hstep, hnext⟩ := hexec (choices 0) w r hw hpre
      exact ih _ (hk _ _ hstep hnext) hnext _

end Contract

end Await
