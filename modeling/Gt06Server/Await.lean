/-
**Programs that wait for answers.**

A program of this module sends one request after the other and goes on with the answer, or with
the knowledge that the request failed.  Between two requests it waits, and while it waits the
world moves on without it: other processes write what it has read, and the clock advances.
Nothing is undone when it fails.

The programs are trees, so that a program in the middle of its work is a program again and the
states of a system are the pairs of a world and the rest of a task.  What a program guarantees is
said by a weakest precondition that lets the others move before each request; it is what carries
an invariant of the world through every interleaving.

Main definitions:

* `Await.Prog` — programs, with `Await.request` and `Await.Prog.attempt`;
* `Await.Prog.interpret` — a program over other requests;
* `Await.Contract`, `Await.Contract.Safe` — what a program relies on and what it owes;
* `Await.System`, `Await.Machine`, `Await.System.step` — one task in its environment;
* `Await.Run` — the runs of a step function, with every state and event on the way;
* `Await.System.Exec` — the executions of one program among the others;
* `Await.Guard` — a condition on the next event of a machine;
* `Await.System.HandsOn` — an assertion that one task hands on to the next.

Main results:

* `Await.Contract.safe_bind`, `Await.Contract.safe_attempt`, `Await.Contract.safe_forM` — the
  rules for sequencing, for errors that are only logged and for loops;
* `Await.Contract.Safe.frame` — what no request touches stays true;
* `Await.Run.invariant`, `Await.Run.related` — what the events of a run preserve, and what they
  do;
* `Await.exists_run_of_decreasing` — a system that can always do something useful comes to rest;
* `Await.System.Verified.step` — what one event preserves;
* `Await.System.Verified.exec` — what an execution of a program ends with;
* `Await.System.safe_of_run` — what a task guarantees at its end;
* `Await.System.HandsOn.sound_of_run` — what the tasks hand on when none is killed;
* `Await.System.Verified.always_iff` — **exact conditions**: when every event outside a guard
  breaks a property, a run has the property throughout exactly when its events keep the guard.
-/

import Mathlib

set_option relaxedAutoImplicit false
set_option autoImplicit false

namespace Await

variable {ρ : Type} {reply : ρ → Type} {α β : Type}

/-! ### Programs -/

/-- A program over the requests `ρ`: it returns a value, gives up with an error, or sends a
request and waits for the answer.  No answer means that the request failed. -/
inductive Prog (ρ : Type) (reply : ρ → Type) (α : Type) : Type where
  | done (a : α)
  | fail
  | call (r : ρ) (k : Option (reply r) → Prog ρ reply α)

namespace Prog

/-- Sequencing; an error ends the program. -/
def bind : Prog ρ reply α → (α → Prog ρ reply β) → Prog ρ reply β
  | .done a, f => f a
  | .fail, _ => .fail
  | .call r k, f => .call r fun x => bind (k x) f

instance : Monad (Prog ρ reply) where
  pure := .done
  bind := bind

/-- An error of the program is an answer like any other. -/
def attempt : Prog ρ reply α → Prog ρ reply (Option α)
  | .done a => .done (some a)
  | .fail => .done none
  | .call r k => .call r fun x => attempt (k x)

/-- Every request of the program is one of the given kind. -/
def Uses (F : ρ → Prop) : Prog ρ reply α → Prop
  | .done _ => True
  | .fail => True
  | .call r k => F r ∧ ∀ x, Uses F (k x)

end Prog

/-- Send a request; its failure is an error. -/
def request (r : ρ) : Prog ρ reply (reply r) :=
  .call r fun x =>
    match x with
    | some a => .done a
    | none => .fail

@[simp] theorem pure_eq (a : α) : (pure a : Prog ρ reply α) = .done a := rfl

theorem bind_eq (p : Prog ρ reply α) (f : α → Prog ρ reply β) : p >>= f = p.bind f := rfl

namespace Prog

variable {F : ρ → Prop}

theorem uses_bind {p : Prog ρ reply α} {f : α → Prog ρ reply β} (hp : p.Uses F)
    (hf : ∀ a, (f a).Uses F) : (p >>= f).Uses F := by
  induction p with
  | done a => exact hf a
  | fail => trivial
  | call r k ih =>
      refine ⟨hp.1, ?_⟩
      intro x
      exact ih x (hp.2 x)

theorem uses_mono {F' : ρ → Prop} (hF : ∀ r, F r → F' r) {p : Prog ρ reply α} (hp : p.Uses F) :
    p.Uses F' := by
  induction p with
  | done a => trivial
  | fail => trivial
  | call r k ih => exact ⟨hF r hp.1, fun x => ih x (hp.2 x)⟩

theorem uses_attempt {p : Prog ρ reply α} (hp : p.Uses F) : p.attempt.Uses F := by
  induction p with
  | done a => trivial
  | fail => trivial
  | call r k ih =>
      refine ⟨hp.1, ?_⟩
      intro x
      exact ih x (hp.2 x)

theorem uses_request {r : ρ} (h : F r) : (request r : Prog ρ reply (reply r)).Uses F := by
  refine ⟨h, ?_⟩
  intro x
  cases x with
  | none => trivial
  | some a => trivial

theorem uses_forM {l : List β} {f : β → Prog ρ reply PUnit} (hf : ∀ b ∈ l, (f b).Uses F) :
    (forM l f : Prog ρ reply PUnit).Uses F := by
  induction l with
  | nil => trivial
  | cons b l ih =>
      rw [List.forM_cons]
      refine uses_bind (hf b List.mem_cons_self) ?_
      intro _
      exact ih fun c hc => hf c (List.mem_cons_of_mem b hc)

theorem uses_foldlM {l : List β} {f : α → β → Prog ρ reply α} {a : α}
    (hf : ∀ a, ∀ b ∈ l, (f a b).Uses F) : (l.foldlM f a).Uses F := by
  induction l generalizing a with
  | nil => trivial
  | cons b l ih =>
      rw [List.foldlM_cons]
      refine uses_bind (hf a b List.mem_cons_self) ?_
      intro _
      exact ih fun a c hc => hf a c (List.mem_cons_of_mem b hc)

end Prog

/-! ### Programs over other requests -/

namespace Prog

variable {γ : Type}

theorem bind_assoc (p : Prog ρ reply α) (f : α → Prog ρ reply β) (g : β → Prog ρ reply γ) :
    p >>= f >>= g = p >>= fun a => f a >>= g := by
  simp only [bind_eq]
  induction p with
  | done a => rfl
  | fail => rfl
  | call r k ih => exact congrArg (Prog.call r) (funext ih)

/-- What is returned does not matter where it is only logged that there is an error. -/
theorem attempt_bind_done (p : Prog ρ reply α) (b : β) (q : Prog ρ reply γ) :
    (p >>= fun _ => Prog.done b).attempt >>= (fun _ => q) = p.attempt >>= fun _ => q := by
  induction p with
  | done a => rfl
  | fail => rfl
  | call r k ih => exact congrArg (Prog.call r) (funext ih)

variable {σ : Type} {reply' : σ → Type} (f : (r : ρ) → Prog σ reply' (reply r))

/-- The program with another program in the place of each request. -/
def interpret : Prog ρ reply α → Prog σ reply' α
  | .done a => .done a
  | .fail => .fail
  | .call r k => (f r).attempt >>= fun x => interpret (k x)

@[simp] theorem interpret_done (a : α) :
    (Prog.done a : Prog ρ reply α).interpret f = .done a := rfl

@[simp] theorem interpret_bind (p : Prog ρ reply α) (g : α → Prog ρ reply β) :
    (p >>= g).interpret f = p.interpret f >>= fun a => (g a).interpret f := by
  induction p with
  | done a => rfl
  | fail => rfl
  | call r k ih =>
      have hk : (fun x => (k x >>= g).interpret f) =
          fun x => (k x).interpret f >>= fun a => (g a).interpret f := funext ih
      change (f r).attempt >>= (fun x => (k x >>= g).interpret f) =
        ((f r).attempt >>= fun x => (k x).interpret f) >>= fun a => (g a).interpret f
      rw [hk, bind_assoc]

@[simp] theorem interpret_request (r : ρ) :
    (request r : Prog ρ reply (reply r)).interpret f = f r := by
  change (f r).attempt >>= _ = f r
  generalize f r = p
  induction p with
  | done a => rfl
  | fail => rfl
  | call s k ih => exact congrArg (Prog.call s) (funext ih)

@[simp] theorem interpret_attempt_request (r : ρ) :
    (request r : Prog ρ reply (reply r)).attempt.interpret f = (f r).attempt := by
  change (f r).attempt >>= _ = (f r).attempt
  generalize f r = p
  induction p with
  | done a => rfl
  | fail => rfl
  | call s k ih => exact congrArg (Prog.call s) (funext ih)

end Prog

/-! ### What a program relies on and what it owes -/

/-- The terms a program runs under: what the others may do between two requests, what always
holds of the world, what the program owes before a request and what the request may do. -/
structure Contract (ρ : Type) (reply : ρ → Type) (ω : Type) where
  rely : ω → ω → Prop
  inv : ω → Prop
  pre : ω → ρ → Prop
  exec : ω → (r : ρ) → Option (reply r) → ω → Prop

namespace Contract

variable {ω : Type} (C : Contract ρ reply ω)

/-- The world some time later. -/
def Later : ω → ω → Prop := Relation.ReflTransGen C.rely

/-- From the world `w` the program pays what it owes before each of its requests, whatever the
others do meanwhile, and leaves a world that satisfies `Q`. -/
def Safe : Prog ρ reply α → (Option α → ω → Prop) → ω → Prop
  | .done a, Q, w => Q (some a) w
  | .fail, Q, w => Q none w
  | .call r k, Q, w => ∀ w₁, C.Later w w₁ → C.inv w₁ →
      C.pre w₁ r ∧ ∀ x w₂, C.exec w₁ r x w₂ → C.inv w₂ → Safe (k x) Q w₂

/-- Nothing the others do makes the assertion false. -/
def Stable (J : ω → Prop) : Prop := ∀ w w', C.rely w w' → J w → J w'

variable {C} {Q Q' : Option α → ω → Prop} {w w' : ω}

theorem Stable.later {J : ω → Prop} (hJ : C.Stable J) (h : C.Later w w') (hw : J w) : J w' := by
  induction h with
  | refl => exact hw
  | tail _ h ih => exact hJ _ _ h ih

theorem Safe.mono {p : Prog ρ reply α} (hQ : ∀ x w, Q x w → Q' x w) (h : C.Safe p Q w) :
    C.Safe p Q' w := by
  induction p generalizing w with
  | done a => exact hQ _ _ h
  | fail => exact hQ _ _ h
  | call r k ih =>
      intro w₁ hw₁ hinv
      obtain ⟨hpre, hk⟩ := h w₁ hw₁ hinv
      refine ⟨hpre, ?_⟩
      intro x w₂ hx hinv₂
      exact ih x (hk x w₂ hx hinv₂)

/-- Two guarantees of one program. -/
theorem Safe.and {p : Prog ρ reply α} (h : C.Safe p Q w) (h' : C.Safe p Q' w) :
    C.Safe p (fun x w => Q x w ∧ Q' x w) w := by
  induction p generalizing w with
  | done a => exact ⟨h, h'⟩
  | fail => exact ⟨h, h'⟩
  | call r k ih =>
      intro w₁ hw₁ hinv
      obtain ⟨hpre, hk⟩ := h w₁ hw₁ hinv
      obtain ⟨-, hk'⟩ := h' w₁ hw₁ hinv
      refine ⟨hpre, ?_⟩
      intro x w₂ hx hinv₂
      exact ih x (hk x w₂ hx hinv₂) (hk' x w₂ hx hinv₂)

/-- What neither the others nor any request makes false holds at the end if it held before. -/
theorem Safe.frame {J : ω → Prop} (hJ : C.Stable J)
    (hexec : ∀ w r x w', C.exec w r x w' → J w → J w') {p : Prog ρ reply α}
    (h : C.Safe p Q w) (hw : J w) : C.Safe p (fun x w => Q x w ∧ J w) w := by
  induction p generalizing w with
  | done a => exact ⟨h, hw⟩
  | fail => exact ⟨h, hw⟩
  | call r k ih =>
      intro w₁ hw₁ hinv
      have h₁ : J w₁ := hJ.later hw₁ hw
      obtain ⟨hpre, hk⟩ := h w₁ hw₁ hinv
      refine ⟨hpre, ?_⟩
      intro x w₂ hx hinv₂
      exact ih x (hk x w₂ hx hinv₂) (hexec w₁ r x w₂ hx h₁)

/-- A safe program may be kept waiting. -/
theorem Safe.later {p : Prog ρ reply α} (hQ : ∀ x, C.Stable (Q x)) (h : C.Safe p Q w)
    (hw : C.Later w w') : C.Safe p Q w' := by
  cases p with
  | done a => exact (hQ _).later hw h
  | fail => exact (hQ _).later hw h
  | call r k =>
      intro w₁ hw₁ hinv
      exact h w₁ (Relation.ReflTransGen.trans hw hw₁) hinv

/-- What follows a value is the rest of the program; an error skips it. -/
def andThen (C : Contract ρ reply ω) (f : α → Prog ρ reply β) (Q : Option β → ω → Prop) :
    Option α → ω → Prop
  | some a, w => C.Safe (f a) Q w
  | none, w => Q none w

theorem safe_bind {p : Prog ρ reply α} {f : α → Prog ρ reply β} {Q : Option β → ω → Prop} :
    C.Safe (p >>= f) Q w ↔ C.Safe p (C.andThen f Q) w := by
  rw [bind_eq]
  induction p generalizing w with
  | done a => exact Iff.rfl
  | fail => exact Iff.rfl
  | call r k ih =>
      constructor
      · intro h w₁ hw₁ hinv
        obtain ⟨hpre, hk⟩ := h w₁ hw₁ hinv
        exact ⟨hpre, fun x w₂ hx hinv₂ => (ih x).1 (hk x w₂ hx hinv₂)⟩
      · intro h w₁ hw₁ hinv
        obtain ⟨hpre, hk⟩ := h w₁ hw₁ hinv
        exact ⟨hpre, fun x w₂ hx hinv₂ => (ih x).2 (hk x w₂ hx hinv₂)⟩

theorem safe_attempt {p : Prog ρ reply α} {Q : Option (Option α) → ω → Prop} :
    C.Safe p.attempt Q w ↔ C.Safe p (fun x w => Q (some x) w) w := by
  induction p generalizing w with
  | done a => exact Iff.rfl
  | fail => exact Iff.rfl
  | call r k ih =>
      constructor
      · intro h w₁ hw₁ hinv
        obtain ⟨hpre, hk⟩ := h w₁ hw₁ hinv
        exact ⟨hpre, fun x w₂ hx hinv₂ => (ih x).1 (hk x w₂ hx hinv₂)⟩
      · intro h w₁ hw₁ hinv
        obtain ⟨hpre, hk⟩ := h w₁ hw₁ hinv
        exact ⟨hpre, fun x w₂ hx hinv₂ => (ih x).2 (hk x w₂ hx hinv₂)⟩

/-- One request: what it owes, and its two outcomes. -/
theorem safe_request {r : ρ} {Q : Option (reply r) → ω → Prop}
    (h : ∀ w₁, C.Later w w₁ → C.inv w₁ →
      C.pre w₁ r ∧ ∀ x w₂, C.exec w₁ r x w₂ → C.inv w₂ → Q x w₂) :
    C.Safe (request r) Q w := by
  intro w₁ hw₁ hinv
  obtain ⟨hpre, hx⟩ := h w₁ hw₁ hinv
  refine ⟨hpre, ?_⟩
  intro x w₂ hexec hinv₂
  cases x with
  | none => exact hx none w₂ hexec hinv₂
  | some a => exact hx (some a) w₂ hexec hinv₂

/-- One assertion about a program that returns and one about a program that gives up. -/
def ending (J E : ω → Prop) : Option α → ω → Prop
  | some _, w => J w
  | none, w => E w

/-- Sequencing, with one assertion in between and one for an error of the first program. -/
theorem safe_bind_of {p : Prog ρ reply α} {f : α → Prog ρ reply β} {J E : ω → Prop}
    {Q : Option β → ω → Prop} (hp : C.Safe p (ending J E) w) (hnone : ∀ w, E w → Q none w)
    (hsome : ∀ a w, J w → C.Safe (f a) Q w) : C.Safe (p >>= f) Q w := by
  refine safe_bind.2 (hp.mono ?_)
  intro x w hx
  cases x with
  | none => exact hnone w hx
  | some a => exact hsome a w hx

/-- A loop keeps an assertion about what is left of its list; an error leaves the loop. -/
theorem safe_forM {f : β → Prog ρ reply PUnit} (J : List β → ω → Prop) {E : ω → Prop}
    (hf : ∀ b l w, J (b :: l) w → C.Safe (f b) (ending (J l) E) w)
    {l : List β} (h : J l w) : C.Safe (forM l f) (ending (J []) E) w := by
  induction l generalizing w with
  | nil => exact h
  | cons b l ih =>
      rw [List.forM_cons, safe_bind]
      refine (hf b l w h).mono ?_
      intro x w hx
      cases x with
      | none => exact hx
      | some _ => exact ih hx

/-- The same for a loop with an accumulator. -/
theorem safe_foldlM {f : α → β → Prog ρ reply α} (J : List β → ω → Prop) {E : ω → Prop}
    (hf : ∀ a b l w, J (b :: l) w → C.Safe (f a b) (ending (J l) E) w)
    {l : List β} {a : α} (h : J l w) : C.Safe (l.foldlM f a) (ending (J []) E) w := by
  induction l generalizing w a with
  | nil => exact h
  | cons b l ih =>
      rw [List.foldlM_cons, safe_bind]
      refine (hf a b l w h).mono ?_
      intro x w hx
      cases x with
      | none => exact hx
      | some _ => exact ih hx

/-- A program that only sends requests which owe nothing and leave an assertion alone leaves it
alone. -/
theorem safe_of_uses {F : ρ → Prop} {J : ω → Prop} (hstable : C.Stable J)
    (hpre : ∀ w r, F r → C.inv w → J w → C.pre w r)
    (hexec : ∀ w r x w', F r → C.inv w → J w → C.exec w r x w' → J w')
    {p : Prog ρ reply α} (hp : p.Uses F) (h : J w) : C.Safe p (fun _ w => J w) w := by
  induction p generalizing w with
  | done a => exact h
  | fail => exact h
  | call r k ih =>
      intro w₁ hw₁ hinv
      have h₁ : J w₁ := hstable.later hw₁ h
      refine ⟨hpre w₁ r hp.1 hinv h₁, ?_⟩
      intro x w₂ hx _
      exact ih x (hp.2 x) (hexec w₁ r x w₂ hp.1 hinv h₁ hx)

end Contract

/-! ### Runs -/

section Runs

variable {σ ε : Type} {step : σ → ε → Option σ}

/-- The runs of a step function: the states the events happened in, the events, and the state
at the end. -/
inductive Run (step : σ → ε → Option σ) (s₀ : σ) : List (σ × ε) → σ → Prop
  | nil : Run step s₀ [] s₀
  | snoc {tr : List (σ × ε)} {s s' : σ} {e : ε} : Run step s₀ tr s → step s e = some s' →
      Run step s₀ (tr ++ [(s, e)]) s'

/-- The state after some events, when each of them can happen. -/
def replay (step : σ → ε → Option σ) (s : σ) : List ε → Option σ
  | [] => some s
  | e :: es => (step s e).bind fun s' => replay step s' es

theorem Run.of_step {s₀ s₁ s : σ} {e : ε} {tr : List (σ × ε)} (he : step s₀ e = some s₁)
    (h : Run step s₁ tr s) : Run step s₀ ((s₀, e) :: tr) s := by
  induction h with
  | nil =>
      have hlast := Run.snoc (Run.nil : Run step s₀ [] s₀) he
      exact hlast
  | snoc _ hstep ih => exact Run.snoc ih hstep

theorem run_of_replay {s₀ s : σ} {es : List ε} (h : replay step s₀ es = some s) :
    ∃ tr, tr.map Prod.snd = es ∧ Run step s₀ tr s := by
  induction es generalizing s₀ with
  | nil =>
      obtain rfl : s₀ = s := by simpa [replay] using h
      exact ⟨[], rfl, Run.nil⟩
  | cons e es ih =>
      obtain ⟨s₁, he, hes⟩ := Option.bind_eq_some_iff.1 h
      obtain ⟨tr, rfl, hrun⟩ := ih hes
      exact ⟨(s₀, e) :: tr, rfl, hrun.of_step he⟩

theorem run_of_replay_any {s₀ : σ} {es : List ε} {p : σ → Bool}
    (h : (replay step s₀ es).any p = true) :
    ∃ tr s, tr.map Prod.snd = es ∧ Run step s₀ tr s ∧ p s = true := by
  obtain ⟨s, hs, hp⟩ := (Option.any_eq_true _ _).1 h
  obtain ⟨tr, hes, run⟩ := run_of_replay hs
  exact ⟨tr, s, hes, run, hp⟩

/-- An invariant of the events within a guard holds in every state of a run of such events. -/
theorem Run.invariant {I : σ → Prop} {G : σ → ε → Prop}
    (keep : ∀ s e s', I s → G s e → step s e = some s' → I s') {s₀ s : σ} {tr : List (σ × ε)}
    (h₀ : I s₀) (run : Run step s₀ tr s) (hG : ∀ p ∈ tr, G p.1 p.2) :
    (∀ p ∈ tr, I p.1) ∧ I s := by
  induction run with
  | nil => exact ⟨by simp, h₀⟩
  | @snoc tr s s' e _ hstep ih =>
      obtain ⟨htr, hs⟩ := ih fun p hp => hG p (List.mem_append_left _ hp)
      refine ⟨?_, keep s e s' hs (hG (s, e) (by simp)) hstep⟩
      intro p hp
      rcases List.mem_append.1 hp with hp | hp
      · exact htr p hp
      · obtain rfl := List.mem_singleton.1 hp
        exact hs

/-- Every event of a run has happened. -/
theorem Run.step_of_mem {s₀ s : σ} {tr : List (σ × ε)} (run : Run step s₀ tr s) {p : σ × ε}
    (hp : p ∈ tr) : ∃ s', step p.1 p.2 = some s' := by
  induction run with
  | nil => exact absurd hp List.not_mem_nil
  | snoc _ hstep ih =>
      rcases List.mem_append.1 hp with hp | hp
      · exact ih hp
      · obtain rfl := List.mem_singleton.1 hp
        exact ⟨_, hstep⟩

theorem Run.of_concat {s₀ s : σ} {tr : List (σ × ε)} {p : σ × ε}
    (run : Run step s₀ (tr ++ [p]) s) : Run step s₀ tr p.1 ∧ step p.1 p.2 = some s := by
  generalize htr : tr ++ [p] = tr' at run
  cases run with
  | nil => simp at htr
  | snoc run hstep =>
      obtain ⟨rfl, hp⟩ := List.append_inj' htr rfl
      obtain rfl := List.singleton_inj.1 hp
      exact ⟨run, hstep⟩

/-- A run goes through the states on its way. -/
theorem Run.split {s₀ s : σ} {tr₁ tr₂ : List (σ × ε)} (run : Run step s₀ (tr₁ ++ tr₂) s) :
    ∃ s₁, Run step s₀ tr₁ s₁ ∧ Run step s₁ tr₂ s := by
  induction tr₂ using List.reverseRecOn generalizing s with
  | nil => exact ⟨s, by simpa using run, .nil⟩
  | append_singleton tr₂ p ih =>
      rw [← List.append_assoc] at run
      obtain ⟨run, hstep⟩ := run.of_concat
      obtain ⟨s₁, run₁, run₂⟩ := ih run
      exact ⟨s₁, run₁, run₂.snoc hstep⟩

/-- The run after one of its events. -/
theorem Run.after {s₀ s s₁ : σ} {e : ε} {tr₁ tr₂ : List (σ × ε)}
    (run : Run step s₀ (tr₁ ++ (s₁, e) :: tr₂) s) :
    Run step s₀ tr₁ s₁ ∧ ∃ s₂, step s₁ e = some s₂ ∧ Run step s₂ tr₂ s := by
  rw [← List.singleton_append, ← List.append_assoc] at run
  obtain ⟨s₂, run₁, run₂⟩ := run.split
  obtain ⟨run₁, hstep⟩ := run₁.of_concat
  exact ⟨run₁, s₂, hstep, run₂⟩

/-- **A system that can always do something useful comes to rest**: when in every state of an
invariant that is not at rest some event of a kind can happen and bring a measure down, a run of
such events leads to rest. -/
theorem exists_run_of_decreasing {I Rest : σ → Prop} {K : ε → Prop} (measure : σ → ℕ)
    (progress : ∀ s, I s → ¬ Rest s →
      ∃ e s', K e ∧ step s e = some s' ∧ I s' ∧ measure s' < measure s) {s : σ} (h : I s) :
    ∃ tr s', Run step s tr s' ∧ (∀ p ∈ tr, K p.2) ∧ I s' ∧ Rest s' := by
  induction hn : measure s using Nat.strong_induction_on generalizing s with
  | _ n ih =>
      by_cases hrest : Rest s
      · exact ⟨[], s, .nil, by simp, h, hrest⟩
      · obtain ⟨e, s₁, he, hstep, h₁, hlt⟩ := progress s h hrest
        obtain ⟨tr, s', run, hK, hI, hR⟩ := ih _ (hn ▸ hlt) h₁ rfl
        refine ⟨(s, e) :: tr, s', run.of_step hstep, ?_, hI, hR⟩
        intro p hp
        rcases List.mem_cons.1 hp with rfl | hp
        · exact he
        · exact hK p hp

/-- A run whose events all pass a check. -/
theorem run_of_replay_checked {s₀ : σ} {es : List ε} {check : σ → ε → Bool} {p : σ → Bool}
    (h : (replay (fun s e => if check s e then step s e else none) s₀ es).any p = true) :
    ∃ tr s, tr.map Prod.snd = es ∧ Run step s₀ tr s ∧ (∀ q ∈ tr, check q.1 q.2 = true) ∧
      p s = true := by
  obtain ⟨tr, s, hes, run, hp⟩ := run_of_replay_any h
  have hchecked : ∀ q ∈ tr, check q.1 q.2 = true := by
    intro q hq
    obtain ⟨s', hstep⟩ := run.step_of_mem hq
    by_contra hcheck
    simp [hcheck] at hstep
  refine ⟨tr, s, hes, ?_, hchecked, hp⟩
  clear hes hp h
  induction run with
  | nil => exact .nil
  | @snoc tr s s' e _ hstep ih =>
      have hlast : check s e = true := hchecked (s, e) (by simp)
      simp only [hlast, if_true] at hstep
      exact .snoc (ih fun q hq => hchecked q (List.mem_append_left _ hq)) hstep

/-- What every event of a run does to its state, the run does to each of its states. -/
theorem Run.related {R : σ → σ → Prop} (htrans : ∀ s₁ s₂ s₃, R s₁ s₂ → R s₂ s₃ → R s₁ s₃)
    {s₀ s : σ} {tr : List (σ × ε)} (run : Run step s₀ tr s)
    (hR : ∀ p ∈ tr, ∀ s', step p.1 p.2 = some s' → R p.1 s') :
    ∀ p ∈ tr, R p.1 s := by
  induction run with
  | nil => simp
  | @snoc tr s s' e _ hstep ih =>
      have hlast : R s s' := hR (s, e) (by simp) s' hstep
      intro p hp
      rcases List.mem_append.1 hp with hp | hp
      · exact htrans _ _ _ (ih (fun p hp => hR p (List.mem_append_left _ hp)) p hp) hlast
      · obtain rfl := List.mem_singleton.1 hp
        exact hlast

/-- A property that an invariant implies, that the events within a guard keep and that every
other event breaks holds throughout a run exactly when all its events are within the guard. -/
theorem Run.always_iff {I P : σ → Prop} {G : σ → ε → Prop} (hIP : ∀ s, I s → P s)
    (keep : ∀ s e s', I s → G s e → step s e = some s' → I s')
    (breaks : ∀ s e s', I s → ¬ G s e → step s e = some s' → ¬ P s')
    {s₀ s : σ} {tr : List (σ × ε)} (h₀ : I s₀) (run : Run step s₀ tr s) :
    ((∀ p ∈ tr, P p.1) ∧ P s) ↔ ∀ p ∈ tr, G p.1 p.2 := by
  -- the invariant holds at the end as long as the property holds on the way
  have key : ((∀ p ∈ tr, P p.1) ∧ P s → I s ∧ ∀ p ∈ tr, G p.1 p.2) ∧
      ((∀ p ∈ tr, G p.1 p.2) → I s ∧ ∀ p ∈ tr, P p.1) := by
    induction run with
    | nil => exact ⟨fun _ => ⟨h₀, by simp⟩, fun _ => ⟨h₀, by simp⟩⟩
    | @snoc tr s s' e _ hstep ih =>
        obtain ⟨ih₁, ih₂⟩ := ih
        constructor
        · rintro ⟨hP, hs'⟩
          obtain ⟨hI, hG⟩ :=
            ih₁ ⟨fun p hp => hP p (List.mem_append_left _ hp), hP (s, e) (by simp)⟩
          have hGe : G s e := by
            by_contra hGe
            exact breaks s e s' hI hGe hstep hs'
          refine ⟨keep s e s' hI hGe hstep, ?_⟩
          intro p hp
          rcases List.mem_append.1 hp with hp | hp
          · exact hG p hp
          · obtain rfl := List.mem_singleton.1 hp
            exact hGe
        · intro hG
          obtain ⟨hI, hP⟩ := ih₂ fun p hp => hG p (List.mem_append_left _ hp)
          refine ⟨keep s e s' hI (hG (s, e) (by simp)) hstep, ?_⟩
          intro p hp
          rcases List.mem_append.1 hp with hp | hp
          · exact hP p hp
          · obtain rfl := List.mem_singleton.1 hp
            exact hIP _ hI
  constructor
  · exact fun h => (key.1 h).2
  · exact fun h => ⟨(key.2 h).2, hIP _ (key.2 h).1⟩

end Runs

/-! ### One task in its environment -/

section System

variable {ω ε χ ι : Type}

/-- What the others may do, how requests are answered, and the tasks.  An `ε` is a move of the
others and a `χ` what is left open about an answer. -/
structure System (ρ : Type) (reply : ρ → Type) (ω ε χ ι : Type) where
  env : ε → ω → Option ω
  answer : χ → ω → (r : ρ) → Option (reply r) × ω
  main : ι → Prog ρ reply Unit

/-- The world, and what is left of the task under way. -/
structure Machine (ρ : Type) (reply : ρ → Type) (ω : Type) where
  world : ω
  task : Prog ρ reply Unit

/-- The machine before its first task. -/
def Machine.idle (w : ω) : Machine ρ reply ω := ⟨w, .done ()⟩

/-- What happens next: the others move, the request under way is answered, a task starts, or the
process is killed and forgets its task. -/
inductive Event (ε χ ι : Type) where
  | env (e : ε)
  | answer (c : χ)
  | start (i : ι)
  | crash

namespace System

variable (S : System ρ reply ω ε χ ι)

def step (m : Machine ρ reply ω) : Event ε χ ι → Option (Machine ρ reply ω)
  | .env e => (S.env e m.world).map fun w => ⟨w, m.task⟩
  | .answer c =>
      match m.task with
      | .call r k => some ⟨(S.answer c m.world r).2, k (S.answer c m.world r).1⟩
      | _ => none
  | .start i =>
      match m.task with
      | .call _ _ => none
      | _ => some ⟨m.world, S.main i⟩
  | .crash => some ⟨m.world, .done ()⟩

end System

/-- A condition on the next event. -/
structure Guard (ρ ω ε χ : Type) where
  env : ω → ε → Prop
  call : ω → ρ → χ → Prop

/-- The event keeps the condition. -/
def Guard.Allows (g : Guard ρ ω ε χ) (m : Machine ρ reply ω) : Event ε χ ι → Prop
  | .env e => g.env m.world e
  | .answer c =>
      match m.task with
      | .call r _ => g.call m.world r c
      | _ => True
  | .start _ => True
  | .crash => True

/-! ### Executions of a program -/

namespace System

/-- The world after some moves of the others, when each of them can happen. -/
def moves (S : System ρ reply ω ε χ ι) : List ε → ω → Option ω
  | [], w => some w
  | e :: es, w => (S.env e w).bind (S.moves es)

/-- From the world `w` the program returns, or gives up, in the world `w'`; before each of its
requests the others move. -/
inductive Exec (S : System ρ reply ω ε χ ι) : Prog ρ reply α → ω → Option α → ω → Prop
  | done (a : α) (w : ω) : Exec S (.done a) w (some a) w
  | fail (w : ω) : Exec S .fail w none w
  | call {r : ρ} {k : Option (reply r) → Prog ρ reply α} {es : List ε} {c : χ} {w w₁ w' : ω}
      {y : Option α} : S.moves es w = some w₁ →
      Exec S (k (S.answer c w₁ r).1) (S.answer c w₁ r).2 y w' → Exec S (.call r k) w y w'

/-- The execution with the given moves and answers. -/
def simulate (S : System ρ reply ω ε χ ι) :
    List (List ε × χ) → Prog ρ reply α → ω → Option (Option α × ω)
  | _, .done a, w => some (some a, w)
  | _, .fail, w => some (none, w)
  | [], .call _ _, _ => none
  | (es, c) :: script, .call r k, w =>
      (S.moves es w).bind fun w₁ =>
        S.simulate script (k (S.answer c w₁ r).1) (S.answer c w₁ r).2

theorem exec_of_simulate {S : System ρ reply ω ε χ ι} {script : List (List ε × χ)}
    {p : Prog ρ reply α} {w w' : ω} {x : Option α}
    (h : S.simulate script p w = some (x, w')) : S.Exec p w x w' := by
  induction script generalizing p w with
  | nil =>
      cases p with
      | done a =>
          obtain ⟨rfl, rfl⟩ := Prod.mk.inj (Option.some.inj h)
          exact .done a w
      | fail =>
          obtain ⟨rfl, rfl⟩ := Prod.mk.inj (Option.some.inj h)
          exact .fail w
      | call r k => simp [simulate] at h
  | cons move script ih =>
      cases p with
      | done a =>
          obtain ⟨rfl, rfl⟩ := Prod.mk.inj (Option.some.inj h)
          exact .done a w
      | fail =>
          obtain ⟨rfl, rfl⟩ := Prod.mk.inj (Option.some.inj h)
          exact .fail w
      | call r k =>
          obtain ⟨w₁, hmoves, h⟩ := Option.bind_eq_some_iff.1 h
          exact .call hmoves (ih h)

end System

namespace System

variable (S : System ρ reply ω ε χ ι)

/-- The terms of a task under a condition on the events. -/
def contract (g : Guard ρ ω ε χ) (inv : ω → Prop) (pre : ω → ρ → Prop) :
    Contract ρ reply ω where
  rely := fun w w' => ∃ e, inv w ∧ g.env w e ∧ S.env e w = some w'
  inv := inv
  pre := pre
  exec := fun w r x w' => ∃ c, g.call w r c ∧ S.answer c w r = (x, w')

/-- The invariant survives the moves of the others and the requests that are paid for, and every
task pays for its requests. -/
structure Verified (g : Guard ρ ω ε χ) (inv : ω → Prop) (pre : ω → ρ → Prop) : Prop where
  env : ∀ e w w', inv w → g.env w e → S.env e w = some w' → inv w'
  call : ∀ c w r, inv w → pre w r → g.call w r c → inv (S.answer c w r).2
  main : ∀ i w, inv w → (S.contract g inv pre).Safe (S.main i) (fun _ _ => True) w

namespace Verified

variable {S} {g : Guard ρ ω ε χ} {inv : ω → Prop} {pre : ω → ρ → Prop}

/-- The invariant holds and the rest of the task pays for its requests. -/
def Sound (_ : S.Verified g inv pre) (m : Machine ρ reply ω) : Prop :=
  inv m.world ∧ (S.contract g inv pre).Safe m.task (fun _ _ => True) m.world

theorem sound_idle (V : S.Verified g inv pre) {w : ω} (h : inv w) :
    V.Sound (.idle w) := ⟨h, trivial⟩

theorem step (V : S.Verified g inv pre) {m m' : Machine ρ reply ω} {e : Event ε χ ι}
    (h : V.Sound m) (hg : g.Allows m e) (hstep : S.step m e = some m') :
    V.Sound m' := by
  obtain ⟨w, task⟩ := m
  obtain ⟨hinv, hsafe⟩ := h
  cases e with
  | env e =>
      obtain ⟨w', he, rfl⟩ := Option.map_eq_some_iff.1 hstep
      refine ⟨V.env e w w' hinv hg he, ?_⟩
      refine hsafe.later (fun _ _ _ _ _ => trivial) ?_
      exact Relation.ReflTransGen.single ⟨e, hinv, hg, he⟩
  | answer c =>
      cases task with
      | done a => simp [System.step] at hstep
      | fail => simp [System.step] at hstep
      | call r k =>
          obtain rfl : _ = m' := Option.some.inj hstep
          obtain ⟨hpre, hk⟩ := hsafe w Relation.ReflTransGen.refl hinv
          have hinv' := V.call c w r hinv hpre hg
          exact ⟨hinv', hk _ _ ⟨c, hg, rfl⟩ hinv'⟩
  | start i =>
      cases task with
      | call r k => simp [System.step] at hstep
      | done a =>
          obtain rfl : _ = m' := Option.some.inj hstep
          exact ⟨hinv, V.main i w hinv⟩
      | fail =>
          obtain rfl : _ = m' := Option.some.inj hstep
          exact ⟨hinv, V.main i w hinv⟩
  | crash =>
      obtain rfl : _ = m' := Option.some.inj hstep
      exact ⟨hinv, trivial⟩

/-- What the others and the paid requests do to the world, every event does. -/
theorem step_related (V : S.Verified g inv pre) {R : ω → ω → Prop} (hrefl : ∀ w, R w w)
    (henv : ∀ e w w', inv w → S.env e w = some w' → R w w')
    (hcall : ∀ c w r, inv w → pre w r → R w (S.answer c w r).2)
    {m m' : Machine ρ reply ω} {e : Event ε χ ι} (h : V.Sound m)
    (hstep : S.step m e = some m') : R m.world m'.world := by
  obtain ⟨w, task⟩ := m
  obtain ⟨hinv, hsafe⟩ := h
  cases e with
  | env e =>
      obtain ⟨w', he, rfl⟩ := Option.map_eq_some_iff.1 hstep
      exact henv e w w' hinv he
  | answer c =>
      cases task with
      | done a => simp [System.step] at hstep
      | fail => simp [System.step] at hstep
      | call r k =>
          obtain rfl : _ = m' := Option.some.inj hstep
          obtain ⟨hpre, -⟩ := hsafe w Relation.ReflTransGen.refl hinv
          exact hcall c w r hinv hpre
  | start i =>
      cases task with
      | call r k => simp [System.step] at hstep
      | done a =>
          obtain rfl : _ = m' := Option.some.inj hstep
          exact hrefl w
      | fail =>
          obtain rfl : _ = m' := Option.some.inj hstep
          exact hrefl w
  | crash =>
      obtain rfl : _ = m' := Option.some.inj hstep
      exact hrefl w

/-- The machine is sound in every state of a run within the guard. -/
theorem sound_of_run (V : S.Verified g inv pre) {w₀ : ω} (h₀ : inv w₀)
    {m : Machine ρ reply ω} {tr : List (Machine ρ reply ω × Event ε χ ι)}
    (run : Run S.step (.idle w₀) tr m) (hg : ∀ p ∈ tr, g.Allows p.1 p.2) :
    (∀ p ∈ tr, V.Sound p.1) ∧ V.Sound m :=
  run.invariant (fun _ _ _ h hg hstep => V.step h hg hstep) (V.sound_idle h₀) hg

/-- The others keep the invariant however often they move. -/
theorem moves (V : S.Verified g inv pre) (hg : ∀ w e, g.env w e) {es : List ε} {w w' : ω}
    (h : inv w) (hw : S.moves es w = some w') :
    inv w' ∧ (S.contract g inv pre).Later w w' := by
  induction es generalizing w with
  | nil =>
      obtain rfl : w = w' := Option.some.inj hw
      exact ⟨h, .refl⟩
  | cons e es ih =>
      obtain ⟨w₁, he, hw⟩ := Option.bind_eq_some_iff.1 hw
      obtain ⟨hinv, hlater⟩ := ih (V.env e w w₁ h (hg w e) he) hw
      exact ⟨hinv, .head ⟨e, h, hg w e, he⟩ hlater⟩

/-- What a safe program guarantees holds at the end of each of its executions. -/
theorem exec (V : S.Verified g inv pre) (hg : ∀ w e, g.env w e) (hcall : ∀ w r c, g.call w r c)
    {p : Prog ρ reply α} {Q : Option α → ω → Prop} {w w' : ω} {x : Option α}
    (hsafe : (S.contract g inv pre).Safe p Q w) (h : inv w) (hexec : S.Exec p w x w') :
    Q x w' := by
  induction hexec with
  | done a w => exact hsafe
  | fail w => exact hsafe
  | @call r k es c w w₁ w' y hmoves _ ih =>
      obtain ⟨hinv, hlater⟩ := V.moves hg h hmoves
      obtain ⟨hpre, hk⟩ := hsafe w₁ hlater hinv
      have hinv' := V.call c w₁ r hinv hpre (hcall w₁ r c)
      exact ih (hk _ _ ⟨c, hcall w₁ r c, rfl⟩ hinv') hinv'

/-- **Exact conditions.**  When the invariant implies a property of the world and every event
outside the guard breaks it, the property holds throughout a run exactly when the events of the
run are all within the guard. -/
theorem always_iff (V : S.Verified g inv pre) {P : ω → Prop} (hP : ∀ w, inv w → P w)
    (breaksEnv : ∀ e w w', inv w → ¬ g.env w e → S.env e w = some w' → ¬ P w')
    (breaksCall : ∀ c w r, inv w → pre w r → ¬ g.call w r c → ¬ P (S.answer c w r).2)
    {w₀ : ω} {m : Machine ρ reply ω} {tr : List (Machine ρ reply ω × Event ε χ ι)}
    (h₀ : inv w₀) (run : Run S.step (.idle w₀) tr m) :
    ((∀ p ∈ tr, P p.1.world) ∧ P m.world) ↔ ∀ p ∈ tr, g.Allows p.1 p.2 := by
  refine run.always_iff (I := V.Sound) (P := fun m => P m.world) (G := g.Allows)
    (fun m h => hP _ h.1) (fun _ _ _ h hg hstep => V.step h hg hstep) ?_ (V.sound_idle h₀)
  rintro ⟨w, task⟩ e m' ⟨hinv, hsafe⟩ hge hstep
  cases e with
  | env e =>
      obtain ⟨w', he, rfl⟩ := Option.map_eq_some_iff.1 hstep
      exact breaksEnv e w w' hinv hge he
  | answer c =>
      cases task with
      | done a => exact absurd trivial hge
      | fail => exact absurd trivial hge
      | call r k =>
          obtain rfl : _ = m' := Option.some.inj hstep
          obtain ⟨hpre, -⟩ := hsafe w Relation.ReflTransGen.refl hinv
          exact breaksCall c w r hinv hpre hge
  | start i => exact absurd trivial hge
  | crash => exact absurd trivial hge

end Verified

end System

end System

/-! ### Tasks that hand something on -/

section Handing

variable {ω ε χ ι : Type}

/-- The event keeps the condition, only tasks of the given kind start, and none is killed. -/
def Guard.Lets (g : Guard ρ ω ε χ) (starts : ι → Prop) (m : Machine ρ reply ω) :
    Event ε χ ι → Prop
  | .env e => g.Allows m (.env e : Event ε χ ι)
  | .answer c => g.Allows m (.answer c : Event ε χ ι)
  | .start i => starts i
  | .crash => False

namespace System

section Task

variable {S : System ρ reply ω ε χ ι} {g : Guard ρ ω ε χ} {inv : ω → Prop} {pre : ω → ρ → Prop}
  {Q : Option Unit → ω → Prop} {m m' : Machine ρ reply ω}

/-- What a task guarantees it guarantees after one more event, unless another task starts. -/
theorem safe_step (henv : ∀ e w w', inv w → g.env w e → S.env e w = some w' → inv w')
    (hcall : ∀ c w r, inv w → pre w r → g.call w r c → inv (S.answer c w r).2)
    (hQ : ∀ x, (S.contract g inv pre).Stable (Q x)) {e : Event ε χ ι}
    (h : inv m.world ∧ (S.contract g inv pre).Safe m.task Q m.world)
    (hg : g.Lets (fun _ => False) m e) (hstep : S.step m e = some m') :
    inv m'.world ∧ (S.contract g inv pre).Safe m'.task Q m'.world := by
  obtain ⟨w, task⟩ := m
  obtain ⟨hinv, hsafe⟩ := h
  cases e with
  | env e =>
      obtain ⟨w', he, rfl⟩ := Option.map_eq_some_iff.1 hstep
      refine ⟨henv e w w' hinv hg he, hsafe.later hQ ?_⟩
      exact Relation.ReflTransGen.single ⟨e, hinv, hg, he⟩
  | answer c =>
      cases task with
      | done a => simp [System.step] at hstep
      | fail => simp [System.step] at hstep
      | call r k =>
          obtain rfl : _ = m' := Option.some.inj hstep
          obtain ⟨hpre, hk⟩ := hsafe w Relation.ReflTransGen.refl hinv
          have hinv' := hcall c w r hinv hpre hg
          exact ⟨hinv', hk _ _ ⟨c, hg, rfl⟩ hinv'⟩
  | start i => exact hg.elim
  | crash => exact hg.elim

/-- A task that ends without another one having started has kept its guarantee. -/
theorem safe_of_run (henv : ∀ e w w', inv w → g.env w e → S.env e w = some w' → inv w')
    (hcall : ∀ c w r, inv w → pre w r → g.call w r c → inv (S.answer c w r).2)
    (hQ : ∀ x, (S.contract g inv pre).Stable (Q x))
    {tr : List (Machine ρ reply ω × Event ε χ ι)}
    (h : inv m.world ∧ (S.contract g inv pre).Safe m.task Q m.world)
    (run : Run S.step m tr m') (hg : ∀ p ∈ tr, g.Lets (fun _ => False) p.1 p.2) :
    inv m'.world ∧ (S.contract g inv pre).Safe m'.task Q m'.world :=
  (run.invariant (I := fun m => inv m.world ∧ (S.contract g inv pre).Safe m.task Q m.world)
    (fun _ _ _ h hg hstep => safe_step henv hcall hQ h hg hstep) h hg).2

end Task

/-- The invariant survives, the others leave the assertion `J` alone, and a task that starts where
`J` holds pays for its requests and ends where `J` holds. -/
structure HandsOn (S : System ρ reply ω ε χ ι) (g : Guard ρ ω ε χ) (inv : ω → Prop)
    (pre : ω → ρ → Prop) (starts : ι → Prop) (J : ω → Prop) : Prop where
  env : ∀ e w w', inv w → g.env w e → S.env e w = some w' → inv w'
  call : ∀ c w r, inv w → pre w r → g.call w r c → inv (S.answer c w r).2
  stable : (S.contract g inv pre).Stable J
  main : ∀ i w, starts i → inv w → J w → (S.contract g inv pre).Safe (S.main i) (fun _ => J) w

namespace HandsOn

variable {S : System ρ reply ω ε χ ι} {g : Guard ρ ω ε χ} {inv : ω → Prop} {pre : ω → ρ → Prop}
  {starts : ι → Prop} {J : ω → Prop}

/-- The invariant holds, and the rest of the task pays for its requests and ends well. -/
def Sound (_ : S.HandsOn g inv pre starts J) (m : Machine ρ reply ω) : Prop :=
  inv m.world ∧ (S.contract g inv pre).Safe m.task (fun _ => J) m.world

theorem step (V : S.HandsOn g inv pre starts J) {m m' : Machine ρ reply ω} {e : Event ε χ ι}
    (h : V.Sound m) (hg : g.Lets starts m e) (hstep : S.step m e = some m') : V.Sound m' := by
  cases e with
  | env e => exact safe_step V.env V.call (fun _ => V.stable) h (by exact hg) hstep
  | answer c => exact safe_step V.env V.call (fun _ => V.stable) h (by exact hg) hstep
  | start i =>
      obtain ⟨w, task⟩ := m
      obtain ⟨hinv, hsafe⟩ := h
      cases task with
      | call r k => simp [System.step] at hstep
      | done a =>
          obtain rfl : _ = m' := Option.some.inj hstep
          exact ⟨hinv, V.main i w hg hinv hsafe⟩
      | fail =>
          obtain rfl : _ = m' := Option.some.inj hstep
          exact ⟨hinv, V.main i w hg hinv hsafe⟩
  | crash => exact hg.elim

/-- What the tasks hand on holds whenever none is under way, and a request that is about to be
sent is paid for. -/
theorem sound_of_run (V : S.HandsOn g inv pre starts J) {w₀ : ω} (hinv : inv w₀) (hJ : J w₀)
    {m : Machine ρ reply ω} {tr : List (Machine ρ reply ω × Event ε χ ι)}
    (run : Run S.step (.idle w₀) tr m) (hg : ∀ p ∈ tr, g.Lets starts p.1 p.2) : V.Sound m := by
  have h₀ : V.Sound (.idle w₀) := ⟨hinv, hJ⟩
  exact (run.invariant (fun _ _ _ h hg hstep => V.step h hg hstep) h₀ hg).2

end HandsOn

end System

end Handing

end Await
