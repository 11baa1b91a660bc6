/-
**Resumable decoders: reading a stream in pieces.**

A decoder looks at the bytes a connection has buffered and either produces one output, leaving
the rest of the buffer, or asks for more input, again leaving a rest (it may have thrown away a
part that no continuation can make meaningful).  A connection drains the decoder after every
read.  The question of this module is when the cuts between the reads are invisible.

Two laws are enough, and `Resumable.Decoder` carries them as fields: an output does not depend on
what follows the buffer, and a decoder that asks for more would have reached the same verdict
from the rest it left as from the buffer it was given.

Main definitions:

* `Resumable.Decoder` — a decoder with its laws;
* `Resumable.Decoder.drain` — the outputs of a buffer, until the decoder asks for more;
* `Resumable.Decoder.consume` — the same loop, handing every output to a stateful handler;
* `Resumable.Decoder.feed` — the loop of a connection over a list of reads.

Main results:

* `Resumable.Decoder.drain_append` — draining a longer buffer is draining in two goes;
* `Resumable.Decoder.consume_eq` — the handler sees exactly the outputs of `drain`, in order;
* `Resumable.Decoder.feed_eq` — **chunking invariance**: reading in pieces is reading at once.
-/

import Mathlib

set_option relaxedAutoImplicit false
set_option autoImplicit false

namespace Resumable

/-- A decoder of streams over `β` with outputs in `ω`.  `next` answers `none` when it needs more
input; the second component is the part of the buffer that is kept. -/
structure Decoder (β ω : Type) where
  /-- One call on the buffered bytes. -/
  next : List β → Option ω × List β
  /-- What is kept is a suffix of what was buffered. -/
  next_suffix : ∀ s, (next s).2 <:+ s
  /-- An output consumes input. -/
  next_shrinks : ∀ {s o r}, next s = (some o, r) → r.length < s.length
  /-- An output does not depend on later input. -/
  next_append : ∀ {s o r} (t), next s = (some o, r) → next (s ++ t) = (some o, r ++ t)
  /-- A decoder that waits resumes from what it kept. -/
  next_wait : ∀ {s r} (t), next s = (none, r) → next (s ++ t) = next (r ++ t)

namespace Decoder

variable {β ω σ : Type} (d : Decoder β ω)

theorem next_rest_length_le (s : List β) : (d.next s).2.length ≤ s.length :=
  (d.next_suffix s).length_le

/-- What a waiting decoder kept is a buffer on which it waits. -/
theorem next_kept {s r : List β} (h : d.next s = (none, r)) : d.next r = (none, r) := by
  have hw := d.next_wait [] h
  simpa [h] using hw.symm

@[simp] theorem next_nil : d.next [] = (none, []) := by
  rcases h : d.next [] with ⟨_ | o, r⟩
  · have hr : r <:+ [] := by simpa [h] using d.next_suffix []
    rw [List.suffix_nil.1 hr]
  · have := d.next_shrinks h
    simp at this

/-! ### Draining a buffer -/

/-- All the outputs of a buffer, and what is kept once the decoder asks for more. -/
def drain (s : List β) : List ω × List β :=
  match _h : d.next s with
  | (none, r) => ([], r)
  | (some o, r) => (drain r).map (o :: ·) id
termination_by s.length
decreasing_by exact d.next_shrinks _h

theorem drain_of_wait {s r : List β} (h : d.next s = (none, r)) : d.drain s = ([], r) := by
  rw [drain]
  split
  · rename_i r' h'
    rw [h] at h'
    simp only [Prod.mk.injEq, true_and] at h'
    rw [h']
  · rename_i o r' h'
    rw [h] at h'
    simp at h'

theorem drain_of_output {s r : List β} {o : ω} (h : d.next s = (some o, r)) :
    d.drain s = (o :: (d.drain r).1, (d.drain r).2) := by
  rw [drain]
  split
  · rename_i r' h'
    rw [h] at h'
    simp at h'
  · rename_i o' r' h'
    rw [h] at h'
    simp only [Prod.mk.injEq, Option.some.injEq] at h'
    obtain ⟨rfl, rfl⟩ := h'
    rfl

/-- Buffers on which the next call is the same drain alike. -/
theorem drain_congr {s t : List β} (h : d.next s = d.next t) : d.drain s = d.drain t := by
  rcases ht : d.next t with ⟨_ | o, r⟩
  · rw [d.drain_of_wait (h.trans ht), d.drain_of_wait ht]
  · rw [d.drain_of_output (h.trans ht), d.drain_of_output ht]

/-- Induction along the calls of a drained decoder: one case for a call that waits, one for a
call that produces an output. -/
theorem drain_induction {P : List β → Prop}
    (wait : ∀ s r, d.next s = (none, r) → P s)
    (output : ∀ s o r, d.next s = (some o, r) → P r → P s) : ∀ s, P s := by
  intro s
  induction hn : s.length using Nat.strong_induction_on generalizing s with
  | _ n ih =>
      rcases h : d.next s with ⟨_ | o, r⟩
      · exact wait s r h
      · have hlt : r.length < n := by rw [← hn]; exact d.next_shrinks h
        exact output s o r h (ih r.length hlt r rfl)

/-- The decoder waits on what draining keeps. -/
theorem next_drain (s : List β) : d.next (d.drain s).2 = (none, (d.drain s).2) := by
  induction s using d.drain_induction with
  | wait s r h => rw [d.drain_of_wait h]; exact d.next_kept h
  | output s o r h ih => rw [d.drain_of_output h]; exact ih

/-- Draining what was kept together with new input is draining the whole input. -/
theorem drain_append (s t : List β) :
    d.drain (s ++ t) =
      ((d.drain s).1 ++ (d.drain ((d.drain s).2 ++ t)).1, (d.drain ((d.drain s).2 ++ t)).2) := by
  induction s using d.drain_induction with
  | wait s r h =>
      rw [d.drain_of_wait h, d.drain_congr (d.next_wait t h)]
      rfl
  | output s o r h ih =>
      rw [d.drain_of_output (d.next_append t h), d.drain_of_output h, ih]
      rfl

/-! ### Handing the outputs to a handler -/

/-- The loop of a connection between two reads: call the decoder until it asks for more, and
hand every output to `handle`. -/
def consume (handle : σ → ω → σ) (c : σ) (s : List β) : σ × List β :=
  match _h : d.next s with
  | (none, r) => (c, r)
  | (some o, r) => consume handle (handle c o) r
termination_by s.length
decreasing_by exact d.next_shrinks _h

/-- The handler sees the drained outputs, in order. -/
theorem consume_eq (handle : σ → ω → σ) (c : σ) (s : List β) :
    d.consume handle c s = ((d.drain s).1.foldl handle c, (d.drain s).2) := by
  induction s using d.drain_induction generalizing c with
  | wait s r h =>
      rw [d.drain_of_wait h, consume]
      split
      · rename_i r' h'
        rw [h] at h'
        simp only [Prod.mk.injEq, true_and] at h'
        rw [h']
        rfl
      · rename_i o r' h'
        rw [h] at h'
        simp at h'
  | output s o r h ih =>
      rw [d.drain_of_output h, consume]
      split
      · rename_i r' h'
        rw [h] at h'
        simp at h'
      · rename_i o' r' h'
        rw [h] at h'
        simp only [Prod.mk.injEq, Option.some.injEq] at h'
        obtain ⟨rfl, rfl⟩ := h'
        rw [ih]
        rfl

/-! ### Reading in pieces -/

/-- The loop of a connection: append each read to the buffer and drain. -/
def feed (handle : σ → ω → σ) : σ × List β → List (List β) → σ × List β
  | (c, s), [] => (c, s)
  | (c, s), chunk :: chunks => feed handle (d.consume handle c (s ++ chunk)) chunks

/-- **Chunking invariance**: from a buffer on which the decoder waits, reading in pieces hands
the outputs of the whole input to the handler and keeps what draining the whole input keeps. -/
theorem feed_eq (handle : σ → ω → σ) (c : σ) {s : List β} (hs : d.next s = (none, s))
    (chunks : List (List β)) :
    d.feed handle (c, s) chunks =
      ((d.drain (s ++ chunks.flatten)).1.foldl handle c, (d.drain (s ++ chunks.flatten)).2) := by
  induction chunks generalizing c s with
  | nil => simp [feed, d.drain_of_wait hs]
  | cons chunk chunks ih =>
      rw [feed, d.consume_eq, ih _ (d.next_drain (s ++ chunk)), List.flatten_cons,
        ← List.append_assoc, d.drain_append (s ++ chunk), List.foldl_append]

end Decoder

end Resumable
