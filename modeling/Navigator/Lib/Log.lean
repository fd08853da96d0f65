/-
Append-only logs of several streams.

A log is the list of its entries, newest first.  Every entry belongs to a stream, and an
entry that is appended takes the position after the last one of its stream and a time no
earlier than that one's.

* **`Admits.holds`** — a quota of entries is kept;
* **`Extends.suffix`** — what is in a log stays there.
-/
import Mathlib

/-- Entries of type `ε` belong to streams named by `κ` and have times in `τ`. -/
class Entry (ε : Type) (κ τ : outParam Type) where
  stream : ε → κ
  position : ε → ℕ
  time : ε → τ

namespace Log

open Entry

variable {ε κ τ : Type} [Entry ε κ τ] [DecidableEq κ] [Preorder τ]

/-- The last entry of a stream. -/
def last? (log : List ε) (k : κ) : Option ε := log.find? fun e => stream e = k

/-- The entries of a stream, oldest first. -/
def entries (log : List ε) (k : κ) : List ε := (log.filter fun e => stream e = k).reverse

/-- `e` may be appended to `log`. -/
structure Next (log : List ε) (e : ε) : Prop where
  position : position e = ((last? log (stream e)).map position).getD 0 + 1
  later : ∀ e' ∈ last? log (stream e), time e' ≤ time e

/-- How many entries a stream, and a log, may have. -/
structure Quota where
  perStream : ℕ
  total : ℕ

/-- A log within a quota. -/
structure Quota.Holds (q : Quota) (log : List ε) : Prop where
  streams : ∀ k, (entries log k).length ≤ q.perStream
  total : log.length ≤ q.total

/-- `e` may be appended to `log` within a quota. -/
structure Admits (q : Quota) (log : List ε) (e : ε) : Prop extends Next log e where
  stream : (entries log (stream e)).length < q.perStream
  total : log.length < q.total

/-- A log after another: entries have been appended to it. -/
def Extends : List ε → List ε → Prop :=
  Relation.ReflTransGen fun log log' => ∃ e, Next log e ∧ log' = e :: log

namespace Extends

variable {log log1 log2 log3 : List ε}

theorem refl : Extends log log := Relation.ReflTransGen.refl

theorem append {e : ε} (h : Next log e) : Extends log (e :: log) :=
  Relation.ReflTransGen.single ⟨e, h, rfl⟩

theorem trans (h1 : Extends log1 log2) (h2 : Extends log2 log3) : Extends log1 log3 :=
  Relation.ReflTransGen.trans h1 h2

end Extends

omit [Preorder τ] in
theorem entries_cons (e : ε) (log : List ε) (k : κ) :
    entries (e :: log) k = if stream e = k then entries log k ++ [e] else entries log k := by
  unfold entries
  rw [List.filter_cons]
  by_cases hk : stream e = k <;> simp [hk]

omit [Preorder τ] in
theorem length_entries (log : List ε) (k : κ) :
    (entries log k).length = log.countP fun e => stream e = k := by
  rw [entries, List.length_reverse, List.countP_eq_length_filter]

/-! ### What appending keeps -/

/-- The quota is kept. -/
theorem Admits.holds {q : Quota} {log : List ε} {e : ε} (h : Admits q log e)
    (h0 : q.Holds log) : q.Holds (e :: log) := by
  refine ⟨fun k => ?_, h.total⟩
  rw [entries_cons]
  by_cases hk : Entry.stream e = k
  · subst hk
    rw [if_pos rfl, List.length_append]
    exact h.stream
  · rw [if_neg hk]
    exact h0.streams k

theorem Extends.suffix {log log' : List ε} (h : Extends log log') : log <:+ log' := by
  induction h with
  | refl => exact List.suffix_refl _
  | tail _ hstep ih =>
    obtain ⟨e, -, rfl⟩ := hstep
    exact ih.trans (List.suffix_cons e _)

end Log
