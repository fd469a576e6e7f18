import Mathlib.Algebra.Order.BigOperators.Group.List
import Mathlib.Data.Multiset.OrderedMonoid
import Mathlib.Tactic.Abel
import MotionStage.Data.Run

/-!
This module contains calls that run as threads over one shared state: a call begins at any time,
the threads take their steps in any order, and the surroundings may act on the shared state between
two steps. The second half accounts for resources that are owned by a thread or by the shared state.
-/

namespace Threads

variable {σ π κ ε α ρ : Type}

structure Machine (σ π κ ε α : Type) where
  enter : κ → π
  turn : σ → π → ε → σ × π
  act : σ → α → σ

structure Pool (σ π : Type) where
  shared : σ
  threads : List π

/--
The threads are numbered in the order of their calls.
-/
inductive Event (κ ε α : Type) where
  | call (k : κ)
  | turn (i : Nat) (input : ε)
  | act (a : α)

namespace Machine

variable (m : Machine σ π κ ε α)

def step (p : Pool σ π) : Event κ ε α → Pool σ π
  | .call k => { p with threads := p.threads ++ [m.enter k] }
  | .turn i input =>
    match p.threads[i]? with
    | none => p
    | some thread =>
      let (shared, thread) := m.turn p.shared thread input
      ⟨shared, p.threads.set i thread⟩
  | .act a => { p with shared := m.act p.shared a }

def OnStep (C : σ → π → ε → Prop) (A : σ → α → Prop) (p : Pool σ π) : Event κ ε α → Prop
  | .call _ => True
  | .turn i input => ∀ thread ∈ p.threads[i]?, C p.shared thread input
  | .act a => A p.shared a

instance {C : σ → π → ε → Prop} {A : σ → α → Prop} [∀ s t input, Decidable (C s t input)]
    [∀ s a, Decidable (A s a)] (p : Pool σ π) (e : Event κ ε α)
    : Decidable (OnStep C A p e) := by
  cases e <;> (unfold OnStep; infer_instance)

theorem step_turn_none {p : Pool σ π} {i : Nat} (h : p.threads[i]? = none) (input : ε)
    : m.step p (.turn i input) = p := by
  simp only [step, h]

theorem step_turn_some {p : Pool σ π} {i : Nat} {thread : π} (h : p.threads[i]? = some thread)
    (input : ε)
    : m.step p (.turn i input)
        =
      ⟨(m.turn p.shared thread input).1, p.threads.set i (m.turn p.shared thread input).2⟩ := by
  simp only [step, h]

omit m in
theorem exists_mem_set {threads : List π} {i : Nat} {thread : π} (h : threads[i]? = some thread)
    (thread' : π) (P : π → Prop)
    : ((∃ t ∈ threads.set i thread', P t) ∨ P thread) ↔ (P thread' ∨ ∃ t ∈ threads, P t) := by
  induction threads generalizing i with
  | nil => simp at h
  | cons first threads ih =>
    cases i with
    | zero =>
      obtain rfl : first = thread := by simpa using h
      simp only [List.set_cons_zero, List.exists_mem_cons_iff]
      rw [or_assoc, or_comm (b := P first)]
    | succ i =>
      have hrest := ih (i := i) (by simpa using h)
      simp only [List.set_cons_succ, List.exists_mem_cons_iff]
      rw [or_assoc, hrest, or_left_comm]

variable {m} {P : σ → Prop} {C : σ → π → ε → Prop} {A : σ → α → Prop}

theorem shared_step_iff (hturn : ∀ s t input, P s → (P (m.turn s t input).1 ↔ C s t input))
    (hact : ∀ s a, P s → (P (m.act s a) ↔ A s a)) {p : Pool σ π} (hp : P p.shared)
    (e : Event κ ε α)
    : P (m.step p e).shared ↔ OnStep C A p e := by
  cases e with
  | call k => exact iff_of_true hp trivial
  | act a => exact hact p.shared a hp
  | turn i input =>
    cases h : p.threads[i]? with
    | none =>
      rw [m.step_turn_none h]
      simp [OnStep, h, hp]
    | some thread =>
      rw [m.step_turn_some h]
      simp [OnStep, h, hturn _ _ _ hp]

/--
The rule for a property of the shared state: it is enough to look at the turns and the actions.
-/
theorem allStates_shared_iff (hturn : ∀ s t input, P s → (P (m.turn s t input).1 ↔ C s t input))
    (hact : ∀ s a, P s → (P (m.act s a) ↔ A s a)) {p : Pool σ π} (hp : P p.shared)
    (es : List (Event κ ε α))
    : Run.AllStates m.step (fun p => P p.shared) p es ↔ Run.AllSteps m.step (OnStep C A) p es :=
  Run.allStates_iff_allSteps (fun _ e hs => shared_step_iff hturn hact hs e) hp

theorem shared_invariant (hturn : ∀ s t input, P s → P (m.turn s t input).1)
    (hact : ∀ s a, P s → P (m.act s a)) {p : Pool σ π} (hp : P p.shared)
    (es : List (Event κ ε α))
    : P (Run.run m.step p es).shared := by
  have hall : Run.AllStates m.step (fun p => P p.shared) p es := by
    apply (allStates_shared_iff (C := fun _ _ _ => True) (A := fun _ _ => True) _ _ hp es).mpr
    . rw [Run.allSteps_iff_log]
      rintro ⟨p, e⟩ -
      cases e <;> simp [OnStep]
    . exact fun s t input hs => iff_of_true (hturn s t input hs) trivial
    . exact fun s a hs => iff_of_true (hact s a hs) trivial
  exact hall.last

variable (m) in
def alone (s : σ) (thread : π) (inputs : List ε) : σ × π :=
  inputs.foldl (fun next input => m.turn next.1 next.2 input) (s, thread)

theorem run_turns {p : Pool σ π} {i : Nat} {thread : π} (h : p.threads[i]? = some thread)
    (inputs : List ε)
    : Run.run m.step p (inputs.map (.turn i))
        =
      ⟨(m.alone p.shared thread inputs).1, p.threads.set i (m.alone p.shared thread inputs).2⟩ := by
  induction inputs generalizing p thread with
  | nil =>
    have hset : p.threads.set i thread = p.threads := by
      obtain ⟨hi, rfl⟩ := List.getElem?_eq_some_iff.mp h
      exact List.set_getElem_self hi
    simp [alone, hset]
  | cons input inputs ih =>
    have hi : i < p.threads.length := (List.getElem?_eq_some_iff.mp h).1
    have hnext : (p.threads.set i (m.turn p.shared thread input).2)[i]?
        = some (m.turn p.shared thread input).2 :=
      List.getElem?_set_self hi
    rw [List.map_cons, Run.run_cons, m.step_turn_some h, ih hnext]
    simp [alone]

variable (m) in
def Settles (input : ε) (s : σ) (thread : π) (n : Nat) (last : σ × π) : Prop :=
  ∀ k, n ≤ k → m.alone s thread (List.replicate k input) = last

theorem Settles.rest {s : σ} {thread : π} {input : ε} (h : m.turn s thread input = (s, thread))
    (n : Nat)
    : m.Settles input s thread n (s, thread) := by
  rintro k -
  induction k with
  | zero => rfl
  | succ k ih => simpa [alone, List.replicate_succ, h] using ih

theorem Settles.turn {s : σ} {thread : π} {input : ε} {n : Nat} {next last : σ × π}
    (hturn : m.turn s thread input = next) (h : m.Settles input next.1 next.2 n last)
    : m.Settles input s thread (n + 1) last := by
  intro k hk
  obtain ⟨k, rfl⟩ : ∃ k', k = k' + 1 := ⟨k - 1, by omega⟩
  simpa [alone, List.replicate_succ, hturn] using h k (by omega)

theorem Settles.mono {s : σ} {thread : π} {input : ε} {n n' : Nat} {last : σ × π}
    (h : m.Settles input s thread n last) (hn : n ≤ n')
    : m.Settles input s thread n' last :=
  fun k hk => h k (hn.trans hk)

end Machine

section Ledger

/--
What a step of the pool loses, where `lost` says it for the turn of a thread.
-/
def lostBy (lost : σ → π → ε → Multiset ρ) (p : Pool σ π) : Event κ ε α → Multiset ρ
  | .turn i input => (p.threads[i]?.map fun thread => lost p.shared thread input).getD 0
  | _ => 0

def lostIn (lost : σ → π → ε → Multiset ρ) (log : List (Pool σ π × Event κ ε α)) : Multiset ρ :=
  (log.map fun entry => lostBy lost entry.1 entry.2).sum

theorem lostBy_le_lostIn (lost : σ → π → ε → Multiset ρ) {log : List (Pool σ π × Event κ ε α)}
    {entry : Pool σ π × Event κ ε α} (h : entry ∈ log)
    : lostBy lost entry.1 entry.2 ≤ lostIn lost log :=
  List.le_sum_of_mem (List.mem_map_of_mem (f := fun entry => lostBy lost entry.1 entry.2) h)

theorem lostIn_eq_zero {lost : σ → π → ε → Multiset ρ} {log : List (Pool σ π × Event κ ε α)}
    (h : ∀ entry ∈ log, lostBy lost entry.1 entry.2 = 0)
    : lostIn lost log = 0 := by
  apply List.sum_eq_zero_iff.mpr
  simpa only [List.forall_mem_map] using h

/--
Which resources are alive, and which of them the shared state and a thread own.
-/
structure Ledger (σ π ρ : Type) where
  alive : σ → Multiset ρ
  stored : σ → Multiset ρ
  held : π → Multiset ρ

namespace Ledger

variable (l : Ledger σ π ρ)

def owned (p : Pool σ π) : Multiset ρ := l.stored p.shared + (p.threads.map l.held).sum

/--
A turn is balanced if what is alive changes by what the turn takes into or out of ownership, up to
what it loses.
-/
def Balanced (m : Machine σ π κ ε α) (lost : σ → π → ε → Multiset ρ) : Prop :=
  ∀ s thread input, l.stored s + l.held thread ≤ l.alive s →
    l.alive (m.turn s thread input).1 + (l.stored s + l.held thread)
      =
    l.alive s + (l.stored (m.turn s thread input).1 + l.held (m.turn s thread input).2)
      + lost s thread input

theorem sum_map_set {f : π → Multiset ρ} {threads : List π} {i : Nat} {thread : π}
    (h : threads[i]? = some thread) (thread' : π)
    : ((threads.set i thread').map f).sum + f thread = (threads.map f).sum + f thread' := by
  induction threads generalizing i with
  | nil => simp at h
  | cons first threads ih =>
    cases i with
    | zero =>
      obtain rfl : first = thread := by simpa using h
      simp only [List.set_cons_zero, List.map_cons, List.sum_cons]
      abel
    | succ i =>
      have := ih (i := i) (by simpa using h)
      simp only [List.set_cons_succ, List.map_cons, List.sum_cons]
      rw [add_assoc, this, add_assoc]

theorem held_le_sum {f : π → Multiset ρ} {threads : List π} {i : Nat} {thread : π}
    (h : threads[i]? = some thread)
    : f thread ≤ (threads.map f).sum :=
  List.le_sum_of_mem (List.mem_map_of_mem (List.mem_of_getElem? h))

variable {l} {m : Machine σ π κ ε α} {lost : σ → π → ε → Multiset ρ}

theorem step_accounted (hm : l.Balanced m lost) (hcall : ∀ k, l.held (m.enter k) = 0)
    (hact : ∀ s a, l.alive (m.act s a) = l.alive s ∧ l.stored (m.act s a) = l.stored s)
    {p : Pool σ π} {stray : Multiset ρ} (hp : l.alive p.shared = l.owned p + stray)
    (e : Event κ ε α)
    : l.alive (m.step p e).shared = l.owned (m.step p e) + (stray + lostBy lost p e) := by
  cases e with
  | call k => simpa [Machine.step, owned, lostBy, hcall] using hp
  | act a =>
    obtain ⟨halive, hstored⟩ := hact p.shared a
    simpa [Machine.step, owned, lostBy, halive, hstored] using hp
  | turn i input =>
    cases h : p.threads[i]? with
    | none =>
      rw [m.step_turn_none h]
      simpa [lostBy, h] using hp
    | some thread =>
      have hle : l.stored p.shared + l.held thread ≤ l.alive p.shared := by
        rw [hp, owned]
        exact le_add_right (add_le_add_right (held_le_sum h) _)
      have hbalance := hm p.shared thread input hle
      have hsum := sum_map_set (f := l.held) h (m.turn p.shared thread input).2
      rw [m.step_turn_some h]
      simp only [owned, lostBy, h, Option.map_some, Option.getD_some] at hp ⊢
      generalize m.turn p.shared thread input = next at *
      -- what the thread owned before its turn is added to both sides
      apply add_right_cancel (b := l.stored p.shared + l.held thread)
      rw [hbalance, hp]
      calc
        l.stored p.shared + (p.threads.map l.held).sum + stray
            + (l.stored next.1 + l.held next.2) + lost p.shared thread input
          = l.stored p.shared + l.stored next.1 + stray + lost p.shared thread input
              + ((p.threads.map l.held).sum + l.held next.2) := by abel
        _ = l.stored p.shared + l.stored next.1 + stray + lost p.shared thread input
              + (((p.threads.set i next.2).map l.held).sum + l.held thread) := by rw [hsum]
        _ = l.stored next.1 + ((p.threads.set i next.2).map l.held).sum
              + (stray + lost p.shared thread input) + (l.stored p.shared + l.held thread) := by
          abel

theorem run_accounted (hm : l.Balanced m lost) (hcall : ∀ k, l.held (m.enter k) = 0)
    (hact : ∀ s a, l.alive (m.act s a) = l.alive s ∧ l.stored (m.act s a) = l.stored s)
    {p : Pool σ π} (hp : l.alive p.shared = l.owned p) (es : List (Event κ ε α))
    : l.alive (Run.run m.step p es).shared
        =
      l.owned (Run.run m.step p es) + lostIn lost (Run.log m.step p es) := by
  apply Run.log_invariant (H := fun log p => l.alive p.shared = l.owned p + lostIn lost log)
  . intro log p e hlog
    rw [step_accounted hm hcall hact hlog e]
    simp [lostIn]
  . simpa [lostIn] using hp

end Ledger

end Ledger

end Threads
