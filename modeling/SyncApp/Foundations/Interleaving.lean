import SyncApp.Foundations.Machine

/-!
# Interleaved calls on a shared state

A call is done or about to take one indivisible action on the shared state.  A schedule starts
calls, lets one take its next action, or stops the process, which loses the calls and what does not
outlive it.

Main results:

- `safe_final`: what each action keeps, whatever the other calls do, holds after every schedule.
- `serial_final`: the same for calls that do not overlap.
- `Ensures.cut`: what holds wherever a call is cut off.
-/

namespace Foundations.Interleaving

open List

/-- A call in progress. -/
inductive Task (S α : Type) where
  | done (result : α)
  | act (change : S → S) (rest : S → Task S α)

namespace Task

variable {S α β : Type}

/-- Look at the state. -/
def read (rest : S → Task S α) : Task S α := .act id rest

def write (change : S → S) (rest : Task S α) : Task S α := .act change fun _ => rest

/-- One call after another. -/
def bind : Task S α → (α → Task S β) → Task S β
  | .done a, k => k a
  | .act change rest, k => .act change fun s => (rest s).bind k

def ended : Task S α → Bool
  | .done _ => true
  | .act _ _ => false

/-- The next action. -/
def step : Task S α → S → Task S α × S
  | .done a, s => (.done a, s)
  | .act change rest, s => (rest s, change s)

/-- The call by itself, from beginning to end. -/
def alone : Task S α → S → α × S
  | .done a, s => (a, s)
  | .act change rest, s => (rest s).alone (change s)

/-- The state when the call is cut off after a number of actions. -/
def cut : Nat → Task S α → S → S
  | 0, _, s => s
  | _ + 1, .done _, s => s
  | n + 1, .act change rest, s => (rest s).cut n (change s)

@[simp]
lemma alone_done (a : α) (s : S) : (Task.done a).alone s = (a, s) := rfl

variable (change : S → S) (rest : S → Task S α)

@[simp]
lemma alone_act (s : S) : (Task.act change rest).alone s = (rest s).alone (change s) := rfl

@[simp]
lemma alone_read (s : S) : (read rest).alone s = (rest s).alone s := rfl

@[simp]
lemma alone_write (rest : Task S α) (s : S) :
    (write change rest).alone s = rest.alone (change s) := rfl

lemma alone_bind (task : Task S α) (k : α → Task S β) (s : S) :
    (task.bind k).alone s = (k (task.alone s).1).alone (task.alone s).2 := by
  induction task generalizing s with
  | done => rfl
  | act change rest ih => exact ih s (change s)

end Task

/-- The calls in progress and the state they share. -/
structure Pool (S α : Type) where
  state : S
  tasks : List (Task S α)

/-- What a schedule can do. -/
inductive Event (C : Type) where
  | start (call : C)
  | run (index : Nat)
  | restart

section Schedules

variable {S C α : Type} (prog : C → Task S α) (reboot : S → S)

def Pool.step (p : Pool S α) : Event C → Unit × Pool S α
  | .start call => ((), { p with tasks := p.tasks ++ [prog call] })
  | .run index =>
    match p.tasks[index]? with
    | none => ((), p)
    | some task =>
      let next := task.step p.state
      ((), ⟨next.2, p.tasks.set index next.1⟩)
  | .restart => ((), ⟨reboot p.state, []⟩)

def Pool.after (p : Pool S α) (events : List (Event C)) : Pool S α :=
  Machine.final (Pool.step prog reboot) p events

end Schedules

/-- An invariant of the state, and the changes every call must be prepared for. -/
structure Discipline (S : Type) where
  inv : S → Prop
  rel : S → S → Prop
  refl : ∀ s, rel s s
  trans : ∀ {s t u}, rel s t → rel t u → rel s u

variable {S C α β : Type} (D : Discipline S)

/-- From a state on, whatever the other calls do, each action of the call keeps to the
discipline, and its result is as promised. -/
def Safe (post : α → S → Prop) : Task S α → S → Prop
  | .done a, s => ∀ t, D.rel s t → D.inv t → post a t
  | .act change rest, s =>
    ∀ t, D.rel s t → D.inv t → D.rel t (change t) ∧ D.inv (change t) ∧ Safe post (rest t) (change t)

variable {D} {post : α → S → Prop} {s t : S}

lemma Safe.done {a : α} (h : ∀ t, D.rel s t → D.inv t → post a t) : Safe D post (.done a) s := h

lemma Safe.read {rest : S → Task S α}
    (h : ∀ t, D.rel s t → D.inv t → Safe D post (rest t) t) : Safe D post (.read rest) s :=
  fun t hst ht => ⟨D.refl t, ht, h t hst ht⟩

lemma Safe.write {change : S → S} {rest : Task S α} (h : ∀ t, D.rel s t → D.inv t →
      D.rel t (change t) ∧ D.inv (change t) ∧ Safe D post rest (change t)) :
    Safe D post (.write change rest) s := h

variable {task : Task S α} {p : Pool S α}

/-- What other calls do leaves a call safe. -/
lemma Safe.mono (h : Safe D post task s) (hst : D.rel s t) : Safe D post task t := by
  cases task with
  | done | act =>
    intro u htu hu
    exact h u (D.trans hst htu) hu

/-- A call is safe if it is so in every state in which it can take its first action. -/
lemma Safe.of_forall (h : ∀ t, D.rel s t → D.inv t → Safe D post task t) :
    Safe D post task s := by
  cases task with
  | done | act =>
    intro t hst ht
    exact h t hst ht t (D.refl t) ht

lemma Safe.bind {post' : β → S → Prop} {k : α → Task S β} (h : Safe D post task s)
    (hk : ∀ a t, D.rel s t → D.inv t → post a t → Safe D post' (k a) t) :
    Safe D post' (task.bind k) s := by
  induction task generalizing s with
  | done a =>
    apply Safe.of_forall
    intro t hst ht
    exact hk a t hst ht (h t hst ht)
  | act change rest ih =>
    intro t hst ht
    rcases h t hst ht with ⟨hrel, hinv, hrest⟩
    refine ⟨hrel, hinv, ih t hrest ?_⟩
    intro a u htu hu hpost
    exact hk a u (D.trans hst (D.trans hrel htu)) hu hpost

lemma Safe.step (h : Safe D post task s) (hs : D.inv s) :
    D.rel s (task.step s).2 ∧ D.inv (task.step s).2 ∧
      Safe D post (task.step s).1 (task.step s).2 := by
  cases task with
  | done => exact ⟨D.refl s, hs, h⟩
  | act => exact h s (D.refl s) hs

/-- The invariant holds and every call in progress is safe. -/
structure Pool.Safe (D : Discipline S) (post : α → S → Prop) (p : Pool S α) : Prop where
  inv : D.inv p.state
  tasks : ∀ task ∈ p.tasks, Interleaving.Safe D post task p.state

variable {prog : C → Task S α} {reboot : S → S}

lemma Pool.Safe.step (hprog : ∀ call s, Interleaving.Safe D post (prog call) s)
    (h : p.Safe D post) (event : Event C) (hreboot : event = .restart → D.inv (reboot p.state)) :
    (p.step prog reboot event).2.Safe D post := by
  cases event with
  | start call =>
    refine ⟨h.inv, ?_⟩
    exact forall_mem_append.mpr ⟨h.tasks, forall_mem_singleton.mpr (hprog call p.state)⟩
  | run index =>
    cases hget : p.tasks[index]? with
    | none =>
      simp only [Pool.step, hget]
      exact h
    | some task =>
      simp only [Pool.step, hget]
      rcases (h.tasks task (mem_of_getElem? hget)).step h.inv with ⟨hrel, hinv, hsafe⟩
      refine ⟨hinv, ?_⟩
      intro other hother
      rcases mem_or_eq_of_mem_set hother with hold | rfl
      · exact (h.tasks other hold).mono hrel
      · exact hsafe
  | restart => exact ⟨hreboot rfl, by simp [Pool.step]⟩

theorem safe_final (hprog : ∀ call s, Safe D post (prog call) s)
    (hreboot : ∀ s, D.inv s → D.inv (reboot s)) (h : p.Safe D post) (events : List (Event C)) :
    (p.after prog reboot events).Safe D post :=
  Machine.invariant_final _
    (fun q event hq => hq.step hprog event fun _ => hreboot q.state hq.inv) h events

/-- The process stops only in some states. -/
def Pool.Stops (restartable : S → Prop) (p : Pool S α) : Event C → Prop
  | .start _ => True
  | .run _ => True
  | .restart => restartable p.state

instance decidableStops (restartable : S → Prop) [DecidablePred restartable] (p : Pool S α) :
    ∀ event : Event C, Decidable (p.Stops restartable event)
  | .start _ | .run _ => isTrue trivial
  | .restart => inferInstanceAs (Decidable (restartable p.state))

/-- The same for schedules that stop the process only in states the invariant survives. -/
lemma safe_guarded (hprog : ∀ call s, Safe D post (prog call) s) {restartable : S → Prop}
    (hreboot : ∀ s, D.inv s → restartable s → D.inv (reboot s)) (h : p.Safe D post)
    {events : List (Event C)}
    (hstops : Machine.Guarded (Pool.step prog reboot) (Pool.Stops restartable) p events) :
    (p.after prog reboot events).Safe D post :=
  Machine.guarded_final _
    (fun q event hq hev => hq.step hprog event fun heq => by
      subst heq
      exact hreboot q.state hq.inv hev) h hstops

/-! ## One call at a time -/

/-- Left alone, the call keeps the invariant with each action and ends as promised. -/
def Ensures (inv : S → Prop) (post : α → S → Prop) : Task S α → S → Prop
  | .done a, s => post a s
  | .act change rest, s => inv (change s) ∧ Ensures inv post (rest s) (change s)

section Serial

variable {inv idle restartable : S → Prop}

lemma Ensures.read {rest : S → Task S α} (hs : inv s) (h : Ensures inv post (rest s) s) :
    Ensures inv post (.read rest) s := ⟨hs, h⟩

lemma Ensures.write {change : S → S} {rest : Task S α} (hs : inv (change s))
    (h : Ensures inv post rest (change s)) : Ensures inv post (.write change rest) s := ⟨hs, h⟩

variable {task : Task S α} {p : Pool S α}

section

variable (h : Ensures inv post task s)
include h

lemma Ensures.bind {post' : β → S → Prop} {k : α → Task S β}
    (hk : ∀ a t, post a t → Ensures inv post' (k a) t) : Ensures inv post' (task.bind k) s := by
  induction task generalizing s with
  | done a => exact hk a s h
  | act change rest ih => exact ⟨h.1, ih s h.2⟩

lemma Ensures.mono {inv' : S → Prop} {post' : α → S → Prop} (hinv : ∀ t, inv t → inv' t)
    (hpost : ∀ a t, post a t → post' a t) : Ensures inv' post' task s := by
  induction task generalizing s with
  | done a => exact hpost a s h
  | act change rest ih => exact ⟨hinv _ h.1, ih s h.2⟩

lemma Ensures.alone : post (task.alone s).1 (task.alone s).2 := by
  induction task generalizing s with
  | done => exact h
  | act change rest ih => exact ih s h.2

theorem Ensures.cut (hs : inv s) (n : Nat) : inv (task.cut n s) := by
  induction n generalizing task s with
  | zero => exact hs
  | succ n ih =>
    cases task with
    | done => exact hs
    | act => exact ih h.2 h.1

end

/-- No call is in progress. -/
def Pool.Quiet (p : Pool S α) : Prop := ∀ task ∈ p.tasks, task.ended = true
deriving Decidable

/-- Calls start one after the other, and the process stops only in some states. -/
def Pool.Serial (restartable : S → Prop) (p : Pool S α) : Event C → Prop
  | .start _ => p.Quiet
  | .run _ => True
  | .restart => restartable p.state

instance decidableSerial (restartable : S → Prop) [DecidablePred restartable] (p : Pool S α) :
    ∀ event : Event C, Decidable (p.Serial restartable event)
  | .start _ => inferInstanceAs (Decidable p.Quiet)
  | .run _ => isTrue trivial
  | .restart => inferInstanceAs (Decidable (restartable p.state))

/-- At most one call is in progress, and the rest of it can be left alone. -/
structure Pool.Alone (inv idle : S → Prop) (p : Pool S α) : Prop where
  kept : inv p.state
  quiet : p.Quiet → idle p.state
  busy : ∀ (i : Nat) (task : Task S α), p.tasks[i]? = some task → task.ended = false →
    Ensures inv (fun _ => idle) task p.state ∧
      ∀ (j : Nat) (other : Task S α), p.tasks[j]? = some other → other.ended = false → j = i

lemma Ensures.idle_of_ended (h : Ensures inv (fun _ => idle) task s)
    (hended : task.ended = true) : idle s := by
  cases task with
  | done => exact h
  | act => cases hended

lemma Pool.Alone.start (h : p.Alone inv idle) (hquiet : p.Quiet)
    (htask : Ensures inv (fun _ => idle) task p.state) :
    (⟨p.state, p.tasks ++ [task]⟩ : Pool S α).Alone inv idle := by
  -- A call that has not ended is the new one.
  have hnew : ∀ (i : Nat) (other : Task S α), (p.tasks ++ [task])[i]? = some other →
      other.ended = false → i = p.tasks.length ∧ other = task := by
    intro i other hget hopen
    rcases Nat.lt_trichotomy i p.tasks.length with hlt | rfl | hgt
    · rw [getElem?_append_left hlt] at hget
      rw [hquiet other (mem_of_getElem? hget)] at hopen
      cases hopen
    · rw [getElem?_concat_length] at hget
      exact ⟨rfl, (Option.some.inj hget).symm⟩
    · rw [getElem?_eq_none (by simp; omega)] at hget
      cases hget
  refine ⟨h.kept, ?_, ?_⟩
  · intro hall
    exact htask.idle_of_ended (hall task (by simp))
  · intro i other hget hopen
    rcases hnew i other hget hopen with ⟨rfl, rfl⟩
    exact ⟨htask, fun j other' hget' hopen' => (hnew j other' hget' hopen').1⟩

lemma Pool.Alone.run (h : p.Alone inv idle) {i : Nat} (hget : p.tasks[i]? = some task) :
    (⟨(task.step p.state).2, p.tasks.set i (task.step p.state).1⟩ : Pool S α).Alone inv idle := by
  have hlt : i < p.tasks.length := (List.getElem?_eq_some_iff.mp hget).1
  cases task with
  | done a =>
    have hsame : p.tasks.set i (.done a) = p.tasks := by
      rw [← (List.getElem?_eq_some_iff.mp hget).2, set_getElem_self]
    simp only [Task.step, hsame]
    exact h
  | act change rest =>
    rcases h.busy i _ hget rfl with ⟨⟨hinv, hrest⟩, honly⟩
    -- Every other call has ended.
    have hnew : ∀ (j : Nat) (other : Task S α),
        (p.tasks.set i (rest p.state))[j]? = some other → other.ended = false →
        j = i ∧ other = rest p.state := by
      intro j other hget' hopen
      rcases eq_or_ne i j with rfl | hne
      · rw [getElem?_set_self hlt] at hget'
        exact ⟨rfl, (Option.some.inj hget').symm⟩
      · rw [getElem?_set_ne hne] at hget'
        exact absurd (honly j other hget' hopen).symm hne
    refine ⟨hinv, ?_, ?_⟩
    · intro hall
      exact hrest.idle_of_ended (hall _ (mem_set hlt _))
    · intro j other hget' hopen
      rcases hnew j other hget' hopen with ⟨rfl, rfl⟩
      exact ⟨hrest, fun k other' hk hopen' => (hnew k other' hk hopen').1⟩

variable (hprog : ∀ call s, inv s → idle s → Ensures inv (fun _ => idle) (prog call) s)
  (hreboot : ∀ s, inv s → restartable s → inv (reboot s) ∧ idle (reboot s))
include hprog hreboot

lemma Pool.Alone.step (h : p.Alone inv idle) (event : Event C)
    (hev : p.Serial restartable event) : (p.step prog reboot event).2.Alone inv idle := by
  cases event with
  | start call => exact h.start hev (hprog call p.state h.kept (h.quiet hev))
  | run index =>
    cases hget : p.tasks[index]? with
    | none =>
      simp only [Pool.step, hget]
      exact h
    | some =>
      simp only [Pool.step, hget]
      exact h.run hget
  | restart =>
    rcases hreboot p.state h.kept hev with ⟨hinv, hidle⟩
    exact ⟨hinv, fun _ => hidle, fun i task hget => by simp [Pool.step] at hget⟩

/-- If calls do not overlap, it is enough that each keeps the invariant when left alone. -/
theorem serial_final (hinv : inv s) (hidle : idle s) {events : List (Event C)}
    (hserial : Machine.Guarded (Pool.step prog reboot) (Pool.Serial restartable)
      (⟨s, []⟩ : Pool S α) events) :
    inv ((⟨s, []⟩ : Pool S α).after prog reboot events).state := by
  have hstart : (⟨s, []⟩ : Pool S α).Alone inv idle :=
    ⟨hinv, fun _ => hidle, fun i task hget => by simp at hget⟩
  exact (Machine.guarded_final _ (fun _ event hp hev => hp.step hprog hreboot event hev)
    hstart hserial).kept

end Serial

end Foundations.Interleaving
