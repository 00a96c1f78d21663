import DocStore.Proofs.CallTrace
import Mathlib.Data.List.Induction
/-!
# At most one live handle

A session holds at most one engine handle, and never touches one it gave up. In terms of the
calls a session makes (`Call`, recorded by the traced jobs of `DocStore.Proofs.CallTrace`):

* the engine is asked to open the backing file only while the session's handle is closed and no
  handle is live, so a handle whose setup failed was dropped before the next attempt;
* statements run only on a live handle, and only live handles are closed or dropped;
* between jobs, the handles opened minus those closed or dropped number one exactly when the
  handle is open, and none otherwise.

`Call.Sound` says the first two of a record, and `Quiet` says all of a traced session: the
record is sound, and the live handles are the one the session holds, which it holds exactly
while its handle is open. Every job of the queue keeps `Quiet` (`QueueJob.traced_quiet`); inside
an open attempt the fresh handle is live while the session holds none (`Pending`), and the
attempt either hands it over or drops it. The main statement is `one_live_handle`.
-/

namespace DocStore

namespace Call

/-! ## Records of calls -/

/-- The handles live after a call, given those live before: an open that returned a handle adds
it, and a close or a drop takes it away. -/
def step (l : List Nat) : Call → List Nat
  | .opening (some h) _ => h :: l
  | .closed h | .dropped h => l.erase h
  | _ => l

/-- The handles a record leaves live: opened, and neither closed nor dropped since. -/
def live (τ : List Call) : List Nat := τ.foldl step []

/-- Whether a reset is owed after a call: a crash owes one and a reset pays it. -/
def owesStep (b : Bool) : Call → Bool
  | .entered .crashed => true
  | .reset => false
  | _ => b

/-- Whether a record owes a reset: the session crashed and the engine was not reset since. -/
def owes (τ : List Call) : Bool := τ.foldl owesStep false

/-- The handles opened minus those closed or dropped. -/
def balance : List Call → Int
  | [] => 0
  | .opening (some _) _ :: τ => balance τ + 1
  | .closed _ :: τ | .dropped _ :: τ => balance τ - 1
  | _ :: τ => balance τ

/-- A call the session may make after the calls `pre`: it asks the engine to open only while its
handle is closed and no handle is live, and the handle it gets is a new one, numbered by the
open calls before; it runs statements on, closes and drops only a live handle. -/
def Allowed (pre : List Call) : Call → Prop
  | .opening h k => k = .closed ∧ live pre = [] ∧ ∀ x ∈ h, x = openings pre
  | .ran h | .closed h | .dropped h => h ∈ live pre
  | _ => True

/-- Every call of a record satisfies `A` with the calls before it. -/
def Respects (A : List Call → Call → Prop) (τ : List Call) : Prop :=
  ∀ pre c post, τ = pre ++ c :: post → A pre c

/-- Every call of a record is allowed by the calls before it. -/
def Sound (τ : List Call) : Prop := Respects Allowed τ

/-- Every open call of a record was made with no reset owed. -/
def ResetFirst (τ : List Call) : Prop :=
  Respects (fun pre c => c.isOpening = true → owes pre = false) τ

/-- A call that changes nothing a record tracks, allowed while the handles `l` are live: a
statement run on a live handle, a removal of the backing file, a move of the restart counter. -/
def Inert (l : List Nat) : Call → Prop
  | .ran h => h ∈ l
  | .removed | .restarted => True
  | _ => False

@[simp] theorem live_nil : live [] = [] := rfl

@[simp] theorem live_snoc (τ : List Call) (c : Call) : live (τ ++ [c]) = step (live τ) c := by
  simp [live, List.foldl_append]

@[simp] theorem owes_nil : owes [] = false := rfl

@[simp] theorem owes_snoc (τ : List Call) (c : Call) : owes (τ ++ [c]) = owesStep (owes τ) c := by
  simp [owes, List.foldl_append]

@[simp] theorem openings_snoc (τ : List Call) (c : Call) :
    openings (τ ++ [c]) = openings τ + if c.isOpening then 1 else 0 := by
  simp [openings, List.countP_append, List.countP_singleton]

theorem balance_snoc (τ : List Call) (c : Call) :
    balance (τ ++ [c]) = balance τ + balance [c] := by
  induction τ with
  | nil => simp [balance]
  | cons d τ ih =>
    rcases d with ⟨_ | _, _⟩ | _ | _ | _ | _ | _ | _ | _ <;>
      simp only [List.cons_append, balance, ih] <;> omega

theorem Respects.nil {A : List Call → Call → Prop} : Respects A [] := by
  intro pre c post h
  simp at h

theorem Respects.snoc {A : List Call → Call → Prop} {τ : List Call} {c : Call}
    (h : Respects A τ) (hc : A τ c) : Respects A (τ ++ [c]) := by
  intro pre c' post heq
  rcases List.eq_nil_or_concat post with rfl | ⟨post', d, rfl⟩
  · -- the new call is the last one
    obtain ⟨rfl, hcc⟩ := List.append_inj' heq rfl
    cases hcc
    exact hc
  · have heq' : τ ++ [c] = (pre ++ c' :: post') ++ [d] := by simpa using heq
    obtain ⟨heq, -⟩ := List.append_inj' heq' rfl
    exact h pre c' post' heq

theorem Respects.of_append {A : List Call → Call → Prop} {τ σ : List Call}
    (h : Respects A (τ ++ σ)) : Respects A τ :=
  fun pre c post heq => h pre c (post ++ σ) (by simp [heq])

theorem Respects.last {A : List Call → Call → Prop} {τ : List Call} {c : Call}
    (h : Respects A (τ ++ [c])) : A τ c :=
  h τ c [] rfl

/-- An inert call is allowed and leaves the live handles, the owed reset and the open calls as
they were. -/
theorem Inert.allowed {τ : List Call} {c : Call} (hc : Inert (live τ) c) : Allowed τ c := by
  cases c <;> simp_all [Inert, Allowed]

theorem Inert.step_eq {l : List Nat} {c : Call} (hc : Inert l c) : step l c = l := by
  cases c <;> simp_all [Inert, step]

theorem Inert.owesStep_eq {l : List Nat} {c : Call} (hc : Inert l c) (b : Bool) :
    owesStep b c = b := by
  cases c <;> simp_all [Inert, owesStep]

theorem Inert.not_opening {l : List Nat} {c : Call} (hc : Inert l c) : c.isOpening = false := by
  cases c <;> simp_all [Inert, isOpening]

/-- The handle a call runs a statement on, closes or drops. -/
def touched : Call → Option Nat
  | .ran h | .closed h | .dropped h => some h
  | _ => none

/-- The handle a call closes or drops. -/
def released : Call → Option Nat
  | .closed h | .dropped h => some h
  | _ => none

theorem Allowed.touched {pre : List Call} {c : Call} {h : Nat} (hc : Allowed pre c)
    (ht : c.touched = some h) : h ∈ live pre := by
  cases c <;> simp_all [Call.touched, Allowed]

theorem openings_le_append (τ σ : List Call) : openings τ ≤ openings (τ ++ σ) := by
  simp [openings, List.countP_append]

/-! ## Sound records -/

theorem Sound.of_append {τ σ : List Call} (h : Sound (τ ++ σ)) : Sound τ := Respects.of_append h

theorem Sound.last {τ : List Call} {c : Call} (h : Sound (τ ++ [c])) : Allowed τ c :=
  Respects.last h

theorem Sound.snoc {τ : List Call} {c : Call} (h : Sound τ) (hc : Allowed τ c) : Sound (τ ++ [c]) :=
  Respects.snoc h hc

theorem ResetFirst.snoc {τ : List Call} {c : Call} (h : ResetFirst τ)
    (hc : c.isOpening = true → owes τ = false) : ResetFirst (τ ++ [c]) :=
  Respects.snoc h hc

/-- Live handles are numbered below the open calls so far. -/
theorem Sound.live_lt {τ : List Call} (h : Sound τ) : ∀ x ∈ live τ, x < openings τ := by
  induction τ using List.reverseRecOn with
  | nil => simp
  | append_singleton τ c ih =>
    have ih := ih h.of_append
    have hc : Allowed τ c := h.last
    intro x hx
    rw [live_snoc] at hx
    rw [openings_snoc]
    cases c with
    | opening r k =>
      obtain ⟨-, hl, hr⟩ := hc
      cases r with
      | none =>
        have := ih x hx
        simp only [isOpening, if_true]
        omega
      | some h' =>
        -- the new handle is numbered by the open calls before it
        simp only [step, hl, List.mem_singleton] at hx
        simp [isOpening, hx, hr h' rfl]
    | closed h' | dropped h' => simpa [isOpening] using ih x (List.mem_of_mem_erase hx)
    | _ => simpa [isOpening] using ih x hx

/-- At most one handle is live: an open is asked for only while none is. -/
theorem Sound.length_live_le {τ : List Call} (h : Sound τ) : (live τ).length ≤ 1 := by
  induction τ using List.reverseRecOn with
  | nil => simp
  | append_singleton τ c ih =>
    have ih := ih h.of_append
    have hc : Allowed τ c := h.last
    rw [live_snoc]
    cases c with
    | opening r k =>
      cases r with
      | none => exact ih
      | some h' => simp [step, hc.2.1]
    | closed h' | dropped h' => exact Nat.le_trans List.length_erase_le ih
    | _ => exact ih

/-- In a sound record every close or drop takes away a live handle, so the handles left live
are as many as the balance says. -/
theorem Sound.length_live {τ : List Call} (h : Sound τ) : ((live τ).length : Int) = balance τ := by
  induction τ using List.reverseRecOn with
  | nil => rfl
  | append_singleton τ c ih =>
    have hc : Allowed τ c := h.last
    rw [live_snoc, balance_snoc, ← ih h.of_append]
    cases c with
    | closed h' | dropped h' =>
      have hm : h' ∈ live τ := hc
      have := List.length_pos_of_mem hm
      simp only [step, balance, List.length_erase_of_mem hm]
      omega
    | opening r k => cases r <;> simp [step, balance]
    | _ => simp [step, balance]

/-- A handle that is not live and was opened before does not come back: every later open makes
a new one. -/
theorem Sound.not_live_append {τ σ : List Call} {h : Nat} (hs : Sound (τ ++ σ))
    (hh : h ∉ live τ) (hlt : h < openings τ) : h ∉ live (τ ++ σ) := by
  induction σ using List.reverseRecOn with
  | nil => simpa using hh
  | append_singleton σ c ih =>
    rw [← List.append_assoc] at hs ⊢
    have ih := ih hs.of_append
    have hc : Allowed (τ ++ σ) c := hs.last
    rw [live_snoc]
    cases c with
    | opening r k =>
      cases r with
      | none => exact ih
      | some h' =>
        have hnum : h' = openings (τ ++ σ) := hc.2.2 h' rfl
        have hle := openings_le_append τ σ
        simp only [step, List.mem_cons, not_or]
        exact ⟨by omega, ih⟩
    | closed h' | dropped h' => exact fun hm => ih (List.mem_of_mem_erase hm)
    | _ => exact ih

/-- A handle just closed or dropped is no longer live. -/
theorem Sound.released_not_live {τ : List Call} {c : Call} {h : Nat} (hs : Sound (τ ++ [c]))
    (hc : c.released = some h) : h ∉ live (τ ++ [c]) ∧ h < openings (τ ++ [c]) := by
  have hall : Allowed τ c := hs.last
  have hmem : h ∈ live τ := hall.touched (by cases c <;> simp_all [Call.released, Call.touched])
  -- the only live handle is the released one
  have hone : live τ = [h] := by
    have hle := hs.of_append.length_live_le
    match hl : live τ, hmem with
    | [x], hx => simp_all
    | _ :: _ :: _, _ => simp_all
  have hlt := hs.of_append.live_lt h hmem
  cases c <;> simp_all [Call.released, step, isOpening]

/-- No handle is used after it was closed or dropped. -/
theorem Sound.no_use_after_release {pre mid post : List Call} {c d : Call} {h : Nat}
    (hs : Sound (pre ++ c :: mid ++ d :: post)) (hc : c.released = some h)
    (hd : d.touched = some h) : False := by
  have hs' : Sound ((pre ++ [c]) ++ mid ++ [d]) :=
    Sound.of_append (σ := post) (by simpa using hs)
  have hused : h ∈ live (pre ++ [c] ++ mid) := hs'.last.touched hd
  obtain ⟨hgone, hlt⟩ := Sound.released_not_live hs'.of_append.of_append hc
  exact Sound.not_live_append hs'.of_append hgone hlt hused

end Call

/-! ## Specifications of traced jobs -/

namespace Traced

variable {α β : Type}

/-- Started in a state where `P` holds, `t` ends in one where `Q` holds of its outcome. -/
def Spec (P : Session × Ghost → Prop) (t : Traced α)
    (Q : Except Unwind α → Session × Ghost → Prop) : Prop :=
  ∀ st, P st → Q (runFrom t st).1 (runFrom t st).2

/-- A property of a traced state that reads the session only through the kind of its handle. -/
def OnKind (P : Session × Ghost → Prop) : Prop :=
  ∀ s s' g, s'.handle.kind = s.handle.kind → P (s, g) → P (s', g)

section Spec

variable {P P' I : Session × Ghost → Prop} {Q Q' : Except Unwind α → Session × Ghost → Prop}
  {R : Except Unwind β → Session × Ghost → Prop}

theorem Spec.mono {t : Traced α} (h : Spec P t Q) (hP : ∀ st, P' st → P st)
    (hQ : ∀ r st, Q r st → Q' r st) : Spec P' t Q' :=
  fun st hst => hQ _ _ (h st (hP st hst))

theorem Spec.pre {t : Traced α} (h : Spec P t Q) (hP : ∀ st, P' st → P st) : Spec P' t Q :=
  h.mono hP fun _ _ h => h

theorem Spec.post {t : Traced α} (h : Spec P t Q) (hQ : ∀ r st, Q r st → Q' r st) :
    Spec P t Q' :=
  h.mono (fun _ h => h) hQ

theorem Spec.pure {a : α} (h : ∀ st, P st → Q (.ok a) st) : Spec P (Pure.pure a) Q := h

theorem Spec.throw {u : Unwind} (h : ∀ st, P st → Q (.error u) st) :
    Spec P (throw u : Traced α) Q := h

theorem Spec.bind {x : Traced α} {f : α → Traced β} (hx : Spec P x Q)
    (hf : ∀ a, Spec (Q (.ok a)) (f a) R) (he : ∀ u st, Q (.error u) st → R (.error u) st) :
    Spec P (x >>= f) R := by
  intro st hst
  have h := hx st hst
  rw [runFrom_bind]
  rcases hrun : runFrom x st with ⟨r, st'⟩
  rw [hrun] at h
  cases r with
  | error u => exact he u st' h
  | ok a => exact hf a st' h

/-- A bind keeps an invariant that both its parts keep. -/
theorem Spec.bind_inv {x : Traced α} {f : α → Traced β} (hx : Spec P x fun _ => I)
    (hf : ∀ a, Spec I (f a) fun _ => I) : Spec P (x >>= f) fun _ => I :=
  hx.bind hf fun _ _ h => h

theorem Spec.tryCatch {x : Traced α} {h : Unwind → Traced α} (hx : Spec P x Q)
    (hok : ∀ a st, Q (.ok a) st → Q' (.ok a) st) (hh : ∀ u, Spec (Q (.error u)) (h u) Q') :
    Spec P (tryCatch x h) Q' := by
  intro st hst
  have h₁ := hx st hst
  rw [runFrom_tryCatch]
  rcases hrun : runFrom x st with ⟨r, st'⟩
  rw [hrun] at h₁
  cases r with
  | error u => exact hh u st' h₁
  | ok a => exact hok a st' h₁

theorem Spec.map_inv {x : Traced α} {f : α → β} (hx : Spec P x fun _ => I) :
    Spec P (f <$> x) fun _ => I := by
  intro st hst
  rw [runFrom_map]
  exact hx st hst

theorem Spec.ite {c : Prop} [Decidable c] {t t' : Traced α} (ht : Spec P t Q)
    (ht' : Spec P t' Q) : Spec P (if c then t else t') Q := by
  split
  · exact ht
  · exact ht'

/-- A loop over a list keeps an invariant that every turn keeps. -/
theorem Spec.forIn {l : List α} {b : β} {f : α → β → Traced (ForInStep β)}
    (hf : ∀ a b, Spec I (f a b) fun _ => I) : Spec I (forIn l b f) fun _ => I := by
  induction l generalizing b with
  | nil => exact fun _ h => h
  | cons a rest ih =>
    intro st hst
    rw [runFrom_forIn_cons]
    have h₁ := hf a b st hst
    rcases hrun : runFrom (f a b) st with ⟨r, st'⟩
    rw [hrun] at h₁
    rcases r with u | (b' | b')
    · exact h₁
    · exact h₁
    · exact ih st' h₁

theorem Spec.session_bind {f : Session → Traced α}
    (hf : ∀ s, Spec (fun st => P st ∧ st.1 = s) (f s) Q) : Spec P (session >>= f) Q := by
  intro st hst
  rw [runFrom_bind, runFrom_session]
  exact hf st.1 st ⟨hst, rfl⟩

theorem Spec.ghost_bind {f : Ghost → Traced α}
    (hf : ∀ g, Spec (fun st => P st ∧ st.2 = g) (f g) Q) : Spec P (ghost >>= f) Q := by
  intro st hst
  rw [runFrom_bind, runFrom_ghost]
  exact hf st.2 st ⟨hst, rfl⟩

/-- A job of the model that leaves the kind of the handle alone keeps what reads only that. -/
theorem Spec.lift {j : Job α} (hP : OnKind P)
    (hj : ∀ st, P st → (runFrom j st.1).2.handle.kind = st.1.handle.kind) :
    Spec P (lift j) fun _ => P :=
  fun st hst => hP st.1 _ st.2 (hj st hst) hst

theorem Spec.lift_fail {e : StoreError} :
    Spec P (Traced.lift (Job.fail e : Job α)) fun r st => P st ∧ r = .error (.fail e) :=
  fun _ h => ⟨h, rfl⟩

theorem Spec.fail {e : StoreError} : Spec I (Traced.lift (Job.fail e : Job α)) fun _ => I :=
  Spec.lift_fail.post fun _ _ h => h.1

theorem Spec.note {c : Call} {Q : Except Unwind Unit → Session × Ghost → Prop} :
    Spec (fun st => Q (.ok ()) (st.1, { st.2 with calls := st.2.calls ++ [c] }))
      (Traced.note c) Q :=
  fun _ h => h

theorem Spec.attempt {t : Traced α} (ht : Spec P t Q) :
    Spec P (attempt t) fun r st => match r with
      | .ok (.ok a) => Q (.ok a) st
      | .ok (.error e) => Q (.error (.fail e)) st
      | .error u => Q (.error u) st := by
  intro st hst
  have h := ht st hst
  rw [runFrom_attempt]
  rcases hrun : runFrom t st with ⟨(u | a), st'⟩
  all_goals rw [hrun] at h
  · cases u with
    | fail e => exact h
    | panic => exact h
  · exact h

theorem Spec.attempt_inv {t : Traced α} (ht : Spec P t fun _ => I) :
    Spec P (Traced.attempt t) fun _ => I := by
  refine (Spec.attempt ht).post fun r st h => ?_
  rcases r with u | (e | a) <;> exact h

end Spec

/-! ## The invariant of a session's record -/

section Invariant

variable (strict : Prop)

/-- A traced state between the calls of a job: the record is sound, and the live handles are
the one the session holds, which it holds exactly while its handle is open. With `strict`, the
reset contract holds too: every open so far was asked for with no reset owed, and a reset is
owed exactly while the handle is crashed. -/
structure Quiet (st : Session × Ghost) : Prop where
  sound : Call.Sound st.2.calls
  live : Call.live st.2.calls = st.2.held.toList
  held : st.2.held.isSome = true ↔ st.1.handle.kind = .opened
  owes : strict → (Call.owes st.2.calls = true ↔ st.1.handle.kind = .crashed)
  resets : strict → Call.ResetFirst st.2.calls

/-- A traced state while the session opens: its handle is closed and it holds none, it owes no
reset, and the handles `l` are live (the fresh one while its setup runs). -/
structure Unheld (l : List Nat) (st : Session × Ghost) : Prop where
  sound : Call.Sound st.2.calls
  live : Call.live st.2.calls = l
  held : st.2.held = none
  closed : st.1.handle.kind = .closed
  owes : strict → Call.owes st.2.calls = false
  resets : strict → Call.ResetFirst st.2.calls

/-- The end of an open: the invariant holds, and after a success the handle is open. -/
def Opens (r : Except Unwind Unit) (st : Session × Ghost) : Prop :=
  Quiet strict st ∧ (r = .ok () → st.1.handle.kind = .opened)

end Invariant

variable {strict : Prop} {st : Session × Ghost}

theorem Quiet.initial {s : Session} (hs : s.handle = .closed) : Quiet strict (s, {}) where
  sound := Call.Respects.nil
  live := rfl
  held := by simp [hs, HandleState.kind]
  owes _ := by simp [hs, HandleState.kind]
  resets _ := Call.Respects.nil

theorem Quiet.onKind : OnKind (Quiet strict) := by
  intro s s' g hk h
  refine ⟨h.sound, h.live, ?_, ?_, h.resets⟩
  · rw [hk]
    exact h.held
  · rw [hk]
    exact h.owes

theorem Unheld.onKind (l : List Nat) : OnKind (Unheld strict l) := by
  intro s s' g hk h
  exact ⟨h.sound, h.live, h.held, hk.trans h.closed, h.owes, h.resets⟩

theorem Opens.onKind (r : Except Unwind Unit) : OnKind (Opens strict r) := by
  intro s s' g hk h
  exact ⟨Quiet.onKind s s' g hk h.1, fun hr => hk.trans (h.2 hr)⟩

theorem Unheld.quiet (h : Unheld strict [] st) : Quiet strict st where
  sound := h.sound
  live := by rw [h.live, h.held]; rfl
  held := by simp [h.held, h.closed]
  owes hs := by simp [h.owes hs, h.closed]
  resets := h.resets

/-- A quiet session whose handle is closed holds none and owes no reset. -/
theorem Quiet.unheld (h : Quiet strict st) (hk : st.1.handle.kind = .closed) :
    Unheld strict [] st := by
  have hheld : st.2.held = none := by
    have := h.held
    rw [hk] at this
    simpa using this
  refine ⟨h.sound, by rw [h.live, hheld]; rfl, hheld, hk, fun hs => ?_, h.resets⟩
  have := h.owes hs
  rw [hk] at this
  simpa using this

theorem Quiet.opens_error (h : Quiet strict st) (u : Unwind) : Opens strict (.error u) st :=
  ⟨h, by intro h; cases h⟩

/-- An inert call keeps the invariants. -/
theorem Quiet.inert {c : Call} (h : Quiet strict st) (hc : Call.Inert (Call.live st.2.calls) c) :
    Quiet strict (st.1, { st.2 with calls := st.2.calls ++ [c] }) where
  sound := h.sound.snoc hc.allowed
  live := by rw [Call.live_snoc, hc.step_eq, h.live]
  held := h.held
  owes hs := by rw [Call.owes_snoc, hc.owesStep_eq]; exact h.owes hs
  resets hs := (h.resets hs).snoc fun ho => by rw [hc.not_opening] at ho; cases ho

theorem Unheld.inert {c : Call} {l : List Nat} (h : Unheld strict l st)
    (hc : Call.Inert (Call.live st.2.calls) c) :
    Unheld strict l (st.1, { st.2 with calls := st.2.calls ++ [c] }) where
  sound := h.sound.snoc hc.allowed
  live := by rw [Call.live_snoc, hc.step_eq, h.live]
  held := h.held
  closed := h.closed
  owes hs := by rw [Call.owes_snoc, hc.owesStep_eq]; exact h.owes hs
  resets hs := (h.resets hs).snoc fun ho => by rw [hc.not_opening] at ho; cases ho

theorem Opens.inert {c : Call} {r : Except Unwind Unit} (h : Opens strict r st)
    (hc : Call.Inert (Call.live st.2.calls) c) :
    Opens strict r (st.1, { st.2 with calls := st.2.calls ++ [c] }) :=
  ⟨h.1.inert hc, h.2⟩

/-! ## The session's calls, one at a time -/

theorem runFrom_engineOpen (st : Session × Ghost) : runFrom engineOpen st =
    ((runFrom Session.engineOpen st.1).1, ((runFrom Session.engineOpen st.1).2,
      { st.2 with calls := st.2.calls ++ [.opening ((runFrom Session.engineOpen st.1).1.toOption.map
        fun _ => Call.openings st.2.calls) st.1.handle.kind] })) := by
  simp only [engineOpen, runFrom_bind, runFrom_session, runFrom_ghost, runFrom_capture,
    runFrom_note]
  rw [runFrom_ofExcept]

/-- An open asked for while the session is closed and holds nothing: when it succeeds, the
handle numbered by the open calls before it is live. -/
theorem engineOpen_spec (n : Nat) :
    Spec (fun st => Unheld strict [] st ∧ Call.openings st.2.calls = n) engineOpen
      fun r => Unheld strict (r.toOption.map fun _ => n).toList := by
  rintro st ⟨h, rfl⟩
  rw [runFrom_engineOpen]
  rcases hrun : runFrom Session.engineOpen st.1 with ⟨r, s'⟩
  have hk : s'.handle = st.1.handle := (Session.engineOpen_cases hrun).1
  have hallowed : Call.Allowed st.2.calls
      (.opening (r.toOption.map fun _ => Call.openings st.2.calls) st.1.handle.kind) :=
    ⟨h.closed, h.live, by simp⟩
  refine ⟨h.sound.snoc hallowed, ?_, h.held, by rw [hk]; exact h.closed, fun hs => ?_,
    fun hs => (h.resets hs).snoc fun _ => h.owes hs⟩
  · rw [Call.live_snoc, h.live]
    cases r <;> rfl
  · rw [Call.owes_snoc, h.owes hs]
    rfl

theorem engineRun_kind (c : Connection) (stmt : BoundStatement) (s : Session) :
    (runFrom (Session.engineRun c stmt) s).2.handle = s.handle := by
  rcases hrun : runFrom (Session.engineRun c stmt) s with ⟨r, s'⟩
  rcases Session.engineRun_cases hrun with ⟨_, _, rfl, _⟩ | ⟨_, _, _, _, _, _, rfl⟩ <;> rfl

/-- A statement run keeps an invariant that reads the session only through its handle and
survives recording the run. -/
theorem engineRun_spec {I : Session × Ghost → Prop} {h : Nat} {c : Connection}
    {stmt : BoundStatement} (hI : OnKind I)
    (hran : ∀ st, I st → I (st.1, { st.2 with calls := st.2.calls ++ [.ran h] })) :
    Spec I (engineRun h c stmt) fun _ => I :=
  Spec.bind_inv (fun st hst => hran st hst) fun _ =>
    Spec.lift hI fun st _ => by rw [engineRun_kind]

theorem removeBackingFile_kind (s : Session) :
    (runFrom Session.removeBackingFile s).2.handle = s.handle := by
  simp only [Session.removeBackingFile, runFrom_bind, Session.runFrom_updatePlan, runFrom_get]
  split <;> rfl

theorem removeBackingFile_spec :
    Spec (Unheld strict []) removeBackingFile fun _ => Unheld strict [] :=
  Spec.bind_inv (fun _ hst => hst.inert trivial) fun _ =>
    Spec.lift (Unheld.onKind []) fun st _ => by rw [removeBackingFile_kind]

theorem runFrom_release {ev : Nat → Call} {k : HandleKind} {j : Job Unit}
    {st : Session × Ghost} {s' : Session} (hj : runFrom j st.1 = (.ok (), s')) :
    runFrom (release ev k j) st = (.ok (), (s',
      { held := none, calls := st.2.calls ++ (st.2.held.map ev).toList ++ [.entered k] })) := by
  rcases hh : st.2.held with _ | h <;> simp [release, runFrom_bind, hh, hj]

/-- Giving the held handle up, by a close or a drop, leaves no handle live; of the states the
session can enter, only a crash owes a reset. -/
theorem Quiet.release_record {ev : Nat → Call} (h : Quiet strict st)
    (hev : ev = .closed ∨ ev = .dropped) (k : HandleKind) :
    Call.Sound (st.2.calls ++ (st.2.held.map ev).toList ++ [.entered k]) ∧
      Call.live (st.2.calls ++ (st.2.held.map ev).toList ++ [.entered k]) = [] ∧
      Call.owes (st.2.calls ++ (st.2.held.map ev).toList ++ [.entered k]) =
        Call.owesStep (Call.owes st.2.calls) (.entered k) ∧
      (strict → Call.ResetFirst (st.2.calls ++ (st.2.held.map ev).toList ++ [.entered k])) := by
  -- first the held handle goes, if there is one
  have hrel : Call.Sound (st.2.calls ++ (st.2.held.map ev).toList) ∧
      Call.live (st.2.calls ++ (st.2.held.map ev).toList) = [] ∧
      Call.owes (st.2.calls ++ (st.2.held.map ev).toList) = Call.owes st.2.calls ∧
      (strict → Call.ResetFirst (st.2.calls ++ (st.2.held.map ev).toList)) := by
    rcases hh : st.2.held with _ | x
    · have hl := h.live
      rw [hh] at hl
      exact ⟨by simpa using h.sound, by simpa using hl, by simp,
        fun hs => by simpa using h.resets hs⟩
    · have hl : Call.live st.2.calls = [x] := by rw [h.live, hh]; rfl
      have hallow : Call.Allowed st.2.calls (ev x) := by
        rcases hev with rfl | rfl <;> simp [Call.Allowed, hl]
      refine ⟨by simpa using h.sound.snoc hallow, ?_, ?_, fun hs => ?_⟩
      · rcases hev with rfl | rfl <;> simp [Call.step, hl]
      · rcases hev with rfl | rfl <;> simp [Call.owesStep]
      · have := (h.resets hs).snoc (c := ev x)
          (by rcases hev with rfl | rfl <;> simp [Call.isOpening])
        simpa using this
  obtain ⟨hs, hl, ho, hr⟩ := hrel
  refine ⟨hs.snoc trivial, by rw [Call.live_snoc, hl]; rfl, by rw [Call.owes_snoc, ho],
    fun hst => (hr hst).snoc fun h => by cases h⟩

theorem abandon_spec : Spec (Quiet strict) abandon fun _ => Quiet strict := by
  intro st h
  unfold abandon
  rw [runFrom_release (Session.runFrom_abandon st.1)]
  obtain ⟨hs, hl, ho, hr⟩ := h.release_record (Or.inr rfl) .crashed
  refine ⟨hs, hl, by simp [HandleState.kind], fun _ => ?_, hr⟩
  rw [ho]
  simp [Call.owesStep, HandleState.kind]

/-- A close of a handle that is not crashed leaves the session closed, owing no reset. -/
theorem close_spec :
    Spec (fun st => Quiet strict st ∧ (strict → st.1.handle.kind ≠ .crashed)) close
      fun _ => Unheld strict [] := by
  rintro st ⟨h, hk⟩
  unfold close
  rw [runFrom_release (Session.runFrom_close st.1)]
  obtain ⟨hs, hl, ho, hr⟩ := h.release_record (Or.inl rfl) .closed
  refine ⟨hs, hl, rfl, by simp [HandleState.kind], fun hst => ?_, hr⟩
  -- the session was not crashed, so it owed no reset
  have howes := h.owes hst
  rw [ho]
  show Call.owes st.2.calls = false
  simpa [hk hst] using howes

/-- Recovery drops the handle and resets the engine: the session is closed and owes no reset. -/
theorem release_reset_spec :
    Spec (Quiet strict) (release .dropped .closed Session.close) fun r st =>
      r = .ok () ∧ Unheld strict [] (st.1, { st.2 with calls := st.2.calls ++ [.reset] }) := by
  intro st h
  rw [runFrom_release (Session.runFrom_close st.1)]
  obtain ⟨hs, hl, -, hr⟩ := h.release_record (Or.inr rfl) .closed
  exact ⟨rfl, hs.snoc trivial, by rw [Call.live_snoc, hl]; rfl, rfl, by simp [HandleState.kind],
    fun _ => by rw [Call.owes_snoc]; rfl, fun hst => (hr hst).snoc fun h => by cases h⟩

/-- A handle whose setup failed is dropped: none is live any more. -/
theorem Unheld.drop {x : Nat} (h : Unheld strict [x] st) :
    Unheld strict [] (st.1, { st.2 with calls := st.2.calls ++ [.dropped x] }) where
  sound := h.sound.snoc (by simp [Call.Allowed, h.live])
  live := by rw [Call.live_snoc, h.live]; simp [Call.step]
  held := h.held
  closed := h.closed
  owes hs := by rw [Call.owes_snoc]; exact h.owes hs
  resets hs := (h.resets hs).snoc fun h => by cases h

/-! ## Opening -/

/-- One attempt to open, started closed with nothing live: after a success the new handle is
live, not yet held; after a failure none is, the setup having dropped the handle it got. -/
theorem tryOpen_spec (n : Nat) :
    Spec (fun st => Unheld strict [] st ∧ Call.openings st.2.calls = n) tryOpen
      fun r => Unheld strict (r.toOption.map fun _ => n).toList := by
  refine Spec.session_bind fun s => Spec.ghost_bind fun g => ?_
  rintro st ⟨⟨⟨hst, rfl⟩, -⟩, rfl⟩
  refine Spec.bind (engineOpen_spec _) (fun c => ?_) (fun _ _ h => h)
    (R := fun r => Unheld strict (r.toOption.map fun _ => Call.openings st.2.calls).toList)
    st ⟨hst, rfl⟩
  have hran : ∀ st', Unheld strict [Call.openings st.2.calls] st' →
      Unheld strict [Call.openings st.2.calls]
        (st'.1, { st'.2 with calls := st'.2.calls ++ [.ran (Call.openings st.2.calls)] }) :=
    fun st' h => h.inert (by simp [Call.Inert, h.live])
  refine Spec.tryCatch (Q := fun _ => Unheld strict [Call.openings st.2.calls]) ?_
    (fun _ _ h => h) fun u => ?_
  · -- the setup runs its two statements on the fresh handle
    refine Spec.bind_inv (engineRun_spec (Unheld.onKind _) hran) fun p => ?_
    obtain ⟨c₁, _⟩ := p
    refine Spec.bind_inv (engineRun_spec (Unheld.onKind _) hran) fun q => ?_
    obtain ⟨c₂, _⟩ := q
    exact Spec.pure fun _ h => h
  · -- the handle whose setup failed is dropped
    exact Spec.bind (Q := fun _ => Unheld strict []) (fun _ h => h.drop)
      (fun _ => Spec.throw fun _ h => h) fun _ _ h => h

/-- The session takes the fresh handle: it holds it, and its handle is open. -/
theorem take_spec {x : Nat} {c : Connection} :
    Spec (Unheld strict [x]) (lift (modify fun s => { s with handle := .opened c }) >>= fun _ =>
      hold (some x) >>= fun _ => note (.entered .opened)) (Opens strict) := by
  intro st h
  simp only [runFrom_bind, runFrom_lift, runFrom_modify, runFrom_hold, runFrom_note]
  refine ⟨⟨h.sound.snoc trivial, ?_, by simp [HandleState.kind], fun hs => ?_,
    fun hs => (h.resets hs).snoc fun h => by cases h⟩, fun _ => rfl⟩
  · rw [Call.live_snoc, h.live]
    rfl
  · rw [Call.owes_snoc, h.owes hs]
    simp [Call.owesStep, HandleState.kind]

theorem openAttempts_spec (total : Nat) :
    ∀ n last, Spec (Unheld strict []) (openAttempts total n last) (Opens strict)
  | 0, last => by
    intro st h
    simp only [openAttempts, runFrom_lift, Session.openAttempts, runFrom_bind, runFrom_get,
      Job.fail, runFrom_throw]
    exact (Unheld.quiet h).opens_error _
  | n + 1, last => by
    refine Spec.ghost_bind fun g => ?_
    rintro st ⟨h, rfl⟩
    refine Spec.bind (Spec.attempt (tryOpen_spec (Call.openings st.2.calls))) (fun r => ?_)
      (fun u _ h => (Unheld.quiet h).opens_error u) st ⟨h, rfl⟩
    rcases r with e | c
    · -- a damaged file is removed before the next attempt
      dsimp only
      exact Spec.ite (Spec.bind removeBackingFile_spec (fun _ => openAttempts_spec total n _)
        fun u _ h => (Unheld.quiet h).opens_error u) (openAttempts_spec total n _)
    · exact take_spec

theorem openWithRetry_spec : Spec (Unheld strict []) openWithRetry (Opens strict) := by
  refine Spec.session_bind fun s => ?_
  cases s.directoryFailure with
  | some f =>
    refine Spec.lift_fail.mono (fun _ h => h.1) fun r _ h => ?_
    rw [h.2]
    exact (Unheld.quiet h.1).opens_error _
  | none => exact (openAttempts_spec _ _ _).pre fun _ h => h.1

/-- Recovery ends quiet, with the handle open when it succeeds. -/
theorem recover_spec : Spec (Quiet strict) recover (Opens strict) := by
  refine Spec.bind release_reset_spec (fun _ => ?_) fun _ _ h => by cases h.1
  refine Spec.bind (Spec.note.pre fun _ h => h.2) (fun _ => ?_)
    (Q := fun _ => Unheld strict []) fun u _ h => (Unheld.quiet h).opens_error u
  refine Spec.bind (Spec.lift (Unheld.onKind []) fun _ _ => rfl) (fun _ => ?_)
    fun u _ h => (Unheld.quiet h).opens_error u
  refine Spec.bind openWithRetry_spec (fun _ => ?_) fun _ _ h => h
  refine Spec.bind (Spec.lift (Opens.onKind _) fun _ _ => rfl) (fun _ => ?_)
    fun u _ h => h.1.opens_error u
  exact Spec.note.pre fun _ h => h.inert trivial

theorem ensureOpen_spec : Spec (Quiet strict) ensureOpen (Opens strict) := by
  refine Spec.session_bind fun s => ?_
  cases hs : s.handle with
  | opened c => exact Spec.pure fun st h => ⟨h.1, fun _ => by rw [h.2, hs]; rfl⟩
  | closed =>
    exact openWithRetry_spec.pre fun st h => h.1.unheld (by rw [h.2, hs]; rfl)
  | crashed => exact recover_spec.pre fun _ h => h.1

theorem ensureOpen_quiet : Spec (Quiet strict) ensureOpen fun _ => Quiet strict :=
  ensureOpen_spec.post fun _ _ h => h.1

theorem recover_quiet : Spec (Quiet strict) recover fun _ => Quiet strict :=
  recover_spec.post fun _ _ h => h.1

/-! ## Running statements -/

theorem run_spec (stmt : BoundStatement) :
    Spec (Quiet strict) (run stmt) fun _ => Quiet strict := by
  refine Spec.session_bind fun s => ?_
  cases hs : s.handle with
  | closed => exact Spec.fail.pre fun _ h => h.1
  | crashed => exact Spec.fail.pre fun _ h => h.1
  | opened c =>
    refine Spec.ghost_bind fun g => ?_
    rintro st ⟨⟨h, rfl⟩, rfl⟩
    -- with the handle open, the session holds the only live handle
    obtain ⟨x, hx⟩ : ∃ x, st.2.held = some x :=
      Option.isSome_iff_exists.mp (h.held.mpr (by rw [hs]; rfl))
    let I : Session × Ghost → Prop := fun st' => Quiet strict st' ∧ st'.2.held = some x
    have hI : OnKind I := fun s s' g hk h' => ⟨Quiet.onKind s s' g hk h'.1, h'.2⟩
    have hran : ∀ st', I st' →
        I (st'.1, { st'.2 with calls := st'.2.calls ++ [.ran (st.2.held.getD 0)] }) :=
      fun st' h' => ⟨h'.1.inert (by simp [Call.Inert, h'.1.live, h'.2, hx]), h'.2⟩
    refine Spec.bind (Spec.attempt_inv (engineRun_spec hI hran)) (fun r => ?_) (fun _ _ h' => h'.1)
      (R := fun _ => Quiet strict) st ⟨h, hx⟩
    rcases r with e | ⟨c', rows⟩
    · -- a fault of the engine abandons the handle
      exact Spec.ite (Spec.bind_inv (abandon_spec.pre fun _ h' => h'.1)
        fun _ => Spec.fail) (Spec.fail.pre fun _ h' => h'.1)
    · refine Spec.bind (Spec.lift hI fun st' h' => ?_) (fun _ => Spec.pure fun _ h' => h'.1)
        fun _ _ h' => h'.1
      show HandleKind.opened = _
      exact (h'.1.held.mp (by simp [h'.2])).symm

theorem isOpen_spec {I : Session × Ghost → Prop} (hI : OnKind I) :
    Spec I isOpen fun _ => I := by
  refine Spec.lift hI fun st _ => ?_
  simp only [Session.isOpen, runFrom_bind, runFrom_get]
  split <;> rfl

theorem runTransaction_spec (stmts : List BoundStatement) :
    Spec (Quiet strict) (runTransaction stmts) fun _ => Quiet strict := by
  refine Spec.bind_inv (run_spec _) fun _ => Spec.bind_inv (Spec.attempt_inv ?_) fun r => ?_
  · exact Spec.bind_inv (Spec.forIn fun st _ => Spec.bind_inv (run_spec st) fun _ =>
      Spec.pure fun _ h => h) fun _ => Spec.bind_inv (run_spec _) fun _ => Spec.pure fun _ h => h
  · rcases r with e | ⟨⟩
    · refine Spec.bind_inv (isOpen_spec Quiet.onKind) fun b => ?_
      dsimp only
      exact Spec.ite (Spec.bind_inv (Spec.attempt_inv (run_spec _)) fun _ => Spec.fail) Spec.fail
    · exact Spec.pure fun _ h => h

/-! ## Crash-safe jobs and the queue -/

theorem guarded_spec {P : Session × Ghost → Prop} {t : Traced α}
    (ht : Spec P t fun _ => Quiet strict) : Spec P (guarded t) fun _ => Quiet strict := by
  refine Spec.tryCatch ht (fun _ _ h => h) fun u => ?_
  cases u with
  | panic => exact Spec.bind_inv abandon_spec fun _ => Spec.fail
  | fail e => exact Spec.throw fun _ h => h

theorem safeAttempts_spec {t : Traced α} (ht : Spec (Quiet strict) t fun _ => Quiet strict)
    (retries : Nat) :
    ∀ fuel n, Spec (Quiet strict) (safeAttempts t retries fuel n) fun _ => Quiet strict
  | 0, _ => Spec.fail
  | fuel + 1, n => by
    refine Spec.bind_inv (Spec.attempt_inv (Spec.bind_inv ensureOpen_quiet fun _ =>
      guarded_spec ht)) fun r => ?_
    rcases r with e | v
    · cases e
      case engineCrashed =>
        exact Spec.ite (Spec.bind_inv recover_quiet fun _ => safeAttempts_spec ht retries fuel _)
          Spec.fail
      all_goals exact Spec.fail
    · exact Spec.pure fun _ h => h

theorem submit_quiet {P : Session × Ghost → Prop} {t : Traced α}
    (ht : Spec P t fun _ => Quiet strict) (st : Session × Ghost) (hst : P st) :
    Quiet strict ((submit t).run st).2 := by
  have h := guarded_spec ht st hst
  rw [submit_run]
  rcases hrun : runFrom (guarded t) st with ⟨((e | _) | v), st'⟩ <;> rw [hrun] at h <;> exact h

theorem submitSafe_quiet {t : Traced α} (ht : Spec (Quiet strict) t fun _ => Quiet strict)
    (st : Session × Ghost) (hst : Quiet strict st) : Quiet strict ((submitSafe t).run st).2 :=
  submit_quiet (safeAttempts_spec ht st.1.config.crashRetries (st.1.config.crashRetries + 1) 0) st
    hst

/-- An export closes the handle only once it is open. -/
theorem exportJob_quiet : Spec (Quiet strict) exportJob fun _ => Quiet strict := by
  refine Spec.bind ensureOpen_spec (fun _ => ?_) fun _ _ h => h.1
  refine Spec.bind_inv (close_spec.mono (fun _ h => ⟨h.1, fun _ => by rw [h.2 rfl]; simp⟩)
    fun _ _ h => h.quiet) fun _ => ?_
  exact Spec.session_bind fun _ => Spec.map_inv (ensureOpen_quiet.mono (fun _ h => h.1)
    fun _ _ h => h)

/-- An import closes the handle as it finds it; with `strict`, it must not find it crashed. -/
theorem importJob_spec (image : List UInt8) :
    Spec (fun st => Quiet strict st ∧ (strict → st.1.handle.kind ≠ .crashed)) (importJob image)
      fun _ => Quiet strict := by
  have hP : OnKind fun st : Session × Ghost =>
      Quiet strict st ∧ (strict → st.1.handle.kind ≠ .crashed) :=
    fun s s' g hk h => ⟨Quiet.onKind s s' g hk h.1, fun hs => by rw [hk]; exact h.2 hs⟩
  refine Spec.bind (Spec.lift hP fun _ _ => ?_) (fun _ => ?_) fun _ _ h => h.1
  · cases Database.verifiedCopy image <;> rfl
  · refine Spec.bind_inv (close_spec.post fun _ _ h => h.quiet) fun _ => ?_
    exact Spec.bind_inv (Spec.lift Quiet.onKind fun _ _ => rfl) fun _ => ensureOpen_quiet

end Traced

namespace Closure

variable {α : Type} {strict : Prop}

theorem traced_quiet : ∀ c : Closure α,
    Traced.Spec (Traced.Quiet strict) c.traced fun _ => Traced.Quiet strict
  | .done _ => Traced.Spec.pure fun _ h => h
  | .stop _ => Traced.Spec.throw fun _ h => h
  | .run st next =>
    Traced.Spec.bind_inv (Traced.run_spec st) fun rows => traced_quiet (next rows)
  | .transaction stmts next =>
    Traced.Spec.bind_inv (Traced.runTransaction_spec stmts) fun _ => traced_quiet next

end Closure

namespace QueueJob

/-- The jobs that close the handle without opening it first. -/
def closes : QueueJob → Bool
  | .close | .importImage _ => true
  | _ => false

variable {strict : Prop}

open Traced in
/-- Every job of the queue keeps the invariant; with `strict`, provided a job that closes the
handle without opening it does not meet a crashed one. -/
theorem traced_quiet (q : QueueJob) (st : Session × Ghost) (h : Quiet strict st)
    (hq : strict → q.closes = true → st.1.handle.kind ≠ .crashed) :
    Quiet strict (q.traced.run st).2 := by
  cases q with
  | init => exact submit_quiet ensureOpen_quiet st h
  | close =>
    exact submit_quiet (close_spec.post fun _ _ h => h.quiet) st
      ⟨h, fun hs => hq hs rfl⟩
  | restarts =>
    exact submit_quiet (t := Session.restarts <$> session) (Spec.map_inv fun _ h => h) st h
  | exportImage => exact submit_quiet exportJob_quiet st h
  | importImage image => exact submit_quiet (importJob_spec image) st ⟨h, fun hs => hq hs rfl⟩
  | safe c => exact submitSafe_quiet c.traced_quiet st h

/-- A run of the queue keeps the invariant; with `strict`, provided no job that closes the
handle without opening it meets a crashed one. -/
theorem forM_quiet : ∀ (js : List QueueJob) (st : Session × Ghost), Traced.Quiet strict st →
    (strict → ∀ i (hi : i < js.length), js[i].closes = true →
      (((js.take i).forM run).run st.1).2.handle.kind ≠ .crashed) →
    Traced.Quiet strict ((js.forM traced).run st).2
  | [], _, h, _ => h
  | q :: js, st, h, hjs => by
    have hq := traced_quiet q st h fun hs hc => hjs hs 0 (by simp) hc
    -- the rest starts from the model's session, whatever the record holds
    have hstate : (q.traced.run st).2.1 = (q.run.run st.1).2 :=
      congrArg Prod.snd (traced_erases q st)
    refine forM_quiet js _ hq fun hs i hi hc => ?_
    have hrun : ((q :: js.take i).forM run).run st.1 =
        ((js.take i).forM run).run (q.run.run st.1).2 :=
      rfl
    have := hjs hs (i + 1) (by simp; omega) hc
    rw [List.take_succ_cons, hrun, ← hstate] at this
    exact this

end QueueJob

/-! ## At most one live handle -/

/-- Over every run of the queue from a closed session: the run does to the session what the
queue's jobs do; at every point at most one handle is live; the engine is asked to open only
while the session's handle is closed and no handle is live, so a handle whose setup failed was
dropped before the next attempt; statements run on, and closes and drops reach, only a live
handle, never one closed or dropped before; and between jobs the handles opened minus those
closed or dropped number one exactly when the handle is open, and none otherwise. -/
theorem one_live_handle (s : Session) (hs : s.handle = .closed) (js : List QueueJob) :
    let r := (js.forM QueueJob.traced).run (s, {})
    r.2.1 = ((js.forM QueueJob.run).run s).2 ∧
      (∀ pre post, r.2.2.calls = pre ++ post → (Call.live pre).length ≤ 1) ∧
      (∀ pre h k post, r.2.2.calls = pre ++ .opening h k :: post →
        k = .closed ∧ Call.live pre = []) ∧
      (∀ pre c post h, r.2.2.calls = pre ++ c :: post → c.touched = some h → h ∈ Call.live pre) ∧
      (∀ pre c mid d post h, r.2.2.calls = pre ++ c :: mid ++ d :: post →
        c.released = some h → d.touched ≠ some h) ∧
      Call.balance r.2.2.calls = if r.2.1.handle.kind = .opened then 1 else 0 := by
  intro r
  have hq : Traced.Quiet False r.2 :=
    QueueJob.forM_quiet js (s, {}) (Traced.Quiet.initial hs) False.elim
  have hsound := hq.sound
  refine ⟨congrArg Prod.snd (QueueJob.forM_traced_erases js (s, {})), ?_, ?_, ?_, ?_, ?_⟩
  · intro pre post heq
    rw [heq] at hsound
    exact hsound.of_append.length_live_le
  · intro pre h k post heq
    obtain ⟨hk, hl, -⟩ := hsound pre _ post heq
    exact ⟨hk, hl⟩
  · intro pre c post h heq hc
    exact Call.Allowed.touched (hsound pre c post heq) hc
  · intro pre c mid d post h heq hc hd
    rw [heq] at hsound
    exact hsound.no_use_after_release hc hd
  · -- the live handles are the held one, held exactly while the handle is open
    rw [← hsound.length_live, hq.live]
    have hheld := hq.held
    cases hh : r.2.2.held with
    | none =>
      rw [hh] at hheld
      simp only [Option.isSome_none, Bool.false_eq_true, false_iff] at hheld
      simp [hheld]
    | some x =>
      rw [hh] at hheld
      simp only [Option.isSome_some, true_iff] at hheld
      simp [hheld]

theorem one_live_handle_after_init :
    (default : Session).handle = .closed ∧
      Call.balance (([QueueJob.init].forM QueueJob.traced).run (default, {})).2.2.calls =
        if (([QueueJob.init].forM QueueJob.traced).run (default, {})).2.1.handle.kind = .opened
        then 1 else 0 :=
  ⟨rfl, (one_live_handle default rfl [.init]).2.2.2.2.2⟩

/-! ## A reset before every reopen -/

/-- A crashed engine is reset before it is opened again, over every run of the queue from a
closed session in which no job that closes the handle without opening it (a close, an image
import) meets a crashed handle: every open call is made with no reset owed, that is, after a
reset since the last crash. -/
theorem reset_before_reopen (s : Session) (hs : s.handle = .closed) (js : List QueueJob)
    (hjs : ∀ i (hi : i < js.length), js[i].closes = true →
      (((js.take i).forM QueueJob.run).run s).2.handle.kind ≠ .crashed) :
    ∀ pre h k post, ((js.forM QueueJob.traced).run (s, {})).2.2.calls =
      pre ++ .opening h k :: post → Call.owes pre = false := by
  intro pre h k post heq
  have hq : Traced.Quiet True ((js.forM QueueJob.traced).run (s, {})).2 :=
    QueueJob.forM_quiet js (s, {}) (Traced.Quiet.initial hs) fun _ => hjs
  exact hq.resets trivial pre _ post heq rfl

end DocStore
