/-
# Programs whose writes survive an error

A Rust function that takes `&self` over shared maps and returns `Result` does
not undo its writes when it returns `Err`: whatever it changed before the `?`
stays changed.  `Prog σ ε` is that effect, a state `σ` threaded through both
outcomes, so a partial update before an early return is visible in the model.
-/

import Mathlib

namespace Subly402
namespace Lib

/-- A program over the state `σ` that may fail with `ε`, keeping its writes. -/
def Prog (σ ε α : Type) : Type := σ → Except ε α × σ

namespace Prog

variable {σ τ ε α β : Type}

/-- Run a program from a state. -/
def run (p : Prog σ ε α) (s : σ) : Except ε α × σ := p s

instance : Monad (Prog σ ε) where
  pure a := fun s => (.ok a, s)
  bind p f := fun s => match p s with
    | (.ok a, s') => f a s'
    | (.error e, s') => (.error e, s')

instance : MonadStateOf σ (Prog σ ε) where
  get := fun s => (.ok s, s)
  set s := fun _ => (.ok (), s)
  modifyGet f := fun s => (.ok (f s).1, (f s).2)

instance : MonadExceptOf ε (Prog σ ε) where
  throw e := fun s => (.error e, s)
  tryCatch p h := fun s => match p s with
    | (.ok a, s') => (.ok a, s')
    | (.error e, s') => h e s'

/-- `option.ok_or(e)?`. -/
def okOr (o : Option α) (e : ε) : Prog σ ε α := fun s =>
  match o with
  | some a => (.ok a, s)
  | none => (.error e, s)

/-- `if c { return Err(e) }`. -/
def failIf (c : Prop) [Decidable c] (e : ε) : Prog σ ε Unit := fun s =>
  if c then (.error e, s) else (.ok (), s)

/-- A computation that reads no state, `f()?`. -/
def orReturn (r : Except ε α) : Prog σ ε α := fun s => (r, s)

/-- Run a program for its writes and drop its result, `let _ = f()`. -/
def attempt (p : Prog σ ε α) : Prog σ ε Unit := fun s => (.ok (), (p s).2)

/-- The same program with its errors rewritten, `map_err(f)`. -/
def mapError {ε' : Type} (f : ε → ε') (p : Prog σ ε α) : Prog σ ε' α := fun s =>
  ((p s).1.mapError f, (p s).2)

/-- A program over the component that `get` reads and `put` writes back. -/
def within (get : τ → σ) (put : σ → τ → τ) (p : Prog σ ε α) : Prog τ ε α := fun t =>
  ((p (get t)).1, put (p (get t)).2 t)

/-- `pure` returns and writes nothing. -/
@[simp]
theorem run_pure (a : α) (s : σ) : (pure a : Prog σ ε α).run s = (.ok a, s) := rfl

/-- `bind` stops at the first error. -/
@[simp]
theorem run_bind (p : Prog σ ε α) (f : α → Prog σ ε β) (s : σ) :
    (p >>= f).run s = match p.run s with
      | (.ok a, s') => (f a).run s'
      | (.error e, s') => (.error e, s') := rfl

/-- `get` returns the state. -/
@[simp]
theorem run_get (s : σ) : (get : Prog σ ε σ).run s = (.ok s, s) := rfl

/-- `set` replaces the state. -/
@[simp]
theorem run_set (s t : σ) : (set t : Prog σ ε PUnit).run s = (.ok (), t) := rfl

/-- `modify` maps the state. -/
@[simp]
theorem run_modify (f : σ → σ) (s : σ) :
    (modify f : Prog σ ε PUnit).run s = (.ok (), f s) := rfl

/-- `throw` fails without a write. -/
@[simp]
theorem run_throw (e : ε) (s : σ) : (throw e : Prog σ ε α).run s = (.error e, s) := rfl

/-- A handler keeps what was written before the error. -/
@[simp]
theorem run_tryCatch (p : Prog σ ε α) (h : ε → Prog σ ε α) (s : σ) :
    (tryCatch p h).run s = match p.run s with
      | (.ok a, s') => (.ok a, s')
      | (.error e, s') => (h e).run s' := rfl

/-- `okOr` of a value returns it. -/
@[simp]
theorem run_okOr_some (a : α) (e : ε) (s : σ) : (okOr (some a) e).run s = (.ok a, s) := rfl

/-- `okOr` of nothing fails. -/
@[simp]
theorem run_okOr_none (e : ε) (s : σ) : (okOr (none : Option α) e).run s = (.error e, s) := rfl

/-- `failIf` fails exactly on its condition. -/
@[simp]
theorem run_failIf (c : Prop) [Decidable c] (e : ε) (s : σ) :
    (failIf c e).run s = if c then (.error e, s) else (.ok (), s) := rfl

/-- `attempt` drops the outcome and keeps the writes. -/
@[simp]
theorem run_attempt (p : Prog σ ε α) (s : σ) : p.attempt.run s = (.ok (), (p.run s).2) := rfl

/-- `orReturn` ends as its result does. -/
@[simp]
theorem run_orReturn (r : Except ε α) (s : σ) : (orReturn r : Prog σ ε α).run s = (r, s) := rfl

/-- `mapError` changes the error only. -/
@[simp]
theorem run_mapError {ε' : Type} (f : ε → ε') (p : Prog σ ε α) (s : σ) :
    (p.mapError f).run s = ((p.run s).1.mapError f, (p.run s).2) := rfl

/-- `within` runs on a part of the state. -/
@[simp]
theorem run_within (get : τ → σ) (put : σ → τ → τ) (p : Prog σ ε α) (t : τ) :
    (p.within get put).run t = ((p.run (get t)).1, put (p.run (get t)).2 t) := rfl

/-- A program whose outcome was seen to be a success. -/
theorem run_ok_of_isSome {p : Prog σ ε α} {s : σ} (h : (p.run s).1.toOption.isSome) :
    ∃ a s', p.run s = (.ok a, s') := by
  generalize p.run s = out at h ⊢
  obtain ⟨e | a, s'⟩ := out
  · cases h
  · exact ⟨a, s', rfl⟩

/-! ### Programs that fail without a write -/

/-- From `s`, the program fails and leaves `s`, or succeeds as `Q` says. -/
def Clean (p : Prog σ ε α) (s : σ) (Q : α → σ → Prop) : Prop :=
  (∃ e, p.run s = (.error e, s)) ∨ ∃ a s', p.run s = (.ok a, s') ∧ Q a s'

namespace Clean

variable {s s' : σ} {a : α} {Q : β → σ → Prop}

/-- A run that returns. -/
theorem of_run {p : Prog σ ε α} {Q : α → σ → Prop} (h : p.run s = (.ok a, s')) (hQ : Q a s') :
    p.Clean s Q :=
  .inr ⟨a, s', h, hQ⟩

/-- A run that fails where it began. -/
theorem fail {p : Prog σ ε α} {Q : α → σ → Prop} {e : ε} (h : p.run s = (.error e, s)) :
    p.Clean s Q :=
  .inl ⟨e, h⟩

/-- Past a read of the state. -/
theorem get_bind {k : σ → Prog σ ε β} (h : (k s).Clean s Q) : (get >>= k).Clean s Q := h

/-- Past `ok_or(e)?`, the option holds a value. -/
theorem okOr_bind {o : Option α} {e : ε} {k : α → Prog σ ε β}
    (h : ∀ a, o = some a → (k a).Clean s Q) : (okOr o e >>= k).Clean s Q := by
  cases o with
  | none => exact fail rfl
  | some a => exact h a rfl

/-- Past a check, the check did not fire. -/
theorem failIf_bind {c : Prop} [Decidable c] {e : ε} {k : Unit → Prog σ ε β}
    (h : ¬ c → (k ()).Clean s Q) : (failIf c e >>= k).Clean s Q := by
  by_cases hc : c
  · exact fail (e := e) (by rw [run_bind, run_failIf, if_pos hc])
  · have hrun : (failIf c e >>= k).run s = (k ()).run s := by
      rw [run_bind, run_failIf, if_neg hc]
    rw [Clean, hrun]
    exact h hc

/-- After a program that only reads. -/
theorem read_bind {p : Prog σ ε α} {P : α → Prop} {k : α → Prog σ ε β}
    (hp : p.Clean s fun a s' => P a ∧ s' = s) (h : ∀ a, P a → (k a).Clean s Q) :
    (p >>= k).Clean s Q := by
  obtain ⟨e, he⟩ | ⟨a, s', ha, hP, rfl⟩ := hp
  · exact fail (e := e) (by rw [run_bind, he])
  · have hrun : (p >>= k).run s' = (k a).run s' := by rw [run_bind, ha]
    rw [Clean, hrun]
    exact h a hP

/-- What a clean program that succeeded did. -/
theorem post {p : Prog σ ε β} {b : β} (hp : p.Clean s Q) (h : p.run s = (.ok b, s')) : Q b s' := by
  obtain ⟨e, he⟩ | ⟨b', t, hb, hQ⟩ := hp
  · rw [he] at h
    cases h
  · rw [hb] at h
    cases h
    exact hQ

/-- A clean program over a component is clean over the whole. -/
theorem within {get : τ → σ} {put : σ → τ → τ} {p : Prog σ ε α} {P : α → σ → Prop} {t : τ}
    (hput : put (get t) t = t) (hp : p.Clean (get t) P) :
    (p.within get put).Clean t fun a t' => ∃ s', P a s' ∧ t' = put s' t := by
  obtain ⟨e, he⟩ | ⟨a, s', ha, hP⟩ := hp
  · exact fail (e := e) (by rw [run_within, he, hput])
  · exact .inr ⟨a, put s' t, by rw [run_within, ha], s', hP, rfl⟩

end Clean

/-! ### What a program leaves, whatever its outcome -/

/-- `R` holds of the state after the program, also after an error. -/
def Leaves (p : Prog σ ε α) (s : σ) (R : σ → Prop) : Prop := R (p.run s).2

namespace Leaves

variable {s s' : σ} {R R' : σ → Prop}

/-- From the run itself. -/
theorem of_run {p : Prog σ ε α} {r : Except ε α} (h : p.run s = (r, s')) (hR : R s') :
    p.Leaves s R := by
  rw [Leaves, h]
  exact hR

/-- `pure` leaves the state. -/
theorem pure {a : α} (h : R s) : (Pure.pure a : Prog σ ε α).Leaves s R := h

/-- `throw` leaves the state. -/
theorem throw {e : ε} (h : R s) : (MonadExcept.throw e : Prog σ ε α).Leaves s R := h

/-- A weaker predicate. -/
theorem mono {p : Prog σ ε α} (hp : p.Leaves s R) (h : ∀ t, R t → R' t) : p.Leaves s R' :=
  h _ hp

/-- Rule for `get`. -/
theorem get_bind {k : σ → Prog σ ε β} (h : (k s).Leaves s R) : (get >>= k).Leaves s R := h

/-- Rule for `set`. -/
theorem set_bind {t : σ} {k : PUnit → Prog σ ε β} (h : (k ()).Leaves t R) :
    (set t >>= k).Leaves s R := h

/-- Rule for `modify`. -/
theorem modify_bind {f : σ → σ} {k : PUnit → Prog σ ε β} (h : (k ()).Leaves (f s) R) :
    (modify f >>= k).Leaves s R := h

/-- Rule for `okOr`: either outcome. -/
theorem okOr_bind {o : Option α} {e : ε} {k : α → Prog σ ε β} (hfail : R s)
    (h : ∀ a, o = some a → (k a).Leaves s R) : (okOr o e >>= k).Leaves s R := by
  cases o with
  | none => exact hfail
  | some a => exact h a rfl

/-- Past `ok_or(e)?` of an option that holds a value. -/
theorem okOr_some_bind {o : Option α} {e : ε} {k : α → Prog σ ε β} {a : α} (ho : o = some a)
    (h : (k a).Leaves s R) : (okOr o e >>= k).Leaves s R := by
  subst ho
  exact h

/-- Rule for `orReturn`: either outcome. -/
theorem orReturn_bind {r : Except ε α} {k : α → Prog σ ε β} (hfail : R s)
    (h : ∀ a, r = .ok a → (k a).Leaves s R) : (orReturn r >>= k).Leaves s R := by
  cases r with
  | error e => exact hfail
  | ok a => exact h a rfl

/-- Rule for `failIf`: either outcome. -/
theorem failIf_bind {c : Prop} [Decidable c] {e : ε} {k : Unit → Prog σ ε β} (hfail : c → R s)
    (h : ¬ c → (k ()).Leaves s R) : (failIf c e >>= k).Leaves s R := by
  by_cases hc : c
  · exact of_run (by rw [run_bind, run_failIf, if_pos hc]) (hfail hc)
  · have hrun : (failIf c e >>= k).run s = (k ()).run s := by
      rw [run_bind, run_failIf, if_neg hc]
    rw [Leaves, hrun]
    exact h hc

/-- After a program whose outcome is known. -/
theorem run_bind {p : Prog σ ε α} {k : α → Prog σ ε β} {a : α} (hp : p.run s = (.ok a, s'))
    (h : (k a).Leaves s' R) : (p >>= k).Leaves s R := by
  rw [Leaves, Prog.run_bind, hp]
  exact h

/-- After a clean program. -/
theorem clean_bind {p : Prog σ ε α} {P : α → σ → Prop} {k : α → Prog σ ε β} (hp : p.Clean s P)
    (hfail : R s) (h : ∀ a s', P a s' → (k a).Leaves s' R) : (p >>= k).Leaves s R := by
  obtain ⟨e, he⟩ | ⟨a, s', ha, hP⟩ := hp
  · exact of_run (by rw [Prog.run_bind, he]) hfail
  · exact run_bind ha (h a s' hP)

/-- After a program of which only what it leaves is known. -/
theorem bind {p : Prog σ ε α} {P : σ → Prop} {k : α → Prog σ ε β} (hp : p.Leaves s P)
    (hfail : ∀ t, P t → R t) (h : ∀ a t, P t → (k a).Leaves t R) : (p >>= k).Leaves s R := by
  rw [Leaves] at hp
  rw [Leaves, Prog.run_bind]
  generalize p.run s = out at hp ⊢
  obtain ⟨e | a, t⟩ := out
  · exact hfail t hp
  · exact h a t hp

/-- Past a handler of errors. -/
theorem tryCatch {p : Prog σ ε α} {P : σ → Prop} {h : ε → Prog σ ε α} (hp : p.Leaves s P)
    (hok : ∀ t, P t → R t) (hh : ∀ e t, P t → (h e).Leaves t R) :
    (MonadExcept.tryCatch p h).Leaves s R := by
  rw [Leaves] at hp
  rw [Leaves, run_tryCatch]
  generalize p.run s = out at hp ⊢
  obtain ⟨e | a, t⟩ := out
  · exact hh e t hp
  · exact hok t hp

end Leaves

/-! ### Programs that succeed -/

/-- The program succeeds, and `R` holds of the state after it. -/
def Reaches (p : Prog σ ε α) (s : σ) (R : σ → Prop) : Prop :=
  ∃ a s', p.run s = (.ok a, s') ∧ R s'

namespace Reaches

variable {s s' : σ} {R R' : σ → Prop}

/-- From the run itself. -/
theorem of_run {p : Prog σ ε α} {a : α} (h : p.run s = (.ok a, s')) (hR : R s') :
    p.Reaches s R :=
  ⟨a, s', h, hR⟩

/-- A weaker predicate. -/
theorem mono {p : Prog σ ε α} (hp : p.Reaches s R) (h : ∀ t, R t → R' t) : p.Reaches s R' := by
  obtain ⟨a, s', hrun, hR⟩ := hp
  exact ⟨a, s', hrun, h s' hR⟩

/-- Rule for `get`. -/
theorem get_bind {k : σ → Prog σ ε β} (h : (k s).Reaches s R) : (get >>= k).Reaches s R := h

/-- Rule for `modify`. -/
theorem modify_bind {f : σ → σ} {k : PUnit → Prog σ ε β} (h : (k ()).Reaches (f s) R) :
    (modify f >>= k).Reaches s R := h

/-- After a program that succeeds. -/
theorem run_bind {p : Prog σ ε α} {k : α → Prog σ ε β} {a : α} (hp : p.run s = (.ok a, s'))
    (h : (k a).Reaches s' R) : (p >>= k).Reaches s R := by
  rw [Reaches, Prog.run_bind, hp]
  exact h

/-- Rule for `bind`. -/
theorem bind {p : Prog σ ε α} {P : σ → Prop} {k : α → Prog σ ε β} (hp : p.Reaches s P)
    (h : ∀ a t, P t → (k a).Reaches t R) : (p >>= k).Reaches s R := by
  obtain ⟨a, s', hrun, hP⟩ := hp
  exact run_bind hrun (h a s' hP)

/-- Rule for `okOr` of a value. -/
theorem okOr_bind {o : Option α} {e : ε} {k : α → Prog σ ε β} {a : α} (ho : o = some a)
    (h : (k a).Reaches s R) : (okOr o e >>= k).Reaches s R := by
  subst ho
  exact h

/-- Rule for `orReturn` of a success. -/
theorem orReturn_bind {r : Except ε α} {k : α → Prog σ ε β} {a : α} (hr : r = .ok a)
    (h : (k a).Reaches s R) : (orReturn r >>= k).Reaches s R := by
  subst hr
  exact h

/-- Rule for a check that passes. -/
theorem failIf_bind {c : Prop} [Decidable c] {e : ε} {k : Unit → Prog σ ε β} (hc : ¬ c)
    (h : (k ()).Reaches s R) : (failIf c e >>= k).Reaches s R :=
  run_bind (by rw [run_failIf, if_neg hc]) h

end Reaches

/-! ### What a success says -/

/-- Where the program succeeds, `Q` holds of its result and the state after it. -/
def Returns (p : Prog σ ε α) (s : σ) (Q : α → σ → Prop) : Prop :=
  ∀ a s', p.run s = (.ok a, s') → Q a s'

namespace Returns

variable {s s' : σ} {Q : β → σ → Prop}

/-- From the run itself. -/
theorem of_run {p : Prog σ ε β} {b : β} (h : p.run s = (.ok b, s')) (hQ : Q b s') :
    p.Returns s Q := by
  intro b' t ht
  cases h.symm.trans ht
  exact hQ

/-- `pure` returns its value. -/
theorem pure {b : β} (h : Q b s) : (Pure.pure b : Prog σ ε β).Returns s Q := of_run rfl h

/-- `throw` never returns. -/
theorem throw {e : ε} : (MonadExcept.throw e : Prog σ ε β).Returns s Q := fun _ _ h => by cases h

/-- Rule for `get`. -/
theorem get_bind {k : σ → Prog σ ε β} (h : (k s).Returns s Q) : (get >>= k).Returns s Q := h

/-- Rule for `modify`. -/
theorem modify_bind {f : σ → σ} {k : PUnit → Prog σ ε β} (h : (k ()).Returns (f s) Q) :
    (modify f >>= k).Returns s Q := h

/-- After a program whose outcome is known. -/
theorem run_bind {p : Prog σ ε α} {k : α → Prog σ ε β} {a : α} (hp : p.run s = (.ok a, s'))
    (h : (k a).Returns s' Q) : (p >>= k).Returns s Q := by
  rw [Returns, Prog.run_bind, hp]
  exact h

/-- A weaker postcondition. -/
theorem mono {p : Prog σ ε β} {P : β → σ → Prop} (hp : p.Returns s P)
    (h : ∀ b t, P b t → Q b t) : p.Returns s Q := fun b t ht => h b t (hp b t ht)

/-- Rule for a branch. -/
theorem ite {c : Prop} [Decidable c] {p q : Prog σ ε β} (hp : c → p.Returns s Q)
    (hq : ¬ c → q.Returns s Q) : (if c then p else q).Returns s Q := by
  split
  · next hc => exact hp hc
  · next hc => exact hq hc

/-- After a program of which it is known what its success says. -/
theorem bind {p : Prog σ ε α} {P : α → σ → Prop} {k : α → Prog σ ε β} (hp : p.Returns s P)
    (h : ∀ a t, P a t → (k a).Returns t Q) : (p >>= k).Returns s Q := by
  rw [Returns] at hp
  rw [Returns, Prog.run_bind]
  generalize p.run s = out at hp ⊢
  obtain ⟨e | a, t⟩ := out
  · exact fun _ _ h => by cases h
  · exact h a t (hp a t rfl)

/-- What is left in every case is left by a success. -/
theorem of_leaves {p : Prog σ ε β} {R : σ → Prop} (hp : p.Leaves s R) :
    p.Returns s fun _ t => R t := fun b t ht => by
  rw [Leaves, ht] at hp
  exact hp

/-- A program that succeeds has one success. -/
theorem of_reaches {p : Prog σ ε β} {R : σ → Prop} (hp : p.Reaches s R) :
    p.Returns s fun _ t => R t := by
  obtain ⟨b, t, hrun, hR⟩ := hp
  exact of_run hrun hR

/-- What a success says, with what the program leaves in any case. -/
theorem with_leaves {p : Prog σ ε β} {R : σ → Prop} (hp : p.Returns s Q) (hR : p.Leaves s R) :
    p.Returns s fun b t => Q b t ∧ R t := fun b t ht =>
  ⟨hp b t ht, of_leaves hR b t ht⟩

/-- What is left by a program of which it is known what its success says. -/
theorem bind_leaves {p : Prog σ ε α} {P : α → σ → Prop} {R : σ → Prop} {k : α → Prog σ ε β}
    (hp : p.Returns s P) (hfail : p.Leaves s R) (h : ∀ a t, P a t → (k a).Leaves t R) :
    (p >>= k).Leaves s R := by
  rw [Returns] at hp
  rw [Leaves] at hfail ⊢
  rw [Prog.run_bind]
  generalize p.run s = out at hp hfail ⊢
  obtain ⟨e | a, t⟩ := out
  · exact hfail
  · exact h a t (hp a t rfl)

/-- After a program of which only what it leaves is known. -/
theorem leaves_bind {p : Prog σ ε α} {P : σ → Prop} {k : α → Prog σ ε β} (hp : p.Leaves s P)
    (h : ∀ a t, P t → (k a).Returns t Q) : (p >>= k).Returns s Q :=
  bind (of_leaves hp) h

/-- Rule for `okOr`: the rest has a value. -/
theorem okOr_bind {o : Option α} {e : ε} {k : α → Prog σ ε β}
    (h : ∀ a, o = some a → (k a).Returns s Q) : (okOr o e >>= k).Returns s Q := by
  cases o with
  | none => intro b t ht; cases ht
  | some a => exact h a rfl

/-- Rule for `orReturn`: the rest has a result. -/
theorem orReturn_bind {r : Except ε α} {k : α → Prog σ ε β}
    (h : ∀ a, r = .ok a → (k a).Returns s Q) : (orReturn r >>= k).Returns s Q := by
  cases r with
  | error e => intro b t ht; cases ht
  | ok a => exact h a rfl

/-- Rule for `failIf`: the check passed. -/
theorem failIf_bind {c : Prop} [Decidable c] {e : ε} {k : Unit → Prog σ ε β}
    (h : ¬ c → (k ()).Returns s Q) : (failIf c e >>= k).Returns s Q := by
  by_cases hc : c
  · intro b t ht
    rw [Prog.run_bind, run_failIf, if_pos hc] at ht
    cases ht
  · intro b t ht
    rw [Prog.run_bind, run_failIf, if_neg hc] at ht
    exact h hc b t ht

end Returns

/-! ### Programs that follow a preorder -/

/-- From every state the program ends at one that `r` relates to it, also after an error. -/
def Along (p : Prog σ ε α) (r : σ → σ → Prop) : Prop := ∀ s, p.Leaves s (r s)

/-- The two states agree on what `f` reads. -/
def Same {γ : Type} (f : σ → γ) (s s' : σ) : Prop := f s' = f s

instance {γ : Type} (f : σ → γ) : IsPreorder σ (Same f) where
  refl _ := rfl
  trans _ _ _ h h' := Eq.trans h' h

namespace Along

variable {r : σ → σ → Prop} {p : Prog σ ε α}

/-- Rule for `modify`. -/
theorem modify {f : σ → σ} (h : ∀ s, r s (f s)) : (modify f : Prog σ ε PUnit).Along r := h

/-- Rule for `get`. -/
theorem get_bind {k : σ → Prog σ ε β} (h : ∀ s, (k s).Along r) : (get >>= k).Along r := fun s =>
  h s s

/-- Rule for a branch. -/
theorem ite {c : Prop} [Decidable c] {p q : Prog σ ε α} (hp : c → p.Along r)
    (hq : ¬ c → q.Along r) : (if c then p else q).Along r := by
  split
  · next hc => exact hp hc
  · next hc => exact hq hc

/-- A finer preorder. -/
theorem mono {r' : σ → σ → Prop} (hp : p.Along r) (h : ∀ s t, r s t → r' s t) : p.Along r' :=
  fun s => h s _ (hp s)

variable [IsPreorder σ r]

/-- `pure` stays where it is. -/
theorem pure (a : α) : (Pure.pure a : Prog σ ε α).Along r := fun s => refl_of r s

/-- `throw` stays where it is. -/
theorem throw (e : ε) : (MonadExcept.throw e : Prog σ ε α).Along r := fun s => refl_of r s

/-- `okOr` stays where it is. -/
theorem okOr (o : Option α) (e : ε) : (okOr o e : Prog σ ε α).Along r := fun s => by
  cases o <;> exact refl_of r s

/-- `failIf` stays where it is. -/
theorem failIf (c : Prop) [Decidable c] (e : ε) : (failIf c e : Prog σ ε Unit).Along r := fun s => by
  rw [Leaves, run_failIf]
  split <;> exact refl_of r s

/-- `orReturn` stays where it is. -/
theorem orReturn (x : Except ε α) : (orReturn x : Prog σ ε α).Along r := fun s => refl_of r s

/-- The rest of a program that has followed `r` so far. -/
theorem leaves {s t : σ} (hp : p.Along r) (h : r s t) : p.Leaves t (r s) :=
  (hp t).mono fun _ ht => trans_of r h ht

/-- Rule for `bind`, by transitivity. -/
theorem bind {k : α → Prog σ ε β} (hp : p.Along r) (hk : ∀ a, (k a).Along r) :
    (p >>= k).Along r := fun s =>
  (hp s).bind (fun _ h => h) fun a _ ht => (hk a).leaves ht

/-- Rule for `okOr`. -/
theorem okOr_bind {o : Option α} {e : ε} {k : α → Prog σ ε β}
    (h : ∀ a, o = some a → (k a).Along r) : (Prog.okOr o e >>= k).Along r := fun s =>
  .okOr_bind (refl_of r s) fun a ha => h a ha s

/-- Rule for `failIf`. -/
theorem failIf_bind {c : Prop} [Decidable c] {e : ε} {k : Unit → Prog σ ε β}
    (h : ¬ c → (k ()).Along r) : (Prog.failIf c e >>= k).Along r := fun s =>
  .failIf_bind (fun _ => refl_of r s) fun hc => h hc s

/-- Rule for a handler. -/
theorem tryCatch {h : ε → Prog σ ε α} (hp : p.Along r) (hh : ∀ e, (h e).Along r) :
    (MonadExcept.tryCatch p h).Along r := fun s =>
  .tryCatch (hp s) (fun _ h => h) fun e _ ht => (hh e).leaves ht

end Along

end Prog

end Lib
end Subly402
