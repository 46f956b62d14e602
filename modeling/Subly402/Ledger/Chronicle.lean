/-
# The books after every entry of the log

A restart reads a part of the log, from where a snapshot was captured on, and a crash
may have cut the log short.  `Chronicle` therefore keeps the books after each entry, not
only those at the end: any part of the log explains how its last books came from its
first (`Chronicle.explains`), and goes on with entries that explain what comes next
(`Chronicle.extend`).
-/

import Subly402.Ledger.Log

namespace Subly402

open Lib

/-! ### Another index of payment ids -/

namespace Ledger

/-- The books with another index of payment ids. -/
@[simps]
def reindexed (l : Ledger) (index : FiniteMap String String) : Ledger :=
  { l with paymentIdIndex := index }

variable (l : Ledger) (index : FiniteMap String String)

/-- One settlement of a batch reads no payment id. -/
theorem confirmSettlement_reindexed (batchId : ℕ) (tx : String) (acc : Ledger × List String)
    (settlementId : String) :
    confirmSettlement batchId tx (acc.1.reindexed index, acc.2) settlementId
      = ((confirmSettlement batchId tx acc settlementId).1.reindexed index,
        (confirmSettlement batchId tx acc settlementId).2) := by
  obtain ⟨l, affected⟩ := acc
  set noted := (l.dropHistory settlementId).setBatch settlementId ⟨batchId, tx⟩
  have hreservation : (noted.reindexed index).reservationOf settlementId
      = noted.reservationOf settlementId := rfl
  have hcredit : (noted.reindexed index).creditNaming settlementId
      = noted.creditNaming settlementId := rfl
  have hnoted : ((l.reindexed index).dropHistory settlementId).setBatch settlementId ⟨batchId, tx⟩
      = noted.reindexed index := rfl
  simp only [confirmSettlement, hnoted, hreservation, hcredit]
  cases noted.reservationOf settlementId with
  | none => cases noted.creditNaming settlementId <;> rfl
  | some e =>
    simp only [reindexed_credits]
    cases noted.credits[e.2.providerId]? <;> rfl

/-- Nor does any event. -/
theorem apply_reindexed (ev : LedgerEvent) :
    ∃ index', (l.reindexed index).apply ev = (l.apply ev).reindexed index' := by
  cases ev with
  | reserve r => exact ⟨index.insert r.paymentId r.verificationId, rfl⟩
  | confirm settlementIds batchId tx =>
    refine ⟨index, ?_⟩
    set reindex : Ledger × List String → Ledger × List String := fun acc =>
      (acc.1.reindexed index, acc.2)
    have hfold : settlementIds.foldl (confirmSettlement batchId tx) (reindex (l, []))
        = reindex (settlementIds.foldl (confirmSettlement batchId tx) (l, [])) :=
      List.foldl_hom reindex (confirmSettlement_reindexed index batchId tx)
    rw [apply, confirm, show (l.reindexed index, []) = reindex (l, []) from rfl, hfold]
    exact List.foldl_hom (fun l : Ledger => l.reindexed index) fun _ _ => rfl
  | _ =>
    refine ⟨index, ?_⟩
    simp only [apply, settle, close, updateChannel, reindexed_pending, reindexed_reservations,
      reindexed_channels, reindexed_providers]
    repeat' split
    all_goals rfl

/-- No event looks at the index of payment ids. -/
theorem Enabled.reindexed {l : Ledger} {curve : Curve} {ev : LedgerEvent} (h : l.Enabled curve ev)
    (index : FiniteMap String String) : (l.reindexed index).Enabled curve ev := by
  cases ev with
  | settle | close => exact ⟨⟨h.1.reservations, h.1.credits, h.1.history, h.1.closed⟩, h.2⟩
  | _ => exact h

end Ledger

/-- No entry does either. -/
theorem Means.reindexed {env : Env} {l : Ledger} {e : WalEntry} {ev : LedgerEvent}
    (h : Means env l e ev) (index : FiniteMap String String) :
    Means env (l.reindexed index) e ev := by
  cases h <;> constructor <;> assumption

/-- **Books that differ in the index of payment ids move alike.** -/
theorem Explains.reindexed {env : Env} {supply : Supply} {l l' : Ledger} {es : List WalEntry}
    (h : Explains env supply l es l') (index : FiniteMap String String) :
    ∃ index', Explains env supply (l.reindexed index) es (l'.reindexed index') := by
  induction h with
  | nil => exact ⟨index, .nil _⟩
  | note _ he ih =>
    obtain ⟨index', hexp⟩ := ih
    exact ⟨index', hexp.note he⟩
  | @event l' _ _ ev _ he hfrom hmeans ih =>
    obtain ⟨index', hexp⟩ := ih
    obtain ⟨index'', happly⟩ := l'.apply_reindexed index' ev
    exact ⟨index'', happly ▸ hexp.event (he.reindexed index') hfrom (hmeans.reindexed index')⟩

/-! ### The chronicle of a log -/

/-- What an entry says of the books before and after it. -/
inductive Says (env : Env) (supply : Supply) (l : Ledger) (e : WalEntry) : Ledger → Prop
  | note (he : e.isNote) : Says env supply l e l
  | event {ev : LedgerEvent} (he : l.Enabled env.curve ev) (hfrom : ev.From env supply)
      (hmeans : Means env l e ev) : Says env supply l e (l.apply ev)

/-- More may have been drawn. -/
theorem Says.mono {env : Env} {supply supply' : Supply} {l l' : Ledger} {e : WalEntry}
    (h : Says env supply l e l') (hle : supply'.Covers supply) : Says env supply' l e l' := by
  cases h with
  | note hnote => exact .note hnote
  | event he hfrom hmeans => exact .event he (hfrom.mono hle) hmeans

/-- One more entry. -/
theorem Explains.snoc {env : Env} {supply : Supply} {l l' l'' : Ledger} {es : List WalEntry}
    {e : WalEntry} (h : Explains env supply l es l') (hsaid : Says env supply l' e l'') :
    Explains env supply l (es ++ [e]) l'' := by
  cases hsaid with
  | note hnote => exact h.note hnote
  | event he hfrom hmeans => exact h.event he hfrom hmeans

/-- The books before the first entry and after each. -/
def Chronicle (env : Env) (supply : Supply) (books : ℕ → Ledger) (es : List WalEntry) : Prop :=
  ∀ k e, es[k]? = some e → Says env supply (books k) e (books (k + 1))

namespace Chronicle

variable {env : Env} {supply supply' : Supply} {books books' : ℕ → Ledger} {es es' : List WalEntry}

/-- More may have been drawn. -/
theorem mono (h : Chronicle env supply books es) (hle : supply'.Covers supply) :
    Chronicle env supply' books es := fun k e he => (h k e he).mono hle

/-- The log may be cut short. -/
theorem left (h : Chronicle env supply books (es ++ es')) : Chronicle env supply books es := by
  intro k e he
  refine h k e ?_
  rw [List.getElem?_append_left (List.getElem?_eq_some_iff.1 he).1]
  exact he

/-- **Any part of the log explains its books.** -/
theorem explains (h : Chronicle env supply books (es ++ es')) :
    Explains env supply (books es.length) es' (books (es ++ es').length) := by
  induction es' using List.reverseRecOn with
  | nil => simpa using Explains.nil (books es.length)
  | append_singleton es' e ih =>
    have hlast : (es ++ (es' ++ [e]))[(es ++ es').length]? = some e := by
      rw [← List.append_assoc]
      exact List.getElem?_concat_length
    have hboth := (ih (left (by rwa [← List.append_assoc] at h))).snoc (h _ e hlast)
    simpa [Nat.add_assoc] using hboth

/-- One more entry. -/
theorem snoc (h : Chronicle env supply books es) {e : WalEntry} {l : Ledger}
    (he : Says env supply (books es.length) e l) :
    Chronicle env supply (Function.update books (es.length + 1) l) (es ++ [e]) := by
  intro k e' hk
  have hlast : k = es.length ∧ e' = e ∨ k < es.length ∧ es[k]? = some e' := by grind
  rcases hlast with ⟨rfl, rfl⟩ | ⟨hlt, hk⟩
  · rw [Function.update_self, Function.update_of_ne (by omega)]
    exact he
  · rw [Function.update_of_ne (by omega), Function.update_of_ne (by omega)]
    exact h k e' hk

/-- **More entries, which explain how the books went on.** -/
theorem extend (h : Chronicle env supply books es) {l : Ledger}
    (hexp : Explains env supply (books es.length) es' l) :
    ∃ books', (∀ k ≤ es.length, books' k = books k) ∧ books' (es ++ es').length = l ∧
      Chronicle env supply books' (es ++ es') := by
  have hone : ∀ {es' : List WalEntry} {e : WalEntry} {l l' : Ledger}, (∃ books',
      (∀ k ≤ es.length, books' k = books k) ∧ books' (es ++ es').length = l ∧
        Chronicle env supply books' (es ++ es')) → Says env supply l e l' →
      ∃ books', (∀ k ≤ es.length, books' k = books k) ∧ books' (es ++ (es' ++ [e])).length = l' ∧
        Chronicle env supply books' (es ++ (es' ++ [e])) := by
    rintro es' e l l' ⟨books', hsame, rfl, hbooks'⟩ he
    rw [← List.append_assoc]
    refine ⟨_, fun k hk => ?_, ?_, hbooks'.snoc he⟩
    · rw [Function.update_of_ne (by simp; omega), hsame k hk]
    · rw [show (es ++ es' ++ [e]).length = (es ++ es').length + 1 from List.length_append,
        Function.update_self]
  generalize hl : books es.length = l₀ at hexp
  induction hexp with
  | nil => exact ⟨books, fun _ _ => rfl, by simp [hl], by simpa using h⟩
  | note _ he ih => exact hone ih (.note he)
  | event _ he hfrom hmeans ih => exact hone ih (.event he hfrom hmeans)

end Chronicle

end Subly402
