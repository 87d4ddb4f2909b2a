import CoinWallet.Proofs.Account.Commit
import CoinWallet.Proofs.Session.Overlap

set_option autoImplicit false

namespace CoinWallet

namespace Wallet

theorem nonce_setToken (w : Wallet) (t : Token) (value : Decimal) :
    (w.setToken t value).nonce = w.nonce := by
  simp only [setToken, addToken]
  split <;> rfl

theorem nonce_adopt (w : Wallet) (tokens : List (Token × Decimal)) :
    (Account.adopt w tokens).nonce = w.nonce := by
  induction tokens generalizing w with
  | nil => rfl
  | cons entry rest ih => exact (ih _).trans (nonce_setToken w entry.1 entry.2)

end Wallet

namespace Write

def count? : Write → Option UInt64
  | commit (.account update) _ => some update.transactionCount
  | _ => none

theorem nonce_apply (w : Wallet) (x : Write) : (x.apply w).nonce = x.count?.or w.nonce := by
  cases x with
  | commit update now =>
    cases update with
    | utxo info =>
      simp only [apply, Update.commit, Utxo.commit, Utxo.commitHistory]
      repeat' split
      all_goals rfl
    | account update => exact Account.nonce_commit w update now
  | record payload hash => rfl
  | adopt tokens => exact w.nonce_adopt tokens
  | track t =>
    simp only [apply, Wallet.addToken]
    split <;> rfl
  | untrack t => rfl

def counts (writes : List Write) : List UInt64 :=
  writes.filterMap count?

end Write

theorem Wallet.nonce_after (w : Wallet) (writes : List Write) :
    (w.after writes).nonce = (Write.counts writes).getLast?.or w.nonce := by
  induction writes generalizing w with
  | nil => rfl
  | cons x rest ih =>
    rw [after_cons, ih, Write.nonce_apply]
    cases brought : x.count? with
    | none => simp [Write.counts, brought]
    | some count =>
      simp [Write.counts, brought, List.getLast?_cons]

namespace Session

structure Takes (s : Session) (now : Moment) (id : CallId) (snapshot : Wallet) (s' : Session) :
    Prop where
  moved : s.step? now id .proceed = some s'
  before : ∃ payload, s.calls[id]? = some (.send (.entered payload))
  after : ∃ payload, s'.calls[id]? = some (.send (.building payload snapshot))

variable {s s' : Session} {now : Moment} {id : CallId} {snapshot : Wallet}

theorem Takes.eq_wallet (takes : s.Takes now id snapshot s') :
    s.manager.wallet = snapshot ∧ s'.manager.wallet = snapshot := by
  obtain ⟨moved, ⟨payload, entered⟩, ⟨payload', built⟩⟩ := takes
  obtain ⟨call, call', m', found, inner, rfl⟩ := step?_eq_some moved
  cases entered.symm.trans found
  have inside := (List.getElem?_eq_some_iff.mp found).1
  simp only [List.getElem?_set_self inside, Option.some.injEq] at built
  subst built
  cases Call.step_of_step? inner with
  | send step =>
    cases step with
    | build => exact ⟨rfl, rfl⟩

-- the last of counts that never fall is the greatest
theorem getLast?_or_ne_iff {nonce : Option UInt64} {counts : List UInt64}
    (rising : (nonce.toList ++ counts).Pairwise (· ≤ ·)) :
    counts.getLast?.or nonce ≠ nonce ↔ ∃ count ∈ counts, ∀ old ∈ nonce, old < count := by
  obtain ⟨-, inOrder, above⟩ := List.pairwise_append.mp rising
  cases last : counts.getLast? with
  | none => simp [List.getLast?_eq_none_iff.mp last]
  | some final =>
    have most : ∀ count ∈ counts, count ≤ final := by
      obtain ⟨front, rfl⟩ := List.getLast?_eq_some_iff.mp last
      intro count member
      rcases List.mem_append.mp member with early | late
      · exact (List.pairwise_append.mp inOrder).2.2 count early final (by simp)
      · exact UInt64.le_of_eq (List.mem_singleton.mp late)
    have member : final ∈ counts := List.mem_of_getLast? last
    cases nonce with
    | none => simpa using ⟨final, member⟩
    | some old =>
      have least : old ≤ final := above old (by simp) final member
      rw [Option.some_or, ne_eq, Option.some.injEq]
      constructor
      next =>
        intro other
        refine ⟨final, member, fun known same => ?_⟩
        cases same
        exact UInt64.lt_of_le_of_ne least (Ne.symm other)
      next =>
        rintro ⟨count, present, greater⟩ rfl
        have once : final < count := greater final rfl
        exact UInt64.not_lt.mpr (most count present) once

/-- A payment is built with the last count that was written before it took the wallet. Another one
after it has another nonce exactly if the last count that was written in between is another; if
counts never fall, any greater one in between makes it so. -/
theorem nonce_of_run {m : Manager} {before between : List (Moment × Action)} {s t s' t' : Session}
    {now now' : Moment} {id id' : CallId} {snapshot snapshot' : Wallet}
    (ran : run? ⟨m, []⟩ before = some s) (first : s.Takes now id snapshot t)
    (went : t.run? between = some s') (second : s'.Takes now' id' snapshot' t') :
    snapshot.nonce =
        (Write.counts ((Session.mk m []).writes before)).getLast?.or m.wallet.nonce ∧
      (snapshot'.nonce ≠ snapshot.nonce ↔
        ∃ count ∈ (Write.counts (t.writes between)).getLast?, some count ≠ snapshot.nonce) ∧
      ((snapshot.nonce.toList ++ Write.counts (t.writes between)).Pairwise (· ≤ ·) →
        (snapshot'.nonce ≠ snapshot.nonce ↔
          ∃ count ∈ Write.counts (t.writes between), ∀ nonce ∈ snapshot.nonce, nonce < count)) := by
  have taken : snapshot.nonce =
      (Write.counts ((Session.mk m []).writes before)).getLast?.or m.wallet.nonce := by
    rw [← first.eq_wallet.1, run?_wallet ran, Wallet.nonce_after]
  have again : snapshot'.nonce = (Write.counts (t.writes between)).getLast?.or snapshot.nonce := by
    rw [← second.eq_wallet.1, run?_wallet went, Wallet.nonce_after, first.eq_wallet.2]
  refine ⟨taken, ?_, fun rising => ?_⟩
  next =>
    rw [again]
    cases (Write.counts (t.writes between)).getLast? <;> simp
  next =>
    rw [again]
    exact getLast?_or_ne_iff rising

end Session

namespace Sample

-- a refresh is told of three transactions, and a payment has its turn
def counted : List (Moment × Action) :=
  (moment, .make (.refresh false)) :: Session.stepsOf 0 (timed (counting 3 3 ++ writing)) ++
    (moment, .make (.send (payload accounts))) :: Session.stepsOf 1 (timed [.proceed, .proceed])

-- the network takes it, and another one has its turn
def repeated : List (Moment × Action) :=
  Session.stepsOf 1 (timed ((paying accounts "AB").drop 3)) ++
    (moment, .make (.send (payload accounts))) :: Session.stepsOf 2 (timed [.proceed, .proceed])

def firstTurn : Session := runs ⟨manager accounts, []⟩ counted

def firstTaken : Session := runs firstTurn [(moment, .step 1 .proceed)]

def nextTurn : Session := runs firstTaken repeated

def nextTaken : Session := runs nextTurn [(moment, .step 2 .proceed)]

theorem run?_counted : Session.run? ⟨manager accounts, []⟩ counted = some firstTurn :=
  run?_runs rfl

theorem takes_firstTurn : firstTurn.Takes moment 1 firstTurn.manager.wallet firstTaken :=
  ⟨rfl, ⟨_, rfl⟩, ⟨_, rfl⟩⟩

theorem run?_repeated : firstTaken.run? repeated = some nextTurn :=
  run?_runs rfl

theorem takes_nextTurn : nextTurn.Takes moment 2 nextTurn.manager.wallet nextTaken :=
  ⟨rfl, ⟨_, rfl⟩, ⟨_, rfl⟩⟩

theorem nonce_of_run_repeated :
    Session.run? ⟨manager accounts, []⟩ counted = some firstTurn ∧
      firstTurn.Takes moment 1 firstTurn.manager.wallet firstTaken ∧
      firstTaken.run? repeated = some nextTurn ∧
      nextTurn.Takes moment 2 nextTurn.manager.wallet nextTaken ∧
      (firstTurn.manager.wallet.nonce.toList ++
        Write.counts (firstTaken.writes repeated)).Pairwise (· ≤ ·) ∧
      (nextTurn.manager.wallet.nonce ≠ firstTurn.manager.wallet.nonce ↔
        ∃ count ∈ Write.counts (firstTaken.writes repeated),
          ∀ nonce ∈ firstTurn.manager.wallet.nonce, nonce < count) := by
  have rising : (firstTurn.manager.wallet.nonce.toList ++
      Write.counts (firstTaken.writes repeated)).Pairwise (· ≤ ·) := by
    decide
  have seen := Session.nonce_of_run run?_counted takes_firstTurn run?_repeated takes_nextTurn
  exact ⟨run?_counted, takes_firstTurn, run?_repeated, takes_nextTurn, rising, seen.2.2 rising⟩

-- a payment that the network has taken and the one after it are built with one nonce
theorem nonce_spent_again :
    ¬ ∀ (m : Manager) (before between : List (Moment × Action)) (s t s' t' : Session)
        (now now' : Moment) (id id' : CallId) (snapshot snapshot' : Wallet),
      (∃ c, m.chain = .account c) → Session.run? ⟨m, []⟩ before = some s →
      s.Takes now id snapshot t → t.run? between = some s' → s'.Takes now' id' snapshot' t' →
      (Write.counts ((Session.mk m []).writes before ++ t.writes between)).Pairwise (· ≤ ·) →
      (∃ sent, s'.calls[id]? = some (.send (.finished (.ok sent)))) → snapshot.nonce ≠ none →
        snapshot'.nonce ≠ snapshot.nonce := by
  intro always
  have apart := always _ _ _ _ _ _ _ _ _ _ _ _ _ ⟨_, rfl⟩ run?_counted takes_firstTurn run?_repeated
    takes_nextTurn (by decide) ⟨_, rfl⟩ (by decide)
  exact apart (by decide)

end Sample

end CoinWallet
