import CoinWallet.Proofs.Session.Action

set_option autoImplicit false

namespace CoinWallet

def Chain.Brings (chain : Chain) (update : Update) : Prop :=
  ∃ w replies, (chain.refreshPlan w).conclude replies = .ok update

theorem Chain.Brings.utxo {chain : Chain} {info : AddressInfo} (brought : chain.Brings (.utxo info)) :
    ∃ c, chain = .utxo c := by
  obtain ⟨w, replies, concluded⟩ := brought
  cases chain with
  | utxo c => exact ⟨c, rfl⟩
  | account c =>
    simp only [refreshPlan, Plan.map] at concluded
    cases found : (Account.refreshPlan c.blockchain w).conclude replies <;>
      simp [found, Except.map] at concluded

theorem Chain.Brings.account {chain : Chain} {update : AccountUpdate}
    (brought : chain.Brings (.account update)) : ∃ c, chain = .account c := by
  obtain ⟨w, replies, concluded⟩ := brought
  cases chain with
  | account c => exact ⟨c, rfl⟩
  | utxo c =>
    simp only [refreshPlan, Plan.map] at concluded
    cases found : (Utxo.refreshPlan w).conclude replies <;>
      simp [found, Except.map] at concluded

def Call.Founded (chain : Chain) : Call → Prop
  | refresh (.asking fetch) => ∃ w, fetch.plan = chain.refreshPlan w
  | refresh (.fetched update) => chain.Brings update
  | _ => True

theorem stepFetch?_plan {α : Type} {m m' : Manager} {fetch next : Fetch α} {member : Nat}
    {event : Fetch.Event} (moved : m.stepFetch? fetch member event = some (m', next)) :
    next.plan = fetch.plan := by
  simp only [Manager.stepFetch?, Fetch.step?, Option.map_eq_some_iff, Prod.mk.injEq] at moved
  obtain ⟨⟨inner, cursor⟩, moved, _, rfl⟩ := moved
  split at moved
  next =>
    simp only [Option.map_eq_some_iff, Prod.mk.injEq] at moved
    obtain ⟨_, _, rfl, _⟩ := moved
    rfl
  next => cases moved

theorem Fetch.result?_ok {α : Type} {fetch : Fetch α} {a : α}
    (settled : fetch.result? = some (.ok a)) :
    ∃ replies, fetch.outcome? = some (.ok replies) ∧ fetch.plan.conclude replies = .ok a := by
  simp only [result?, Option.map_eq_some_iff] at settled
  obtain ⟨r, all, result⟩ := settled
  cases r with
  | ok replies => exact ⟨replies, all, result⟩
  | error fault => cases result

theorem Call.step?_founded {m m' : Manager} {now : Moment} {id : CallId} {event : Event}
    {call call' : Call} (founded : call.Founded m.chain)
    (moved : call.step? m now id event = some (m', call')) : call'.Founded m'.chain := by
  rw [(step?_writes moved).chain]
  cases step_of_step? moved with
  | refresh step =>
    cases step with
    | ask => exact ⟨m.wallet, rfl⟩
    | fetch settled =>
      obtain ⟨w, plan⟩ := founded
      obtain ⟨replies, -, concluded⟩ := Fetch.result?_ok settled
      rename_i fetch update
      obtain ⟨plan', attempts⟩ := fetch
      cases plan
      exact ⟨w, replies, concluded⟩
    | request inner =>
      obtain ⟨w, plan⟩ := founded
      exact ⟨w, (stepFetch?_plan inner).trans plan⟩
    | _ => trivial
  | _ => trivial

def Session.Founded (s : Session) : Prop :=
  ∀ call ∈ s.calls, call.Founded s.manager.chain

namespace Session

theorem act?_founded {s s' : Session} {now : Moment} {action : Action} (founded : s.Founded)
    (moved : s.act? now action = some s') : s'.Founded := by
  unfold Founded
  rw [act?_chain moved]
  refine act?_forall (fun demand => by cases demand <;> trivial) ?_ founded moved
  intro id event call call' m' _ _ before inner
  have after := Call.step?_founded before inner
  rwa [(Call.step?_writes inner).chain] at after

theorem run?_founded {s s' : Session} {actions : List (Moment × Action)} (founded : s.Founded)
    (ran : s.run? actions = some s') : s'.Founded :=
  run?_kept (fun _ _ _ _ _ founded moved => act?_founded founded moved) founded ran

theorem brings_of_mem_writes {s s' : Session} {actions : List (Moment × Action)} {update : Update}
    {now : Timestamp} (founded : s.Founded) (ran : s.run? actions = some s')
    (written : .commit update now ∈ s.writes actions) : s.manager.chain.Brings update := by
  obtain ⟨before, after, middle, _, ran, held⟩ := exists_fetched_of_mem_writes ran written
  rw [← run?_chain ran]
  exact run?_founded founded ran _ held

end Session

end CoinWallet
