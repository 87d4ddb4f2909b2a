import CoinWallet.Proofs.Provider.Source
import CoinWallet.Proofs.Session.Update
import CoinWallet.Session.Wait

set_option autoImplicit false

namespace CoinWallet

structure Inputs where
  told : (q : Query) → Outcome NetworkError q.Reply → Prop
  listed : Except NetworkError (List (Token × Nat)) → Prop
  priced : Amount → Prop
  addresses : List Address

def Session.Replied (actions : List (Moment × Action)) (provider : Provider) : Prop :=
  ∃ now id member, (now, .step id (.request member (.reply provider))) ∈ actions

def Inputs.of (addresses : List Address) (actions : List (Moment × Action)) : Inputs where
  told q r := ∃ provider, Session.Replied actions provider ∧ r = q.settle (provider q)
  listed r := ∃ now id, (now, .step id (.listed r)) ∈ actions
  priced amount := ∃ now destination, (now, .make (.fee amount destination)) ∈ actions
  addresses := addresses

variable {inputs : Inputs} {chain : Chain} {builder : Builder}

inductive Refresh.Fails (inputs : Inputs) (chain : Chain) : Fault ManagerError → Prop
  | cancelled : Fails inputs chain (.failure .cancelled)
  | fetch {w : Wallet} {fault : Fault ManagerError} (own : w.addresses = inputs.addresses)
    (ends : (chain.refreshPlan w).Ends inputs.told fault) : Fails inputs chain fault

inductive Send.Fails (inputs : Inputs) (chain : Chain) : Fault ManagerError → Prop
  | unsent (cause : ManagerError) : Fails inputs chain (.failure cause)
  | fetch {bytes : Bytes} {fault : Fault ManagerError}
    (ends : (chain.broadcastPlan bytes).Ends inputs.told fault) : Fails inputs chain fault

def Chain.Prices (inputs : Inputs) (chain : Chain) (builder : Builder)
    (planned : Except ManagerError (Plan FeeOffer)) : Prop :=
  ∃ w amount destination now, inputs.priced amount ∧
    chain.feePlan builder w amount destination now = planned

inductive FeeInquiry.Fails (inputs : Inputs) (chain : Chain) (builder : Builder) :
    Fault ManagerError → Prop
  | cancelled : Fails inputs chain builder (.failure .cancelled)
  | unplanned {cause : ManagerError} (prices : chain.Prices inputs builder (.error cause)) :
    Fails inputs chain builder (.failure cause)
  | fetch {plan : Plan FeeOffer} {fault : Fault ManagerError}
    (prices : chain.Prices inputs builder (.ok plan)) (ends : plan.Ends inputs.told fault) :
    Fails inputs chain builder fault

inductive CountInquiry.Fails (inputs : Inputs) (chain : Chain) : Fault ManagerError → Prop
  | cancelled : Fails inputs chain (.failure .cancelled)
  | mismatch (expected actual : UInt64) :
    Fails inputs chain (.failure (.domain (.signatureCountMismatch expected actual)))
  | fetch {w : Wallet} {fault : Fault ManagerError} (own : w.addresses = inputs.addresses)
    (ends : (chain.signatureCountPlan w).Ends inputs.told fault) : Fails inputs chain fault

inductive TokenSearch.Fails (inputs : Inputs) : Fault ManagerError → Prop
  | cancelled : Fails inputs (.failure .cancelled)
  | unsupported : Fails inputs (.failure (.capabilityNotSupported .tokenFinder))
  | unlisted {cause : NetworkError} (listed : inputs.listed (.error cause)) :
    Fails inputs (.failure (.network cause))

def Call.Fails (inputs : Inputs) (chain : Chain) (builder : Builder) :
    Call → Fault ManagerError → Prop
  | refresh _ => Refresh.Fails inputs chain
  | send _ => Send.Fails inputs chain
  | fee _ => FeeInquiry.Fails inputs chain builder
  | signatureCount _ => CountInquiry.Fails inputs chain
  | tokens _ => TokenSearch.Fails inputs

def Outcome.Within {α : Type} (fails : Fault ManagerError → Prop) (r : Outcome ManagerError α) :
    Prop :=
  ∀ fault, r = .error fault → fails fault

def Call.Relies (inputs : Inputs) (chain : Chain) (builder : Builder) : Call → Prop
  | refresh (.asking fetch) =>
    fetch.attempts.Relies inputs.told ∧
      ∃ w : Wallet, w.addresses = inputs.addresses ∧ fetch.plan = chain.refreshPlan w
  | refresh (.leaving r) | refresh (.left r) => Outcome.Within (Refresh.Fails inputs chain) r
  | refresh (.finished r) => Outcome.Within (Refresh.Fails inputs chain) r
  | send (.broadcasting _ fetch) =>
    fetch.attempts.Relies inputs.told ∧ ∃ bytes, fetch.plan = chain.broadcastPlan bytes
  | send (.leaving r) | send (.left r) | send (.finished r) =>
    Outcome.Within (Send.Fails inputs chain) r
  | fee (.called amount _) => inputs.priced amount
  | fee (.asking fetch) =>
    fetch.attempts.Relies inputs.told ∧ chain.Prices inputs builder (.ok fetch.plan)
  | fee (.finished r) => Outcome.Within (FeeInquiry.Fails inputs chain builder) r
  | signatureCount (.asking _ fetch) =>
    fetch.attempts.Relies inputs.told ∧
      ∃ w : Wallet, w.addresses = inputs.addresses ∧ fetch.plan = chain.signatureCountPlan w
  | signatureCount (.finished r) => Outcome.Within (CountInquiry.Fails inputs chain) r
  | tokens (.finished r) => Outcome.Within (TokenSearch.Fails inputs) r
  | _ => True

namespace Outcome

variable {α β : Type} {fails : Fault ManagerError → Prop}

theorem within_ok (a : α) : Within fails (.ok a : Outcome ManagerError α) := by
  intro fault equal
  cases equal

theorem within_fail {cause : ManagerError} (failed : fails (.failure cause)) :
    Within fails (.fail cause : Outcome ManagerError α) := by
  intro fault equal
  cases equal
  exact failed

theorem within_error {fault : Fault ManagerError} (failed : fails fault) :
    Within fails (.error fault : Outcome ManagerError α) := by
  intro other equal
  cases equal
  exact failed

theorem Within.map {r : Outcome ManagerError α} (within : Within fails r) (f : α → β) :
    Within fails (r.map f) := by
  intro fault equal
  cases r with
  | ok a => cases equal
  | error other =>
    cases equal
    exact within _ rfl

end Outcome

open Outcome

theorem Attempts.Relies.stepFetch? {α : Type} {m m' : Manager} {fetch next : Fetch α}
    {member : Nat} {event : Fetch.Event} (relies : fetch.attempts.Relies inputs.told)
    (told : ∀ provider, event = .reply provider → ∀ q, inputs.told q (q.settle (provider q)))
    (moved : m.stepFetch? fetch member event = some (m', next)) :
    next.attempts.Relies inputs.told := by
  simp only [Manager.stepFetch?, Option.map_eq_some_iff, Prod.mk.injEq] at moved
  obtain ⟨⟨next, cursor⟩, inner, _, rfl⟩ := moved
  exact relies.fetch_step? told inner

theorem Fetch.ends_of_plan {α : Type} {fetch : Fetch α} {plan : Plan α} {fault : Fault ManagerError}
    (relies : fetch.attempts.Relies inputs.told) (same : fetch.plan = plan)
    (settled : fetch.result? = some (.error fault)) : plan.Ends inputs.told fault :=
  same ▸ ends_of_result? relies settled

theorem CountInquiry.within_compare {expected : UInt64} {r : Outcome ManagerError UInt64}
    (within : Within (Fails inputs chain) r) : Within (Fails inputs chain) (compare expected r) := by
  intro fault equal
  cases r with
  | error other =>
    cases equal
    exact within _ rfl
  | ok actual =>
    simp only [compare, bind, Except.bind] at equal
    split at equal <;> cases equal
    exact .mismatch expected actual

namespace Call

variable {m m' : Manager} {now : Moment} {id : CallId} {event : Event} {call call' : Call}

theorem Relies.step? (relies : call.Relies inputs m.chain m.builder)
    (own : m.wallet.addresses = inputs.addresses)
    (told : ∀ member provider, event = .request member (.reply provider) →
      ∀ q, inputs.told q (q.settle (provider q)))
    (listed : ∀ r, event = .listed r → inputs.listed r)
    (moved : call.step? m now id event = some (m', call')) :
    call'.Relies inputs m.chain m.builder := by
  have replies {member : Nat} {inner : Fetch.Event} (same : event = .request member inner) :
      ∀ provider, inner = .reply provider → ∀ q, inputs.told q (q.settle (provider q)) := by
    rintro provider rfl
    exact told member provider same
  cases step_of_step? moved with
  | refresh step =>
    cases step with
    | refuse down => exact within_fail .cancelled
    | skip turn fresh => exact within_ok _
    | ask => exact ⟨Attempts.relies_waiting _, m.wallet, own, rfl⟩
    | fail settled =>
      obtain ⟨relies, w, own, plan⟩ := relies
      exact within_error (.fetch own (Fetch.ends_of_plan relies plan settled))
    | commit => exact within_ok _
    | idle => exact relies
    | leave => exact Within.map relies _
    | request inner =>
      obtain ⟨relies, w, own, plan⟩ := relies
      exact ⟨relies.stepFetch? (replies rfl) inner, w, own, (stepFetch?_plan inner).trans plan⟩
    | cancel down => exact within_fail .cancelled
    | _ => trivial
  | send step =>
    cases step with
    | broadcast built => exact ⟨Attempts.relies_waiting _, _, rfl⟩
    | reject settled =>
      obtain ⟨relies, bytes, plan⟩ := relies
      exact within_error (.fetch (Fetch.ends_of_plan relies plan settled))
    | record => exact within_ok _
    | idle => exact relies
    | leave => exact relies
    | request inner =>
      obtain ⟨relies, bytes, plan⟩ := relies
      exact ⟨relies.stepFetch? (replies rfl) inner, bytes, (stepFetch?_plan inner).trans plan⟩
    | _ => first | trivial | exact within_fail (.unsent _)
  | fee step =>
    cases step with
    | refuse down => exact within_fail .cancelled
    | ask up planned => exact ⟨Attempts.relies_waiting _, m.wallet, _, _, _, relies, planned⟩
    | unplanned up planned =>
      exact within_fail (.unplanned ⟨m.wallet, _, _, _, relies, planned⟩)
    | settle settled =>
      obtain ⟨relies, prices⟩ := relies
      rintro fault rfl
      exact .fetch prices (Fetch.ends_of_result? relies settled)
    | request inner =>
      obtain ⟨relies, prices⟩ := relies
      exact ⟨relies.stepFetch? (replies rfl) inner, (stepFetch?_plan inner).symm ▸ prices⟩
    | cancel down => exact within_fail .cancelled
  | signatureCount step =>
    cases step with
    | refuse down => exact within_fail .cancelled
    | ask up => exact ⟨Attempts.relies_waiting _, m.wallet, own, rfl⟩
    | settle settled =>
      obtain ⟨relies, w, own, plan⟩ := relies
      refine CountInquiry.within_compare ?_
      rintro fault rfl
      exact .fetch own (Fetch.ends_of_plan relies plan settled)
    | request inner =>
      obtain ⟨relies, w, own, plan⟩ := relies
      exact ⟨relies.stepFetch? (replies rfl) inner, w, own, (stepFetch?_plan inner).trans plan⟩
    | cancel down => exact within_fail .cancelled
  | tokens step =>
    cases step with
    | refuse down => exact within_fail .cancelled
    | unsupported up lacking => exact within_fail .unsupported
    | unlisted => exact within_fail (.unlisted (listed _ rfl))
    | adopt => exact within_ok _
    | cancel down => exact within_fail .cancelled
    | _ => trivial

theorem Relies.fails (relies : call.Relies inputs chain builder) {fault : Fault ManagerError}
    (failed : call.result? = some (.error fault)) : call.Fails inputs chain builder fault := by
  have inside {α : Type} {fails : Fault ManagerError → Prop} {r : Outcome ManagerError α}
      {f : α → Result} (within : Within fails r) (equal : some (r.map f) = some (.error fault)) :
      fails fault := within.map f fault (Option.some.inj equal)
  unfold result? at failed
  split at failed
  case h_6 => cases failed
  all_goals exact inside relies failed

end Call

namespace Session

structure Relies (m : Manager) (inputs : Inputs) (s : Session) : Prop where
  chain : s.manager.chain = m.chain
  builder : s.manager.builder = m.builder
  own : s.manager.wallet.addresses = inputs.addresses
  calls : ∀ call ∈ s.calls, call.Relies inputs m.chain m.builder

variable {m : Manager} {actions : List (Moment × Action)} {s : Session}

theorem Relies.act? {now : Moment} {action : Action} {s' : Session} {addresses : List Address}
    (relies : s.Relies m (.of addresses actions)) (present : (now, action) ∈ actions)
    (moved : s.act? now action = some s') : s'.Relies m (.of addresses actions) where
  chain := (act?_chain moved).trans relies.chain
  builder := (act?_builder moved).trans relies.builder
  own := by rw [act?_wallet moved, Wallet.addresses_after, relies.own]
  calls call' member := by
    obtain ⟨id, found⟩ := List.mem_iff_getElem?.mp member
    cases act?_origin moved found with
    | @made demand _ same =>
      subst same
      cases demand with
      | fee amount destination => exact ⟨now, destination, present⟩
      | _ => trivial
    | stayed before _ => exact relies.calls _ (List.mem_of_getElem? before)
    | @stepped event call before inner =>
      have founded := relies.calls _ (List.mem_of_getElem? before)
      rw [← relies.chain, ← relies.builder] at founded ⊢
      refine founded.step? relies.own ?_ ?_ inner
      · rintro member provider rfl q
        exact ⟨provider, ⟨now, id, member, present⟩, rfl⟩
      · rintro r rfl
        exact ⟨now, id, present⟩

theorem relies_new (m : Manager) (actions : List (Moment × Action)) :
    Relies m (.of m.wallet.addresses actions) ⟨m, []⟩ :=
  ⟨rfl, rfl, rfl, fun call member => by cases member⟩

theorem relies_of_run (ran : run? ⟨m, []⟩ actions = some s) :
    s.Relies m (.of m.wallet.addresses actions) :=
  run?_kept (fun _ _ _ _ present relies moved => relies.act? present moved) (relies_new m actions) ran

theorem fails_of_run {call : Call} {fault : Fault ManagerError} (ran : run? ⟨m, []⟩ actions = some s)
    (member : call ∈ s.calls) (failed : call.result? = some (.error fault)) :
    call.Fails (.of m.wallet.addresses actions) m.chain m.builder fault :=
  ((relies_of_run ran).calls call member).fails failed

end Session

end CoinWallet
