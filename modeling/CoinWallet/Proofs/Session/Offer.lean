import CoinWallet.Proofs.Account.Charge
import CoinWallet.Proofs.Fee.Size
import CoinWallet.Proofs.Session.Fault
import CoinWallet.Proofs.Session.History

set_option autoImplicit false

namespace CoinWallet

-- powers and sums are those of the core library
attribute [local instance (high)] instPowNat Zero.ofOfNat0

open Tiers

/-- The fees for gas at the estimates of nodes. None is zero if the price has a floor and the limit
is not. -/
structure AccountChain.Quotes (c : AccountChain) (estimate : UInt64) (rawPrice : Nat)
    (fees : Tiers Fee) : Prop where
  exact : ∃ price units, Decimal.ofBaseUnits? rawPrice 0 = some price ∧
    c.gas.feeTiers? (c.gas.adjustLimit estimate) price = some units ∧
    (fees.map fun fee => fee.amount.value.toRat * 10 ^ 18) = units.values
  positive : ∀ minimal, c.gas.minimalPrice = some minimal → 1 ≤ minimal.toRat →
    1 ≤ (c.gas.adjustLimit estimate).toNat → ∀ fee ∈ fees.toList, 0 < fee.amount.value.toRat

-- the fees are those for what was told, and not below the floor of the chain
def Chain.Quotes (inputs : Inputs) : Chain → Tiers Fee → Prop
  | utxo c, fees => ∀ fee ∈ fees.toList, c.params.minimalFee.toRat ≤ fee.amount.value.toRat
  | account c, fees => ∃ request estimate rawPrice,
      inputs.told (.gasLimit request) (.ok estimate) ∧ inputs.told .gasPrice (.ok rawPrice) ∧
      c.Quotes estimate rawPrice fees

theorem Account.quotes_of_feeOffer {c : AccountChain} {estimate : UInt64} {rawPrice : Nat}
    {offer : FeeOffer} (offered : feeOffer c.blockchain c.gas estimate rawPrice = .ok offer) :
    ∃ fees, FeeOffer.choosable? fees = some offer ∧ c.Quotes estimate rawPrice fees := by
  obtain ⟨price, units, prices, fees, told, made, _, shown, rfl⟩ := feeOffer_ok offered
  have ascending := ascending_of_shows shown (c.gas.ascending_of_feeTiers? made)
  refine ⟨fees, FeeOffer.choosable?_eq_some_iff.mpr ⟨ascending, rfl⟩, ?_, ?_⟩
  next =>
    refine ⟨price, units, told, made, ?_⟩
    rw [← c.blockchain.decimals_of_usesAccounts c.usesAccounts]
    exact map_eq_map_iff.mpr ⟨shown.minimum.units, shown.normal.units, shown.priority.units⟩
  next =>
    intro minimal least one some fee member
    obtain ⟨pair, among, shows⟩ := shown.of_mem_right member
    have priced := one.trans (c.gas.le_floorPrice least price)
    have unit := c.gas.one_le_of_feeTiers? made priced some (fst_mem_of_mem_zip among)
    rw [← shows.units] at unit
    exact pos_of_mul_pos_left (by linarith) (by positivity)

theorem Utxo.choosable_of_feeOffer {c : UtxoChain} {rates : FeeRates} {size : UInt64}
    {offer : FeeOffer} (offered : feeOffer c.blockchain c.params rates size = .ok offer) :
    ∃ fees, FeeOffer.choosable? fees = some offer ∧
      ∀ fee ∈ fees.toList, c.params.minimalFee.toRat ≤ fee.amount.value.toRat := by
  obtain ⟨prices, priced, rfl⟩ := feeOffer_ok offered
  refine ⟨_, FeeOffer.choosable?_eq_some_iff.mpr ⟨?_, rfl⟩, fun fee member => ?_⟩
  next => exact prices.ascending_ordered
  rw [toList_map, List.mem_map] at member
  obtain ⟨price, among, rfl⟩ := member
  obtain ⟨rate, _, made⟩ := (mapM?_eq_some_iff.mp priced).of_mem_right (mem_of_mem_ordered among)
  exact SizeFee.le_of_fee? made

theorem Chain.quotes_of_conclude {inputs : Inputs} {chain : Chain} {builder : Builder}
    {plan : Plan FeeOffer} {replies : Replies plan.queries} {offer : FeeOffer}
    (prices : chain.Prices inputs builder (.ok plan))
    (told : replies.All fun q r => inputs.told q (.ok r)) (concluded : plan.conclude replies = .ok offer) :
    ∃ fees, FeeOffer.choosable? fees = some offer ∧ chain.Quotes inputs fees := by
  obtain ⟨w, amount, destination, now, _, planned⟩ := prices
  cases chain with
  | utxo c =>
    cases planned
    match replies with
    | .cons rates .nil =>
      simp only [Utxo.feePlan, Utxo.offerAt, Outcome.bind_eq_ok_iff, Outcome.ofExcept_eq_ok_iff]
        at concluded
      obtain ⟨draft, _, size, _, offered⟩ := concluded
      exact Utxo.choosable_of_feeOffer offered
  | account c =>
    rw [Chain.feePlan, Account.feePlan] at planned
    split at planned <;> cases planned
    match replies with
    | .cons estimate (.cons rawPrice .nil) =>
      obtain ⟨fees, choosable, quotes⟩ := Account.quotes_of_feeOffer concluded
      exact ⟨fees, choosable, _, estimate, rawPrice, told.1, told.2.1, quotes⟩

-- a cost that is known is what a plan for an amount makes of what was told
def Call.Quoted (inputs : Inputs) (chain : Chain) (builder : Builder) : Call → Prop
  | fee (.finished (.ok offer)) =>
    ∃ (plan : Plan FeeOffer) (replies : Replies plan.queries), chain.Prices inputs builder (.ok plan) ∧
      replies.All (fun q r => inputs.told q (.ok r)) ∧ plan.conclude replies = .ok offer
  | _ => True

theorem Call.quoted_of_step? {inputs : Inputs} {m m' : Manager} {now : Moment} {id : CallId}
    {event : Event} {call call' : Call} (relies : call.Relies inputs m.chain m.builder)
    (moved : call.step? m now id event = some (m', call')) :
    call'.Quoted inputs m.chain m.builder := by
  cases step_of_step? moved with
  | fee step =>
    cases step with
    | @settle fetch r settled =>
      obtain ⟨relies, prices⟩ := relies
      cases r with
      | error fault => trivial
      | ok offer =>
        obtain ⟨replies, outcome, concluded⟩ := Fetch.result?_ok settled
        exact ⟨fetch.plan, replies, prices, relies.all.outcome? outcome, concluded⟩
    | _ => trivial
  | _ => trivial

namespace Session

variable {m : Manager} {actions : List (Moment × Action)} {s : Session}

theorem quoted_of_run (ran : run? ⟨m, []⟩ actions = some s) :
    ∀ call ∈ s.calls, call.Quoted (.of m.wallet.addresses actions) m.chain m.builder := by
  have kept := run?_kept (P := fun s => s.Relies m (.of m.wallet.addresses actions) ∧
    ∀ call ∈ s.calls, call.Quoted (.of m.wallet.addresses actions) m.chain m.builder)
    (fun now action s s' present ⟨relies, quoted⟩ moved => ⟨relies.act? present moved, ?_⟩)
    ⟨relies_new m actions, by simp⟩ ran
  next => exact kept.2
  refine act?_forall (fun demand => by cases demand <;> trivial) ?_ quoted moved
  intro id event call call' m' same member before inner
  have founded := relies.calls call member
  rw [← relies.chain, ← relies.builder] at founded ⊢
  exact Call.quoted_of_step? founded inner

/-- In every run a cost that is known is a choice of three fees in ascending order, none of them
below the floor of the chain. -/
theorem quotes_of_run {offer : FeeOffer} (ran : run? ⟨m, []⟩ actions = some s)
    (member : .fee (.finished (.ok offer)) ∈ s.calls) :
    ∃ fees, offer = .choosable fees ∧ FeeOffer.choosable? fees = some offer ∧
      (fees.map fun fee => fee.amount.value.toRat).Ascending ∧
      m.chain.Quotes (.of m.wallet.addresses actions) fees := by
  obtain ⟨plan, replies, prices, told, concluded⟩ := quoted_of_run ran _ member
  obtain ⟨fees, choosable, quotes⟩ := Chain.quotes_of_conclude prices told concluded
  obtain ⟨ascending, same⟩ := FeeOffer.choosable?_eq_some_iff.mp choosable
  exact ⟨fees, same, choosable, ascending, quotes⟩

end Session

namespace Sample

-- the more urgent, the cheaper
def bargain : Chain :=
  .account ⟨.ethereum,
    { normalMultiplier := .zero, priorityMultiplier := .neg .one, minimalPrice := some .one },
    ["main"], false, ethereum_usesAccounts, main_ne_nil⟩

def upsideDown : Chain :=
  .utxo ⟨.dogecoin, (UtxoParams.preset? .dogecoin).get rfl, ["main"], rfl, main_ne_nil⟩

def falling : Provider
  | .feeRates => .ok ⟨.ofUInt64 2, .one, .zero⟩
  | .gasLimit _ => .ok 21000
  | .gasPrice => .ok 0
  | _ => .fail (.domain (.unsupported "query"))

def measuring : Builder :=
  { builder with estimateSize := fun _ _ => .ok 250 }

def inquiry (chain : Blockchain) (queries : Nat) : List (Moment × Action) :=
  (moment, .make (.fee (.coin chain .one) "shop")) ::
    Session.stepsOf 0 (timed
      (.proceed :: (List.range queries).flatMap (fun member =>
        [.request member .start, .request member (.reply falling)]) ++ [.proceed]))

def offered (s : Session) : Option (Tiers Fee) :=
  match s.calls with
  | [.fee (.finished (.ok (.choosable fees)))] => some fees
  | _ => none

theorem exists_of_offered (m : Manager) (actions : List (Moment × Action)) (values : Tiers Rat)
    (shown : ((Session.run? ⟨m, []⟩ actions).bind offered).map
      (fun fees => fees.map fun fee => fee.amount.value.toRat) = some values) :
    ∃ s fees, Session.run? ⟨m, []⟩ actions = some s ∧
      .fee (.finished (.ok (.choosable fees))) ∈ s.calls ∧
      (fees.map fun fee => fee.amount.value.toRat) = values := by
  obtain ⟨fees, made, equal⟩ := Option.map_eq_some_iff.mp shown
  obtain ⟨s, ran, calls⟩ := Option.bind_eq_some_iff.mp made
  refine ⟨s, fees, ran, ?_, equal⟩
  unfold offered at calls
  split at calls <;> cases calls
  next held => simp [held]

-- what falls as it gets more urgent, or is below zero, is raised to the least of them
theorem quotes_of_run_falling :
    (∃ s fees, Session.run? ⟨manager bargain, []⟩ (inquiry .ethereum 2) = some s ∧
      (fees.map fun fee => fee.amount.value.toRat) = ⟨21 / 10 ^ 15, 21 / 10 ^ 15, 21 / 10 ^ 15⟩ ∧
      FeeOffer.choosable? fees = some (.choosable fees) ∧
      bargain.Quotes (.of [⟨"home", .standard⟩] (inquiry .ethereum 2)) fees) ∧
    ∃ s fees, Session.run? ⟨{ manager upsideDown with builder := measuring }, []⟩
        (inquiry .dogecoin 1) = some s ∧
      (fees.map fun fee => fee.amount.value.toRat) =
        ⟨48828125 / 10 ^ 8, 48828125 / 10 ^ 8, 48828125 / 10 ^ 8⟩ ∧
      FeeOffer.choosable? fees = some (.choosable fees) ∧
      upsideDown.Quotes (.of [⟨"home", .standard⟩] (inquiry .dogecoin 1)) fees := by
  constructor
  next =>
    obtain ⟨s, fees, ran, member, values⟩ :=
      exists_of_offered (manager bargain) (inquiry .ethereum 2)
        ⟨21 / 10 ^ 15, 21 / 10 ^ 15, 21 / 10 ^ 15⟩ (by decide +kernel)
    obtain ⟨_, equal, choosable, _, quotes⟩ := Session.quotes_of_run ran member
    cases equal
    exact ⟨s, fees, ran, values, choosable, quotes⟩
  next =>
    obtain ⟨s, fees, ran, member, values⟩ :=
      exists_of_offered { manager upsideDown with builder := measuring } (inquiry .dogecoin 1)
        ⟨48828125 / 10 ^ 8, 48828125 / 10 ^ 8, 48828125 / 10 ^ 8⟩ (by decide +kernel)
    obtain ⟨_, equal, choosable, _, quotes⟩ := Session.quotes_of_run ran member
    cases equal
    exact ⟨s, fees, ran, values, choosable, quotes⟩

end Sample

end CoinWallet
