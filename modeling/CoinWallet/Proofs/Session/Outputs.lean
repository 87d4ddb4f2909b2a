import CoinWallet.Proofs.Session.Balance
import CoinWallet.Proofs.Session.Fault
import CoinWallet.Proofs.Session.Return
import CoinWallet.Proofs.Utxo.Server

set_option autoImplicit false

namespace CoinWallet

-- powers and sums are those of the core library
attribute [local instance (high)] instPowNat Zero.ofOfNat0

open Outcome
open Esplora (Server Told)

section Crowded

variable (servers : Server → Prop) (addresses : List Address)

/-- What servers tell that leaves no room to the arithmetic of a call: sums of a transaction on an
address beyond signed words, more outputs or transactions than any wallet has, more spent outputs
than a word can count, or an estimate that is no price. -/
inductive Crowded : Call → Prop
  | transaction {r : Refresh} {server : Server} {a : Address} {txs : List Esplora.Report}
    {tx : Esplora.Report} (known : servers server) (own : a ∈ addresses)
    (told : server.TellsTransactions a.value txs) (member : tx ∈ txs) (full : ¬ tx.HasRoom a.value) :
    Crowded (.refresh r)
  | outputs {r : Refresh} {server : Server} {a : Address} {unspent : List Esplora.Unspent}
    (known : servers server) (own : a ∈ addresses) (told : server.TellsUnspent a.value unspent)
    (many : 2 ^ (32 : Nat) ≤ unspent.length) : Crowded (.refresh r)
  | view {r : Refresh} {documents : List (List Esplora.Unspent × List Esplora.Report)}
    (told : List.Forall₂
      (fun (a : Address) document => ∃ server, servers server ∧
        server.TellsUnspent a.value document.1 ∧ server.TellsTransactions a.value document.2)
      addresses documents)
    (many : 2 ^ (32 : Nat) ≤ (documents.map fun document => document.1.length).sum ∨
      2 ^ (32 : Nat) ≤ (documents.map fun document => document.2.length).sum) : Crowded (.refresh r)
  | spent {i : CountInquiry} {server : Server} {a : Address} {report : Esplora.AddressReport}
    (known : servers server) (own : a ∈ addresses) (told : server.TellsReport a.value report)
    (many : 2 ^ (64 : Nat) ≤ report.spent) : Crowded (.signatureCount i)
  | spentByAll {i : CountInquiry} {reports : List Esplora.AddressReport}
    (told : List.Forall₂
      (fun (a : Address) report => ∃ server, servers server ∧ server.TellsReport a.value report)
      addresses reports)
    (many : 2 ^ (64 : Nat) ≤ (reports.map Esplora.AddressReport.spent).sum) :
    Crowded (.signatureCount i)
  | estimate {i : FeeInquiry} {server : Server} {estimates : Esplora.Estimates} {target : String}
    (known : servers server) (told : server.TellsEstimates estimates)
    (asked : target ∈ [Esplora.day, Esplora.hour, Esplora.nextBlock]) (dear : estimates.Dear target) :
    Crowded (.fee i)

end Crowded

namespace Session

variable {c : UtxoChain} {servers : Server → Prop} {addresses : List Address}
  {actions : List (Moment × Action)}

def Served (servers : Server → Prop) (chain : Blockchain) (actions : List (Moment × Action)) : Prop :=
  ∀ provider, Replied actions provider → ∃ server, servers server ∧ server.Answers chain provider

theorem Served.exists_server (served : Served servers c.blockchain actions) {q : Query}
    (strict : ∀ cause, q.excuse? cause = none) {r : Outcome NetworkError q.Reply}
    (told : (Inputs.of addresses actions).told q r) :
    ∃ server provider, servers server ∧ server.Answers c.blockchain provider ∧ provider q = r := by
  obtain ⟨provider, replied, settled⟩ := told
  obtain ⟨server, known, answers⟩ := served provider replied
  rw [Query.settle_of_strict strict] at settled
  exact ⟨server, provider, known, answers, settled.symm⟩

theorem Served.crowded_of_addressInfo (served : Served servers c.blockchain actions) {a : Address}
    (own : a ∈ addresses)
    (told : (Inputs.of addresses actions).told (.addressInfo a.value) (.error .overflow)) (r : Refresh) :
    Crowded servers addresses (.refresh r) := by
  obtain ⟨server, provider, known, answers, told⟩ := served.exists_server (fun _ => rfl) told
  obtain ⟨report, unspent, txs, outputs, listed, read⟩ := answers.addressInfo told fun _ => nofun
  by_cases few : unspent.length < 2 ^ (32 : Nat)
  next =>
    obtain ⟨tx, member, full⟩ := (Esplora.addressInfo_eq_overflow_iff c.usesOutputs few).mp read.symm
    exact .transaction known own listed member full
  next => exact .outputs known own outputs (Nat.not_lt.mp few)

theorem Served.crowded_of_merge? (served : Served servers c.blockchain actions)
    {infos : List AddressInfo}
    (told : List.Forall₂
      (fun (a : Address) info => (Inputs.of addresses actions).told (.addressInfo a.value) (.ok info))
      addresses infos)
    (overflows : AddressInfo.merge? infos = none) (r : Refresh) :
    Crowded servers addresses (.refresh r) := by
  have read : List.Forall₂ (fun (a : Address) info =>
      ∃ document : List Esplora.Unspent × List Esplora.Report,
        (∃ server, servers server ∧ server.TellsUnspent a.value document.1 ∧
          server.TellsTransactions a.value document.2) ∧ Told document.1 document.2 info)
      addresses infos := by
    refine told.imp fun a info told => ?_
    obtain ⟨server, provider, known, answers, told⟩ := served.exists_server (fun _ => rfl) told
    obtain ⟨report, unspent, txs, outputs, listed, read⟩ := answers.addressInfo told fun _ => nofun
    exact ⟨(unspent, txs), ⟨server, known, outputs, listed⟩,
      Esplora.told_of_addressInfo c.usesOutputs read.symm⟩
  obtain ⟨documents, sent, told⟩ := exists_between read
  refine .view sent ?_
  have outputs : (documents.map fun document => document.1.length).sum =
      (infos.map fun info => info.unspentOutputs.length).sum :=
    congrArg List.sum (map_eq_map (told.imp fun _ _ told => told.outputs.symm))
  have history : (documents.map fun document => document.2.length).sum =
      (infos.map fun info => info.history.length).sum :=
    congrArg List.sum (map_eq_map (told.imp fun _ _ told => told.history.symm))
  have inWords : ∀ info ∈ infos, info.InWords := by
    intro info member
    obtain ⟨_, _, told⟩ := exists_mem_of_mem told.flip member
    exact told.inWords
  by_contra few
  rw [not_or, Nat.not_le, Nat.not_le] at few
  rw [outputs, history, ← List.length_flatMap, ← List.length_flatMap] at few
  obtain ⟨merged, found⟩ := AddressInfo.exists_merge?_of_lt inWords few.1 few.2
  rw [found] at overflows
  cases overflows

theorem Served.crowded_of_refresh (served : Served servers c.blockchain actions)
    (fails : Refresh.Fails (.of addresses actions) (.utxo c) .overflow) (r : Refresh) :
    Crowded servers addresses (.refresh r) := by
  generalize whole : Fault.overflow = fault at fails
  cases fails with
  | cancelled => cases whole
  | @fetch w _ own ends =>
    change w.addresses = addresses at own
    subst whole own
    obtain ⟨q, asked, told⟩ | ⟨replies, told, concluded⟩ := ends.overflows
    next =>
      obtain ⟨a, present, rfl⟩ := List.mem_map.mp asked
      exact served.crowded_of_addressInfo present told r
    next =>
      have overflows := ofOption_eq_overflow_iff.mp (map_eq_error_iff.mp concluded)
      refine served.crowded_of_merge? (told.forall₂_toList.imp ?_) overflows r
      rintro a _ ⟨info, told, rfl⟩
      exact told

theorem Served.crowded_of_count (served : Served servers c.blockchain actions) {a : Address}
    (own : a ∈ addresses)
    (told : (Inputs.of addresses actions).told (.signatureCount a.value) (.error .overflow))
    (i : CountInquiry) : Crowded servers addresses (.signatureCount i) := by
  obtain ⟨server, provider, known, answers, told⟩ := served.exists_server (fun _ => rfl) told
  obtain ⟨report, sent, read⟩ := answers.signatureCount told fun _ => nofun
  have overflows := ofOption_eq_overflow_iff.mp read.symm
  exact .spent known own sent (Esplora.signatureCount_eq_none_iff.mp overflows)

theorem Served.crowded_of_sumCounts? (served : Served servers c.blockchain actions)
    {counts : List UInt64}
    (told : List.Forall₂
      (fun (a : Address) count =>
        (Inputs.of addresses actions).told (.signatureCount a.value) (.ok count))
      addresses counts)
    (overflows : Utxo.sumCounts? counts = none) (i : CountInquiry) :
    Crowded servers addresses (.signatureCount i) := by
  have read : List.Forall₂ (fun (a : Address) (count : UInt64) =>
      ∃ report : Esplora.AddressReport,
        (∃ server, servers server ∧ server.TellsReport a.value report) ∧
          report.spent = count.toNat) addresses counts := by
    refine told.imp fun a count told => ?_
    obtain ⟨server, provider, known, answers, told⟩ := served.exists_server (fun _ => rfl) told
    obtain ⟨report, sent, read⟩ := answers.signatureCount told fun _ => nofun
    have counted := ofOption_eq_ok_iff.mp read.symm
    exact ⟨report, ⟨server, known, sent⟩, (Esplora.signatureCount_eq_some_iff.mp counted).symm⟩
  obtain ⟨reports, sent, same⟩ := exists_between read
  refine .spentByAll sent ?_
  rw [map_eq_map same]
  exact Utxo.sumCounts?_eq_none_iff.mp overflows

theorem Served.crowded_of_signatureCount (served : Served servers c.blockchain actions)
    (fails : CountInquiry.Fails (.of addresses actions) (.utxo c) .overflow) (i : CountInquiry) :
    Crowded servers addresses (.signatureCount i) := by
  generalize whole : Fault.overflow = fault at fails
  cases fails with
  | cancelled => cases whole
  | mismatch expected actual => cases whole
  | @fetch w _ own ends =>
    change w.addresses = addresses at own
    subst whole own
    obtain ⟨q, asked, told⟩ | ⟨replies, told, concluded⟩ := ends.overflows
    next =>
      obtain ⟨a, present, rfl⟩ := List.mem_map.mp asked
      exact served.crowded_of_count present told i
    next =>
      have overflows := ofOption_eq_overflow_iff.mp concluded
      refine served.crowded_of_sumCounts? (told.forall₂_toList.imp ?_) overflows i
      rintro a _ ⟨count, told, rfl⟩
      exact told

-- amounts in the smallest unit of the chain, of at most eighteen places before the point
def Moderate (chain : Blockchain) (actions : List (Moment × Action)) : Prop :=
  ∀ now amount destination, (now, .make (.fee amount destination)) ∈ actions →
    amount.decimals = chain.decimals ∧ |amount.value.toRat| < 10 ^ 18

theorem Served.crowded_of_fee (served : Served servers c.blockchain actions)
    (moderate : Moderate c.blockchain actions) {builder : Builder}
    (fails : FeeInquiry.Fails (.of addresses actions) (.utxo c) builder .overflow) (i : FeeInquiry) :
    Crowded servers addresses (.fee i) := by
  generalize whole : Fault.overflow = fault at fails
  cases fails with
  | cancelled => cases whole
  | unplanned prices => cases whole
  | fetch prices ends =>
    subst whole
    obtain ⟨w, amount, destination, now, ⟨made, other, demanded⟩, planned⟩ := prices
    cases planned
    obtain ⟨q, asked, told⟩ | ⟨replies, told, concluded⟩ := ends.overflows
    next =>
      cases List.mem_singleton.mp asked
      obtain ⟨server, provider, known, answers, told⟩ := served.exists_server (fun _ => rfl) told
      obtain ⟨estimates, sent, read⟩ := answers.feeRates told fun _ => nofun
      obtain ⟨target, asked, dear⟩ := Esplora.exists_dear_of_rates read.symm
      exact .estimate known sent asked dear
    next =>
      obtain ⟨places, small⟩ := moderate made amount other demanded
      rw [Blockchain.decimals_of_usesOutputs c.usesOutputs] at places
      match replies with
      | .cons rates .nil =>
        exact absurd concluded (Utxo.offerAt_ne_overflow places small _ _ _ _ _ _ _)

/-- A call runs out of room only where its servers crowd it out, and every new one gets to its end.
-/
theorem crowded_of_run {m : Manager} (outputs : m.chain = .utxo c) {s : Session}
    (ran : run? ⟨m, []⟩ actions = some s) (served : Served servers c.blockchain actions)
    (moderate : Moderate c.blockchain actions) :
    (∀ call ∈ s.calls, call.result? = some (.error .overflow) →
      Crowded servers m.wallet.addresses call) ∧ s.Returns := by
  refine ⟨fun call member overflows => ?_, s.returns⟩
  have fails := fails_of_run ran member overflows
  rw [outputs] at fails
  cases call with
  | refresh r => exact served.crowded_of_refresh fails r
  | send payment =>
    cases fails with
    | fetch ends =>
      refine absurd rfl (ends.ne_overflow (fun q asked told => ?_) fun | .cons hash .nil, _ => nofun)
      cases List.mem_singleton.mp asked
      obtain ⟨server, provider, known, answers, overflows⟩ := served.exists_server (fun _ => rfl) told
      exact answers.broadcast _ overflows
  | fee i => exact served.crowded_of_fee moderate fails i
  | signatureCount i => exact served.crowded_of_signatureCount fails i
  | tokens i => cases fails

end Session

namespace Sample

open Http

-- numbers that each fit their words
def hostile (request : Request) : Except NetworkError Response :=
  if request.url == "main/fee-estimates" then
    document "\x7b\"1\":1e26,\"6\":1e26,\"144\":1e26\x7d"
  else if request.url == "main/address/home/txs" then
    document ("[\x7b\"txid\":\"aa\",\"status\":\x7b\"confirmed\":true\x7d,\"vin\":[],\"vout\":[" ++
      "\x7b\"scriptpubkey_address\":\"home\",\"value\":9223372036854775807\x7d," ++
      "\x7b\"scriptpubkey_address\":\"home\",\"value\":1\x7d]\x7d]")
  else if request.url == "main/address/home/utxo" then document "[]"
  else
    document ("\x7b\"chain_stats\":\x7b\"spent_txo_count\":9223372036854775808,\"tx_count\":1\x7d," ++
      "\"mempool_stats\":\x7b\"spent_txo_count\":0,\"tx_count\":0\x7d\x7d")

def hostileServer : Server := ⟨"main", 3, fun request answer => answer = hostile request⟩

def hostileProvider : Provider := fun q =>
  match Esplora.dialogue? "main" .bitcoin q with
  | some dialogue => (dialogue.retrying 3).run (m := Id) hostile
  | none => .fail (.domain (.unsupported "query"))

theorem answers_hostile : hostileServer.Answers .bitcoin hostileProvider := by
  refine Server.answers_of_run rfl fun q dialogue found => ?_
  change Esplora.dialogue? "main" .bitcoin q = some dialogue at found
  rw [hostileProvider, found]
  rfl

theorem bitcoin_usesOutputs : Blockchain.bitcoin.usesOutputs = true := rfl

def bitcoin : UtxoChain :=
  ⟨.bitcoin, ⟨.zero, .zero, none⟩, ["main"], bitcoin_usesOutputs, main_ne_nil⟩

def twoAddresses : Manager :=
  { manager (.utxo bitcoin) with
    wallet := .new ⟨0⟩ .bitcoin ⟨[], none⟩ [⟨"home", .standard⟩, ⟨"away", .standard⟩] }

def one : Amount := .coin .bitcoin .one

def crowded : List (Moment × Action) :=
  (moment, .make (.refresh true)) ::
    Session.stepsOf 0 (timed
      [.proceed, .proceed, .proceed, .request 0 .start, .request 0 (.reply hostileProvider),
        .proceed, .proceed, .proceed]) ++
  (moment, .make (.signatureCount 0)) ::
    Session.stepsOf 1 (timed
      [.proceed, .request 0 .start, .request 0 (.reply hostileProvider), .request 1 .start,
        .request 1 (.reply hostileProvider), .proceed]) ++
  (moment, .make (.fee one "shop")) ::
    Session.stepsOf 2 (timed
      [.proceed, .request 0 .start, .request 0 (.reply hostileProvider), .proceed])

def overflows (call : Call) : Bool :=
  match call.result? with
  | some (.error .overflow) => true
  | _ => false

theorem run_crowded :
    (Session.run? ⟨twoAddresses, []⟩ crowded).map (·.calls.map overflows) = some [true, true, true] := by
  decide +kernel

theorem served_crowded : Session.Served (· = hostileServer) .bitcoin crowded := by
  rintro provider ⟨now, id, member, present⟩
  have same : provider = hostileProvider := by
    simp [crowded, Session.stepsOf, timed] at present
    tauto
  exact ⟨hostileServer, rfl, same ▸ answers_hostile⟩

theorem moderate_crowded : Session.Moderate .bitcoin crowded := by
  intro now amount destination demanded
  have same : amount = one := by
    simp [crowded, Session.stepsOf, timed] at demanded
    tauto
  subst same
  refine ⟨rfl, ?_⟩
  rw [Decimal.toRat_eq_div]
  norm_num [one, Amount.coin, Decimal.one]

theorem crowded_of_run_hostile :
    ∃ s, Session.run? ⟨twoAddresses, []⟩ crowded = some s ∧ s.calls.length = 3 ∧
      (∀ call ∈ s.calls, Crowded (· = hostileServer) twoAddresses.wallet.addresses call) ∧
      s.Returns := by
  obtain ⟨s, ran, ended⟩ := Option.map_eq_some_iff.mp run_crowded
  have chain : twoAddresses.chain = .utxo bitcoin := rfl
  obtain ⟨causes, returns⟩ := Session.crowded_of_run chain ran served_crowded moderate_crowded
  have all : ∀ call ∈ s.calls, overflows call = true := by
    intro call member
    have listed := List.mem_map_of_mem (f := overflows) member
    rw [ended] at listed
    simpa using listed
  refine ⟨s, ran, by simpa using congrArg List.length ended, fun call member => ?_, returns⟩
  refine causes call member ?_
  have here := all call member
  unfold overflows at here
  split at here
  next result => exact result
  next => cases here

-- a refresh, a count and a price that no value and no cause comes of
theorem hostile_calls_overflow :
    ∃ s, Session.run? ⟨twoAddresses, []⟩ crowded = some s ∧
      Session.Served (· = hostileServer) .bitcoin crowded ∧ Session.Moderate .bitcoin crowded ∧
      s.calls.map overflows = [true, true, true] := by
  obtain ⟨s, ran, ended⟩ := Option.map_eq_some_iff.mp run_crowded
  exact ⟨s, ran, served_crowded, moderate_crowded, ended⟩

end Sample

end CoinWallet
