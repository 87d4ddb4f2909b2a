import CoinWallet.Proofs.Utxo.Server

set_option autoImplicit false

namespace CoinWallet.Esplora

-- powers and sums are those of the core library
attribute [local instance (high)] instPowNat Zero.ofOfNat0

def isLarge (value : UInt64) : Bool :=
  decide (2 ^ (63 : Nat) ≤ value.toNat)

theorem signed_of_large {value : UInt64} (large : isLarge value = true) :
    signed value = value.toNat - 2 ^ (64 : Nat) := by
  have word := value.toNat_lt
  simp only [isLarge, decide_eq_true_eq] at large
  unfold signed
  simp only [Int.bmod_def]
  omega

theorem signed_of_not_large {value : UInt64} (small : ¬ isLarge value = true) :
    signed value = value.toNat := by
  simp only [isLarge, decide_eq_true_eq] at small
  unfold signed
  rw [Int.bmod_eq_of_le_mul_two] <;> omega

theorem signedTotal_eq (values : List UInt64) :
    signedTotal values = (values.map (·.toNat)).sum - 2 ^ (64 : Nat) * values.countP isLarge := by
  induction values with
  | nil => rfl
  | cons value rest ih =>
    rw [signedTotal_cons, ih, List.map_cons, List.sum_cons]
    by_cases large : isLarge value = true
    next =>
      rw [signed_of_large large, List.countP_cons_of_pos large]
      omega
    next =>
      rw [signed_of_not_large large, List.countP_cons_of_neg large]
      omega

namespace Report

variable {chain : Blockchain} {address : String} {tx : Report} {entry : ReportedTransaction}

def surplus (address : String) (tx : Report) : Int :=
  (tx.received address).countP isLarge - (tx.spent address).countP isLarge

theorem signedTotal_sub (address : String) (tx : Report) :
    signedTotal (tx.received address) - signedTotal (tx.spent address) =
      tx.effect (Output.pays address) - 2 ^ (64 : Nat) * tx.surplus address := by
  have total (outputs : List Output) :
      ((outputs.map (·.value)).map (·.toNat)).sum = Output.total outputs := by
    simp [Output.total, Function.comp_def]
  rw [signedTotal_eq, signedTotal_eq, surplus, effect, received, spent, total, total, spends]
  omega

/-- The entry of a transaction, with each large value of it taken for one that is 2 ^ 64 less. -/
structure ReadAs (address : String) (tx : Report) (entry : ReportedTransaction) : Prop where
  hash : entry.hash = tx.txid
  change : entry.balanceChange.toRat * 10 ^ 8 =
    tx.effect (Output.pays address) - 2 ^ (64 : Nat) * tx.surplus address

theorem readAs_of_toReported? (uses : chain.usesOutputs = true)
    (told : tx.toReported? chain address = some entry) :
    tx.HasRoom address ∧ tx.ReadAs address entry := by
  simp only [toReported?, Option.bind_eq_bind, Option.bind_eq_some_iff, Option.pure_def,
    Option.some.injEq] at told
  obtain ⟨delta, summed, change, held, rfl⟩ := told
  obtain ⟨room, rfl⟩ := delta?_eq_some_iff.mp summed
  rw [Blockchain.decimals_of_usesOutputs uses, signedTotal_sub] at held
  refine ⟨room, rfl, ?_⟩
  rw [Decimal.toRat_of_ofScaled? held]
  push_cast
  exact div_mul_cancel₀ _ (by norm_num)

theorem ReadAs.toldBy_iff (read : tx.ReadAs address entry) :
    tx.ToldBy address entry ↔ tx.surplus address = 0 := by
  have change := read.change
  constructor
  next =>
    intro told
    rw [told.change] at change
    have equal : tx.effect (Output.pays address) =
        tx.effect (Output.pays address) - 2 ^ (64 : Nat) * tx.surplus address := by
      exact_mod_cast change
    omega
  next =>
    intro even
    exact ⟨read.hash, by rw [change, even]; simp⟩

-- less than 2 ^ 63 in all leaves no room for a large value, nor for a sum that gets large
theorem hasRoom_of_lt (uses : chain.usesOutputs = true)
    (paid : Output.total tx.outputs < 2 ^ (63 : Nat))
    (taken : Output.total tx.spends < 2 ^ (63 : Nat)) (address : String) :
    tx.HasRoom address ∧ tx.surplus address = 0 := by
  obtain ⟨entry, told, exactly⟩ := exists_toReported? uses paid taken address
  obtain ⟨room, read⟩ := readAs_of_toReported? uses told
  exact ⟨room, read.toldBy_iff.mp exactly⟩

end Report

variable {chain : Blockchain} {address : String} {report : AddressReport} {unspent : List Unspent}
  {txs : List Report} {info : AddressInfo}

theorem history_of_addressInfo (told : addressInfo chain address report unspent txs = .ok info) :
    List.Forall₂ (fun tx entry => Report.toReported? chain address tx = some entry) txs info.history := by
  simp only [addressInfo, Outcome.bind_eq_ok_iff, Outcome.ofOption_eq_ok_iff, mapM_eq_some_iff] at told
  obtain ⟨_, _, _, _, history, entries, result⟩ := told
  cases result
  exact entries

theorem addressInfo_ne_fail (uses : chain.usesOutputs = true) (cause : NetworkError) :
    addressInfo chain address report unspent txs ≠ .fail cause := by
  obtain ⟨outputs, read, _⟩ := exists_outputs uses address unspent
  intro fails
  simp only [addressInfo, read, Outcome.ofExcept, Outcome.ofOption, Outcome.fail,
    Outcome.bind_eq_error_iff] at fails
  rcases fails with outputs | ⟨_, _, balance | ⟨_, _, history | ⟨_, _, result⟩⟩⟩
  · cases outputs
  · split at balance <;> cases balance
  · split at history <;> cases history
  · cases result

theorem exists_addressInfo (uses : chain.usesOutputs = true) (few : unspent.length < 2 ^ (32 : Nat))
    (room : ∀ tx ∈ txs, tx.HasRoom address) :
    ∃ info, addressInfo chain address report unspent txs = .ok info := by
  cases told : addressInfo chain address report unspent txs with
  | ok info => exact ⟨info, rfl⟩
  | error fault =>
    cases fault with
    | failure cause => exact absurd told (addressInfo_ne_fail uses cause)
    | overflow =>
      obtain ⟨tx, member, full⟩ := (addressInfo_eq_overflow_iff uses few).mp told
      exact absurd (room tx member) full

/-- Someone who relies on an answer gets an error, or the exact change of each transaction. -/
def Faithful (address : String) (txs : List Report) (r : Outcome NetworkError AddressInfo) : Prop :=
  (∃ cause, r = .fail cause) ∨
    ∃ info, r = .ok info ∧ List.Forall₂ (Report.ToldBy address) txs info.history

theorem forall_toldBy_iff {history : List ReportedTransaction}
    (read : List.Forall₂ (Report.ReadAs address) txs history) :
    List.Forall₂ (Report.ToldBy address) txs history ↔ ∀ tx ∈ txs, tx.surplus address = 0 := by
  induction read with
  | nil => simp
  | cons here _ ih => simp [here.toldBy_iff, ih]

theorem readAs_of_addressInfo (uses : chain.usesOutputs = true)
    (told : addressInfo chain address report unspent txs = .ok info) :
    (∀ tx ∈ txs, tx.HasRoom address) ∧ List.Forall₂ (Report.ReadAs address) txs info.history := by
  have entries := history_of_addressInfo told
  constructor
  next =>
    intro tx member
    obtain ⟨entry, _, reported⟩ := exists_mem_of_mem entries member
    exact (Report.readAs_of_toReported? uses reported).1
  next => exact entries.imp fun _ _ reported => (Report.readAs_of_toReported? uses reported).2

theorem exists_exactly (uses : chain.usesOutputs = true) (few : unspent.length < 2 ^ (32 : Nat))
    (each : ∀ tx ∈ txs, tx.HasRoom address ∧ tx.surplus address = 0) :
    ∃ info, addressInfo chain address report unspent txs = .ok info ∧
      List.Forall₂ (Report.ToldBy address) txs info.history := by
  obtain ⟨info, told⟩ := exists_addressInfo uses few fun tx member => (each tx member).1
  have read := (readAs_of_addressInfo uses told).2
  exact ⟨info, told, (forall_toldBy_iff read).mpr fun tx member => (each tx member).2⟩

theorem faithful_addressInfo_iff (uses : chain.usesOutputs = true)
    (few : unspent.length < 2 ^ (32 : Nat)) :
    Faithful address txs (addressInfo chain address report unspent txs) ↔
      ∀ tx ∈ txs, tx.HasRoom address ∧ tx.surplus address = 0 := by
  constructor
  next =>
    rintro (⟨cause, fails⟩ | ⟨info, told, exactly⟩) tx member
    next => exact absurd fails (addressInfo_ne_fail uses cause)
    next =>
      obtain ⟨room, read⟩ := readAs_of_addressInfo uses told
      exact ⟨room tx member, (forall_toldBy_iff read).mp exactly tx member⟩
  next => exact fun each => .inr (exists_exactly uses few each)

namespace Server

variable {server : Server} {provider : Provider}

def TellsOnly {α : Type} (server : Server) (path : String) (read : Node → Option α) (a : α) : Prop :=
  ∀ answer, server.sends { method := .get, url := server.host ++ path } answer →
    ∃ response text, answer = .ok response ∧ response.isSuccess = true ∧ response.text = .ok text ∧
      Http.decode read text = .ok a

theorem TellsOnly.rest {α β : Type} {path : String} {read : Node → Option α} {a : α}
    (only : server.TellsOnly path read a) {next : α → Http.Dialogue β} {r : Outcome NetworkError β}
    (yields : (getDocument server.host path read next).YieldsBy server.sends r) :
    (next a).YieldsBy server.sends r := by
  cases yields with
  | ask answer sent rest =>
    obtain ⟨response, text, rfl, success, body, document⟩ := only answer sent
    simpa only [success, if_true, body, document] using rest

structure Documents (server : Server) (address : String) (report : AddressReport)
    (unspent : List Unspent) (txs : List Report) : Prop where
  report : server.TellsOnly ("/address/" ++ address) AddressReport.read report
  unspent : server.TellsOnly ("/address/" ++ address ++ "/utxo") (Node.readList? Unspent.read) unspent
  txs : server.TellsOnly ("/address/" ++ address ++ "/txs") (Node.readList? Report.read) txs

theorem Documents.addressInfo (documents : server.Documents address report unspent txs)
    (answers : server.Answers chain provider) :
    provider (.addressInfo address) = Esplora.addressInfo chain address report unspent txs := by
  have yields := (answers (.addressInfo address) _ rfl).of_retrying
  have yields := documents.txs.rest (documents.unspent.rest (documents.report.rest yields))
  generalize provider (.addressInfo address) = r at yields
  cases yields
  rfl

end Server

/-- What is told of the transactions of an address, whose documents can be read: the exact changes
if all sums have room and large values come in as often as they go out, and never an error. All else
is an overflow, or an entry that is 2 ^ 64 units off for each large value that has no other to make
up for it. -/
theorem faithful_iff_of_answers {chain : Blockchain} (uses : chain.usesOutputs = true)
    {server : Server} {provider : Provider} (answers : server.Answers chain provider)
    {address : String} {report : AddressReport} {unspent : List Unspent} {txs : List Report}
    (documents : server.Documents address report unspent txs)
    (few : unspent.length < 2 ^ (32 : Nat)) :
    (Faithful address txs (provider (.addressInfo address)) ↔
        ∀ tx ∈ txs, tx.HasRoom address ∧ tx.surplus address = 0) ∧
      (provider (.addressInfo address) = .error .overflow ↔ ∃ tx ∈ txs, ¬ tx.HasRoom address) ∧
      (∀ info, provider (.addressInfo address) = .ok info →
        List.Forall₂ (Report.ReadAs address) txs info.history) ∧
      ((∀ tx ∈ txs, Output.total tx.outputs < 2 ^ (63 : Nat) ∧ Output.total tx.spends < 2 ^ (63 : Nat)) →
        ∃ info, provider (.addressInfo address) = .ok info ∧
          List.Forall₂ (Report.ToldBy address) txs info.history) := by
  rw [documents.addressInfo answers]
  refine ⟨faithful_addressInfo_iff uses few, addressInfo_eq_overflow_iff uses few,
    fun info told => (readAs_of_addressInfo uses told).2, fun small => exists_exactly uses few ?_⟩
  exact fun tx member => Report.hasRoom_of_lt uses (small tx member).1 (small tx member).2 address

namespace Sample

open Http

def statistics : String :=
  "\x7b\"chain_stats\":\x7b\"spent_txo_count\":0,\"tx_count\":1\x7d," ++
    "\"mempool_stats\":\x7b\"spent_txo_count\":0,\"tx_count\":0\x7d\x7d"

-- a server that knows one address, by its transactions
def reply (transactions : String) (request : Request) : Except NetworkError Response :=
  .ok
    { status := 200
      body := .ok
        (if request.url = "main/address/bc1qme" then statistics
        else if request.url = "main/address/bc1qme/utxo" then "[]"
        else transactions) }

def serverOf (transactions : String) : Server where
  host := "main"
  repetitions := 3
  sends request answer := answer = reply transactions request

def providerOf (transactions : String) : Provider := fun q =>
  match dialogue? "main" .bitcoin q with
  | some dialogue => (dialogue.retrying 3).run (m := Id) (reply transactions)
  | none => .fail (.domain (.unsupported "query"))

theorem answers_providerOf (transactions : String) :
    (serverOf transactions).Answers .bitcoin (providerOf transactions) := by
  refine Server.answers_of_run rfl fun q dialogue found => ?_
  change dialogue? "main" .bitcoin q = some dialogue at found
  simp only [providerOf, found]
  rfl

def transaction (inputs outputs : String) : String :=
  "[\x7b\"txid\":\"ab\",\"status\":\x7b\"confirmed\":true\x7d,\"vin\":[" ++ inputs ++ "],\"vout\":[" ++
    outputs ++ "]\x7d]"

def output (value : String) : String :=
  "\x7b\"scriptpubkey_address\":\"bc1qme\",\"value\":" ++ value ++ "\x7d"

def mine (value : UInt64) : Output :=
  { address := some "bc1qme", value := value }

def spending (inputs outputs : List Output) : Report where
  txid := "ab"
  isConfirmed := true
  blockTime := none
  inputs := inputs.map some
  outputs := outputs

theorem documents_serverOf {transactions : String} {txs : List Report}
    (decoded : decode (Node.readList? Report.read) (Response.dropMark transactions) = .ok txs) :
    (serverOf transactions).Documents "bc1qme" ⟨⟨0, 1⟩, ⟨0, 0⟩⟩ [] txs where
  report := by
    rintro _ rfl
    exact ⟨_, Response.dropMark statistics, rfl, rfl, rfl, by decide +kernel⟩
  unspent := by
    rintro _ rfl
    exact ⟨_, Response.dropMark "[]", rfl, rfl, rfl, by decide +kernel⟩
  txs := by
    rintro _ rfl
    exact ⟨_, Response.dropMark transactions, rfl, rfl, rfl, decoded⟩

-- nearly all of a largest output goes back to where it was
def returned : String :=
  transaction ("\x7b\"prevout\":" ++ output "18446744073709551615" ++ "\x7d")
    (output "18446744073709550615")

def returnedTx : Report :=
  spending [mine 18446744073709551615] [mine 18446744073709550615]

theorem faithful_iff_of_answers_returned :
    returnedTx.effect (Output.pays "bc1qme") = -1000 ∧
      (providerOf returned (.addressInfo "bc1qme")).toOption.isSome = true ∧
      Faithful "bc1qme" [returnedTx] (providerOf returned (.addressInfo "bc1qme")) := by
  have documents : (serverOf returned).Documents "bc1qme" ⟨⟨0, 1⟩, ⟨0, 0⟩⟩ [] [returnedTx] :=
    documents_serverOf (by decide +kernel)
  have read : returnedTx.delta? "bc1qme" = some (-1000) := by decide
  have even : returnedTx.surplus "bc1qme" = 0 := by decide
  have told : (providerOf returned (.addressInfo "bc1qme")).toOption.isSome = true := by
    rw [documents.addressInfo (answers_providerOf returned)]
    decide
  refine ⟨by decide, told, ?_⟩
  refine (faithful_iff_of_answers rfl (answers_providerOf returned) documents (by decide)).1.mpr ?_
  intro tx member
  cases List.mem_singleton.mp member
  exact ⟨(Report.delta?_eq_some_iff.mp read).1, even⟩

def received : String :=
  transaction "" (output "18446744073709551615")

def receivedTx : Report :=
  spending [] [mine 18446744073709551615]

theorem largest_output_negative :
    (serverOf received).Answers .bitcoin (providerOf received) ∧
      (serverOf received).Documents "bc1qme" ⟨⟨0, 1⟩, ⟨0, 0⟩⟩ [] [receivedTx] ∧
      receivedTx.effect (Output.pays "bc1qme") = 18446744073709551615 ∧
      (providerOf received (.addressInfo "bc1qme")).map
          (fun info => info.history.map (·.balanceChange)) = .ok [{ mantissa := -1, scale := 8 }] ∧
      ¬ Faithful "bc1qme" [receivedTx] (providerOf received (.addressInfo "bc1qme")) := by
  have documents : (serverOf received).Documents "bc1qme" ⟨⟨0, 1⟩, ⟨0, 0⟩⟩ [] [receivedTx] :=
    documents_serverOf (by decide +kernel)
  have told : (providerOf received (.addressInfo "bc1qme")).map
      (fun info => info.history.map (·.balanceChange)) = .ok [{ mantissa := -1, scale := 8 }] := by
    rw [documents.addressInfo (answers_providerOf received)]
    decide +kernel
  have effect : receivedTx.effect (Output.pays "bc1qme") = 18446744073709551615 := by decide
  refine ⟨answers_providerOf received, documents, effect, told, ?_⟩
  rintro (⟨cause, fails⟩ | ⟨info, answered, exactly⟩)
  next => simp [fails, Outcome.fail, Except.map] at told
  next =>
    obtain ⟨entry, listed, same⟩ := exists_mem_of_mem exactly List.mem_cons_self
    have changes : info.history.map (·.balanceChange) = [{ mantissa := -1, scale := 8 }] := by
      simpa [answered, Except.map] using told
    have loss := List.mem_map_of_mem (f := (·.balanceChange)) listed
    rw [changes, List.mem_singleton] at loss
    have change := same.change
    rw [loss, effect] at change
    norm_num [Decimal.toRat_eq_div] at change

end Sample

end CoinWallet.Esplora
