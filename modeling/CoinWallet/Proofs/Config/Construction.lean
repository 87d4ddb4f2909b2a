import CoinWallet.Manager
import CoinWallet.Proofs.Lists

set_option autoImplicit false

namespace CoinWallet

open Outcome

namespace ClientConfig

def isHeader (header : String × String) : Bool :=
  isHeaderName header.1 && isHeaderValue header.2

def HeadersValid (client : ClientConfig) : Prop :=
  ∀ header ∈ client.headers, isHeader header = true

def FirstInvalid (client : ClientConfig) (name : String) : Prop :=
  ∃ before value after, client.headers = before ++ (name, value) :: after ∧
    (∀ header ∈ before, isHeader header = true) ∧ isHeader (name, value) = false

variable {client : ClientConfig}

theorem badHeader?_eq_none_iff : client.badHeader? = none ↔ client.HeadersValid := by
  simp [badHeader?, HeadersValid, isHeader, List.find?_eq_none]

theorem badHeader?_eq_some_iff {name : String} :
    client.badHeader? = some name ↔ client.FirstInvalid name := by
  simp only [badHeader?, Option.map_eq_some_iff, List.find?_eq_some_iff_append, FirstInvalid]
  constructor
  next =>
    rintro ⟨⟨name, value⟩, ⟨invalid, before, after, split, sound⟩, rfl⟩
    refine ⟨before, value, after, split, fun header member => ?_, ?_⟩
    next => simpa [isHeader] using sound header member
    next => simpa only [Bool.not_eq_true', isHeader] using invalid
  next =>
    rintro ⟨before, value, after, split, sound, invalid⟩
    refine ⟨(name, value), ⟨?_, before, after, split, fun header member => ?_⟩, rfl⟩
    next => simpa only [Bool.not_eq_true', isHeader] using invalid
    next => simpa [isHeader] using sound header member

theorem check_eq_ok_iff : client.check = .ok () ↔ client.HeadersValid := by
  rw [check, ← badHeader?_eq_none_iff]
  cases client.badHeader? <;> simp

theorem check_eq_error_iff {cause : ConfigError} :
    client.check = .error cause ↔ ∃ name, client.FirstInvalid name ∧ cause = .invalidHeader name := by
  simp only [check, ← badHeader?_eq_some_iff]
  cases client.badHeader? <;> simp [eq_comm]

end ClientConfig

def Url.baseText (outputs : Bool) (url : Url) : String :=
  if outputs then String.ofList (Text.dropEnd (· == '/') url.toText.toList) else url.toText

namespace ProviderConfig

def serves (outputs : Bool) : ProviderConfig → Bool
  | esplora _ => outputs
  | jsonRpc _ | infura _ _ => !outputs

def address? : ProviderConfig → Option String
  | esplora url | jsonRpc url => some url
  | infura _ none => none
  | infura url (some id) =>
    if id.toList.all Text.isBlank then none
    else some (String.ofList (Text.dropEnd (· == '/') url.toList) ++ "/" ++ id)

def Resolves (p : ProviderConfig) (url : Url) : Prop :=
  ∃ text, p.address? = some text ∧ Url.parse text = .ok url

structure Reaches (outputs : Bool) (client : ClientConfig) (p : ProviderConfig) (host : String) :
    Prop where
  serves : p.serves outputs = true
  headers : client.HeadersValid
  host : ∃ url, p.Resolves url ∧ host = url.baseText outputs

/-- Why a provider cannot be asked: its kind comes before its credential, that before its address,
and the headers come last. -/
inductive Fails (outputs : Bool) (client : ClientConfig) (chain : Blockchain) (p : ProviderConfig) :
    ConfigError → Prop
  | kind (other : p.serves outputs = false) :
    Fails outputs client chain p (.unsupportedProvider chain p.kind)
  | credential (serves : p.serves outputs = true) (lacking : p.address? = none) :
    Fails outputs client chain p (.missingCredential chain "infura project_id")
  | url {text : String} {cause : Url.ParseError} (serves : p.serves outputs = true)
    (address : p.address? = some text) (unread : Url.parse text = .error cause) :
    Fails outputs client chain p (.invalidUrl cause)
  | header {url : Url} {name : String} (serves : p.serves outputs = true) (resolves : p.Resolves url)
    (invalid : client.FirstInvalid name) : Fails outputs client chain p (.invalidHeader name)

def hostFor (outputs : Bool) (client : ClientConfig) (chain : Blockchain) (p : ProviderConfig) :
    Except ConfigError String :=
  if outputs then p.esploraHost client chain else p.nodeHost client chain

variable {outputs : Bool} {client : ClientConfig} {chain : Blockchain} {p : ProviderConfig}

theorem endpoint_eq_ok_iff {url : Url} : p.endpoint chain = .ok url ↔ p.Resolves url := by
  have read (text : String) : Url.parseConfigured text = .ok url ↔ Url.parse text = .ok url := by
    unfold Url.parseConfigured
    cases Url.parse text <;> simp
  rcases p with base | base | ⟨base, _ | id⟩
  next => simp [endpoint, Resolves, address?, read]
  next => simp [endpoint, Resolves, address?, read]
  next => simp [endpoint, Resolves, address?]
  next =>
    simp only [endpoint, Resolves, address?]
    split <;> simp [read]

theorem endpoint_eq_error_iff {cause : ConfigError} :
    p.endpoint chain = .error cause ↔
      p.address? = none ∧ cause = .missingCredential chain "infura project_id" ∨
        ∃ text fault, p.address? = some text ∧ Url.parse text = .error fault ∧
          cause = .invalidUrl fault := by
  have unread (text : String) : Url.parseConfigured text = .error cause ↔
      ∃ fault, Url.parse text = .error fault ∧ cause = .invalidUrl fault := by
    unfold Url.parseConfigured
    cases Url.parse text <;> simp [eq_comm]
  rcases p with base | base | ⟨base, _ | id⟩
  next => simp [endpoint, address?, unread]
  next => simp [endpoint, address?, unread]
  next => simp [endpoint, address?, eq_comm]
  next =>
    simp only [endpoint, address?]
    split
    next => simp [eq_comm]
    next => simp [unread]

theorem hostFor_eq (outputs : Bool) (client : ClientConfig) (chain : Blockchain) (p : ProviderConfig) :
    p.hostFor outputs client chain =
      if p.serves outputs then do
        let url ← p.endpoint chain
        client.check
        return url.baseText outputs
      else .error (.unsupportedProvider chain p.kind) := by
  cases outputs <;> cases p <;> simp [hostFor, serves, esploraHost, nodeHost, Url.baseText]

theorem hostFor_eq_ok_iff {host : String} :
    p.hostFor outputs client chain = .ok host ↔ p.Reaches outputs client host := by
  rw [hostFor_eq]
  by_cases serves : p.serves outputs = true
  next =>
    simp only [serves, if_true, bind_eq_ok_iff, endpoint_eq_ok_iff]
    constructor
    next =>
      rintro ⟨url, resolves, _, checked, result⟩
      cases result
      exact ⟨serves, ClientConfig.check_eq_ok_iff.mp checked, url, resolves, rfl⟩
    next =>
      rintro ⟨_, headers, url, resolves, rfl⟩
      exact ⟨url, resolves, (), ClientConfig.check_eq_ok_iff.mpr headers, rfl⟩
  next =>
    simp only [serves, if_false, Bool.false_eq_true, reduceCtorEq, false_iff]
    exact fun reaches => serves reaches.serves

theorem hostFor_eq_error_iff {cause : ConfigError} :
    p.hostFor outputs client chain = .error cause ↔ p.Fails outputs client chain cause := by
  rw [hostFor_eq]
  by_cases serves : p.serves outputs = true
  next =>
    simp only [serves, if_true, bind_eq_error_iff, endpoint_eq_error_iff, endpoint_eq_ok_iff,
      ClientConfig.check_eq_error_iff]
    constructor
    next =>
      rintro ((⟨lacking, rfl⟩ | ⟨text, fault, address, unread, rfl⟩) |
        ⟨url, resolves, ⟨name, invalid, rfl⟩ | ⟨_, _, result⟩⟩)
      · exact .credential serves lacking
      · exact .url serves address unread
      · exact .header serves resolves invalid
      · cases result
    next =>
      rintro (other | ⟨_, lacking⟩ | ⟨_, address, unread⟩ | ⟨_, resolves, invalid⟩)
      · rw [serves] at other
        contradiction
      · exact .inl (.inl ⟨lacking, rfl⟩)
      · exact .inl (.inr ⟨_, _, address, unread, rfl⟩)
      · exact .inr ⟨_, resolves, .inl ⟨_, invalid, rfl⟩⟩
  next =>
    simp only [serves, if_false, Bool.false_eq_true, Except.error.injEq]
    constructor
    next =>
      rintro rfl
      exact .kind (Bool.not_eq_true _ ▸ serves)
    next =>
      rintro (_ | ⟨served, _⟩ | ⟨served, _, _⟩ | ⟨served, _, _⟩)
      · rfl
      all_goals exact absurd served serves

end ProviderConfig

namespace ChainConfig

variable {outputs : Bool} {config : ChainConfig} {client : ClientConfig}

def family (outputs : Bool) : String :=
  if outputs then "bitcoin" else "ethereum"

structure Ready (config : ChainConfig) (outputs : Bool) (client : ClientConfig) : Prop where
  model : config.blockchain.usesOutputs = outputs
  some : config.providers ≠ []
  kinds : ∀ p ∈ config.providers, p.serves outputs = true
  endpoints : ∀ p ∈ config.providers, ∃ url, p.Resolves url
  headers : client.HeadersValid

/-- Why there is no chain: a provider before the chain itself, and that before the lack of
providers. -/
inductive Refused (config : ChainConfig) (outputs : Bool) (client : ClientConfig) : ConfigError → Prop
  | entry {before after : List ProviderConfig} {p : ProviderConfig} {cause : ConfigError}
    (split : config.providers = before ++ p :: after)
    (sound : ∀ q ∈ before, ∃ host, q.Reaches outputs client host)
    (fails : p.Fails outputs client config.blockchain cause) : Refused config outputs client cause
  | model (sound : ∀ p ∈ config.providers, ∃ host, p.Reaches outputs client host)
    (other : config.blockchain.usesOutputs ≠ outputs) :
    Refused config outputs client (.unsupportedProvider config.blockchain (family outputs))
  | noProviders (none : config.providers = []) (model : config.blockchain.usesOutputs = outputs) :
    Refused config outputs client .noProviders

def settle (outputs : Bool) (chain : Blockchain) (hosts : List String) :
    Except ConfigError (List String) :=
  if chain.usesOutputs = outputs then
    if hosts = [] then .error .noProviders else .ok hosts
  else .error (.unsupportedProvider chain (family outputs))

def hostsFor (config : ChainConfig) (outputs : Bool) (client : ClientConfig) :
    Except ConfigError (List String) := do
  let hosts ← config.providers.mapM (ProviderConfig.hostFor outputs client config.blockchain)
  settle outputs config.blockchain hosts

theorem hosts_eq_ok_iff {hosts : List String} :
    config.providers.mapM (ProviderConfig.hostFor outputs client config.blockchain) = .ok hosts ↔
      List.Forall₂ (ProviderConfig.Reaches outputs client) config.providers hosts := by
  simp only [mapM_eq_ok_iff, ProviderConfig.hostFor_eq_ok_iff]

theorem forall_reaches_iff {ps : List ProviderConfig} :
    (∃ hosts, List.Forall₂ (ProviderConfig.Reaches outputs client) ps hosts) ↔
      ∀ p ∈ ps, ∃ host, p.Reaches outputs client host := by
  constructor
  next =>
    rintro ⟨hosts, reached⟩ p member
    obtain ⟨host, _, reaches⟩ := exists_mem_of_mem reached member
    exact ⟨host, reaches⟩
  next =>
    intro each
    induction ps with
    | nil => exact ⟨[], .nil⟩
    | cons p rest ih =>
      obtain ⟨host, reaches⟩ := each p List.mem_cons_self
      obtain ⟨hosts, reached⟩ := ih fun q later => each q (List.mem_cons_of_mem p later)
      exact ⟨host :: hosts, .cons reaches reached⟩

theorem hostsFor_eq_ok_iff {hosts : List String} :
    config.hostsFor outputs client = .ok hosts ↔
      config.blockchain.usesOutputs = outputs ∧ config.providers ≠ [] ∧
        List.Forall₂ (ProviderConfig.Reaches outputs client) config.providers hosts := by
  simp only [hostsFor, settle, bind_eq_ok_iff, hosts_eq_ok_iff]
  constructor
  next =>
    rintro ⟨hosts, reached, result⟩
    split at result
    next model =>
      split at result <;> cases result
      next some =>
        refine ⟨model, fun none => some ?_, reached⟩
        rw [none] at reached
        exact List.forall₂_nil_left_iff.mp reached
    next => cases result
  next =>
    rintro ⟨model, some, reached⟩
    refine ⟨hosts, reached, ?_⟩
    rw [if_pos model, if_neg]
    rintro rfl
    exact some (List.forall₂_nil_right_iff.mp reached)

theorem hostsFor_eq_error_iff {cause : ConfigError} :
    config.hostsFor outputs client = .error cause ↔ config.Refused outputs client cause := by
  simp only [hostsFor, settle, bind_eq_error_iff, mapM_eq_error_iff, ProviderConfig.hostFor_eq_error_iff,
    ProviderConfig.hostFor_eq_ok_iff, hosts_eq_ok_iff]
  constructor
  next =>
    rintro (⟨before, p, after, split, sound, fails⟩ | ⟨hosts, reached, result⟩)
    next => exact .entry split sound fails
    next =>
      split at result
      next model =>
        split at result <;> cases result
        next none =>
          subst none
          exact .noProviders (List.forall₂_nil_right_iff.mp reached) model
      next other =>
        cases result
        exact .model (forall_reaches_iff.mp ⟨hosts, reached⟩) other
  next =>
    rintro (⟨split, sound, fails⟩ | ⟨sound, other⟩ | ⟨none, model⟩)
    next => exact .inl ⟨_, _, _, split, sound, fails⟩
    next =>
      obtain ⟨hosts, reached⟩ := forall_reaches_iff.mpr sound
      exact .inr ⟨hosts, reached, if_neg other⟩
    next => exact .inr ⟨[], none ▸ .nil, by rw [if_pos model, if_pos rfl]⟩

theorem exists_hostsFor_iff :
    (∃ hosts, config.hostsFor outputs client = .ok hosts) ↔ config.Ready outputs client := by
  simp only [hostsFor_eq_ok_iff, exists_and_left, forall_reaches_iff]
  constructor
  next =>
    rintro ⟨model, some, each⟩
    -- all entries are asked with the same headers, and there is one that can be asked
    obtain ⟨first, member⟩ := List.exists_mem_of_ne_nil _ some
    obtain ⟨_, reaches⟩ := each first member
    refine ⟨model, some, fun p listed => ?_, fun p listed => ?_, reaches.headers⟩
    next =>
      obtain ⟨_, reaches⟩ := each p listed
      exact reaches.serves
    next =>
      obtain ⟨_, _, _, url, resolves, _⟩ := each p listed
      exact ⟨url, resolves⟩
  next =>
    intro ready
    refine ⟨ready.model, ready.some, fun p listed => ?_⟩
    obtain ⟨url, resolves⟩ := ready.endpoints p listed
    exact ⟨_, ready.kinds p listed, ready.headers, url, resolves, rfl⟩

structure SetsLimits (config : ChainConfig) (preset params : UtxoParams) : Prop where
  perKb_set : ∀ rate, config.minimalFeePerKb = some rate → params.minimalFeePerKb = rate
  perKb_left : config.minimalFeePerKb = none → params.minimalFeePerKb = preset.minimalFeePerKb
  fee_set : ∀ fee, config.minimalFee = some fee → params.minimalFee = fee
  fee_left : config.minimalFee = none → params.minimalFee = preset.minimalFee
  dust_set : ∀ dust, config.dustValue = some dust → params.dustValue = some dust
  dust_left : config.dustValue = none → params.dustValue = preset.dustValue

structure Gives (config : ChainConfig) (outputs : Bool) (client : ClientConfig) (chain : Chain) :
    Prop where
  blockchain : chain.blockchain = config.blockchain
  providers : List.Forall₂ (ProviderConfig.Reaches outputs client) config.providers chain.hosts
  first : ∀ wallet builder window m, Manager.new wallet chain builder window = .ok m →
    m.cursor = 0 ∧ chain.hosts.head? = some m.currentHost

theorem map_hosts_newUtxo (chain : Blockchain) (params : UtxoParams) (hosts : List String) :
    (UtxoChain.new chain params hosts).map UtxoChain.hosts = settle true chain hosts := by
  unfold UtxoChain.new settle
  split_ifs <;> simp_all [Except.map, family]

theorem map_hosts_newAccount (chain : Blockchain) (gas : GasPolicy) (hosts : List String) :
    (AccountChain.new chain gas hosts).map AccountChain.hosts = settle false chain hosts := by
  unfold AccountChain.new settle
  split_ifs <;> simp_all [Except.map, family]

theorem ofConfig_eq_ok {params : UtxoParams} (made : UtxoParams.ofConfig config = .ok params) :
    ∃ preset, UtxoParams.preset? config.blockchain = some preset ∧ config.SetsLimits preset params := by
  unfold UtxoParams.ofConfig at made
  split at made
  next => cases made
  next preset found =>
    cases made
    refine ⟨preset, found, ?_, ?_, ?_, ?_, ?_, ?_⟩ <;> intros <;> simp [*]

theorem ofConfig_eq_error {cause : ConfigError} (fails : UtxoParams.ofConfig config = .error cause)
    (hosts : List String) : settle true config.blockchain hosts = .error cause := by
  unfold UtxoParams.ofConfig at fails
  split at fails
  next none =>
    cases fails
    cases chain : config.blockchain <;> simp [chain, UtxoParams.preset?] at none <;> rfl
  next => cases fails

theorem map_hosts_utxo (config : ChainConfig) (client : ClientConfig) :
    (UtxoChain.ofConfig config client).map UtxoChain.hosts = config.hostsFor true client := by
  unfold UtxoChain.ofConfig hostsFor
  change _ = (config.providers.mapM (ProviderConfig.esploraHost client config.blockchain)).bind _
  cases config.providers.mapM (ProviderConfig.esploraHost client config.blockchain) with
  | error cause => rfl
  | ok hosts =>
    -- the limits come before the model, but where there is no preset, they fail as the model does
    cases limits : UtxoParams.ofConfig config with
    | error cause => exact (ofConfig_eq_error limits hosts).symm
    | ok params => exact map_hosts_newUtxo config.blockchain params hosts

theorem map_hosts_account (config : ChainConfig) (client : ClientConfig) :
    (AccountChain.ofConfig config client).map AccountChain.hosts = config.hostsFor false client := by
  unfold AccountChain.ofConfig hostsFor
  change _ = (config.providers.mapM (ProviderConfig.nodeHost client config.blockchain)).bind _
  cases config.providers.mapM (ProviderConfig.nodeHost client config.blockchain) with
  | error cause => rfl
  | ok hosts => exact map_hosts_newAccount config.blockchain config.gas hosts

theorem blockchain_of_utxo {c : UtxoChain} (made : UtxoChain.ofConfig config client = .ok c) :
    c.blockchain = config.blockchain ∧ UtxoParams.ofConfig config = .ok c.params := by
  obtain ⟨hosts, _, made⟩ := bind_eq_ok_iff.mp made
  obtain ⟨params, limits, made⟩ := bind_eq_ok_iff.mp made
  unfold UtxoChain.new at made
  split_ifs at made
  cases made
  exact ⟨rfl, limits⟩

theorem blockchain_of_account {c : AccountChain} (made : AccountChain.ofConfig config client = .ok c) :
    c.blockchain = config.blockchain ∧ c.gas = config.gas ∧ c.hasIndexer = false := by
  obtain ⟨hosts, _, made⟩ := bind_eq_ok_iff.mp made
  unfold AccountChain.new at made
  split_ifs at made
  cases made
  exact ⟨rfl, rfl, rfl⟩

structure Decides (config : ChainConfig) (outputs : Bool) (client : ClientConfig) {γ : Type}
    (result : Except ConfigError γ) (Good : γ → Prop) : Prop where
  made_iff : (∃ chain, result = .ok chain) ↔ config.Ready outputs client
  good : ∀ chain, result = .ok chain → Good chain
  refused_iff : ∀ cause, result = .error cause ↔ config.Refused outputs client cause

theorem decides {γ : Type} {result : Except ConfigError γ} {hosts : γ → List String}
    {Good : γ → Prop} (mapped : result.map hosts = config.hostsFor outputs client)
    (good : ∀ chain, result = .ok chain →
      List.Forall₂ (ProviderConfig.Reaches outputs client) config.providers (hosts chain) → Good chain) :
    config.Decides outputs client result Good where
  made_iff := by
    rw [← exists_hostsFor_iff, ← mapped]
    simp [map_eq_ok_iff]
  good chain made := by
    have hosted : config.hostsFor outputs client = .ok (hosts chain) := by
      rw [← mapped, made]
      rfl
    exact good chain made (hostsFor_eq_ok_iff.mp hosted).2.2
  refused_iff cause := by rw [← hostsFor_eq_error_iff, ← mapped, map_eq_error_iff]

theorem gives {chain : Chain} (blockchain : chain.blockchain = config.blockchain)
    (reached : List.Forall₂ (ProviderConfig.Reaches outputs client) config.providers chain.hosts) :
    config.Gives outputs client chain where
  blockchain := blockchain
  providers := reached
  first wallet builder window m made := by
    unfold Manager.new at made
    split_ifs at made
    cases made
    refine ⟨rfl, ?_⟩
    simp only [Manager.currentHost, Chain.currentHost, currentProvider, Nat.zero_min]
    rw [List.head?_eq_getElem?, List.getElem?_eq_getElem, List.get_eq_getElem]

/-- Both kinds of chains: when they are made, what they are then, and why not otherwise. -/
theorem decides_ofConfig (config : ChainConfig) (client : ClientConfig) :
    config.Decides true client (UtxoChain.ofConfig config client) (fun c =>
        config.Gives true client (.utxo c) ∧
          ∃ preset, UtxoParams.preset? config.blockchain = some preset ∧ config.SetsLimits preset c.params) ∧
      config.Decides false client (AccountChain.ofConfig config client) (fun c =>
        config.Gives false client (.account c) ∧ c.gas = config.gas ∧ c.hasIndexer = false) := by
  constructor
  next =>
    refine decides (map_hosts_utxo config client) fun c made reached => ?_
    obtain ⟨blockchain, limits⟩ := blockchain_of_utxo made
    exact ⟨gives blockchain reached, ofConfig_eq_ok limits⟩
  next =>
    refine decides (map_hosts_account config client) fun c made reached => ?_
    obtain ⟨blockchain, rest⟩ := blockchain_of_account made
    exact ⟨gives blockchain reached, rest⟩

namespace Sample

def nodes : ChainConfig :=
  { blockchain := .ethereum
    providers := [.jsonRpc "https://node.example", .infura "https://mainnet.infura.io/v3/" (some "key")] }

def faulty : ChainConfig :=
  { nodes with providers := .infura "no address" (some " ") :: .esplora "" :: nodes.providers }

theorem ready_or_refused :
    nodes.Ready false {} ∧
      faulty.Refused false { headers := [("", "")] }
        (.missingCredential .ethereum "infura project_id") := by
  constructor
  next =>
    refine (decides_ofConfig nodes {}).2.made_iff.mp ?_
    have hosted : (AccountChain.ofConfig nodes {}).map AccountChain.hosts =
        .ok ["https://node.example/", "https://mainnet.infura.io/v3/key"] := by
      rw [map_hosts_account]
      decide +kernel
    obtain ⟨chain, made, _⟩ := map_eq_ok_iff.mp hosted
    exact ⟨chain, made⟩
  next =>
    refine ((decides_ofConfig faulty _).2.refused_iff _).mp ?_
    rw [← map_eq_error_iff (f := AccountChain.hosts), map_hosts_account]
    decide +kernel

end Sample

end ChainConfig

end CoinWallet
