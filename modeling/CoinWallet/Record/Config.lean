import CoinWallet.Config.Basic
import CoinWallet.Record.Amount
import CoinWallet.Yaml.Reader

set_option autoImplicit false

namespace CoinWallet

open Node (record)

namespace GasPolicy

def fieldNames : List String :=
  ["normal_multiplier", "priority_multiplier", "gas_limit_multiplier", "minimal_gas_price"]

def read (form : Form) (n : Node) : Option GasPolicy := do
  let default : GasPolicy := {}
  match ← n.fields? form fieldNames with
  | [normal, priority, limit, price] =>
    let normal ← normal.withDefault default.normalMultiplier Node.readDecimal?
    let priority ← priority.withDefault default.priorityMultiplier Node.readDecimal?
    let limit ← limit.optionalOrNull Node.readDecimal?
    let price ← price.optionalOrNull Node.readDecimal?
    some
      { normalMultiplier := normal, priorityMultiplier := priority, limitMultiplier := limit
        minimalPrice := price }
  | _ => none

def shape : Shape :=
  .record (fieldNames.map (·, .whole))

def write (p : GasPolicy) : Node :=
  record [("normal_multiplier", p.normalMultiplier.write),
    ("priority_multiplier", p.priorityMultiplier.write),
    ("gas_limit_multiplier", Node.ofOption Decimal.write p.limitMultiplier),
    ("minimal_gas_price", Node.ofOption Decimal.write p.minimalPrice)]

end GasPolicy

namespace ProviderConfig

def read (form : Form) (n : Node) : Option ProviderConfig := do
  let url (rest : Node) : Option String := do
    match ← rest.fields? .held ["url"] with
    | [url] => url.required Node.readText?
    | _ => none
  match ← n.variant? form ["esplora", "json_rpc", "infura"] with
  | ("esplora", rest) => (url rest).map .esplora
  | ("json_rpc", rest) => (url rest).map .jsonRpc
  | ("infura", rest) =>
    match ← rest.fields? .held ["url", "project_id"] with
    | [url, projectId] =>
      let url ← url.required Node.readText?
      let projectId ← projectId.optionalOrNull Node.readText?
      some (.infura url projectId)
    | _ => none
  | _ => none

def write : ProviderConfig → Node
  | esplora url => record [("type", .text "esplora"), ("url", .text url)]
  | jsonRpc url => record [("type", .text "json_rpc"), ("url", .text url)]
  | infura url projectId =>
    record [("type", .text "infura"), ("url", .text url),
      ("project_id", Node.ofOption .text projectId)]

end ProviderConfig

namespace LogConfig

def read (form : Form) (n : Node) : Option LogConfig := do
  let default : LogConfig := {}
  match ← n.fields? form ["service_name", "json"] with
  | [name, json] =>
    let name ← name.withDefault default.serviceName Node.readText?
    let json ← json.withDefault default.json Node.readBool?
    some { serviceName := name, json := json }
  | _ => none

def shape : Shape :=
  .record [("service_name", .whole), ("json", .whole)]

def write (c : LogConfig) : Node :=
  record [("service_name", .text c.serviceName), ("json", .bool c.json)]

end LogConfig

namespace ManagerConfig

def read (form : Form) (n : Node) : Option ManagerConfig := do
  match ← n.fields? form ["debounce_window"] with
  | [window] =>
    let window ← window.withDefault ({} : ManagerConfig).debounceWindow Node.readUInt64?
    some { debounceWindow := window }
  | _ => none

def shape : Shape :=
  .record [("debounce_window", .whole)]

def write (c : ManagerConfig) : Node :=
  record [("debounce_window", .ofNat c.debounceWindow.toNat)]

end ManagerConfig

namespace ClientConfig

def putHeader (name value : String) : List (String × String) → List (String × String)
  | [] => [(name, value)]
  | (other, old) :: rest =>
    if name < other then (name, value) :: (other, old) :: rest
    else if name = other then (name, value) :: rest
    else (other, old) :: putHeader name value rest

def readHeaders (n : Node) : Option (List (String × String)) :=
  match n.body with
  | .map entries =>
    entries.foldlM
      (fun headers entry => do
        let name ← entry.1.readText?
        let value ← entry.2.readText?
        some (putHeader name value headers)) []
  | .plain s => if s.isEmpty then some [] else none
  | _ => none

def read (form : Form) (n : Node) : Option ClientConfig := do
  let default : ClientConfig := {}
  match ← n.fields? form ["timeout", "number_of_retries", "headers"] with
  | [timeout, retries, headers] =>
    let timeout ← timeout.withDefault default.timeout Node.readUInt64?
    let retries ← retries.withDefault default.retries Node.readUInt32?
    let headers ← headers.withDefault default.headers readHeaders
    some { timeout := timeout, retries := retries, headers := headers }
  | _ => none

def shape : Shape :=
  .record [("timeout", .whole), ("number_of_retries", .whole), ("headers", .whole)]

def write (c : ClientConfig) : Node :=
  record [("timeout", .ofNat c.timeout.toNat), ("number_of_retries", .ofNat c.retries.toNat),
    ("headers", record (c.headers.map fun (name, value) => (name, .text value)))]

end ClientConfig

namespace ChainConfig

def fieldNames : List String :=
  ["blockchain", "providers", "dust_value", "minimal_fee_per_kb", "minimal_fee", "gas"]

def read (form : Form) (n : Node) : Option ChainConfig := do
  match ← n.fields? form fieldNames with
  | [chain, providers, dust, perKb, fee, gas] =>
    let chain ← chain.required (Blockchain.read form)
    let providers ← providers.withDefault [] (Node.readList? (ProviderConfig.read form))
    let dust ← dust.optionalOrNull Node.readDecimal?
    let perKb ← perKb.optionalOrNull Node.readDecimal?
    let fee ← fee.optionalOrNull Node.readDecimal?
    let gas ← gas.withDefault {} (GasPolicy.read form)
    some
      { blockchain := chain, providers := providers, dustValue := dust, minimalFeePerKb := perKb
        minimalFee := fee, gas := gas }
  | _ => none

def shape : Shape :=
  .record [("blockchain", .whole), ("providers", .list .whole), ("dust_value", .whole),
    ("minimal_fee_per_kb", .whole), ("minimal_fee", .whole), ("gas", GasPolicy.shape)]

def write (c : ChainConfig) : Node :=
  record [("blockchain", c.blockchain.write),
    ("providers", .list (c.providers.map ProviderConfig.write)),
    ("dust_value", Node.ofOption Decimal.write c.dustValue),
    ("minimal_fee_per_kb", Node.ofOption Decimal.write c.minimalFeePerKb),
    ("minimal_fee", Node.ofOption Decimal.write c.minimalFee),
    ("gas", c.gas.write)]

end ChainConfig

namespace Config

def read (form : Form) (n : Node) : Option Config := do
  match ← n.fields? form ["tracing", "client", "manager", "blockchains"] with
  | [log, client, manager, chains] =>
    let log ← log.withDefault {} (LogConfig.read form)
    let client ← client.withDefault {} (ClientConfig.read form)
    let manager ← manager.withDefault {} (ManagerConfig.read form)
    let chains ← chains.withDefault [] (Node.readList? (ChainConfig.read form))
    some { log := log, client := client, manager := manager, chains := chains }
  | _ => none

def shape : Shape :=
  .record [("tracing", LogConfig.shape), ("client", ClientConfig.shape),
    ("manager", ManagerConfig.shape), ("blockchains", .list ChainConfig.shape)]

def write (c : Config) : Node :=
  record [("tracing", c.log.write), ("client", c.client.write), ("manager", c.manager.write),
    ("blockchains", .list (c.chains.map ChainConfig.write))]

def ofFile (text : Option String) : Except ConfigFileError Config :=
  match text with
  | none => .error .unreadable
  | some text =>
    match (Yaml.read shape text).bind (read .strict) with
    | some config => .ok config
    | none => .error .malformed

end Config

end CoinWallet
