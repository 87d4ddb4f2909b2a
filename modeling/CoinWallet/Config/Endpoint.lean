import CoinWallet.Config.Basic
import CoinWallet.Text.Blank
import CoinWallet.Text.Part
import CoinWallet.Url.Basic
import CoinWallet.Utxo.Params

set_option autoImplicit false

namespace CoinWallet

namespace Url

def parseConfigured (text : String) : Except ConfigError Url :=
  match parse text with
  | .ok url => .ok url
  | .error cause => .error (.invalidUrl cause)

end Url

-- the address of a provider; one that needs a project has its identifier as the last segment, and a
-- blank identifier is none
def ProviderConfig.endpoint (p : ProviderConfig) (chain : Blockchain) : Except ConfigError Url :=
  match p with
  | esplora url | jsonRpc url => Url.parseConfigured url
  | infura url projectId =>
    match projectId with
    | some id =>
      if id.toList.all Text.isBlank then .error (.missingCredential chain "infura project_id")
      else
        let base := String.ofList (Text.dropEnd (· == '/') url.toList)
        Url.parseConfigured (base ++ "/" ++ id)
    | none => .error (.missingCredential chain "infura project_id")

namespace ClientConfig

def isTokenChar (c : Char) : Bool :=
  c.isAlphanum ||
    ['!', '#', '$', '%', '&', '\x27', '*', '+', '-', '.', '^', '_', '\x60', '|', '~'].contains c

def isHeaderName (name : String) : Bool :=
  !name.toList.isEmpty && name.toList.all isTokenChar

def isHeaderValue (value : String) : Bool :=
  value.toList.all fun c => c == '\t' || (0x20 ≤ c.toNat && c.toNat != 0x7f)

def badHeader? (config : ClientConfig) : Option String :=
  (config.headers.find? fun (name, value) => !(isHeaderName name && isHeaderValue value)).map (·.1)

def check (config : ClientConfig) : Except ConfigError Unit :=
  match config.badHeader? with
  | some name => .error (.invalidHeader name)
  | none => .ok ()

end ClientConfig

def UtxoParams.ofConfig (config : ChainConfig) : Except ConfigError UtxoParams :=
  match UtxoParams.preset? config.blockchain with
  | none => .error (.unsupportedProvider config.blockchain "bitcoin")
  | some preset =>
    .ok
      { minimalFeePerKb := config.minimalFeePerKb.getD preset.minimalFeePerKb
        minimalFee := config.minimalFee.getD preset.minimalFee
        dustValue := config.dustValue.or preset.dustValue }

end CoinWallet
