set_option autoImplicit false

namespace CoinWallet.Url

def defaultPort? (scheme : List Char) : Option Nat :=
  match String.ofList scheme with
  | "http" | "ws" => some 80
  | "https" | "wss" => some 443
  | "ftp" => some 21
  | _ => none

def fileScheme : List Char := "file".toList

-- schemes that name a host; in them a backslash counts as a slash
def isSpecial (scheme : List Char) : Bool :=
  (defaultPort? scheme).isSome || scheme == fileScheme

-- the scheme in lower case, and what follows its colon
def readScheme? (cs : List Char) : Option (List Char × List Char) :=
  let scheme := cs.takeWhile fun c => c.isAlphanum || c == '+' || c == '-' || c == '.'
  match cs.head?, cs.drop scheme.length with
  | some first, ':' :: rest => if first.isAlpha then some (scheme.map Char.toLower, rest) else none
  | _, _ => none

def isSlash (special : Bool) (c : Char) : Bool :=
  c == '/' || (special && c == '\\')

def endsAuthority (special : Bool) (c : Char) : Bool :=
  isSlash special c || c == '?' || c == '#'

end CoinWallet.Url
