import CoinWallet.Url.Host
import CoinWallet.Url.Scheme

set_option autoImplicit false

namespace CoinWallet.Url

structure Authority where
  credentials : List Char
  host : List Char
  port : Option Nat
deriving DecidableEq, Repr

def Authority.toChars (a : Authority) : List Char :=
  a.credentials ++ a.host ++
    (match a.port with
      | some port => ':' :: Nat.toDigits 10 port
      | none => [])

-- splits at the last `@`
def splitCredentials (cs : List Char) : Option (List Char × List Char) :=
  if cs.contains '@' then
    let host := (cs.reverse.takeWhile (· != '@')).reverse
    some (cs.take (cs.length - host.length - 1), host)
  else none

-- an empty password goes without its colon, and nothing at all without the `@`
def writeCredentials (cs : List Char) : List Char :=
  let user := percentEncode inUserSet (cs.takeWhile (· != ':'))
  let password := percentEncode inUserSet ((cs.dropWhile (· != ':')).drop 1)
  let text := user ++ (if password.isEmpty then [] else ':' :: password)
  if text.isEmpty then [] else text ++ ['@']

-- where the name of a host ends; a colon in brackets belongs to it
def splitHost (special inBrackets : Bool) : List Char → List Char × List Char
  | [] => ([], [])
  | c :: rest =>
    if endsAuthority special c || (c == ':' && !inBrackets) then ([], c :: rest)
    else
      let stillIn := if c == '[' then true else if c == ']' then false else inBrackets
      let (host, after) := splitHost special stillIn rest
      (c :: host, after)

def readPort (scheme cs : List Char) : Except ParseError (Option Nat × List Char) :=
  let digits := cs.takeWhile Char.isDigit
  let rest := cs.drop digits.length
  if (rest.head?.map (endsAuthority true)).getD true then
    match readInBase 10 digits with
    | none => .ok (none, rest)
    | some port =>
      if 65535 < port then .error .invalidPort
      else .ok (if defaultPort? scheme = some port then none else some port, rest)
  else .error .invalidPort

def readAuthority (scheme cs : List Char) : Except ParseError (Authority × List Char) := do
  let special := isSpecial scheme
  let text := cs.takeWhile fun c => !endsAuthority special c
  let (credentials, hostPart) := (splitCredentials text).getD ([], text)
  if text == ['@'] && text.length < cs.length then throw .emptyHost
  let written := writeCredentials credentials
  let (hostText, after) := splitHost special false (cs.drop (text.length - hostPart.length))
  if hostText.isEmpty && (special || after.head? == some ':') then throw .emptyHost
  let host ← if special then readHost hostText else readPlainHost hostText
  let (port, rest) ← match after with
    | ':' :: digits => readPort scheme digits
    | _ => pure (none, after)
  if hostText.isEmpty && !written.isEmpty then throw .emptyHost
  return ({ credentials := written, host := host, port := port }, rest)

end CoinWallet.Url
