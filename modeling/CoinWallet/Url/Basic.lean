import CoinWallet.Url.Authority
import CoinWallet.Url.Path

set_option autoImplicit false

namespace CoinWallet

structure Url where
  scheme : List Char
  authority : Option Url.Authority
  path : Url.Path
  query : Option (List Char)
  fragment : Option (List Char)
deriving DecidableEq, Repr

namespace Url

def toChars (u : Url) : List Char :=
  let authority :=
    match u.authority, u.path with
    | some a, _ => "//".toList ++ a.toChars
    | none, .segments ([] :: _ :: _) => "/.".toList
    | none, _ => []
  u.scheme ++ ':' :: authority ++ u.path.toChars ++
    (match u.query with
      | some query => '?' :: query
      | none => []) ++
    (match u.fragment with
      | some fragment => '#' :: fragment
      | none => [])

def toText (u : Url) : String :=
  String.ofList u.toChars

-- path, query and fragment as they are written
def splitTail (cs : List Char) : List Char × Option (List Char) × Option (List Char) :=
  let body := cs.takeWhile (· != '#')
  let fragment := match cs.dropWhile (· != '#') with
    | _ :: rest => some rest
    | [] => none
  let path := body.takeWhile (· != '?')
  let query := match body.dropWhile (· != '?') with
    | _ :: rest => some rest
    | [] => none
  (path, query, fragment)

def finish (scheme : List Char) (authority : Option Authority) (path : Path)
    (query fragment : Option (List Char)) : Url :=
  let inSet := if isSpecial scheme then inSpecialQuerySet else inQuerySet
  { scheme := scheme
    authority := authority
    path := path
    query := query.map (percentEncode inSet)
    fragment := fragment.map (percentEncode inFragmentSet) }

-- what follows the slashes that come before a host
def readWithHost (scheme rest : List Char) : Except ParseError Url := do
  let (authority, rest) ← readAuthority scheme rest
  let (path, query, fragment) := splitTail rest
  let parts :=
    match path with
    | [] => if isSpecial scheme then [[]] else []
    | c :: after => readSegments scheme (if isSlash (isSpecial scheme) c then after else path)
  return finish scheme (some authority) (.segments parts) query fragment

def finishFile (host rest : List Char) : Url :=
  let (path, query, fragment) := splitTail rest
  let parts := readSegments fileScheme path
  let host := if (parts.head?.bind drive?).isSome then [] else host
  finish fileScheme (some ⟨[], host, none⟩) (.segments (withoutEmptyStart parts)) query fragment

def readFile (rest : List Char) : Except ParseError Url := do
  let slashes := (rest.take 2).takeWhile (isSlash true)
  let after := rest.drop slashes.length
  if slashes.length < 2 then return finishFile [] after
  let hostText := after.takeWhile fun c => !endsAuthority true c
  if (drive? hostText).isSome then return finishFile [] after
  let tail := after.drop hostText.length
  if hostText.isEmpty then return finishFile [] tail
  let host ← readHost hostText
  if host == "localhost".toList then return finishFile [] tail
  return finishFile host (if (tail.head?.map (isSlash true)).getD false then tail.drop 1 else tail)

def parse (text : String) : Except ParseError Url := do
  let outer (c : Char) : Bool := c.toNat ≤ 0x20
  let trimmed := Text.dropEnd outer (text.toList.dropWhile outer)
  let cs := trimmed.filter fun c => c != '\t' && c != '\n' && c != '\r'
  let some (scheme, rest) := readScheme? cs | throw .relativeWithoutBase
  if scheme == fileScheme then readFile rest
  else if isSpecial scheme then readWithHost scheme (rest.dropWhile (isSlash true))
  else
    match rest with
    | '/' :: '/' :: after => readWithHost scheme after
    | '/' :: after =>
      let (path, query, fragment) := splitTail after
      return finish scheme none (.segments (readSegments scheme path)) query fragment
    | _ =>
      let (path, query, fragment) := splitTail rest
      return finish scheme none (.plain (percentEncode isControl path)) query fragment

end Url

end CoinWallet
